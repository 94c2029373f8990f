import Sierra.Command.Options

/-!
# The command

A run of the command checks one file. Its outcome is an exit code and what goes to the two output
streams: a report goes to standard output with code 0, and an error to standard error with code 1,
or with code 2 when it is in the arguments.
-/

namespace Sierra

set_option autoImplicit false

structure Outcome where
  code : Nat
  output : String
  errors : String
  deriving DecidableEq, Repr

inductive ReadFault where
  | system (reason : String) (code : Nat)
  | notText
  deriving DecidableEq, Repr

namespace ReadFault

def notFound : ReadFault :=
  system "No such file or directory" 2

def notFolder : ReadFault :=
  system "Not a directory" 20

def isFolder : ReadFault :=
  system "Is a directory" 21

def nameTooLong : ReadFault :=
  system "File name too long" 36

def message : ReadFault → String
  | system reason code => reason ++ " (os error " ++ toString code ++ ")"
  | notText => "stream did not contain valid UTF-8"

end ReadFault

namespace Command

def versionText : String :=
  "sierra 0.1.0\n"

def helpText : String :=
  String.join
    ["Syntax checker for the Sierra language\n",
      "\n",
      "Usage: sierra [OPTIONS] <PATH>\n",
      "\n",
      "Arguments:\n",
      "  <PATH>  Source file to parse\n",
      "\n",
      "Options:\n",
      "  -t, --tokens       Show tokenization output (lexer only)\n",
      "  -a, --ast          Print the parsed syntax tree\n",
      "  -r, --rule <RULE>  Parse the whole file as a single grammar rule, e.g. `expression`\n",
      "      --no-color     Disable colored diagnostics\n",
      "  -h, --help         Print help\n",
      "  -V, --version      Print version\n"]

/-- Whether to colour, from three variables of the environment and whether the output is a terminal.
A variable asks for something unless it is `0`; being forced comes first, then being forbidden. -/
def wantsColour (forced forbidden allowed : Option String) (terminal : Bool) : Bool :=
  if forced.any (· ≠ "0") then
    true
  else if forbidden.isSome then
    false
  else
    allowed.all (· ≠ "0") && terminal

def stop : Stop → Outcome
  | .help => ⟨0, helpText, ""⟩
  | .version => ⟨0, versionText, ""⟩
  | .fault fault => ⟨2, "", fault.text⟩

def decode (bytes : ByteArray) : Except ReadFault String :=
  match String.fromUTF8? bytes with
  | some text => .ok text
  | none => .error .notText

def answer (options : Options) (coloured : Bool) (content : Except ReadFault ByteArray) :
    Except String String :=
  match content >>= decode with
  | .ok source => options.report.render (coloured && !options.noColour) source options.path
  | .error fault => .error ("Failed to read file '" ++ options.path ++ "': " ++ fault.message)

def check (options : Options) (coloured : Bool) (content : Except ReadFault ByteArray) : Outcome :=
  match answer options coloured content with
  | .ok report => ⟨0, report, ""⟩
  | .error message => ⟨1, "", message ++ "\n"⟩

/-- The outcome of a run where `read` gives the files. -/
def run (read : String → Except ReadFault ByteArray) (coloured : Bool) (arguments : List String) :
    Outcome :=
  match Options.ofArguments arguments with
  | .ok options => check options coloured (read options.path)
  | .error reason => stop reason

end Command

end Sierra
