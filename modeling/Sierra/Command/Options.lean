import Sierra.Report
import Sierra.Text.ControlSequence

/-!
# Arguments of the command line

Arguments are read from left to right. Short flags may stand together, `-r` takes the rest of its
argument or the next argument as its value, and `--` ends the flags. A value that is an argument of
its own, and the path, are checked only when the next flag or path has been recognised or the
arguments are over, so an argument that is not recognised is reported before them.
-/

namespace Sierra

set_option autoImplicit false

inductive Flag where
  | tokens
  | ast
  | rule
  | noColour
  | help
  | version
  deriving DecidableEq, Repr

namespace Flag

def ofLong? : String → Option Flag
  | "tokens" => some tokens
  | "ast" => some ast
  | "rule" => some rule
  | "no-color" => some noColour
  | "help" => some help
  | "version" => some version
  | _ => none

def ofShort? : Char → Option Flag
  | 't' => some tokens
  | 'a' => some ast
  | 'r' => some rule
  | 'h' => some help
  | 'V' => some version
  | _ => none

def label : Flag → String
  | tokens => "--tokens"
  | ast => "--ast"
  | rule => "--rule <RULE>"
  | noColour => "--no-color"
  | help => "--help"
  | version => "--version"

end Flag

/-- The rule that a value names, or a text that lists the names there are. -/
def Rule.ofArgument (name : String) : Except String Rule :=
  match Rule.ofName? name with
  | some rule => .ok rule
  | none => .error ("unknown rule '" ++ name ++ "' (expected one of: " ++
      String.intercalate ", " (Rule.all.map (·.name)) ++ ")")

inductive ArgumentFault where
  | unexpected (argument : String)
  | unwantedValue (flag : Flag) (value : String)
  | repeated (flag : Flag)
  | valueMissing (label : String)
  | unknownRule (value reason : String)
  | pathMissing
  deriving DecidableEq, Repr

namespace ArgumentFault

def advice (text : String) : List String :=
  [text ++ "\n\nFor more information, try '", "--help", "'.\n"]

/-- The message in parts. What is quoted in a colour of its own is a part of its own. -/
def parts : ArgumentFault → List String
  | unexpected argument => "error: unexpected argument '" :: argument :: advice "' found"
  | unwantedValue flag value =>
      "error: unexpected value '" :: value :: "' for '" :: flag.label ::
        advice "' found; no more were expected"
  | repeated flag =>
      "error: the argument '" :: flag.label :: advice "' cannot be used multiple times"
  | valueMissing label =>
      "error: a value is required for '" :: label :: advice "' but none was supplied"
  | unknownRule value reason =>
      "error: invalid value '" :: value :: "' for '" :: Flag.rule.label ::
        advice ("': " ++ reason)
  | pathMissing =>
      "error: the following required arguments were not provided:\n  " :: "<PATH>" :: advice ""

/-- The message without control characters. A control sequence that an argument leaves open ends
with its part, because the change of colour behind the part begins another one. -/
def text (fault : ArgumentFault) : String :=
  String.join (fault.parts.map Text.shown)

end ArgumentFault

inductive Stop where
  | help
  | version
  | fault (fault : ArgumentFault)
  deriving DecidableEq, Repr

structure Options where
  path : String
  tokens : Bool
  ast : Bool
  rule : Option Rule
  noColour : Bool
  deriving DecidableEq, Repr

/-- The table of tokens comes before the tree of a rule, and both before the count of units. -/
def Options.report (options : Options) : Report :=
  if options.tokens then
    .tokens
  else
    match options.rule with
    | some rule => .tree rule
    | none => .units options.ast

inductive Unchecked where
  | rule (value : Option String)
  | path (value : String)
  deriving DecidableEq, Repr

structure Settings where
  path : Option String
  tokens : Bool
  ast : Bool
  rule : Option Rule
  noColour : Bool
  unchecked : Option Unchecked
  deriving DecidableEq, Repr

namespace Settings

def empty : Settings :=
  ⟨none, false, false, none, false, none⟩

def giveRule (settings : Settings) (value : String) : Except Stop Settings :=
  if settings.rule.isSome then
    .error (.fault (.repeated .rule))
  else
    match Rule.ofArgument value with
    | .ok rule => .ok { settings with rule := some rule }
    | .error reason => .error (.fault (.unknownRule value reason))

def settle (settings : Settings) : Except Stop Settings :=
  let checked := { settings with unchecked := none }
  match settings.unchecked with
  | none => .ok checked
  | some (.rule none) => .error (.fault (.valueMissing Flag.rule.label))
  | some (.rule (some value)) => checked.giveRule value
  | some (.path value) =>
    if value.isEmpty then
      .error (.fault (.valueMissing "<PATH>"))
    else
      .ok { checked with path := some value }

/-- A flag that takes no value; it may be given once. -/
def raise (settings : Settings) (flag : Flag) : Except Stop Settings := do
  let settings ← settings.settle
  let once (given : Bool) (raised : Settings) : Except Stop Settings :=
    if given then .error (.fault (.repeated flag)) else .ok raised
  match flag with
  | .help => throw .help
  | .version => throw .version
  | .tokens => once settings.tokens { settings with tokens := true }
  | .ast => once settings.ast { settings with ast := true }
  | .noColour => once settings.noColour { settings with noColour := true }
  | .rule => return { settings with unchecked := some (.rule none) }

def readLong (settings : Settings) (name : String) (value : Option String) :
    Except Stop Settings :=
  match Flag.ofLong? name, value with
  | none, _ => .error (.fault (.unexpected ("--" ++ name)))
  | some .rule, some value => do
    let settings ← settings.settle
    settings.giveRule value
  | some flag, some value => .error (.fault (.unwantedValue flag value))
  | some flag, none => settings.raise flag

/-- Reads short flags that stand together; an equals sign may stand in front of a value. -/
def readShort (settings : Settings) : List Char → Except Stop Settings
  | [] => .ok settings
  | c :: rest =>
    match Flag.ofShort? c, rest with
    | none, _ => .error (.fault (.unexpected ("-" ++ String.singleton c)))
    | some .rule, first :: more => do
      let settings ← settings.settle
      settings.giveRule (String.ofList (if first = '=' then more else first :: more))
    | some flag, rest => do
      let settings ← settings.raise flag
      settings.readShort rest

/-- An argument that is no flag: the value that a flag waits for, or the path. -/
def readPlain (settings : Settings) (flagsOver : Bool) (argument : String) :
    Except Stop Settings :=
  if settings.unchecked = some (.rule none) ∧ !flagsOver then
    .ok { settings with unchecked := some (.rule (some argument)) }
  else
    match settings.path, settings.unchecked with
    | some _, _ | _, some (.path _) => .error (.fault (.unexpected argument))
    | none, _ => do
      let settings ← settings.settle
      return { settings with unchecked := some (.path argument) }

/-- Reads one argument, and says whether it ended the flags. -/
def readArgument (settings : Settings) (flagsOver : Bool) (argument : String) :
    Except Stop (Settings × Bool) :=
  if flagsOver then
    return (← settings.readPlain true argument, true)
  else
    match argument.toList with
    | ['-', '-'] => return (settings, true)
    | '-' :: '-' :: text =>
      let name := String.ofList (text.takeWhile (· ≠ '='))
      let value := match text.dropWhile (· ≠ '=') with
        | _ :: value => some (String.ofList value)
        | [] => none
      return (← settings.readLong name value, false)
    | '-' :: c :: rest => return (← settings.readShort (c :: rest), false)
    | _ => return (← settings.readPlain false argument, false)

def readAll (settings : Settings) (flagsOver : Bool) : List String → Except Stop Settings
  | [] => settings.settle
  | argument :: more => do
    let (settings, flagsOver) ← settings.readArgument flagsOver argument
    settings.readAll flagsOver more

end Settings

def Options.ofArguments (arguments : List String) : Except Stop Options := do
  let settings ← Settings.empty.readAll false arguments
  match settings.path with
  | none => throw (.fault .pathMissing)
  | some path => return ⟨path, settings.tokens, settings.ast, settings.rule, settings.noColour⟩

end Sierra
