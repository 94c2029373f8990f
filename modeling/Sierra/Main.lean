import Sierra.Command

/-!
# The program

Reads the arguments, the environment and the file, and leaves everything else to `Sierra.Command`.
-/

namespace Sierra

set_option autoImplicit false

/-- The fault that a failed reading stands for. Codes come with either sign. -/
def readFault : IO.Error → ReadFault
  | .noFileOrDirectory _ _ _ => .notFound
  | .inappropriateType _ code _ => if code = 21 then .isFolder else .notFolder
  | .invalidArgument _ code _ =>
      if code = 36 ∨ code + 36 = 0 then .nameTooLong else .system "Invalid argument" 22
  | .permissionDenied _ _ _ => .system "Permission denied" 13
  | _ => .system "Input/output error" 5

def readFile (path : String) : BaseIO (Except ReadFault ByteArray) := do
  match ← (IO.FS.readBinFile path).toBaseIO with
  | .ok bytes => return .ok bytes
  | .error error => return .error (readFault error)

def terminalColour : BaseIO Bool := do
  let forced ← IO.getEnv "CLICOLOR_FORCE"
  let forbidden ← IO.getEnv "NO_COLOR"
  let allowed ← IO.getEnv "CLICOLOR"
  let terminal ← (← IO.getStdout).isTty
  return Command.wantsColour forced forbidden allowed terminal

def finish (outcome : Outcome) : IO UInt32 := do
  IO.print outcome.output
  IO.eprint outcome.errors
  return outcome.code.toUInt32

end Sierra

def main (arguments : List String) : IO UInt32 := do
  match Sierra.Options.ofArguments arguments with
  | .error reason => Sierra.finish (Sierra.Command.stop reason)
  | .ok options =>
    let content ← Sierra.readFile options.path
    let coloured ← Sierra.terminalColour
    Sierra.finish (Sierra.Command.check options coloured content)
