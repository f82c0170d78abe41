import DocComment.CommandLine.Run

/-!
# The program

Looks at the files that the arguments speak of, reads the standard input where it is needed, and
carries out what the run comes to.
-/

namespace DocComment.CommandLine

/-- Whether an error carries a number of the operating system, which may come with either sign. -/
def hasNumber (number code : UInt32) : Bool := code == number || code == 0 - number

/-- The refusal that an error of the operating system stands for. -/
def refusalOf : IO.Error → Refusal
  | .permissionDenied .. => .denied
  | .inappropriateType _ code _ => if hasNumber 21 code then .isDirectory else .notDirectory
  | .invalidArgument _ code _ => if hasNumber 36 code then .nameTooLong else .missing
  | _ => .missing

/-- What stands at a path. -/
def stateAt (path : Text) : IO FileState := do
  if path.contains '\x00' then return .refused .nullCharacter
  try
    return .octets (← IO.FS.readBinFile (String.ofList path)).toList
  catch error =>
    match refusalOf error with
    | .isDirectory => return .directory
    | reason => return .refused reason

/-- The octets of the standard input. -/
def readInput : IO (List UInt8) := do
  return (← (← IO.getStdin).readBinToEnd).toList

/-- What a breakdown is called. -/
def Breakdown.message : Breakdown → String
  | .encoding cause => cause.message
  | .nullCharacter => "embedded null byte"
  | .overlongInteger => Json.Defect.overlongInteger.message
  | .tooDeep => Json.Defect.tooDeep.message
  | .indentationOutOfRange => "The indentation is out of range"
  | .indentationTooWide => "There is no room for the indentation"
  | .fault cause => cause.message

/-- Carries out the ending of a run. -/
def Ending.carryOut : Ending → IO UInt32
  | .usage => do
    IO.eprintln "Usage: doctags [--log-level LEVEL] parse|validate [OPTIONS]"
    return 2
  | .exit code output log => do
    for record in log do
      IO.eprintln record.line
    IO.print (String.ofList output)
    return UInt32.ofNat code
  | .breakdown reason => do
    IO.eprintln reason.message
    return 1

end DocComment.CommandLine

open DocComment DocComment.CommandLine in
/-- Runs the program on the files and the input of this machine. -/
def main (arguments : List String) : IO UInt32 := do
  let invocation := readInvocation arguments
  let paths := (invocation.map Invocation.paths).getD []
  let states ← paths.mapM fun path => do return (path, ← stateAt path)
  let input ← if invocation.any Invocation.readsInput then readInput else pure []
  let files : Files := fun path => (states.lookup path).getD (.refused .missing)
  (run files input arguments).carryOut
