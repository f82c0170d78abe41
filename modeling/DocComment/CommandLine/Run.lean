import DocComment.CommandLine.Arguments
import DocComment.CommandLine.Request

/-!
# Running the program

The arguments of the program are read, the values of its options are checked, and the request that
they amount to is carried out.
-/

namespace DocComment.CommandLine

open DocComment

/-! ## Checking the values of options -/

/-- What is wrong with the values of options. -/
inductive ValueFault where
  | usage
  | nullCharacter
deriving DecidableEq, Repr

/-- Checks a path: it must not lead to a directory. -/
def checkPath (files : Files) : Option String → Except ValueFault (Option Text)
  | none => .ok none
  | some path =>
    match files path.toList with
    | .directory => .error .usage
    | .refused .nullCharacter => .error .nullCharacter
    | _ => .ok (some path.toList)

/-- Checks an indentation: it has to be a whole number. -/
def checkIndentation : Option String → Except ValueFault (Option Int)
  | none => .ok none
  | some text =>
    match Text.readInt? text.toList with
    | some width => .ok (some width)
    | none => .error .usage

/-- Checks the values of the options of `parse`, that of the option used first before the other;
arguments that are no options are found out last. -/
def checkParse (files : Files) (invocation : Invocation) (arguments : ParseArguments) :
    Except ValueFault Request := do
  let (path, indentation) ←
    if invocation.used.find? (["--path", "--indent"].contains ·) = some "--indent" then do
      let indentation ← checkIndentation arguments.indent
      let path ← checkPath files arguments.path
      pure (path, indentation)
    else do
      let path ← checkPath files arguments.path
      let indentation ← checkIndentation arguments.indent
      pure (path, indentation)
  if invocation.others.isEmpty then
    return ⟨invocation.level, path, arguments.trim, arguments.dottedNames, arguments.strict,
      indentation⟩
  else throw .usage

/-- Checks the path of `validate`, which has to be given. -/
def checkValidate (files : Files) (invocation : Invocation) (path : Option String) :
    Except ValueFault Text := do
  match ← checkPath files path with
  | some path => if invocation.others.isEmpty then return path else throw .usage
  | none => throw .usage

/-- How a run ends where the values of options are wrong. -/
def ValueFault.ending : ValueFault → Ending
  | .usage => .usage
  | .nullCharacter => .breakdown .nullCharacter

/-! ## Running -/

/-- The paths that a run asks for. -/
def Invocation.paths (invocation : Invocation) : List Text :=
  match invocation.command with
  | .parse arguments => arguments.path.toList.map (·.toList)
  | .validate path => path.toList.flatMap fun path => [path.toList, Path.normalize path.toList]

/-- Whether a run reads the standard input. -/
def Invocation.readsInput (invocation : Invocation) : Bool :=
  match invocation.command with
  | .parse arguments => arguments.path.all (·.isEmpty)
  | .validate _ => false

/-- Runs the program. -/
def run (files : Files) (input : List UInt8) (arguments : List String)
    (machine : Machine := .standard) : Ending :=
  match readInvocation arguments with
  | none => .usage
  | some invocation =>
    match invocation.command with
    | .parse given =>
      match checkParse files invocation given with
      | .error fault => fault.ending
      | .ok request => runParse machine files input request
    | .validate path =>
      match checkValidate files invocation path with
      | .error fault => fault.ending
      | .ok path => runValidate machine files path

end DocComment.CommandLine
