import DocComment.Log
import DocComment.Text.Digit

/-!
# Command-line arguments

`doctags [--log-level LEVEL] COMMAND [OPTION…]` has the commands `parse` and `validate`.  An option
that takes a value takes it after an equals sign or from the next argument, whatever that is; of
several uses of an option the last one counts.  After `--` no argument is an option.
-/

namespace DocComment.CommandLine

open DocComment

/-- The options of `parse`, with their values as they were written. -/
structure ParseArguments where
  path : Option String
  trim : Bool
  dottedNames : Bool
  strict : Bool
  indent : Option String
deriving DecidableEq, Repr

/-- A command with its options. -/
inductive Command where
  /-- Prints the blocks of a file, or of the standard input. -/
  | parse (arguments : ParseArguments)
  /-- Checks a list of blocks in a file. -/
  | validate (path : Option String)
deriving DecidableEq, Repr

/-- What the program is asked to do. -/
structure Invocation where
  level : LogLevel
  command : Command
  /-- The options of the command in the order of their use. -/
  used : List String
  /-- The arguments of the command that are no options. -/
  others : List String
deriving DecidableEq, Repr

/-- The level that a word names, in letters of any case. -/
def level? (word : String) : Option LogLevel :=
  [LogLevel.debug, .info, .warning, .error].find? fun level =>
    level.label.toList == word.toList.map Char.toUpper

/-- An option with the value attached to it after an equals sign. -/
def attached (argument : String) : String × Option String :=
  let characters := argument.toList
  if characters.contains '=' then
    (String.ofList (characters.takeWhile (· != '=')),
      some (String.ofList ((characters.dropWhile (· != '=')).drop 1)))
  else (argument, none)

/-- Whether an argument is an option: a dash with something after it. -/
def isOption (argument : String) : Bool :=
  match argument.toList with
  | '-' :: _ :: _ => true
  | _ => false

/-- The options that a command has, and what they do to it: those that take a value and those that
do not. -/
structure Grammar (σ : Type) where
  valued : String → Option (σ → String → σ)
  flag : String → Option (σ → σ)

/-- What came of reading options: the state, the options in the order of their use, and the
arguments that are none. -/
structure Scanned (σ : Type) where
  state : σ
  used : List String
  others : List String

/-- Reads options up to `--`, or up to the first other argument if `stops`.  Nothing is returned if
an option is unknown, lacks its value or has one that it does not take. -/
def scan {σ : Type} (grammar : Grammar σ) (stops : Bool) (state : σ) (used others : List String) :
    List String → Option (Scanned σ)
  | [] => some ⟨state, used, others⟩
  | argument :: rest =>
    if argument = "--" then some ⟨state, used, others ++ rest⟩
    else if isOption argument then
      let (name, value) := attached argument
      match grammar.valued name, grammar.flag name, value with
      | some set, _, some value => scan grammar stops (set state value) (used ++ [name]) others rest
      | some set, _, none =>
        match rest with
        | value :: rest => scan grammar stops (set state value) (used ++ [name]) others rest
        | [] => none
      | none, some raise, none => scan grammar stops (raise state) (used ++ [name]) others rest
      | none, _, _ => none
    else if stops then some ⟨state, used, others ++ argument :: rest⟩
    else scan grammar stops state used (others ++ [argument]) rest

/-- The options in front of the command: the word for the level. -/
def mainGrammar : Grammar String where
  valued name := if name = "--log-level" then some fun _ word => word else none
  flag _ := none

/-- The grammar of the options of `parse`. -/
def parseGrammar : Grammar ParseArguments where
  valued name :=
    if name = "--path" then some fun options path => { options with path := some path }
    else if name = "--indent" then some fun options indent => { options with indent := some indent }
    else none
  flag name :=
    if name = "--trim" then some fun options => { options with trim := true }
    else if name = "--no-trim" then some fun options => { options with trim := false }
    else if name = "--dotted-names" then some fun options => { options with dottedNames := true }
    else if name = "--strict" then some fun options => { options with strict := true }
    else none

/-- The grammar of the options of `validate`. -/
def validateGrammar : Grammar (Option String) where
  valued name := if name = "--path" then some fun _ path => some path else none
  flag _ := none

/-- Reads the arguments of a command. -/
def readCommand {σ : Type} (level : LogLevel) (grammar : Grammar σ) (start : σ) (make : σ → Command)
    (arguments : List String) : Option Invocation := do
  let found ← scan grammar false start [] [] arguments
  return ⟨level, make found.state, found.used, found.others⟩

/-- Reads the arguments of the program; nothing is returned where they are misused. -/
def readInvocation (arguments : List String) : Option Invocation := do
  let found ← scan mainGrammar true "WARNING" [] [] arguments
  let level ← level? found.state
  match found.others with
  | "parse" :: rest => readCommand level parseGrammar ⟨none, true, false, false, none⟩ .parse rest
  | "validate" :: rest => readCommand level validateGrammar none .validate rest
  | _ => none

end DocComment.CommandLine
