import DocComment.CommandLine.Machine
import DocComment.Document
import DocComment.Failures
import DocComment.Files.Path
import DocComment.Json.Reader
import DocComment.Json.Writer
import DocComment.Log

/-!
# Requests

A run of `parse` carries out a request, and a run of `validate` looks at a path.  What the run comes
to is a function of the machine, of what stands at the paths it may ask for, and of its standard
input.  It ends by printing a JSON document and exiting with 0 or 2, or in a breakdown for a reason
that the program does not handle.
-/

namespace DocComment.CommandLine

open DocComment

/-- How a run ends. -/
inductive Ending where
  /-- The arguments are misused; nothing is printed but a hint at the usage. -/
  | usage
  | exit (code : Nat) (output : Text) (log : List LogRecord)
  | breakdown (reason : Breakdown)

/-- What stands at each path. -/
abbrev Files := Text → FileState

/-- What `parse` is asked to do, and the level from which on log records are told. -/
structure Request where
  level : LogLevel
  path : Option Text
  trim : Bool
  dottedNames : Bool
  strict : Bool
  indentation : Option Int
deriving DecidableEq, Repr

/-- A document on lines of its own. -/
def document (style : Json.Style) (value : Value) : Text :=
  Json.write style (.ofValue value) ++ ['\n']

/-- The document of a failure: what failed, a hint, and further fields. -/
def failureDocument (error hint : String) (details : Record) : Text :=
  document .oneLine (.record (("error", .ofString error) :: ("hint", .ofString hint) :: details))

/-- Ends a run with the document of a failure. -/
def failing (log : List LogRecord) (error hint : String) (details : Record) : Ending :=
  .exit 2 (failureDocument error hint details) log

/-- The log records of notes that matter at least as much as `level`. -/
def logOf (level : LogLevel) (records : List LogRecord) : List LogRecord :=
  records.filter fun record => level.rank ≤ record.level.rank

/-- The log records of the notes on a document. -/
def notesLog (notes : List (Note Nat)) : List LogRecord :=
  notes.filterMap (Note.logRecord? toString)

/-! ## Parsing -/

/-- The settings that a request amounts to. -/
def Request.settings (request : Request) : Settings :=
  { Settings.default with trim := .bool request.trim, dottedNames := .bool request.dottedNames }

/-- The options that a request amounts to. -/
def Request.options (request : Request) : Options := request.settings.toOptions

/-- The failures recorded in the tags of blocks. -/
def blockFailures (blocks : List (Block Nat)) : Except Fault (List Value) := do
  let found ← blocks.mapM fun block =>
    listFailures (TagNode.toValues Value.ofNat block.tags)
  return found.flatten

/-- The blocks as a value. -/
def blocksValue (blocks : List (Block Nat)) : Value :=
  .list (blocks.map (Block.toValue Value.ofNat))

/-- The record of the number of blocks that were found. -/
def extractedRecord (count : Nat) (origin : Text) : LogRecord :=
  ⟨.info, "doctags.core", s!"Extracted {count} block(s) from {String.ofList origin}"⟩

/-- The style for an indentation.  A negative one breaks lines without indenting them. -/
def styleFor : (indentation : Option Int) → Json.Style
  | none => .oneLine
  | some width => .indented width.toNat

/-- Prints blocks, if there is no obstacle to it. -/
def print (machine : Machine) (indentation : Option Int) (log : List LogRecord) (blocks : Value) :
    Ending :=
  match machine.obstacle? indentation (.ofValue blocks) with
  | some reason => .breakdown reason
  | none => .exit 0 (document (styleFor indentation) blocks) log

/-- Prints blocks, or, where failures count, those there are.  The blocks are checked before: a
violation ends the run with the document of a failure, and blocks that checking does not get through
break it down. -/
def report (machine : Machine) (request : Request) (log : List LogRecord)
    (blocks : List (Block Nat)) : Ending :=
  match Schema.judge (.ofValue (blocksValue blocks)) machine.checker with
  | .tooDeep => .breakdown .tooDeep
  | .violated violation => failing log "schema_invalid" violation.message []
  | .conforming =>
    if request.strict then
      match blockFailures blocks with
      | .error fault => .breakdown (.fault fault)
      | .ok [] => print machine request.indentation log (blocksValue blocks)
      | .ok failures =>
        failing log "tag_errors" s!"{failures.length} tag(s) could not be parsed"
          [("tags", .list failures)]
    else print machine request.indentation log (blocksValue blocks)

/-- Carries out a request on a file. -/
def runParseFile (machine : Machine) (files : Files) (request : Request) (path : Text) : Ending :=
  let read := parseFile (files path) (.settings request.settings)
  let log := notesLog read.notes
  let unreadable := fun hint =>
    failing (logOf request.level log) "read_failed" hint [("path", .text path)]
  match read.outcome with
  | .error (.refused .nullCharacter) => .breakdown .nullCharacter
  | .error (.refused reason) => unreadable (reason.message path)
  | .error (.options fault) => .breakdown (.fault fault)
  | .error (.stream (.encoding fault)) => unreadable fault.message
  | .error (.stream (.fault fault)) => .breakdown (.fault fault)
  | .ok blocks =>
    report machine request (logOf request.level (log ++ [extractedRecord blocks.length path]))
      blocks

/-- Carries out a request on the standard input. -/
def runParseInput (machine : Machine) (request : Request) (input : List UInt8) : Ending :=
  let read := parseDelivery request.options (machine.deliver input)
  match read.outcome with
  | .error (.encoding fault) => .breakdown (.encoding fault)
  | .error (.fault fault) => .breakdown (.fault fault)
  | .ok blocks =>
    report machine request
      (logOf request.level
        (notesLog read.notes ++ [extractedRecord blocks.length "<stdin>".toList])) blocks

/-- Carries out a request: without a path, or with an empty one, on the standard input. -/
def runParse (machine : Machine) (files : Files) (input : List UInt8) (request : Request) :
    Ending :=
  match request.path with
  | none | some [] => runParseInput machine request input
  | some path => runParseFile machine files request path

/-! ## Validating -/

/-- Why a document is no list of blocks, or how many blocks it has. -/
inductive Verdict where
  | blocks (count : Nat)
  | malformed (text : Text) (fault : Json.Fault)
  | violated (violation : Schema.Violation)
  | tooDeep

/-- Judges the text of a document. -/
def judge (machine : Machine) (text : Text) : Verdict :=
  match Json.read machine.readingLevels text with
  | .error ⟨.tooDeep, _⟩ => .tooDeep
  | .error fault => .malformed text fault
  | .ok document =>
    match Schema.judge document machine.checker, document with
    | .tooDeep, _ => .tooDeep
    | .violated violation, _ => .violated violation
    | .conforming, .array items => .blocks items.length
    | .conforming, _ => .blocks 0

/-- How a run of `validate` on the file at a path ends, by what is said of its text. -/
def Verdict.ending (path : Text) : Verdict → Ending
  | .tooDeep => .breakdown .tooDeep
  | .malformed _ ⟨.overlongInteger, _⟩ => .breakdown .overlongInteger
  | .malformed text fault =>
    failing [] "schema_invalid" ("Invalid JSON: " ++ fault.message text) [("path", .text path)]
  | .violated violation =>
    failing [] "schema_invalid" violation.message
      [("path", .text path), ("at", .ofString violation.location)]
  | .blocks count =>
    .exit 0 (document .oneLine (.record [("ok", .bool true), ("blocks", .ofNat count)])) []

/-- Runs `validate`.  The file is looked for under the normalised path, which the hint shows too. -/
def runValidate (machine : Machine) (files : Files) (path : Text) : Ending :=
  let normal := Path.normalize path
  match (files normal).read with
  | .error .nullCharacter => .breakdown .nullCharacter
  | .error refusal => failing [] "read_failed" (refusal.message normal) [("path", .text path)]
  | .ok octets =>
    match Utf8.decode octets with
    | .error fault => failing [] "read_failed" fault.message [("path", .text path)]
    | .ok text => (judge machine (Text.unifyLineEnds text)).ending path

end DocComment.CommandLine
