import DocComment.Report

/-!
# Log records

Part of what is noted on the way is told to whoever follows the work: as a record with a level, the
name of the part of the program that speaks, and a message.
-/

namespace DocComment

/-- How much a log record matters. -/
inductive LogLevel where
  | debug
  | info
  | warning
  | error
deriving DecidableEq, Repr

/-- The name of a level. -/
def LogLevel.label : LogLevel → String
  | .debug => "DEBUG"
  | .info => "INFO"
  | .warning => "WARNING"
  | .error => "ERROR"

/-- The rank of a level. -/
def LogLevel.rank : LogLevel → Nat
  | .debug => 0
  | .info => 1
  | .warning => 2
  | .error => 3

/-- A log record. -/
structure LogRecord where
  level : LogLevel
  speaker : String
  message : String
deriving DecidableEq, Repr

/-- The line of a log record. -/
def LogRecord.line (record : LogRecord) : String :=
  s!"{record.level.label} {record.speaker}: {record.message}"

/-- The number of a line as log records give it: where lines are numbered by values, the whole part
of a number, and any other value as it is shown. -/
def lineLabel : Value → String
  | .real x =>
    match x.truncated? with
    | some n => toString n
    | none => String.ofList (Value.display (.real x))
  | v =>
    match v.asInt? with
    | some n => toString n
    | none => String.ofList v.display

/-- The log record of a note, if it is told; `number` writes the number of a line. -/
def Note.logRecord? {ν : Type} (number : ν → String) : Note ν → Option LogRecord
  | .called _ _ _ => none
  | .rejected parser source message =>
    some ⟨.debug, "doctags.extract",
      s!"Parser {parser} rejected " ++ String.ofList (Text.quoted source) ++ s!": {message}"⟩
  | .emptyComment line =>
    some ⟨.debug, "doctags.extract", s!"Discarding empty comment block at line {number line}"⟩
  | .skippedTag line source =>
    some ⟨.debug, "doctags.extract",
      s!"Skipping tag text without @ at line {number line}: " ++
        String.ofList (Text.quoted source)⟩
  | .abandonedComment opened given =>
    some ⟨.debug, "doctags.extract",
      s!"Comment block at line {number opened} aborted by line {number given}"⟩

end DocComment
