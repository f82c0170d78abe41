import DocComment.Report
import DocComment.Tag.Builtin
import DocComment.Tag.Handout

/-!
# Running tag parsers in a row

The parsers run over the text of a tag one after the other.  Each is given what the earlier ones
left of the text and a copy of the record of what they contributed.  Later contributions override
earlier ones name by name, except that errors are gathered: those that parsers contribute and one
for every parser that fails.  A failure does not stop the run.  A malformed reply does.
-/

namespace DocComment

/-- Where a run of tag parsers stands: the rest of the text and the record so far. -/
structure Progress where
  remaining : Text
  record : Record
deriving Repr

namespace Progress

/-- The errors gathered in a record. -/
def errorsOf (record : Record) : List Value :=
  match Record.get? record "errors" with
  | some (.list errors) => errors
  | _ => []

/-- The record with more errors. -/
def addErrors (record : Record) (errors : List Value) : Record :=
  Record.set record "errors" (.list (errorsOf record ++ errors))

/-- The errors among contributed fields: an absent or empty contribution has none. -/
def contributedErrors (fields : Record) : Except Fault (List Value) :=
  match Record.get? fields "errors" with
  | none => .ok []
  | some errors =>
    if errors.isTruthy then
      match errors.items? with
      | some items => .ok items
      | none => .error (.notIterable errors)
    else .ok []

/-- The record after fields were contributed. -/
def contribute (record fields : Record) : Except Fault Record := do
  let errors ← contributedErrors fields
  let merged := Record.update record (Record.erase fields "errors")
  return if errors.isEmpty then merged else addErrors merged errors

/-- The message under which a parser's failure is recorded. -/
def errorText (parser message : String) : Value := Value.ofString (parser ++ ": " ++ message)

/-- Goes on with a parser's reply; `record` is the record after the parser's edits. -/
def absorb {ν : Type} (source : Text) (parser : String) (remaining : Text) (record : Record) :
    Reply → Report ν Progress
  | .failed message =>
    .noting [.rejected parser source message]
      ⟨remaining, addErrors record [errorText parser message]⟩
  | .value value =>
    match Response.ofValue value with
    | .declined => pure ⟨remaining, record⟩
    | .malformed reply => .failing [] (.malformedReply parser reply)
    | .consumed text fields =>
      .ofExcept do return ⟨remaining.drop text.length, ← contribute record fields⟩

/-- A parser's reply where an edit failed: that failure in place of what it would have replied. -/
def effectiveReply (reply : Reply) : (failedEdit : Option String) → Reply
  | none => reply
  | some failure => .failed failure

/-- Calls a parser. -/
def call {ν : Type} (source : Text) (index : Nat) (parser : TagParser) (progress : Progress) :
    Report ν Progress :=
  let (edits, reply) := parser.run progress.remaining progress.record
  let (record, failedEdit) := progress.record.handOut edits
  .noting [.called index progress.remaining progress.record] () >>= fun _ =>
    absorb source parser.name progress.remaining record (effectiveReply reply failedEdit)

/-- Calls parsers in a row, the first of them the one at `index`. -/
def callAll {ν : Type} (source : Text) : (index : Nat) → List TagParser → Progress →
    Report ν Progress
  | _, [], progress => pure progress
  | index, parser :: rest, progress =>
    call source index parser progress >>= callAll source (index + 1) rest

end Progress

/-- The record with every field that each tag has: `optional` as a flag, the four texts empty
and the errors an empty list where nothing was contributed. -/
def completeRecord (record : Record) : Record :=
  let optional := (Record.getD record "optional" .null).isTruthy
  let record := Record.set record "optional" (.bool optional)
  let record := ["tag", "type", "name", "description"].foldl
    (fun record name => Record.setIfAbsent record name (.text [])) record
  Record.setIfAbsent record "errors" (.list [])

/-- Runs parsers over the text of a tag, which has to begin with `@`. -/
def parseTag {ν : Type} (source : Text) (parsers : List TagParser) :
    Report ν (Option Record) :=
  match source with
  | '@' :: _ => do
    let progress ← Progress.callAll source 0 parsers ⟨source, []⟩
    return some (completeRecord progress.record)
  | _ => pure none

end DocComment
