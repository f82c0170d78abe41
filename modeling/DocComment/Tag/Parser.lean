import DocComment.Value.Record

/-!
# Tag parsers

A tag parser is given the part of a tag's text that is not yet consumed and a copy of the record of
what earlier parsers contributed.  It may make changes to its copy, and it replies with a failure or
with a value.  A reply that does not count as true declines, a pair of a text and a record consumes
the text and contributes the record, and any other reply is malformed.
-/

namespace DocComment

/-- A change to a list or a record. -/
inductive Change where
  /-- Adds an item at the end of a list. -/
  | append (value : Value)
  /-- Puts a value at an index of a list or under a name of a record. -/
  | put (key value : Value)
  /-- Takes away what stands at an index of a list or under a name of a record. -/
  | remove (key : Value)
deriving Repr

/-- A change at the place that a path of indexes and names leads to. -/
structure Edit where
  path : List Value
  change : Change
deriving Repr

/-- What a parser replies. -/
inductive Reply where
  | failed (message : String)
  | value (v : Value)
deriving Repr

/-- A tag parser: the name under which its failures are recorded, and its edits and reply for what
remains of the text and the record so far. -/
structure TagParser where
  name : String
  run : Text → Record → List Edit × Reply

/-- What the value in a reply means. -/
inductive Response where
  | declined
  | consumed (text : Text) (fields : Record)
  | malformed (value : Value)
deriving Repr

/-- Reads the value in a reply. -/
def Response.ofValue (value : Value) : Response :=
  if value.isTruthy then
    match value with
    | .tuple [.text text, .record fields] => .consumed text fields
    | other => .malformed other
  else .declined

/-- The reply of a parser that consumes `text` and contributes `fields`. -/
def Reply.consuming (text : Text) (fields : Record) : Reply :=
  .value (.tuple [.text text, .record fields])

/-- The reply of a parser that does not apply. -/
def Reply.declining : Reply := .value .null

@[simp] theorem Response.ofValue_consuming (text : Text) (fields : Record) :
    Response.ofValue (.tuple [.text text, .record fields]) = .consumed text fields := rfl

@[simp] theorem Response.ofValue_null : Response.ofValue .null = .declined := rfl

/-- A value in the place of a parser: calling it fails. -/
def TagParser.uncallable (value : Value) : TagParser :=
  ⟨value.kindName, fun _ _ => ([], .failed s!"'{value.kindName}' object is not callable")⟩

end DocComment
