import DocComment.Tag.Parser

/-!
# Scripted tag parsers

A script is a tag parser given by data: the edits that it makes and how it replies, the same for
every tag.  A script that consumes text takes a fixed text, a number of characters, or all that is
left, and may put what it took into its contribution.
-/

namespace DocComment

/-- How much of the remaining text a script consumes. -/
inductive Amount where
  | all
  /-- This text, whether the remaining text begins with it or not. -/
  | text (t : Text)
  /-- Up to so many characters from the front; a negative number leaves as many at the end. -/
  | characters (count : Int)
deriving Repr

/-- How a script replies. -/
inductive ScriptReply where
  | declines
  | fails (message : String)
  | gives (value : Value)
  /-- Consumes text and contributes fields, and what it took under the name `capture`. -/
  | consumes (amount : Amount) (fields : Record) (capture : Option String)
deriving Repr

/-- A tag parser given by data. -/
structure Script where
  name : String
  edits : List Edit
  reply : ScriptReply
deriving Repr

/-- The text of this amount. -/
def Amount.of (amount : Amount) (source : Text) : Text :=
  match amount with
  | .all => source
  | .text t => t
  | .characters count =>
    source.take (if count < 0 then count + source.length else count).toNat

/-- The reply to what remains of a text. -/
def ScriptReply.to (reply : ScriptReply) (source : Text) : Reply :=
  match reply with
  | .declines => .declining
  | .fails message => .failed message
  | .gives value => .value value
  | .consumes amount fields capture =>
    let taken := amount.of source
    .consuming taken (match capture with
      | some name => Record.set fields name (.text taken)
      | none => fields)

/-- The parser that a script describes. -/
def Script.toParser (script : Script) : TagParser :=
  ⟨script.name, fun source _ => (script.edits, script.reply.to source)⟩

end DocComment
