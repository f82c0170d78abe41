import DocComment.Comment.Passage
import DocComment.Options
import DocComment.Tag.Forest
import DocComment.Tag.Pipeline

/-!
# Blocks

A block is what a comment says: a description and tags.  The lines before the first tag header are
the description, every header begins the text of a tag, and each text goes through the tag parsers.
A comment that has neither is no block.
-/

namespace DocComment

variable {ν : Type}

/-- What a comment says; `line` is the number of its first line. -/
structure Block (ν : Type) where
  line : ν
  description : Text
  source : Text
  tags : List (TagNode ν)
deriving Repr

/-- The block as a value. -/
def Block.toValue (number : ν → Value) (block : Block ν) : Value :=
  .record [("line", number block.line), ("description", .text block.description),
    ("source", .text block.source), ("tags", .list (TagNode.toValues number block.tags))]

/-- Adds the tag of a passage to the tags before it. -/
def addPassage (options : Options) (tags : List (TagNode ν)) (passage : Passage ν) :
    Report ν (List (TagNode ν)) := do
  let source := sourceOf options.trim passage.lines
  match ← parseTag source options.parsers with
  | none => .noting [.skippedTag passage.number source] tags
  | some record =>
    .ofExcept (addTag options.dottedNames tags (.ofRecord record passage.number source))

/-- Adds the tags of passages one after the other. -/
def addPassages (options : Options) : List (TagNode ν) → List (Passage ν) →
    Report ν (List (TagNode ν))
  | tags, [] => pure tags
  | tags, passage :: rest => addPassage options tags passage >>= (addPassages options · rest)

/-- The block that the lines of a comment make, if they make one. -/
def parseBlock (options : Options) (lines : List (Line ν)) : Report ν (Option (Block ν)) :=
  match lines with
  | [] => pure none
  | first :: _ =>
    let trimmed := lines.map (Line.trimIf options.trim)
    let (intro, tagPassages) := passages trimmed
    let description := sourceOf options.trim intro
    if description.isEmpty && tagPassages.isEmpty then .noting [.emptyComment first.number] none
    else do
      let tags ← addPassages options [] tagPassages
      return some ⟨first.number, description, sourceOf options.trim (trimmed.map (·.text)), tags⟩

/-- Whether a value has ends that blanks can be trimmed from. -/
def hasEnds : Value → Bool
  | .text _ | .bytes _ => true
  | _ => false

/-- The lines that values and numbers make, if the values are texts.  Where texts are trimmed,
values without ends are found out before any others. -/
def linesOfValues (trimmed : Bool) (lines : List (Value × ν)) : Except Fault (List (Line ν)) :=
  match if trimmed then lines.find? fun line => !hasEnds line.1 else none with
  | some (value, _) => .error (.lineWithoutEnds value)
  | none =>
    lines.mapM fun (value, number) =>
      match value with
      | .text characters => .ok ⟨characters, number⟩
      | other => .error (.lineNotText other)

/-- The block of lines that may be of any kind, with options as they were given. -/
def parseBlockValue (options : OptionsInput) (lines : List (Value × ν)) :
    Report ν (Option (Block ν)) := do
  let options ← .ofExcept options.read
  parseBlock options (← .ofExcept (linesOfValues options.trim lines))

end DocComment
