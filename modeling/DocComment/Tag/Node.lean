import DocComment.Value.Record

/-!
# Tags

A tag is *written* where a comment has a text for it, or *implied* where only a dotted name speaks
of it.  Below a tag stand the tags that its dotted names nest under it.  The type `ν` numbers the
lines; nothing but a tag's own number depends on it.
-/

namespace DocComment

/-- A tag with the tags nested under it. -/
inductive TagNode (ν : Type) where
  /-- A tag with what the parsers made of its text. -/
  | written (fields : Record) (line : ν) (source : Text) (tags : List (TagNode ν))
  /-- A parent that was not written, with the keyword and the line of its first child. -/
  | implied (tag : Value) (name : Text) (line : ν) (tags : List (TagNode ν))
deriving Repr

namespace TagNode

variable {ν μ : Type}

/-- The fields of a written tag that the comment decides, not the parsers. -/
def placeFields : List String := ["line", "source", "tags"]

/-- A written tag with nothing nested under it yet.  What parsers contributed under the names of
the line, the source and the nested tags does not count. -/
def ofRecord (record : Record) (line : ν) (source : Text) : TagNode ν :=
  .written (record.filter fun field => !placeFields.contains field.1) line source []

/-- The keyword. -/
def tag : TagNode ν → Value
  | .written fields _ _ _ => Record.getD fields "tag" .null
  | .implied tag _ _ _ => tag

/-- The name. -/
def name : TagNode ν → Value
  | .written fields _ _ _ => Record.getD fields "name" .null
  | .implied _ name _ _ => .text name

/-- The number of the line. -/
def line : TagNode ν → ν
  | .written _ line _ _ => line
  | .implied _ _ line _ => line

/-- The text of a written tag; an implied one has none. -/
def source : TagNode ν → Text
  | .written _ _ source _ => source
  | .implied _ _ _ _ => []

/-- The nested tags. -/
def tags : TagNode ν → List (TagNode ν)
  | .written _ _ _ tags => tags
  | .implied _ _ _ tags => tags

/-- Whether the tag was not written. -/
def isImplied : TagNode ν → Bool
  | .written _ _ _ _ => false
  | .implied _ _ _ _ => true

/-- The tag with other tags nested under it. -/
def withTags (node : TagNode ν) (tags : List (TagNode ν)) : TagNode ν :=
  match node with
  | .written fields line source _ => .written fields line source tags
  | .implied tag name line _ => .implied tag name line tags

/-- The tag under another name. -/
def withName (node : TagNode ν) (name : Text) : TagNode ν :=
  match node with
  | .written fields line source tags =>
    .written (Record.set fields "name" (.text name)) line source tags
  | .implied tag _ line tags => .implied tag name line tags

@[simp] theorem tags_withTags (node : TagNode ν) (tags : List (TagNode ν)) :
    (node.withTags tags).tags = tags := by cases node <;> rfl

@[simp] theorem line_withTags (node : TagNode ν) (tags : List (TagNode ν)) :
    (node.withTags tags).line = node.line := by cases node <;> rfl

@[simp] theorem source_withTags (node : TagNode ν) (tags : List (TagNode ν)) :
    (node.withTags tags).source = node.source := by cases node <;> rfl

@[simp] theorem name_withTags (node : TagNode ν) (tags : List (TagNode ν)) :
    (node.withTags tags).name = node.name := by cases node <;> rfl

@[simp] theorem tag_withTags (node : TagNode ν) (tags : List (TagNode ν)) :
    (node.withTags tags).tag = node.tag := by cases node <;> rfl

mutual

/-- The tag as a value, with its lines numbered by `number`. -/
def toValue (number : ν → Value) : TagNode ν → Value
  | .written fields line source tags =>
    .record (fields ++ [("line", number line), ("source", .text source),
      ("tags", .list (toValues number tags))])
  | .implied tag name line tags =>
    .record [("tag", tag), ("type", .text []), ("name", .text name), ("description", .text []),
      ("optional", .bool false), ("line", number line), ("source", .text []),
      ("tags", .list (toValues number tags)), ("errors", .list [])]

/-- The values of several tags. -/
def toValues (number : ν → Value) : List (TagNode ν) → List Value
  | [] => []
  | node :: rest => toValue number node :: toValues number rest

end

end TagNode

end DocComment
