import DocComment.Comment.Line
import DocComment.Text.Word

/-!
# Passages of a comment

The lines of a comment up to the first tag header are its description.  A header is a line whose
first character that is not blank is `@`, with a word character after it.  Every header begins a
passage that holds the lines up to the next one.
-/

namespace DocComment

open Text

/-- Whether a line begins a tag. -/
def isHeader (line : Text) : Bool :=
  match trimStart line with
  | '@' :: c :: _ => isWord c
  | _ => false

/-- Some lines in a row, numbered by the first. -/
structure Passage (ν : Type) where
  lines : List Text
  number : ν
deriving DecidableEq, Repr

/-- The lines before the first header, and the passages that the headers begin. -/
def passages {ν : Type} (lines : List (Line ν)) : List Text × List (Passage ν) :=
  lines.foldr
    (fun line (found : List Text × List (Passage ν)) =>
      if isHeader line.text then ([], ⟨line.text :: found.1, line.number⟩ :: found.2)
      else (line.text :: found.1, found.2))
    ([], [])

@[simp] theorem passages_nil {ν : Type} : passages ([] : List (Line ν)) = ([], []) := rfl

theorem passages_cons {ν : Type} (line : Line ν) (rest : List (Line ν)) :
    passages (line :: rest) =
      if isHeader line.text then
        ([], ⟨line.text :: (passages rest).1, line.number⟩ :: (passages rest).2)
      else (line.text :: (passages rest).1, (passages rest).2) := rfl

/-- Passages keep every line, in order. -/
theorem flatten_passages {ν : Type} (lines : List (Line ν)) :
    (passages lines).1 ++ (passages lines).2.flatMap (·.lines) = lines.map (·.text) := by
  induction lines with
  | nil => rfl
  | cons line rest ih =>
    rw [passages_cons]
    split <;> simp [← ih]

/-- The text of some lines, without the blanks around it where texts are trimmed. -/
def sourceOf (trimmed : Bool) (lines : List Text) : Text :=
  if trimmed then trim (joinLines lines) else joinLines lines

/-- A line's content, without the blanks around it where texts are trimmed. -/
def Line.trimIf {ν : Type} (trimmed : Bool) (line : Line ν) : Line ν :=
  if trimmed then { line with text := trim line.text } else line

end DocComment
