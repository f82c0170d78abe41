/-!
# Texts

A text is the list of its characters: every length and position counts characters, and a rule on
texts is a recursion on the list.  Here are the operations that know nothing of what the characters
mean: cutting at a separator, joining lines, taking a known ending off.
-/

namespace DocComment

/-- A text, as the list of its characters. -/
abbrev Text := List Char

namespace Text

/-- The pieces of a text between the occurrences of `sep`; there is always at least one piece. -/
def pieces (sep : Char) (text : Text) : List Text :=
  text.foldr
    (fun c found =>
      if c = sep then [] :: found
      else match found with
        | [] => [[c]]
        | piece :: rest => (c :: piece) :: rest)
    [[]]

@[simp] theorem pieces_nil (sep : Char) : pieces sep [] = [[]] := rfl

theorem pieces_cons_sep (sep : Char) (text : Text) :
    pieces sep (sep :: text) = [] :: pieces sep text := by
  simp [pieces]

theorem pieces_ne_nil (sep : Char) (text : Text) : pieces sep text ≠ [] := by
  cases text with
  | nil => simp
  | cons c rest =>
    rw [pieces, List.foldr_cons]
    split
    · simp
    · split <;> simp

/-- A character other than the separator lengthens the first piece. -/
theorem pieces_cons_of_ne {sep c : Char} (h : c ≠ sep) (text : Text) :
    ∃ piece rest, pieces sep text = piece :: rest ∧
      pieces sep (c :: text) = (c :: piece) :: rest := by
  obtain ⟨piece, rest, found⟩ := List.exists_cons_of_ne_nil (pieces_ne_nil sep text)
  refine ⟨piece, rest, found, ?_⟩
  rw [pieces, List.foldr_cons, if_neg h]
  rw [pieces] at found
  rw [found]

/-- The lines of `lines` one below the other, with a newline between two neighbours. -/
def joinLines : List Text → Text
  | [] => []
  | [line] => line
  | line :: next :: rest => line ++ '\n' :: joinLines (next :: rest)

@[simp] theorem joinLines_nil : joinLines [] = [] := rfl

@[simp] theorem joinLines_singleton (line : Text) : joinLines [line] = line := rfl

theorem joinLines_cons_cons (line next : Text) (rest : List Text) :
    joinLines (line :: next :: rest) = line ++ '\n' :: joinLines (next :: rest) := rfl

/-- What is left of `text` once `ending` is taken off its end, if it ends so. -/
def dropEnding? (ending text : Text) : Option Text :=
  if ending.isSuffixOf text then some (text.take (text.length - ending.length)) else none

end Text

end DocComment
