import DocComment.Comment.Line
import Mathlib.Data.List.TakeWhile
import Mathlib.Tactic.Lemma

/-!
# The kinds of line exclude each other

`LineKind.of` asks four questions about a line, one after the other.  This module shows that no
line answers two of them with yes, so the kind of a line is decided by each question alone and the
order of asking does not matter (`kind_eq_oneLine_iff`, `kind_eq_opening_iff`,
`kind_eq_interior_iff`, `kind_eq_closing_iff`).

All four are questions about what the line shows once the blanks in front of it are gone: an
opening line shows `/**` and blanks, a line that holds a whole comment shows `/**` and more than
blanks, a closing line shows `*/` and blanks, and an interior line shows `*` with a blank or nothing
after it.
-/

namespace DocComment

open Text

namespace Text

/-- Trimming the end of a text takes blanks away and nothing else. -/
lemma exists_eq_trimEnd_append (text : Text) :
    ∃ blanks, text = trimEnd text ++ blanks ∧ ∀ c ∈ blanks, isBlank c = true := by
  refine ⟨(text.reverse.takeWhile isBlank).reverse, ?_, ?_⟩
  · rw [trimEnd, ← List.reverse_append, List.takeWhile_append_dropWhile, List.reverse_reverse]
  · intro c hc
    exact List.mem_takeWhile_imp (List.mem_reverse.mp hc)

lemma trimStart_eq_nil_of_blanks {text : Text} (blanks : ∀ c ∈ text, isBlank c = true) :
    trimStart text = [] :=
  List.dropWhile_eq_nil_iff.mpr blanks

end Text

/-! ## What a line of each kind shows -/

lemma exists_trimStart_of_isOpening {line : Text} (opening : isOpening line = true) :
    ∃ blanks, trimStart line = '/' :: '*' :: '*' :: blanks ∧ ∀ c ∈ blanks, isBlank c = true := by
  obtain ⟨blanks, shown, allBlank⟩ := exists_eq_trimEnd_append (trimStart line)
  have marker : trimEnd (trimStart line) = ['/', '*', '*'] := by
    simpa only [isOpening, trim, beq_iff_eq] using opening
  rw [marker] at shown
  exact ⟨blanks, shown, allBlank⟩

lemma exists_trimStart_of_isClosing {line : Text} (closing : isClosing line = true) :
    ∃ blanks, trimStart line = '*' :: '/' :: blanks ∧ ∀ c ∈ blanks, isBlank c = true := by
  obtain ⟨blanks, shown, allBlank⟩ := exists_eq_trimEnd_append (trimStart line)
  have marker : trimEnd (trimStart line) = ['*', '/'] := by
    simpa only [isClosing, trim, beq_iff_eq] using closing
  rw [marker] at shown
  exact ⟨blanks, shown, allBlank⟩

lemma trimStart_of_interiorText? {keepPadding : Bool} {line text : Text}
    (interior : interiorText? keepPadding line = some text) :
    trimStart line = ['*'] ∨ ∃ c rest, trimStart line = '*' :: c :: rest ∧ isBlank c = true := by
  unfold interiorText? at interior
  split at interior
  · next shown => exact .inl shown
  · next c rest shown =>
      split at interior
      · next blank => exact .inr ⟨c, rest, shown, blank⟩
      · cases interior
  · cases interior

/-- Whether a line is interior does not depend on what is done with padding. -/
lemma isSome_interiorText? (keepPadding : Bool) (line : Text) :
    (interiorText? keepPadding line).isSome = (interiorText? true line).isSome := by
  unfold interiorText?
  split
  · rfl
  · next c rest shown => cases isBlank c <;> rfl
  · rfl

/-! ## No line is of two kinds -/

lemma oneLineText?_eq_none_of_isOpening {line : Text} (opening : isOpening line = true) :
    oneLineText? line = none := by
  obtain ⟨blanks, shown, allBlank⟩ := exists_trimStart_of_isOpening opening
  simp [oneLineText?, shown, trimStart_eq_nil_of_blanks allBlank, dropEnding?]

lemma oneLineText?_eq_none_of_isClosing {line : Text} (closing : isClosing line = true) :
    oneLineText? line = none := by
  obtain ⟨blanks, shown, -⟩ := exists_trimStart_of_isClosing closing
  simp [oneLineText?, shown]

lemma oneLineText?_eq_none_of_interiorText? {keepPadding : Bool} {line text : Text}
    (interior : interiorText? keepPadding line = some text) : oneLineText? line = none := by
  rcases trimStart_of_interiorText? interior with shown | ⟨c, rest, shown, -⟩ <;>
    simp [oneLineText?, shown]

lemma isOpening_eq_false_of_isClosing {line : Text} (closing : isClosing line = true) :
    isOpening line = false := by
  have marker : trim line = ['*', '/'] := by simpa only [isClosing, beq_iff_eq] using closing
  simp [isOpening, marker]

lemma isOpening_eq_false_of_interiorText? {keepPadding : Bool} {line text : Text}
    (interior : interiorText? keepPadding line = some text) : isOpening line = false := by
  rw [Bool.eq_false_iff]
  intro opening
  obtain ⟨blanks, shown, -⟩ := exists_trimStart_of_isOpening opening
  rcases trimStart_of_interiorText? interior with shown' | ⟨c, rest, shown', -⟩ <;>
    simp [shown] at shown'

lemma interiorText?_eq_none_of_isClosing {line : Text} (keepPadding : Bool)
    (closing : isClosing line = true) : interiorText? keepPadding line = none := by
  obtain ⟨blanks, shown, -⟩ := exists_trimStart_of_isClosing closing
  have visible : isBlank '/' = false := by decide
  simp [interiorText?, shown, visible]

/-! ## The kind of a line -/

/-- What it means for a line to be of a kind. -/
def LineKind.Fits (keepPadding : Bool) (line : Text) : LineKind → Prop
  | .oneLine text => oneLineText? line = some text
  | .opening => isOpening line = true
  | .interior text => interiorText? keepPadding line = some text
  | .closing => isClosing line = true
  | .other => oneLineText? line = none ∧ isOpening line = false ∧
      interiorText? keepPadding line = none ∧ isClosing line = false

/-- A line is what its kind says. -/
lemma kind_fits (keepPadding : Bool) (line : Text) :
    (LineKind.of keepPadding line).Fits keepPadding line := by
  unfold LineKind.of
  split
  · next found => exact found
  · next notOneLine =>
      split
      · next opening => exact opening
      · next notOpening =>
          split
          · next found => exact found
          · next notInterior =>
              split
              · next closing => exact closing
              · next notClosing =>
                  exact ⟨notOneLine, Bool.eq_false_iff.mpr notOpening, notInterior,
                    Bool.eq_false_iff.mpr notClosing⟩

section Kind

variable {keepPadding : Bool} {line text : Text}

lemma kind_eq_oneLine_iff :
    LineKind.of keepPadding line = .oneLine text ↔ oneLineText? line = some text := by
  constructor
  · intro kind
    simpa only [kind, LineKind.Fits] using kind_fits keepPadding line
  · intro found
    simp only [LineKind.of, found]

lemma kind_eq_opening_iff :
    LineKind.of keepPadding line = .opening ↔ isOpening line = true := by
  constructor
  · intro kind
    simpa only [kind, LineKind.Fits] using kind_fits keepPadding line
  · intro opening
    simp only [LineKind.of, oneLineText?_eq_none_of_isOpening opening, if_pos opening]

lemma kind_eq_interior_iff :
    LineKind.of keepPadding line = .interior text ↔ interiorText? keepPadding line = some text := by
  constructor
  · intro kind
    simpa only [kind, LineKind.Fits] using kind_fits keepPadding line
  · intro found
    simp [LineKind.of, oneLineText?_eq_none_of_interiorText? found,
      isOpening_eq_false_of_interiorText? found, found]

lemma kind_eq_closing_iff :
    LineKind.of keepPadding line = .closing ↔ isClosing line = true := by
  constructor
  · intro kind
    simpa only [kind, LineKind.Fits] using kind_fits keepPadding line
  · intro closing
    simp [LineKind.of, oneLineText?_eq_none_of_isClosing closing,
      isOpening_eq_false_of_isClosing closing,
      interiorText?_eq_none_of_isClosing keepPadding closing, closing]

end Kind

end DocComment
