import DocComment.Text.Basic
import Mathlib.Tactic.Lemma

/-!
# Cutting and joining

Cutting a text at a character and joining lines undo each other.  The parts of a cut text do not
hold the character (`not_mem_of_mem_pieces`), a separator between two texts separates their parts
(`pieces_append_sep`), and parts without the separator come back from being joined
(`pieces_intercalate`, and for lines `pieces_joinLines`).
So do taking an ending off and putting it back (`dropEnding?_append`, `eq_append_of_dropEnding?`).
-/

namespace DocComment.Text

variable {sep : Char}

lemma not_mem_of_mem_pieces {text piece : Text} (found : piece ∈ pieces sep text) :
    sep ∉ piece := by
  induction text generalizing piece with
  | nil =>
      rw [pieces_nil, List.mem_singleton] at found
      simp [found]
  | cons c rest ih =>
      by_cases same : c = sep
      · subst same
        rw [pieces_cons_sep, List.mem_cons] at found
        rcases found with rfl | found
        · simp
        · exact ih found
      · obtain ⟨first, others, cut, extended⟩ := pieces_cons_of_ne same rest
        rw [extended, List.mem_cons] at found
        rcases found with rfl | found
        · have notInFirst := ih (by simp [cut] : first ∈ pieces sep rest)
          simp [notInFirst, Ne.symm same]
        · exact ih (by simp [cut, found])

lemma pieces_of_not_mem {text : Text} (absent : sep ∉ text) : pieces sep text = [text] := by
  induction text with
  | nil => rfl
  | cons c rest ih =>
      obtain ⟨other, absentRest⟩ := not_or.mp (mt List.mem_cons.mpr absent)
      obtain ⟨first, others, found, extended⟩ := pieces_cons_of_ne (Ne.symm other) rest
      rw [ih absentRest] at found
      cases found
      exact extended

lemma pieces_append_sep (text more : Text) :
    pieces sep (text ++ sep :: more) = pieces sep text ++ pieces sep more := by
  induction text with
  | nil => rw [List.nil_append, pieces_cons_sep, pieces_nil, List.singleton_append]
  | cons c rest ih =>
      rw [List.cons_append]
      by_cases same : c = sep
      · subst same
        rw [pieces_cons_sep, pieces_cons_sep, ih, List.cons_append]
      · obtain ⟨first, others, cut, extended⟩ := pieces_cons_of_ne same rest
        obtain ⟨firstLong, othersLong, cutLong, extendedLong⟩ :=
          pieces_cons_of_ne same (rest ++ sep :: more)
        rw [ih, cut, List.cons_append, List.cons.injEq] at cutLong
        obtain ⟨rfl, rfl⟩ := cutLong
        rw [extendedLong, extended, List.cons_append]

/-- Parts come back from being joined by the separator, if there are any and none has it in it. -/
lemma pieces_intercalate {parts : List Text} (notEmpty : parts ≠ [])
    (apart : ∀ part ∈ parts, sep ∉ part) : pieces sep ([sep].intercalate parts) = parts := by
  induction parts with
  | nil => exact (notEmpty rfl).elim
  | cons part rest ih =>
      obtain ⟨first, others⟩ := List.forall_mem_cons.mp apart
      cases rest with
      | nil => rw [List.intercalate_singleton, pieces_of_not_mem first]
      | cons next rest =>
          rw [List.intercalate_cons_cons, List.append_assoc, List.singleton_append,
            pieces_append_sep, pieces_of_not_mem first, ih (List.cons_ne_nil next rest) others,
            List.singleton_append]

lemma joinLines_eq_intercalate (lines : List Text) :
    joinLines lines = ['\n'].intercalate lines := by
  induction lines with
  | nil => rfl
  | cons line rest ih =>
      cases rest with
      | nil => rw [joinLines_singleton, List.intercalate_singleton]
      | cons next rest =>
          rw [joinLines_cons_cons, ih, List.intercalate_cons_cons, List.append_assoc,
            List.singleton_append]

/-- Lines come back from being joined, if there are any and none has a newline in it. -/
lemma pieces_joinLines {lines : List Text} (notEmpty : lines ≠ [])
    (oneLineEach : ∀ line ∈ lines, '\n' ∉ line) : pieces '\n' (joinLines lines) = lines := by
  rw [joinLines_eq_intercalate, pieces_intercalate notEmpty oneLineEach]

/-! ## Endings -/

lemma dropEnding?_append (content ending : Text) :
    dropEnding? ending (content ++ ending) = some content := by
  simp [dropEnding?]

lemma eq_append_of_dropEnding? {ending text kept : Text}
    (found : dropEnding? ending text = some kept) : text = kept ++ ending := by
  rw [dropEnding?] at found
  split at found
  · next isSuffix =>
      obtain ⟨before, rfl⟩ := List.isSuffixOf_iff_suffix.mp isSuffix
      simpa using found
  · cases found

end DocComment.Text
