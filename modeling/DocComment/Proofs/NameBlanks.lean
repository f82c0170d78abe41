import DocComment.Proofs.TagParts

/-!
# Blanks in names

A name ends in front of a blank at which the brackets cancel out, and the scanner looks for such a
blank behind every character that it takes.  So no blank of a name stands where the brackets in
front of it cancel out (`not_isEvenlyBracketed_of_nameToken?`), with one exception: the scanner does
not look in front of the first character.  Spaces and tabs have been skipped there, and at a line
end no name is read, but any other blank becomes the first character of a name.

A blank should stand inside brackets, with more of them opened than closed in front of it.  Where
the brackets do not cancel out, more may as well be closed.  These are the only two ways in which a
blank comes to stand elsewhere (`blanks_of_names_stand_in_brackets_iff`).
-/

namespace DocComment

open Builtin Text

/-! ## Names that are scanned -/

/-- A blank of a text stands behind a beginning of it. -/
def HasBlankBehind (text before : Text) : Prop :=
  ∃ rest, text = before ++ rest ∧ startsBlank rest = true

/-- Every blank of a name stands inside brackets. -/
def BlanksInBrackets (name : Text) : Prop :=
  ∀ before, HasBlankBehind name before → before.count ']' < before.count '['

lemma startsBlank_append {text : Text} (blank : startsBlank text = true) (more : Text) :
    startsBlank (text ++ more) = true := by
  cases text with
  | nil => cases blank
  | cons c rest => exact blank

/-- The scanner for names would have stopped in front of a blank at which the brackets cancel
out. -/
lemma not_isEvenlyBracketed_of_nameToken? {text name before : Text}
    (scanned : nameToken? 0 text = some name) (blank : HasBlankBehind name before)
    (notFirst : before ≠ []) : ¬ IsEvenlyBracketed before := by
  intro evenly
  obtain ⟨⟨⟨more, rfl, -⟩, -, -⟩, least⟩ := nameToken?_eq_some_iff.mp scanned
  obtain ⟨rest, rfl, begins⟩ := blank
  have earlier : IsTokenOf (CancelsFrom 0) (before ++ rest ++ more) before := by
    refine ⟨⟨rest ++ more, List.append_assoc _ _ _, .inr ?_⟩, ?_, fun _ => notFirst⟩
    · exact startsBlank_append begins more
    · rwa [cancelsFrom_zero]
  have nothing : rest = [] := by
    have := least before earlier
    rw [List.length_append] at this
    apply List.eq_nil_of_length_eq_zero
    omega
  rw [nothing] at begins
  cases begins

/-- A name that is scanned where a line goes on behind spaces and tabs does not begin with one of
these, or with a line end. -/
lemma head_of_nameToken? {source name : Text} (goesOn : ¬ EndsLine (source.dropWhile isPad))
    (scanned : nameToken? 0 (source.dropWhile isPad) = some name) {c : Char}
    (first : c ∈ name.head?) : c ≠ ' ' ∧ c ≠ '\t' ∧ c ≠ '\r' ∧ c ≠ '\n' := by
  obtain ⟨⟨⟨more, split, -⟩, -, -⟩, -⟩ := nameToken?_eq_some_iff.mp scanned
  obtain ⟨rest, rfl⟩ := List.head?_eq_some_iff.mp first
  rw [List.cons_append] at split
  have noPad : isPad c = false := by
    apply not_of_mem_head?_dropWhile
    rw [split]
    rfl
  have noLineEnd : ¬ (c = '\r' ∨ c = '\n') := by simpa [EndsLine, split] using goesOn
  have noPad : ¬ (c = ' ' ∨ c = '\t') := by simpa [isPad] using noPad
  exact ⟨fun same => noPad (.inl same), fun same => noPad (.inr same),
    fun same => noLineEnd (.inl same), fun same => noLineEnd (.inr same)⟩

/-! ## Names that are recorded -/

lemma contribution?_nameFields (text token : Text) (field : String) :
    (Reply.consuming text (nameFields token)).contribution? field =
      Record.get? (nameFields token) field := by
  obtain ⟨-, read, -, fields, -⟩ := exists_nameFields token
  have distinct : Record.ofFields read.fields = read.fields := by cases read <;> rfl
  show Record.get? (Record.ofFields (nameFields token)) field = _
  rw [fields, distinct]

/-- A token that is not one of something optional is the name. -/
lemma get?_name_nameFields {token : Text}
    (plain : (Record.get? (nameFields token) "optional").elim false Value.isTruthy = false) :
    Record.get? (nameFields token) "name" = some (.text token) := by
  obtain ⟨written, read, rfl, fields, alike⟩ := exists_nameFields token
  have inFields : Record.get? read.fields "optional" = some (.bool read.isOptional) ∧
      Record.get? read.fields "name" = some (.text read.name) := by
    simp [NameToken.fields, Record.get?_cons]
  rw [fields, inFields.1, Option.elim_some, alike.isOptional] at plain
  rw [fields, inFields.2, alike.name]
  cases written with
  | plain name => rfl
  | optional name => cases plain
  | withDefault name fallback => cases plain

/-- **What is recorded as a name**: nothing, or what the scanner takes where the line goes on. -/
lemma StandardRun.exists_name {source : Text} {record : Record} {first second third fourth : Call}
    (run : StandardRun source record first second third fourth)
    (sound : gatheredErrors [first, second, third, fourth] = [])
    (plain : Record.get? record "optional" = some (.bool false)) :
    ∃ name, Record.get? record "name" = some (.text name) ∧
      (name = [] ∨ ∃ left : Text, ¬ EndsLine (left.dropWhile isPad) ∧
        nameToken? 0 (left.dropWhile isPad) = some name) := by
  have soundBefore : gatheredErrors [first, second] = [] ∧
      third.reply.errors third.parser.name = [] := by
    simp only [gatheredErrors, List.flatMap_cons, List.flatMap_nil,
      List.append_eq_nil_iff] at sound ⊢
    exact ⟨⟨sound.1, sound.2.1, trivial⟩, sound.2.2.1⟩
  have succeeded : hasFailed third.record = false :=
    Bool.eq_false_iff.mpr fun failed => run.nameDeclines.mp failed soundBefore.1
  have reply := run.name
  generalize source.drop (consumedBy [first, second]) = left at reply
  rw [run.concludes.optional, run.lastContribution?_eq_third (by decide)] at plain
  rw [run.concludes.get?_text (by decide), run.lastContribution?_eq_third (by decide)]
  by_cases ends : EndsLine (left.dropWhile isPad)
  · rw [reply, readName_of_endsLine _ ends]
    exact ⟨[], rfl, .inl rfl⟩
  · rw [readName_eq succeeded ends] at reply
    cases scanned : nameToken? 0 (left.dropWhile isPad) with
    | none =>
        rw [reply, scanned] at soundBefore
        cases soundBefore.2
    | some name =>
        rw [scanned, Option.elim_some] at reply
        rw [reply, contribution?_nameFields] at plain ⊢
        rw [get?_name_nameFields (Value.bool.inj (Option.some.inj plain))]
        exact ⟨name, rfl, .inr ⟨left, ends, scanned⟩⟩

/-- **Where the blanks of names stand.**  Let the standard parsers find no error in a tag, and let
its name not be one of something optional.  The name does not begin with a space, a tab or a line
end, and where another blank stands further on, the brackets in front of it do not cancel out.  So
every blank of the name stands inside brackets exactly if the name begins with no blank and no blank
stands where more brackets are closed than opened. -/
theorem blanks_of_names_stand_in_brackets_iff (ν : Type) (rest : Text) {record : Record}
    (parsed : (parseTag ('@' :: rest) parsers : Report ν (Option Record)).outcome =
      .ok (some record))
    (sound : Record.get? record "errors" = some (.list []))
    (plain : Record.get? record "optional" = some (.bool false)) :
    ∃ name, Record.get? record "name" = some (.text name) ∧
      (∀ c ∈ name.head?, c ≠ ' ' ∧ c ≠ '\t' ∧ c ≠ '\r' ∧ c ≠ '\n') ∧
      (∀ before, HasBlankBehind name before → before ≠ [] → ¬ IsEvenlyBracketed before) ∧
      (BlanksInBrackets name ↔ ¬ HasBlankBehind name [] ∧
        ∀ before, HasBlankBehind name before → before.count ']' ≤ before.count '[') := by
  obtain ⟨again, first, second, third, fourth, parsedAgain, run⟩ := exists_standardRun ν rest
  obtain rfl : again = record :=
    Option.some.inj (Except.ok.inj (parsedAgain.symm.trans parsed))
  rw [run.concludes.errors] at sound
  have noErrors : gatheredErrors [first, second, third, fourth] = [] :=
    Value.list.inj (Option.some.inj sound)
  obtain ⟨name, recorded, origin⟩ := run.exists_name noErrors plain
  have uneven : ∀ before, HasBlankBehind name before → before ≠ [] →
      ¬ IsEvenlyBracketed before := by
    rintro before blank notFirst
    rcases origin with rfl | ⟨left, -, scanned⟩
    · obtain ⟨behind, nothing, -⟩ := blank
      exact (notFirst (List.append_eq_nil_iff.mp nothing.symm).1).elim
    · exact not_isEvenlyBracketed_of_nameToken? scanned blank notFirst
  refine ⟨name, recorded, ?_, uneven, ?_⟩
  · rcases origin with rfl | ⟨left, goesOn, scanned⟩
    · intro c first
      cases first
    · intro c first
      exact head_of_nameToken? goesOn scanned first
  · constructor
    · intro inside
      exact ⟨fun blank => Nat.lt_irrefl 0 (inside [] blank),
        fun before blank => (inside before blank).le⟩
    · rintro ⟨notFirst, notBelow⟩ before blank
      apply lt_of_le_of_ne (notBelow before blank)
      intro evenly
      refine uneven before blank ?_ evenly.symm
      rintro rfl
      exact notFirst blank

/-- A tag with a name that has blanks and a line end in brackets, behind a type. -/
def spacedNameTag : Text := "a \x7b]\x7d\tb[ \n]c[\u2003[]] d ]".toList

theorem blanks_of_spaced_name_stand_in_brackets :
    ∃ record, (parseTag ('@' :: spacedNameTag) parsers : Report Nat (Option Record)).outcome =
        .ok (some record) ∧
      Record.get? record "errors" = some (.list []) ∧
      Record.get? record "optional" = some (.bool false) ∧
      Record.get? record "name" = some (.ofString "b[ \n]c[\u2003[]]") ∧
      BlanksInBrackets "b[ \n]c[\u2003[]]".toList := by
  have parsed : (parseTag ('@' :: spacedNameTag) parsers : Report Nat (Option Record)).outcome =
      .ok (some [("tag", .ofString "a"), ("type", .ofString "]"),
        ("name", .ofString "b[ \n]c[\u2003[]]"), ("optional", .bool false),
        ("description", .ofString "d ]"), ("errors", .list [])]) := rfl
  obtain ⟨name, recorded, -, -, inside_iff⟩ :=
    blanks_of_names_stand_in_brackets_iff Nat spacedNameTag parsed rfl rfl
  obtain rfl : "b[ \n]c[\u2003[]]".toList = name :=
    Value.text.inj (Option.some.inj recorded)
  have nested : WellNested '[' ']' "b[ \n]c[\u2003[]]".toList := by decide
  refine ⟨_, parsed, rfl, rfl, rfl, inside_iff.mpr ⟨?_, ?_⟩⟩
  · rintro ⟨behind, rfl, blank⟩
    revert blank
    decide
  · rintro before ⟨behind, split, -⟩
    exact nested.closed_le before ⟨behind, split.symm⟩

theorem name_may_begin_with_blank :
    ∃ record, (parseTag "@a\x0b".toList parsers : Report Nat (Option Record)).outcome =
        .ok (some record) ∧
      Record.get? record "errors" = some (.list []) ∧
      Record.get? record "optional" = some (.bool false) ∧
      Record.get? record "name" = some (.ofString "\x0b") ∧
      ¬ BlanksInBrackets "\x0b".toList := by
  have parsed : (parseTag "@a\x0b".toList parsers : Report Nat (Option Record)).outcome =
      .ok (some [("tag", .ofString "a"), ("name", .ofString "\x0b"), ("optional", .bool false),
        ("type", .ofString ""), ("description", .ofString ""), ("errors", .list [])]) := rfl
  refine ⟨_, parsed, rfl, rfl, rfl, fun inside => ?_⟩
  exact Nat.lt_irrefl 0 (inside [] ⟨"\x0b".toList, rfl, by decide⟩)

end DocComment
