import DocComment.Proofs.TagSpelling
import Mathlib.Order.WellFounded

/-!
# Brackets in pairs

The scanner for types stops behind the brace that closes the first one, and the scanner for names
stops in front of the first blank at which the brackets cancel out.  Here both are compared with
what it means for a text to be well-nested (`WellNested`): no beginning of it closes more than it
opens, and the whole closes as many as it opens.

A type begins with a brace, so the count of open braces stays positive up to the brace that closes
the first one, and the text up to it is the shortest beginning that is well-nested
(`types_are_read_by_paired_braces`).

A name may begin with anything.  The count of open brackets may fall below zero and come back, so
what is read is the shortest beginning that opens as many brackets as it closes, in whatever order
(`nameToken?_eq_some_iff`).  This is the shortest well-nested beginning if there is one, because
every beginning of a well-nested text closes no more than it opens.  If there is none, then a name
is read all the same exactly where the brackets cancel out in some other order
(`names_are_read_by_paired_brackets_iff`).
-/

namespace DocComment

open Builtin Text

/-! ## Well-nested texts -/

/-- No beginning of the text closes more than it opens, and the whole closes as many as it
opens. -/
structure WellNested (opening closing : Char) (text : Text) : Prop where
  closed_le : ∀ beginning, beginning <+: text →
    beginning.count closing ≤ beginning.count opening
  closed_eq : text.count closing = text.count opening

lemma forall_prefix_cons {holds : Text → Prop} {c : Char} {rest : Text} :
    (∀ beginning, beginning <+: c :: rest → holds beginning) ↔
      holds [] ∧ ∀ beginning, beginning <+: rest → holds (c :: beginning) := by
  constructor
  · intro all
    exact ⟨all [] List.nil_prefix, fun beginning begins =>
      all (c :: beginning) (List.cons_prefix_cons.mpr ⟨rfl, begins⟩)⟩
  · rintro ⟨empty, later⟩ beginning begins
    rcases List.prefix_cons_iff.mp begins with rfl | ⟨behind, rfl, within⟩
    · exact empty
    · exact later behind within

lemma isNested_iff {opening closing : Char} (distinct : opening ≠ closing) {depth : Nat}
    {text : Text} :
    isNested opening closing depth text = true ↔
      (∀ beginning, beginning <+: text →
        beginning.count closing ≤ depth + beginning.count opening) ∧
      text.count closing = depth + text.count opening := by
  induction text generalizing depth with
  | nil =>
      simp only [isNested, beq_iff_eq, List.prefix_nil, forall_eq, List.count_nil, Nat.zero_le,
        true_and, Nat.add_zero]
      exact eq_comm
  | cons c rest ih =>
      rw [isNested, forall_prefix_cons]
      by_cases opens : c = opening
      · subst opens
        rw [if_pos rfl, ih]
        simp only [List.count_cons_self, List.count_cons_of_ne distinct, List.count_nil,
          Nat.zero_le, true_and]
        exact and_congr (forall₂_congr fun beginning _ => by omega) (by omega)
      · by_cases closes : c = closing
        · subst closes
          simp only [if_neg opens, if_true, Bool.and_eq_true, decide_eq_true_eq, ih,
            List.count_cons_self, List.count_cons_of_ne opens, List.count_nil, Nat.zero_le,
            true_and]
          constructor
          · rintro ⟨inside, below, whole⟩
            refine ⟨fun beginning begins => ?_, by omega⟩
            have := below beginning begins
            omega
          · rintro ⟨below, whole⟩
            have inside : 1 ≤ depth := by simpa using below [] List.nil_prefix
            refine ⟨inside, fun beginning begins => ?_, by omega⟩
            have := below beginning begins
            omega
        · simp only [if_neg opens, if_neg closes, ih, List.count_cons_of_ne opens,
            List.count_cons_of_ne closes, List.count_nil, Nat.add_zero, Nat.zero_le, true_and]

lemma wellNested_iff_isNested {opening closing : Char} (distinct : opening ≠ closing)
    {text : Text} : WellNested opening closing text ↔ isNested opening closing 0 text = true := by
  rw [isNested_iff distinct]
  simp only [Nat.zero_add]
  exact ⟨fun nested => ⟨nested.closed_le, nested.closed_eq⟩, fun ⟨le, eq⟩ => ⟨le, eq⟩⟩

instance (opening closing : Char) (text : Text) : Decidable (WellNested opening closing text) :=
  if same : opening = closing then
    -- A character that closes what it opens is always paired.
    .isTrue ⟨fun _ _ => same ▸ Nat.le_refl _, same ▸ rfl⟩
  else
    decidable_of_iff (isNested opening closing 0 text = true) (wellNested_iff_isNested same).symm

namespace WellNested

variable {opening closing : Char} {text more : Text}

lemma of_not_mem (noOpening : opening ∉ text) (noClosing : closing ∉ text) :
    WellNested opening closing text where
  closed_le := by
    intro beginning begins
    have none : closing ∉ beginning := fun among => noClosing (begins.subset among)
    rw [List.count_eq_zero_of_not_mem none]
    apply Nat.zero_le
  closed_eq := by
    rw [List.count_eq_zero_of_not_mem noOpening, List.count_eq_zero_of_not_mem noClosing]

lemma append (first : WellNested opening closing text) (second : WellNested opening closing more) :
    WellNested opening closing (text ++ more) where
  closed_le := by
    intro beginning begins
    rcases List.prefix_or_prefix_of_prefix begins (List.prefix_append text more) with
      within | ⟨behind, rfl⟩
    · exact first.closed_le beginning within
    · have inSecond := second.closed_le behind ((List.prefix_append_right_inj text).mp begins)
      rw [List.count_append, List.count_append, first.closed_eq]
      omega
  closed_eq := by
    rw [List.count_append, List.count_append, first.closed_eq, second.closed_eq]

lemma surround (distinct : opening ≠ closing) (nested : WellNested opening closing text) :
    WellNested opening closing (opening :: text ++ [closing]) where
  closed_le := by
    rw [List.cons_append, forall_prefix_cons]
    refine ⟨Nat.le_refl _, fun beginning begins => ?_⟩
    rw [List.count_cons_of_ne distinct, List.count_cons_self]
    rcases List.prefix_concat_iff.mp begins with rfl | within
    · rw [List.count_append, List.count_append, nested.closed_eq, List.count_singleton_self,
        List.count_singleton]
      omega
    · have := nested.closed_le beginning within
      omega
  closed_eq := by
    have whole := nested.closed_eq
    simp [List.count_append, distinct, distinct.symm, whole]

end WellNested

/-! ## Shortest candidates -/

/-- A candidate such that no other is shorter. -/
structure IsShortest (candidate : Text → Prop) (text : Text) : Prop where
  isCandidate : candidate text
  length_le : ∀ other, candidate other → text.length ≤ other.length

lemma exists_isShortest {candidate : Text → Prop} (exist : ∃ text, candidate text) :
    ∃ text, IsShortest candidate text := by
  obtain ⟨text, isCandidate, least⟩ :=
    (measure fun text : Text => text.length).wf.has_min {text | candidate text} exist
  exact ⟨text, isCandidate, fun other also => Nat.not_lt.mp (least other also)⟩

lemma isShortest_cons_iff {candidate behind : Text → Prop} {c : Char}
    (begin : ∀ text, candidate text ↔ ∃ rest, text = c :: rest ∧ behind rest) {text : Text} :
    IsShortest candidate text ↔ ∃ rest, text = c :: rest ∧ IsShortest behind rest := by
  constructor
  · rintro ⟨isCandidate, least⟩
    obtain ⟨rest, rfl, isBehind⟩ := (begin text).mp isCandidate
    refine ⟨rest, rfl, isBehind, fun other also => ?_⟩
    have := least (c :: other) ((begin _).mpr ⟨other, rfl, also⟩)
    simpa using this
  · rintro ⟨rest, rfl, isBehind, least⟩
    refine ⟨(begin _).mpr ⟨rest, rfl, isBehind⟩, fun other also => ?_⟩
    obtain ⟨later, rfl, isLater⟩ := (begin other).mp also
    simpa using least later isLater

/-! ## Types -/

/-- A beginning of a text, of one character at least, with braces in pairs. -/
structure IsBraced (text braced : Text) : Prop where
  begins : braced <+: text
  notEmpty : braced ≠ []
  nested : WellNested '{' '}' braced

/-- Up to the brace that closes the first one, and not before, a text is well-nested. -/
lemma isShortest_isBraced {content : Text} (nested : WellNested '{' '}' content) (rest : Text) :
    IsShortest (IsBraced ('{' :: (content ++ '}' :: rest))) ('{' :: content ++ ['}']) := by
  have begins : '{' :: content ++ ['}'] <+: '{' :: (content ++ '}' :: rest) := ⟨rest, by simp⟩
  refine ⟨⟨begins, List.cons_ne_nil _ _, nested.surround (by decide)⟩, fun other braced => ?_⟩
  by_contra shorter
  have within : other <+: '{' :: content := by
    apply List.prefix_of_prefix_length_le braced.begins ⟨'}' :: rest, by simp⟩
    simp at shorter ⊢
    omega
  rcases List.prefix_cons_iff.mp within with none | ⟨inside, rfl, isInside⟩
  · exact braced.notEmpty none
  · -- The first brace is still open.
    have stillOpen := nested.closed_le inside isInside
    have closed := braced.nested.closed_eq
    rw [List.count_cons_self, List.count_cons_of_ne (by decide)] at closed
    omega

/-- The scanner for types takes a beginning of the text that a brace closes, with braces in pairs in
front of it. -/
lemma exists_of_bracedText? {depth : Nat} {text taken : Text}
    (found : bracedText? (depth + 1) text = some taken) :
    ∃ content more, taken = content ++ ['}'] ∧ text = taken ++ more ∧
      isNested '{' '}' depth content = true := by
  induction text generalizing depth taken with
  | nil => cases found
  | cons c rest ih =>
      rw [bracedText?] at found
      by_cases opens : c = '{'
      · obtain ⟨later, isLater, rfl⟩ : ∃ later, bracedText? (depth + 1 + 1) rest = some later ∧
            c :: later = taken := by simpa [opens] using found
        obtain ⟨content, more, rfl, rfl, nested⟩ := ih isLater
        exact ⟨c :: content, more, rfl, rfl, by rwa [isNested, if_pos opens]⟩
      · by_cases closes : c = '}'
        · subst closes
          cases depth with
          | zero =>
              cases found
              exact ⟨[], rest, rfl, rfl, rfl⟩
          | succ depth =>
              obtain ⟨later, isLater, rfl⟩ : ∃ later, bracedText? (depth + 1) rest = some later ∧
                  '}' :: later = taken := by simpa using found
              obtain ⟨content, more, rfl, rfl, nested⟩ := ih isLater
              exact ⟨'}' :: content, more, rfl, rfl, by simpa [isNested] using nested⟩
        · obtain ⟨later, isLater, rfl⟩ : ∃ later, bracedText? (depth + 1) rest = some later ∧
              c :: later = taken := by simpa [opens, closes] using found
          obtain ⟨content, more, rfl, rfl, nested⟩ := ih isLater
          exact ⟨c :: content, more, rfl, rfl, by rwa [isNested, if_neg opens, if_neg closes]⟩

/-- Where the scanner for types finds nothing, the brace in front is never closed. -/
lemma closed_le_of_bracedText?_eq_none {depth : Nat} {text : Text}
    (none : bracedText? (depth + 1) text = none) :
    ∀ beginning, beginning <+: text → beginning.count '}' ≤ depth + beginning.count '{' := by
  induction text generalizing depth with
  | nil =>
      intro beginning begins
      rw [List.prefix_nil.mp begins]
      apply Nat.zero_le
  | cons c rest ih =>
      rw [forall_prefix_cons]
      refine ⟨Nat.zero_le _, fun beginning begins => ?_⟩
      rw [bracedText?] at none
      by_cases opens : c = '{'
      · subst opens
        have later := ih (by simpa using none) beginning begins
        rw [List.count_cons_of_ne (by decide), List.count_cons_self]
        omega
      · by_cases closes : c = '}'
        · subst closes
          cases depth with
          | zero => cases none
          | succ depth =>
              have later := ih (by simpa using none) beginning begins
              rw [List.count_cons_self, List.count_cons_of_ne (by decide)]
              omega
        · have later := ih (by simpa [opens, closes] using none) beginning begins
          rwa [List.count_cons_of_ne closes, List.count_cons_of_ne opens]

lemma not_isBraced_of_bracedText?_eq_none {rest : Text} (scanned : bracedText? 1 rest = none)
    (braced : Text) : ¬ IsBraced ('{' :: rest) braced := by
  intro isBraced
  rcases List.prefix_cons_iff.mp isBraced.begins with none | ⟨inside, rfl, within⟩
  · exact isBraced.notEmpty none
  · have stillOpen := closed_le_of_bracedText?_eq_none scanned inside within
    have closed := isBraced.nested.closed_eq
    rw [List.count_cons_self, List.count_cons_of_ne (by decide)] at closed
    omega

/-- **Types are read by paired braces.**  Nothing is read where no brace comes first behind the
spaces and tabs.  Otherwise the shortest beginning that has its braces in pairs is read, with the
text between its first and its last brace as the type, and reading fails if there is none. -/
theorem types_are_read_by_paired_braces (source : Text) {record : Record}
    (sound : hasFailed record = false) :
    let shown := source.dropWhile isPad
    (readType source record = .declining ↔ shown.head? ≠ some '{') ∧
      (shown.head? = some '{' → (∃ braced, IsBraced shown braced) →
        ∃ content, IsShortest (IsBraced shown) ('{' :: content ++ ['}']) ∧
          WellNested '{' '}' content ∧
          readType source record =
            .consuming (source.takeWhile isPad ++ ('{' :: content ++ ['}']))
              [("type", .text content)]) ∧
      (shown.head? = some '{' → (¬ ∃ braced, IsBraced shown braced) →
        readType source record = .failed "Invalid `\x7btype\x7d`, unpaired curlies") := by
  intro shown
  by_cases begins : shown.head? = some '{'
  · obtain ⟨rest, isShown⟩ := List.head?_eq_some_iff.mp begins
    cases scanned : bracedText? 1 rest with
    | some taken =>
        obtain ⟨content, more, rfl, rfl, nested⟩ := exists_of_bracedText? scanned
        have nested := (wellNested_iff_isNested (by decide)).mpr nested
        have shortest : IsShortest (IsBraced shown) ('{' :: content ++ ['}']) := by
          rw [isShown, List.append_assoc]
          exact isShortest_isBraced nested more
        have reply := readType_of_closed sound isShown scanned
        refine ⟨iff_of_false (by rw [reply]; exact nofun) (not_not_intro begins), ?_, ?_⟩
        · intro _ _
          exact ⟨content, shortest, nested, reply⟩
        · intro _ nothing
          exact (nothing ⟨_, shortest.isCandidate⟩).elim
    | none =>
        have reply := readType_of_unclosed sound isShown scanned
        refine ⟨iff_of_false (by rw [reply]; exact nofun) (not_not_intro begins), ?_, ?_⟩
        · rintro _ ⟨braced, isBraced⟩
          exact (not_isBraced_of_bracedText?_eq_none scanned braced (isShown ▸ isBraced)).elim
        · intro _ _
          exact reply
  · have reply : readType source record = .declining := readType_eq_declining begins
    refine ⟨iff_of_true reply begins, ?_, ?_⟩
    · intro first
      exact (begins first).elim
    · intro first
      exact (begins first).elim

/-- A type that spans lines, with a brace between quotes. -/
def spanningType : Text := "\t \x7ba\n\x7b'\x7d'\x7b\x7d b\x7d c\x7d".toList

theorem spanning_type_is_read :
    hasFailed [] = false ∧ (spanningType.dropWhile isPad).head? = some '{' ∧
      readType spanningType [] = .consuming "\t \x7ba\n\x7b'\x7d'\x7b\x7d b\x7d".toList
        [("type", .ofString "a\n\x7b'\x7d'\x7b\x7d b")] ∧
      IsShortest (IsBraced (spanningType.dropWhile isPad))
        "\x7ba\n\x7b'\x7d'\x7b\x7d b\x7d".toList := by
  have exist : ∃ braced, IsBraced (spanningType.dropWhile isPad) braced :=
    ⟨"\x7ba\n\x7b'\x7d'\x7b\x7d b\x7d".toList, ⟨" c\x7d".toList, rfl⟩, List.cons_ne_nil _ _,
      by decide⟩
  have sound : hasFailed [] = false := rfl
  obtain ⟨-, reads, -⟩ := types_are_read_by_paired_braces spanningType sound
  obtain ⟨content, shortest, -, reply⟩ := reads rfl exist
  have found : readType spanningType [] =
      .consuming "\t \x7ba\n\x7b'\x7d'\x7b\x7d b\x7d".toList
        [("type", .ofString "a\n\x7b'\x7d'\x7b\x7d b")] := rfl
  obtain rfl : content = "a\n\x7b'\x7d'\x7b\x7d b".toList := by
    have same := reply.symm.trans found
    simp only [Reply.consuming, Reply.value.injEq, Value.tuple.injEq, List.cons.injEq,
      Value.record.injEq, Prod.mk.injEq, Value.ofString, Value.text.injEq] at same
    exact same.2.1.1.2
  exact ⟨sound, rfl, found, shortest⟩

/-! ## Names -/

/-- A beginning of a text at which a name may end: a blank or nothing stands behind it, its brackets
are paired in some sense, and it is not empty unless the text is. -/
structure IsTokenOf (paired : Text → Prop) (text token : Text) : Prop where
  ends : ∃ rest, text = token ++ rest ∧ EndsPart rest
  isPaired : paired token
  notEmpty : text ≠ [] → token ≠ []

/-- The brackets of a text cancel out if they are counted from a depth on. -/
def CancelsFrom (depth : Int) (text : Text) : Prop :=
  depth + text.count '[' = text.count ']'

/-- A text has as many opening brackets as closing ones, in whatever order. -/
def IsEvenlyBracketed (text : Text) : Prop := text.count '[' = text.count ']'

/-- The depth behind a character. -/
def depthAfter (depth : Int) (c : Char) : Int :=
  if c = '[' then depth + 1 else if c = ']' then depth - 1 else depth

lemma cancelsFrom_zero : CancelsFrom 0 = IsEvenlyBracketed := by
  ext text
  rw [CancelsFrom, IsEvenlyBracketed]
  omega

lemma cancelsFrom_cons_iff {depth : Int} {c : Char} {rest : Text} :
    CancelsFrom depth (c :: rest) ↔ CancelsFrom (depthAfter depth c) rest := by
  simp only [CancelsFrom, depthAfter]
  by_cases opens : c = '['
  · subst opens
    rw [if_pos rfl, List.count_cons_self, List.count_cons_of_ne (by decide)]
    omega
  · by_cases closes : c = ']'
    · subst closes
      rw [if_neg opens, if_pos rfl, List.count_cons_self, List.count_cons_of_ne (by decide)]
      omega
    · rw [if_neg opens, if_neg closes, List.count_cons_of_ne opens, List.count_cons_of_ne closes]

/-- Where a name does not end behind the first character, it ends where it ends behind the rest. -/
lemma isTokenOf_cons_iff {depth : Int} {c : Char} {rest token : Text}
    (goesOn : ¬ (depthAfter depth c = 0 ∧ startsBlank rest = true)) :
    IsTokenOf (CancelsFrom depth) (c :: rest) token ↔
      ∃ later, token = c :: later ∧ IsTokenOf (CancelsFrom (depthAfter depth c)) rest later := by
  constructor
  · rintro ⟨⟨more, split, ends⟩, cancels, notEmpty⟩
    obtain ⟨d, later, rfl⟩ := List.exists_cons_of_ne_nil (notEmpty (List.cons_ne_nil c rest))
    obtain ⟨rfl, rfl⟩ := List.cons.inj split
    rw [cancelsFrom_cons_iff] at cancels
    refine ⟨later, rfl, ⟨more, rfl, ends⟩, cancels, fun notAll empty => ?_⟩
    subst empty
    have level : depthAfter depth c = 0 := by simpa [CancelsFrom] using cancels
    exact goesOn ⟨level, ends.resolve_left notAll⟩
  · rintro ⟨later, rfl, ⟨more, rfl, ends⟩, cancels, -⟩
    exact ⟨⟨more, rfl, ends⟩, cancelsFrom_cons_iff.mpr cancels, fun _ => List.cons_ne_nil c later⟩

/-- **The scanner for names takes the shortest beginning of a text** at which the brackets cancel
out in front of a blank or at the end. -/
lemma nameToken?_eq_some_iff {depth : Int} {text token : Text} :
    nameToken? depth text = some token ↔
      IsShortest (IsTokenOf (CancelsFrom depth) text) token := by
  induction text generalizing depth token with
  | nil =>
      have empty_iff : ∀ token,
          IsTokenOf (CancelsFrom depth) [] token ↔ token = [] ∧ depth = 0 := by
        intro token
        constructor
        · rintro ⟨⟨rest, nothing, -⟩, cancels, -⟩
          obtain ⟨rfl, -⟩ := List.append_eq_nil_iff.mp nothing.symm
          exact ⟨rfl, by simpa [CancelsFrom] using cancels⟩
        · rintro ⟨rfl, rfl⟩
          exact ⟨⟨[], rfl, .inl rfl⟩, rfl, fun none => none⟩
      rw [nameToken?]
      split
      · next level =>
          rw [Option.some.injEq]
          constructor
          · rintro rfl
            exact ⟨(empty_iff []).mpr ⟨rfl, level⟩, fun _ _ => Nat.zero_le _⟩
          · intro shortest
            exact ((empty_iff token).mp shortest.isCandidate).1.symm
      · next notLevel =>
          refine iff_of_false (Option.some_ne_none token).symm fun shortest => ?_
          exact notLevel ((empty_iff token).mp shortest.isCandidate).2
  | cons c rest ih =>
      have step : nameToken? depth (c :: rest) =
          if depthAfter depth c = 0 && startsBlank rest then some [c]
          else (nameToken? (depthAfter depth c) rest).map (c :: ·) := rfl
      rw [step]
      by_cases stops : depthAfter depth c = 0 ∧ startsBlank rest = true
      · have here : IsTokenOf (CancelsFrom depth) (c :: rest) [c] := by
          refine ⟨⟨rest, rfl, .inr stops.2⟩, ?_, fun _ => List.cons_ne_nil c []⟩
          rw [cancelsFrom_cons_iff, stops.1]
          rfl
        -- The first character is a candidate, and no candidate is shorter.
        rw [if_pos (by simpa using stops), Option.some.injEq]
        constructor
        · rintro rfl
          refine ⟨here, fun other also => ?_⟩
          exact List.length_pos_iff.mpr (also.notEmpty (List.cons_ne_nil c rest))
        · rintro ⟨⟨⟨more, split, -⟩, -, notEmpty⟩, least⟩
          obtain ⟨d, later, rfl⟩ := List.exists_cons_of_ne_nil (notEmpty (List.cons_ne_nil c rest))
          obtain rfl : later = [] := by simpa using least [c] here
          rw [(List.cons.inj split).1]
      · -- Here every candidate is one of the rest with this character in front.
        rw [if_neg (by simpa using stops), isShortest_cons_iff fun _ => isTokenOf_cons_iff stops,
          Option.map_eq_some_iff]
        refine exists_congr fun later => ?_
        rw [ih, and_comm, eq_comm]

/-- The name token is the shortest beginning with brackets that are paired in some sense. -/
def ReadsToken (paired : Text → Prop) (source : Text) (record : Record) : Prop :=
  ∃ token, IsShortest (IsTokenOf paired (source.dropWhile isPad)) token ∧
    readName source record = .consuming (source.takeWhile isPad ++ token) (nameFields token)

/-- A name is read by the brackets that are paired in some sense: its token is the shortest
beginning of this kind, and reading fails if there is none. -/
structure ReadsNameBy (paired : Text → Prop) (source : Text) (record : Record) : Prop where
  reads : (∃ token, IsTokenOf paired (source.dropWhile isPad) token) →
    ReadsToken paired source record
  fails : (¬ ∃ token, IsTokenOf paired (source.dropWhile isPad) token) →
    readName source record = .failed "Invalid `name`, unpaired brackets"

lemma IsTokenOf.evenly {text token : Text} (isToken : IsTokenOf (WellNested '[' ']') text token) :
    IsTokenOf IsEvenlyBracketed text token :=
  ⟨isToken.ends, isToken.isPaired.closed_eq.symm, isToken.notEmpty⟩

/-- If a beginning is well-nested, so is the first at which the brackets cancel out. -/
lemma IsShortest.wellNested {text token other : Text}
    (shortest : IsShortest (IsTokenOf IsEvenlyBracketed text) token)
    (isToken : IsTokenOf (WellNested '[' ']') text other) : WellNested '[' ']' token where
  closed_le := by
    intro beginning begins
    obtain ⟨rest, isRest, -⟩ := shortest.isCandidate.ends
    obtain ⟨more, isMore, -⟩ := isToken.ends
    have within : token <+: other :=
      List.prefix_of_prefix_length_le ⟨rest, isRest.symm⟩ ⟨more, isMore.symm⟩
        (shortest.length_le other isToken.evenly)
    exact isToken.isPaired.closed_le beginning (begins.trans within)
  closed_eq := shortest.isCandidate.isPaired.symm

section ReadName

variable {source : Text} {record : Record} (sound : hasFailed record = false)
  (shown : ¬ EndsLine (source.dropWhile isPad))

include sound shown

/-- A name is read by the brackets that cancel out, in whatever order. -/
lemma readsNameBy_isEvenlyBracketed : ReadsNameBy IsEvenlyBracketed source record := by
  have scanned : ∀ token, nameToken? 0 (source.dropWhile isPad) = some token ↔
      IsShortest (IsTokenOf IsEvenlyBracketed (source.dropWhile isPad)) token := by
    intro token
    rw [nameToken?_eq_some_iff, cancelsFrom_zero]
  constructor
  · intro exist
    obtain ⟨token, shortest⟩ := exists_isShortest exist
    refine ⟨token, shortest, ?_⟩
    rw [readName_eq sound shown, (scanned token).mpr shortest]
    rfl
  · intro nothing
    cases found : nameToken? 0 (source.dropWhile isPad) with
    | some token => exact (nothing ⟨token, ((scanned token).mp found).isCandidate⟩).elim
    | none =>
        rw [readName_eq sound shown, found]
        rfl

/-- If a beginning is well-nested, then the shortest of this kind is read. -/
lemma readsToken_wellNested
    (exist : ∃ token, IsTokenOf (WellNested '[' ']') (source.dropWhile isPad) token) :
    ReadsToken (WellNested '[' ']') source record := by
  obtain ⟨other, isToken⟩ := exist
  obtain ⟨token, shortest, reply⟩ :=
    (readsNameBy_isEvenlyBracketed sound shown).reads ⟨other, isToken.evenly⟩
  refine ⟨token, ⟨⟨shortest.isCandidate.ends, shortest.wellNested isToken,
    shortest.isCandidate.notEmpty⟩, fun another also => ?_⟩, reply⟩
  exact shortest.length_le another also.evenly

end ReadName

/-- **By which brackets names are read.**  Where something that is not a line end stands behind the
spaces and tabs, the name token is the shortest beginning of it, up to a blank or the end, that has
as many opening as closing brackets, and reading fails if there is none.  If a beginning of this
kind is well-nested, the token is the shortest such beginning.  So a name is read by brackets in
pairs, and only by these, exactly if the shortest beginning with as many opening as closing brackets
is well-nested or there is none. -/
theorem names_are_read_by_paired_brackets_iff {source : Text} {record : Record}
    (sound : hasFailed record = false) (shown : ¬ EndsLine (source.dropWhile isPad)) :
    ReadsNameBy IsEvenlyBracketed source record ∧
      ((∃ token, IsTokenOf (WellNested '[' ']') (source.dropWhile isPad) token) →
        ReadsToken (WellNested '[' ']') source record) ∧
      (ReadsNameBy (WellNested '[' ']') source record ↔
        ∀ token, IsShortest (IsTokenOf IsEvenlyBracketed (source.dropWhile isPad)) token →
          WellNested '[' ']' token) := by
  have evenly := readsNameBy_isEvenlyBracketed sound shown
  have nested := readsToken_wellNested sound shown
  refine ⟨evenly, nested, fun strict token shortest => ?_, fun each => ⟨nested, fun nothing => ?_⟩⟩
  · by_contra notNested
    have failed := strict.fails fun ⟨other, isToken⟩ => notNested (shortest.wellNested isToken)
    obtain ⟨_, _, reply⟩ := evenly.reads ⟨token, shortest.isCandidate⟩
    exact nomatch failed.symm.trans reply
  · apply evenly.fails
    intro exist
    obtain ⟨token, shortest⟩ := exists_isShortest exist
    exact nothing ⟨token, shortest.isCandidate.ends, each token shortest,
      shortest.isCandidate.notEmpty⟩

/-- A name with brackets in pairs, with blanks and a line end inside them. -/
def spacedName : Text := " \tx[ [\n]]\u2003b ] [".toList

theorem spaced_name_is_read :
    hasFailed [] = false ∧ ¬ EndsLine (spacedName.dropWhile isPad) ∧
      ReadsNameBy (WellNested '[' ']') spacedName [] := by
  have shown : ¬ EndsLine (spacedName.dropWhile isPad) :=
    not_endsLine_cons (c := 'x') (by decide) (by decide)
  have sound : hasFailed [] = false := rfl
  obtain ⟨-, -, strict_iff⟩ := names_are_read_by_paired_brackets_iff sound shown
  refine ⟨sound, shown, strict_iff.mpr fun token shortest => ?_⟩
  have scanned : nameToken? 0 (spacedName.dropWhile isPad) = some "x[ [\n]]".toList := rfl
  rw [← cancelsFrom_zero, ← nameToken?_eq_some_iff, scanned] at shortest
  obtain rfl := Option.some.inj shortest
  decide

theorem closing_bracket_first_is_read :
    hasFailed [] = false ∧ ¬ EndsLine ("][ x".toList.dropWhile isPad) ∧
      ¬ ReadsNameBy (WellNested '[' ']') "][ x".toList [] := by
  refine ⟨rfl, not_endsLine_cons (c := ']') (by decide) (by decide), fun strict => ?_⟩
  have reply : readName "][ x".toList [] =
      .consuming "][".toList (nameFields "][".toList) := rfl
  have failed := strict.fails ?_
  · exact nomatch failed.symm.trans reply
  · rintro ⟨token, ⟨rest, split, -⟩, nested, notEmpty⟩
    obtain ⟨c, later, rfl⟩ := List.exists_cons_of_ne_nil (notEmpty (List.cons_ne_nil _ _))
    obtain ⟨rfl, -⟩ := List.cons.inj split
    have first := nested.closed_le [']'] ⟨later, rfl⟩
    revert first
    decide

end DocComment
