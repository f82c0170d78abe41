import DocComment.Proofs.Patterns

/-!
# Lines and patterns

The kinds of line are told apart by four patterns of characters.  Matching them says the same of a
line as is said of it without them (`kind?_eq_some_iff`), so no line matches two of them, and they
may be tried in any order (`line_matches_one_pattern`).

All four begin with a run of blanks, which never gives anything back, since no marker begins with a
blank.  The one part that can be taken in many ways is the text of a comment that opens and closes
on one line: its end is tried from the end of the line backwards, so it is the longest text that the
closing marker may come after (`oneLineText?_eq_some_iff`).
-/

namespace DocComment

open Text

/-! ## The patterns for lines -/

namespace Pattern

/-- A marker with nothing but blanks around it. -/
def alone (marker : Text) : Pattern :=
  .run isBlank (mark marker (.run isBlank .ending))

/-- A line that opens a comment. -/
def opening : Pattern := alone ['/', '*', '*']

/-- A line that closes a comment. -/
def closing : Pattern := alone ['*', '/']

/-- A line in a comment: after the marker and one blank the padding is kept. -/
def interior : Pattern :=
  .run isBlank (mark ['*'] (.either (.one isBlank (.kept isBlank .done)) .ending))

/-- A line with a whole comment, of which the part before the closing marker is kept. -/
def oneLine : Pattern :=
  .run isBlank (mark ['/', '*', '*'] (.run isBlank (.kept (· != '\n') closing)))

end Pattern

/-! ## Markers and blanks -/

namespace Pattern

lemma result?_run_mark {first : Char} {marker : Text} (visible : isBlank first = false)
    (next : Pattern) (text : Text) :
    (Pattern.run isBlank (mark (first :: marker) next)).result? text =
      (mark (first :: marker) next).result? (trimStart text) := by
  have absorbs : ∀ c rest, isBlank c = true →
      ((mark (first :: marker) next).result? (c :: rest)).isSome = true →
        ((mark (first :: marker) next).result? rest).isSome = true := by
    intro c rest blank isSome
    obtain ⟨found, isFound⟩ := Option.isSome_iff_exists.mp isSome
    obtain ⟨_, split, -⟩ := result?_mark.mp isFound
    obtain rfl := (List.cons.inj split).1
    exact absurd (visible.symm.trans blank) Bool.false_ne_true
  rw [result?, longest?_of_absorbs absorbs, Option.map_map]
  exact Option.map_id' ..

lemma result?_run_ending (text : Text) :
    (Pattern.run isBlank .ending).result? text =
      if trimStart text = [] then some ⟨none, []⟩ else none := by
  have absorbs : ∀ c rest, isBlank c = true →
      (Pattern.ending.result? (c :: rest)).isSome = true →
        (Pattern.ending.result? rest).isSome = true := by
    intro c rest _ isSome
    simp only [result?] at isSome ⊢
    split at isSome
    · next ends =>
        obtain ⟨-, rfl⟩ : c = '\n' ∧ rest = [] := by simpa using ends
        rfl
    · cases isSome
  have notNewline : trimStart text ≠ ['\n'] := by
    intro newline
    exact absurd (not_blank_of_trimStart_eq_cons newline) (by decide)
  rw [result?, longest?_of_absorbs absorbs, Option.map_map, ← trimStart, result?]
  by_cases empty : trimStart text = []
  · rw [if_pos (.inl empty), if_pos empty, empty]
    rfl
  · rw [if_neg (not_or.mpr ⟨empty, notNewline⟩), if_neg empty]
    rfl

/-- A marker stands alone on a line if the line, trimmed, is the marker. -/
lemma isSome_result?_alone {first : Char} {others line : Text}
    (tight : Tight isBlank (first :: others)) :
    ((alone (first :: others)).result? line).isSome = true ↔ trim line = first :: others := by
  have visible : isBlank first = false := tight.first first rfl
  rw [alone, result?_run_mark visible, Option.isSome_iff_exists]
  simp only [result?_mark, result?_run_ending]
  constructor
  · rintro ⟨found, rest, shown, ends⟩
    split at ends
    · next noMore =>
        have split : line = line.takeWhile isBlank ++ (first :: others) ++ rest := by
          rw [List.append_assoc, ← shown, takeWhile_append_trimStart]
        rw [split]
        exact trim_surround (fun c found => List.mem_takeWhile_imp found)
          (List.dropWhile_eq_nil_iff.mp noMore) tight
    · cases ends
  · intro trimmed
    obtain ⟨before, after, split, blankBefore, blankAfter, -⟩ := exists_eq_append_trim_append line
    refine ⟨⟨none, []⟩, after, ?_, if_pos (trimStart_eq_nil_of_blanks blankAfter)⟩
    rw [split, trimmed, trimStart, List.append_assoc, List.dropWhile_append_of_pos blankBefore,
      List.cons_append, List.dropWhile_cons_of_neg (by simp [visible])]

lemma tight_opening : Tight isBlank ['/', '*', '*'] := ⟨by simp; decide, by simp; decide⟩

lemma tight_closing : Tight isBlank ['*', '/'] := ⟨by simp; decide, by simp; decide⟩

lemma isSome_result?_opening (line : Text) :
    (opening.result? line).isSome = isOpening line := by
  rw [Bool.eq_iff_iff, opening, isSome_result?_alone tight_opening, isOpening, beq_iff_eq]

lemma isSome_result?_closing (line : Text) :
    (closing.result? line).isSome = isClosing line := by
  rw [Bool.eq_iff_iff, closing, isSome_result?_alone tight_closing, isClosing, beq_iff_eq]

lemma map_result?_interior (keepPadding : Bool) (line : Text) :
    (interior.result? line).map (fun found =>
      if keepPadding then found.kept.getD [] ++ found.rest else found.rest) =
        interiorText? keepPadding line := by
  rw [interior, result?_run_mark (by decide), interiorText?]
  cases shown : trimStart line with
  | nil => rfl
  | cons first rest =>
      by_cases isMarker : first = '*'
      · subst isMarker
        cases rest with
        | nil => cases keepPadding <;> rfl
        | cons c rest =>
            have behind :
                (mark ['*'] (.either (.one isBlank (.kept isBlank .done)) .ending)).result?
                  ('*' :: c :: rest) =
                    ((Pattern.one isBlank (.kept isBlank .done)).result? (c :: rest)).or
                      (Pattern.ending.result? (c :: rest)) := rfl
            cases blank : isBlank c with
            | true =>
                rw [behind, result?_one_cons, if_pos blank, result?_kept_done]
                cases keepPadding
                · simp [blank, trimStart]
                · simp [blank]
            | false =>
                have notNewline : c ≠ '\n' := by
                  rintro rfl
                  exact absurd blank (by decide)
                simp [behind, result?, blank, notNewline]
      · have notMarked :
            (mark ['*'] (.either (.one isBlank (.kept isBlank .done)) .ending)).result?
              (first :: rest) = none := if_neg (by simp [isMarker])
        rw [notMarked, Option.map_none]
        split
        · next same => exact absurd (List.cons.inj same).1 isMarker
        · next same => exact absurd (List.cons.inj same).1 isMarker
        · rfl

end Pattern

/-! ## Comments on one line -/

/-- The first characters of a text, if what comes after them is the marker that closes a comment and
blanks, and if there is no newline in them. -/
def ClosesAfter : Text → Text → Prop :=
  MayTake (· != '\n') Pattern.closing.result?

lemma forall_ne_newline_iff {text : Text} :
    (∀ c ∈ text, (c != '\n') = true) ↔ '\n' ∉ text := by
  constructor
  · intro each newline
    simpa using each _ newline
  · rintro absent c found
    rw [bne_iff_ne]
    rintro rfl
    exact absent found

lemma closesAfter_iff {text taken : Text} : ClosesAfter text taken ↔
    '\n' ∉ taken ∧ ∃ blanks after, text = taken ++ blanks ++ ['*', '/'] ++ after ∧
      (∀ c ∈ blanks, isBlank c = true) ∧ ∀ c ∈ after, isBlank c = true := by
  rw [ClosesAfter, MayTake]
  simp only [forall_ne_newline_iff, Pattern.closing,
    Pattern.isSome_result?_alone Pattern.tight_closing]
  constructor
  · rintro ⟨rest, rfl, absent, closes⟩
    obtain ⟨blanks, after, split, blankBefore, blankAfter, -⟩ := exists_eq_append_trim_append rest
    rw [closes] at split
    exact ⟨absent, blanks, after, by rw [split]; simp only [List.append_assoc], blankBefore,
      blankAfter⟩
  · rintro ⟨absent, blanks, after, rfl, blankBefore, blankAfter⟩
    exact ⟨blanks ++ ['*', '/'] ++ after, by simp only [List.append_assoc], absent,
      trim_surround blankBefore blankAfter Pattern.tight_closing⟩

lemma trimEnd_closing {body after : Text} (blankAfter : ∀ c ∈ after, isBlank c = true) :
    trimEnd (body ++ ['*', '/'] ++ after) = body ++ ['*', '/'] := by
  have visible : isBlank '/' = false := by decide
  rw [trimEnd_append_of_blanks blankAfter]
  simp [trimEnd, visible]

/-- Where a text ends in the marker and blanks, up to a newline what stands in front of the marker
is the longest text that it may come after. -/
lemma isLongest_closesAfter {body after : Text} (blankAfter : ∀ c ∈ after, isBlank c = true)
    (blankRest : ∀ c ∈ body.dropWhile (· != '\n'), isBlank c = true) :
    IsLongest (ClosesAfter (body ++ ['*', '/'] ++ after)) (body.takeWhile (· != '\n')) := by
  constructor
  · refine closesAfter_iff.mpr ⟨fun newline => ?_, body.dropWhile (· != '\n'), after, ?_, blankRest,
      blankAfter⟩
    · simpa using List.mem_takeWhile_imp newline
    · rw [List.takeWhile_append_dropWhile]
  · intro other closes
    obtain ⟨absent, blanks, after', split, -, blankAfter'⟩ := closesAfter_iff.mp closes
    have sameBody : body ++ ['*', '/'] = other ++ blanks ++ ['*', '/'] := by
      rw [← trimEnd_closing blankAfter, split, trimEnd_closing blankAfter']
    rw [List.append_cancel_right sameBody,
      List.takeWhile_append_of_pos (forall_ne_newline_iff.mpr absent), List.length_append]
    exact Nat.le_add_right _ _

lemma isLongest_closesAfter_self {body after : Text} (absent : '\n' ∉ body)
    (blankAfter : ∀ c ∈ after, isBlank c = true) :
    IsLongest (ClosesAfter (body ++ ['*', '/'] ++ after)) body := by
  have accepted := forall_ne_newline_iff.mpr absent
  have behind : body.dropWhile (· != '\n') = [] := List.dropWhile_eq_nil_iff.mpr accepted
  have whole : body.takeWhile (· != '\n') = body := List.takeWhile_eq_self_iff.mpr accepted
  have longest : IsLongest _ (body.takeWhile (· != '\n')) :=
    isLongest_closesAfter blankAfter (by simp [behind])
  rwa [whole] at longest

/-- The text of a comment on one line is the longest that the marker may come after. -/
lemma oneLineText?_eq_some_iff {line text : Text} : oneLineText? line = some text ↔
    ∃ rest, trimStart line = ['/', '*', '*'] ++ rest ∧
      IsLongest (ClosesAfter (trimStart rest)) text := by
  constructor
  · intro found
    unfold oneLineText? at found
    split at found
    · next rest shown =>
        refine ⟨rest, shown, ?_⟩
        split at found
        · next body ends =>
            split at found
            · next blankRest =>
                obtain ⟨after, split, blankAfter⟩ := exists_eq_trimEnd_append (trimStart rest)
                rw [eq_append_of_dropEnding? ends] at split
                rw [split, ← Option.some.inj found]
                exact isLongest_closesAfter blankAfter (List.all_eq_true.mp blankRest)
            · cases found
        · cases found
    · cases found
  · rintro ⟨rest, shown, longest⟩
    obtain ⟨absent, blanks, after, split, blankBefore, blankAfter⟩ := closesAfter_iff.mp longest.1
    have ends : dropEnding? ['*', '/'] (trimEnd (trimStart rest)) = some (text ++ blanks) := by
      rw [split, trimEnd_closing blankAfter, dropEnding?_append]
    have blankRest : ∀ c ∈ (text ++ blanks).dropWhile (· != '\n'), isBlank c = true := by
      rw [List.dropWhile_append_of_pos (forall_ne_newline_iff.mpr absent)]
      exact fun c found => blankBefore c ((List.dropWhile_suffix _).subset found)
    have most := isLongest_closesAfter blankAfter blankRest
    rw [← split] at most
    rw [oneLineText?, shown]
    simp only [List.cons_append, List.nil_append, ends]
    rw [if_pos (List.all_eq_true.mpr blankRest), eq_of_isLongest most longest]

/-- Blanks in front of what is kept are never kept. -/
lemma result?_run_kept (text : Text) :
    (Pattern.run isBlank (.kept (· != '\n') .closing)).result? text =
      (Pattern.kept (· != '\n') .closing).result? (trimStart text) := by
  have absorbs : ∀ c rest, isBlank c = true →
      ((Pattern.kept (· != '\n') .closing).result? (c :: rest)).isSome = true →
        ((Pattern.kept (· != '\n') .closing).result? rest).isSome = true := by
    intro c rest blank isSome
    simp only [Pattern.result?, Option.isSome_map, isSome_longest?_iff] at isSome ⊢
    obtain ⟨taken, mayTake⟩ := isSome
    cases taken with
    | nil =>
        -- The marker that closes the comment may itself have the blank in front of it.
        rw [mayTake_nil_iff, Pattern.isSome_result?_closing, isClosing, trim,
          trimStart_cons_of_blank blank] at mayTake
        exact ⟨[], mayTake_nil_iff.mpr ((Pattern.isSome_result?_closing rest).trans mayTake)⟩
    | cons d taken => exact ⟨taken, (mayTake_cons_iff.mp mayTake).2.2⟩
  rw [Pattern.result?, longest?_of_absorbs absorbs, Option.map_map]
  exact Option.map_id' ..

lemma exists_result?_oneLine_iff {line text : Text} :
    (∃ rest, Pattern.oneLine.result? line = some ⟨some text, rest⟩) ↔
      oneLineText? line = some text := by
  rw [oneLineText?_eq_some_iff, Pattern.oneLine, Pattern.result?_run_mark (by decide)]
  simp only [Pattern.result?_mark, result?_run_kept]
  constructor
  · rintro ⟨behind, rest, shown, found⟩
    exact ⟨rest, shown, exists_result?_kept_iff.mp ⟨behind, found⟩⟩
  · rintro ⟨rest, shown, longest⟩
    obtain ⟨behind, found⟩ := exists_result?_kept_iff.mpr longest
    exact ⟨behind, rest, shown, found⟩

lemma map_result?_oneLine (line : Text) :
    (Pattern.oneLine.result? line).map (·.kept) = (oneLineText? line).map some := by
  cases result : Pattern.oneLine.result? line with
  | none =>
      cases content : oneLineText? line with
      | none => rfl
      | some text =>
          obtain ⟨rest, found⟩ := exists_result?_oneLine_iff.mpr content
          cases result.symm.trans found
  | some found =>
      obtain ⟨kept, rest⟩ := found
      have isKept : ∃ text, kept = some text := by
        rw [Pattern.oneLine, Pattern.result?_run_mark (by decide)] at result
        obtain ⟨after, -, result⟩ := Pattern.result?_mark.mp result
        rw [result?_run_kept, Pattern.result?, Option.map_eq_some_iff] at result
        obtain ⟨⟨taken, closed⟩, -, same⟩ := result
        cases same
        exact ⟨taken, rfl⟩
      obtain ⟨text, rfl⟩ := isKept
      rw [exists_result?_oneLine_iff.mp ⟨rest, result⟩]
      rfl

/-! ## One pattern for each line -/

/-- The tests of a line, each by a pattern of its own. -/
inductive LineTest where
  | oneLine
  | opening
  | interior
  | closing
deriving DecidableEq, Repr

namespace LineTest

/-- The pattern of a test. -/
def pattern : LineTest → Pattern
  | oneLine => .oneLine
  | opening => .opening
  | interior => .interior
  | closing => .closing

/-- The kind of a line that the pattern of a test matches. -/
def kindOf (keepPadding : Bool) (found : Match) : LineTest → LineKind
  | oneLine => .oneLine (found.kept.getD [])
  | opening => .opening
  | interior =>
    .interior (if keepPadding then found.kept.getD [] ++ found.rest else found.rest)
  | closing => .closing

/-- What a test says of a line. -/
def kind? (keepPadding : Bool) (line : Text) (test : LineTest) : Option LineKind :=
  (test.pattern.result? line).map fun found => test.kindOf keepPadding found

end LineTest

/-- The test that tells lines of a kind. -/
def LineKind.test? : LineKind → Option LineTest
  | .oneLine _ => some .oneLine
  | .opening => some .opening
  | .interior _ => some .interior
  | .closing => some .closing
  | .other => none

/-- **A pattern matches the lines of its kind**, and keeps their content. -/
lemma kind?_eq_some_iff {keepPadding : Bool} {line : Text} {test : LineTest} {kind : LineKind} :
    test.kind? keepPadding line = some kind ↔
      LineKind.of keepPadding line = kind ∧ kind.test? = some test := by
  cases test with
  | oneLine =>
      have content : LineTest.oneLine.kind? keepPadding line =
          (oneLineText? line).map .oneLine := by
        have kept := congrArg (Option.map fun text => LineKind.oneLine (text.getD []))
          (map_result?_oneLine line)
        rwa [Option.map_map, Option.map_map] at kept
      cases kind <;> simp [content, LineKind.test?, kind_eq_oneLine_iff]
  | opening =>
      have content : LineTest.opening.kind? keepPadding line = some kind ↔
          isOpening line = true ∧ .opening = kind := by
        rw [← Pattern.isSome_result?_opening, Option.isSome_iff_exists]
        simp only [LineTest.kind?, LineTest.pattern, LineTest.kindOf, Option.map_eq_some_iff,
          exists_and_right]
      cases kind <;> simp [content, LineKind.test?, kind_eq_opening_iff]
  | interior =>
      have content : LineTest.interior.kind? keepPadding line =
          (interiorText? keepPadding line).map .interior := by
        rw [← Pattern.map_result?_interior, Option.map_map]
        rfl
      cases kind <;> simp [content, LineKind.test?, kind_eq_interior_iff]
  | closing =>
      have content : LineTest.closing.kind? keepPadding line = some kind ↔
          isClosing line = true ∧ .closing = kind := by
        rw [← Pattern.isSome_result?_closing, Option.isSome_iff_exists]
        simp only [LineTest.kind?, LineTest.pattern, LineTest.kindOf, Option.map_eq_some_iff,
          exists_and_right]
      cases kind <;> simp [content, LineKind.test?, kind_eq_closing_iff]

/-- A line matches the pattern of a test exactly if its kind is told by this test. -/
lemma isSome_result?_iff {line : Text} {test : LineTest} (keepPadding : Bool) :
    (test.pattern.result? line).isSome = true ↔
      (LineKind.of keepPadding line).test? = some test := by
  rw [← Option.isSome_map (f := fun found => test.kindOf keepPadding found), ← LineTest.kind?,
    Option.isSome_iff_exists]
  simp only [kind?_eq_some_iff, exists_eq_left']

/-- The tests tell the kind of a line in any order in which all of them are asked. -/
lemma findSome?_kind? (keepPadding : Bool) (line : Text) {order : List LineTest}
    (all : ∀ test, test ∈ order) :
    (order.findSome? (LineTest.kind? keepPadding line)).getD .other =
      LineKind.of keepPadding line := by
  cases told : order.findSome? (LineTest.kind? keepPadding line) with
  | some kind =>
      obtain ⟨test, -, isKind⟩ := List.exists_of_findSome?_eq_some told
      exact (kind?_eq_some_iff.mp isKind).1.symm
  | none =>
      rw [List.findSome?_eq_none_iff] at told
      cases isTold : (LineKind.of keepPadding line).test? with
      | some test => cases (told test (all test)).symm.trans (kind?_eq_some_iff.mpr ⟨rfl, isTold⟩)
      | none =>
          cases kind : LineKind.of keepPadding line with
          | other => rfl
          | oneLine text | opening | interior text | closing =>
              rw [kind] at isTold
              cases isTold

/-- The parts of a line with a whole comment.  The text begins behind all the blanks that follow the
first marker, and it ends at the last marker that closes a comment. -/
structure HoldsComment (line before gap text after : Text) : Prop where
  split : line = before ++ ['/', '*', '*'] ++ gap ++ text ++ ['*', '/'] ++ after
  blankBefore : ∀ c ∈ before, isBlank c = true
  blankGap : ∀ c ∈ gap, isBlank c = true
  visible : ∀ c ∈ text.head?, isBlank c = false
  blankAfter : ∀ c ∈ after, isBlank c = true
  last : ∀ front rest, line = front ++ ['*', '/'] ++ rest → after.length ≤ rest.length

/-- No marker that closes a comment ends later than one with nothing but blanks behind it. -/
lemma length_le_of_closing {line after front rest : Text} (isEnd : after <:+ line)
    (blankAfter : ∀ c ∈ after, isBlank c = true) (split : line = front ++ ['*', '/'] ++ rest) :
    after.length ≤ rest.length := by
  by_contra shorter
  have within : '/' :: rest <:+ after := by
    refine List.suffix_of_suffix_length_le ?_ isEnd ?_
    · exact ⟨front ++ ['*'], by rw [split]; simp⟩
    · rw [List.length_cons]
      omega
  exact absurd (blankAfter '/' (within.subset List.mem_cons_self)) (by decide)

/-- On a line without a newline the text of a comment is all that stands between the markers, less
the blanks in front of it. -/
lemma oneLineText?_iff_holdsComment {line text : Text} (noNewline : '\n' ∉ line) :
    oneLineText? line = some text ↔
      ∃ before gap after, HoldsComment line before gap text after := by
  rw [oneLineText?_eq_some_iff]
  constructor
  · rintro ⟨rest, shown, longest⟩
    obtain ⟨-, blanks, after, split, -, blankAfter⟩ := closesAfter_iff.mp longest.1
    have whole : line = line.takeWhile isBlank ++ ['/', '*', '*'] ++ rest.takeWhile isBlank ++
        (text ++ blanks ++ ['*', '/'] ++ after) := by
      rw [← split, List.append_assoc _ _ (trimStart rest), takeWhile_append_trimStart,
        List.append_assoc, ← shown, takeWhile_append_trimStart]
    -- The longest text takes up the blanks in front of the last marker.
    have sameText : text ++ blanks = text := by
      refine eq_of_isLongest ?_ longest
      rw [split]
      refine isLongest_closesAfter_self (fun newline => noNewline ?_) blankAfter
      rw [whole]
      simp only [List.mem_append] at newline ⊢
      tauto
    rw [sameText] at split whole
    rw [← List.append_assoc, ← List.append_assoc] at whole
    refine ⟨line.takeWhile isBlank, rest.takeWhile isBlank, after, whole,
      fun c found => List.mem_takeWhile_imp found, fun c found => List.mem_takeWhile_imp found,
      fun c first => ?_, blankAfter, fun front final => ?_⟩
    · cases text with
      | nil => cases first
      | cons d others =>
          cases first
          exact not_blank_of_trimStart_eq_cons split
    · exact length_le_of_closing ⟨_, whole.symm⟩ blankAfter
  · rintro ⟨before, gap, after, rfl, blankBefore, blankGap, visible, blankAfter, -⟩
    have absent : '\n' ∉ text := fun newline => noNewline (by simp [newline])
    refine ⟨gap ++ (text ++ ['*', '/'] ++ after), ?_, ?_⟩
    · simp only [trimStart, List.append_assoc]
      rw [List.dropWhile_append_of_pos blankBefore]
      exact List.dropWhile_cons_of_neg (by decide)
    · have behindGap : trimStart (gap ++ (text ++ ['*', '/'] ++ after)) =
          text ++ ['*', '/'] ++ after := by
        rw [trimStart, List.dropWhile_append_of_pos blankGap]
        cases text with
        | nil => exact List.dropWhile_cons_of_neg (by decide)
        | cons c others => exact List.dropWhile_cons_of_neg (by simp [visible c rfl])
      rw [behindGap]
      exact isLongest_closesAfter_self absent blankAfter

/-- **A line matches one pattern at most**, so the patterns may be tried in any order: as long as
all of them are, the one that matches tells the kind of the line.

Where the pattern for a comment on one line matches a line without a newline, it keeps all that
stands between the first marker, with the blanks behind it, and the last marker; nothing if there
are only blanks between them.  And it matches every line that has such parts. -/
theorem line_matches_one_pattern (line : Text) :
    (∀ a b : LineTest, (a.pattern.result? line).isSome = true →
        (b.pattern.result? line).isSome = true → a = b) ∧
      (∀ (keepPadding : Bool) (order : List LineTest), (∀ test, test ∈ order) →
        (order.findSome? (LineTest.kind? keepPadding line)).getD .other =
          LineKind.of keepPadding line) ∧
      ('\n' ∉ line →
        (∀ found, Pattern.oneLine.result? line = some found → ∃ before gap text after,
          found.kept = some text ∧ HoldsComment line before gap text after ∧
            ((∀ c ∈ gap ++ text, isBlank c = true) → text = [])) ∧
        ∀ before gap text after, HoldsComment line before gap text after →
          ∃ rest, Pattern.oneLine.result? line = some ⟨some text, rest⟩) := by
  refine ⟨fun a b matchesA matchesB => ?_, fun keepPadding order all => findSome?_kind? _ _ all,
    fun noNewline => ⟨fun found matched => ?_, fun before gap text after holds => ?_⟩⟩
  · rw [isSome_result?_iff true] at matchesA matchesB
    exact Option.some.inj (matchesA.symm.trans matchesB)
  · have kept := map_result?_oneLine line
    rw [matched, Option.map_some, eq_comm, Option.map_eq_some_iff] at kept
    obtain ⟨text, content, isKept⟩ := kept
    obtain ⟨before, gap, after, holds⟩ := (oneLineText?_iff_holdsComment noNewline).mp content
    refine ⟨before, gap, text, after, isKept.symm, holds, fun blank => ?_⟩
    cases text with
    | nil => rfl
    | cons c rest => cases (holds.visible c rfl).symm.trans (blank c (by simp))
  · exact exists_result?_oneLine_iff.mpr
      ((oneLineText?_iff_holdsComment noNewline).mpr ⟨before, gap, after, holds⟩)

theorem last_marker_closes :
    let line := " /** a */ b  */ ".toList
    '\n' ∉ line ∧ HoldsComment line [' '] [' '] "a */ b  ".toList [' '] ∧
      (∃ rest, Pattern.oneLine.result? line = some ⟨some "a */ b  ".toList, rest⟩) ∧
      (∀ test : LineTest, (test.pattern.result? line).isSome = true → test = .oneLine) ∧
      LineKind.of false line =
        ([.closing, .interior, .opening, .oneLine].findSome? (LineTest.kind? false line)).getD
          .other := by
  intro line
  have noNewline : '\n' ∉ line := by decide
  have blank : ∀ c ∈ [' '], isBlank c = true := List.forall_mem_singleton.mpr (by decide)
  have visible : ∀ c ∈ "a */ b  ".toList.head?, isBlank c = false := by
    rintro c ⟨⟩
    decide
  have holds : HoldsComment line [' '] [' '] "a */ b  ".toList [' '] :=
    ⟨rfl, blank, blank, visible, blank,
      fun _ _ => length_le_of_closing ⟨" /** a */ b  */".toList, rfl⟩ blank⟩
  obtain ⟨oneAtMost, anyOrder, content⟩ := line_matches_one_pattern line
  obtain ⟨rest, kept⟩ := (content noNewline).2 _ _ _ _ holds
  refine ⟨noNewline, holds, ⟨rest, kept⟩, fun test matched => ?_, (anyOrder false _ ?_).symm⟩
  · exact oneAtMost test .oneLine matched (by rw [LineTest.pattern, kept]; rfl)
  · intro test
    cases test <;> decide

end DocComment
