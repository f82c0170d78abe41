import DocComment.Proofs.Recognition
import DocComment.Proofs.TagHeaders

/-!
# Headers among the lines of a document

Which lines of a document begin a tag is said here by the lines alone (`LiveHeader`): a line stands
in a comment if it holds one, or if it is an interior line of a comment that a later line closes
(`StandsIn`).  These are the lines of the comments that are completed
(`StandsIn.exists_completes`, `Completes.exists_standsIn`), so the headers of those comments are the
live headers.

A line stands in one comment only, because a comment is closed by the first closing line
(`StandsIn.unique`).  Two lines of a document may share a number, one of them holding a whole
comment, but not two lines of one comment (`StandsIn.eq_of_lineNumber_eq`).
-/

namespace DocComment

open Text

/-! ## Headers, by the lines alone -/

/-- Line `i` stands in the comment that line `k` completes, with `text` between its markers or
behind its marker: it holds that comment, or it is an interior line of it. -/
inductive StandsIn (lines : List Text) (i k : Nat) (text : Text) : Prop
  | oneLine {line : Text} (here : lines[i]? = some line) (whole : oneLineText? line = some text)
      (itself : k = i)
  | interior {line last : Text} {j : Nat} (here : lines[i]? = some line)
      (inside : interiorText? false line = some text) (after : j < i) (before : i < k)
      (opened : OpenFrom lines j k) (ends : lines[k]? = some last) (closes : isClosing last = true)

/-- Line `i` is a header of the comment that line `k` completes: without the blanks around it, its
text is `content`, which begins with `@` and a word character. -/
structure LiveHeader (lines : List Text) (i k : Nat) (content : Text) : Prop where
  stands : ∃ text, StandsIn lines i k text ∧ trim text = content
  begins : ∃ c rest, content = '@' :: c :: rest ∧ isWord c = true

section Lines

variable {lines : List Text} {i k : Nat} {text : Text}

lemma StandsIn.lt_length (stands : StandsIn lines i k text) : i < lines.length := by
  cases stands with
  | oneLine here => exact (List.getElem?_eq_some_iff.mp here).1
  | interior here => exact (List.getElem?_eq_some_iff.mp here).1

lemma mem_interiorLines_iff {keepPadding : Bool} {j number : Nat} :
    ⟨text, number⟩ ∈ interiorLines keepPadding lines j k ↔
      ∃ i line, j < i ∧ i < k ∧ lines[i]? = some line ∧ interiorText? keepPadding line = some text ∧
        number = lineNumber lines i := by
  rw [interiorLines, List.mem_filterMap]
  constructor
  · rintro ⟨i, inRange, found⟩
    obtain ⟨after, before⟩ : j + 1 ≤ i ∧ i < j + 1 + (k - (j + 1)) := by
      simpa [List.mem_range'_1] using inRange
    cases here : lines[i]? with
    | none => simp [interiorLine?, here] at found
    | some line =>
        rw [interiorLine?_eq here, Option.map_eq_some_iff] at found
        obtain ⟨content, inside, same⟩ := found
        cases same
        exact ⟨i, line, by omega, by omega, here, inside, rfl⟩
  · rintro ⟨i, line, after, before, here, inside, rfl⟩
    refine ⟨i, List.mem_range'_1.mpr (by omega), ?_⟩
    rw [interiorLine?_eq here, inside]
    rfl

/-- The text of a line stands in the comment that is completed. -/
lemma StandsIn.exists_completes (stands : StandsIn lines i k text) :
    ∃ comment, Completes false lines k comment ∧ ⟨text, lineNumber lines i⟩ ∈ comment := by
  cases stands with
  | oneLine here whole itself =>
      subst itself
      exact ⟨_, .oneLine here whole, List.mem_singleton_self _⟩
  | @interior line last j here inside after before opened ends closes =>
      have isInterior : ⟨text, lineNumber lines i⟩ ∈ interiorLines false lines j k :=
        mem_interiorLines_iff.mpr ⟨i, line, after, before, here, inside, rfl⟩
      exact ⟨_, .closing ends closes opened, by simp [isInterior]⟩

/-- What stands in a comment that is completed is empty or the text of a line. -/
lemma Completes.exists_standsIn {comment : List (Line Nat)} {number : Nat}
    (completes : Completes false lines k comment) (found : ⟨text, number⟩ ∈ comment) :
    text = [] ∨ ∃ i, StandsIn lines i k text ∧ number = lineNumber lines i := by
  cases completes with
  | oneLine here whole =>
      cases List.mem_singleton.mp found
      exact .inr ⟨k, .oneLine here whole rfl, rfl⟩
  | closing ends closes opened =>
      simp only [List.cons_append, List.mem_cons, List.mem_append, List.not_mem_nil, or_false,
        Line.mk.injEq] at found
      rcases found with ⟨rfl, -⟩ | isInterior | ⟨rfl, -⟩
      · exact .inl rfl
      · obtain ⟨i, line, after, before, here, inside, same⟩ := mem_interiorLines_iff.mp isInterior
        exact .inr ⟨i, .interior here inside after before opened ends closes, same⟩
      · exact .inl rfl

/-- A comment that is open at a line is closed by the first closing line behind it. -/
lemma OpenFrom.le_of_isClosing {j : Nat} {last : Text} (opened : OpenFrom lines j k) (after : j < i)
    (ends : lines[i]? = some last) (closes : isClosing last = true) : k ≤ i := by
  by_contra before
  have stays := opened.inside i last after (by omega) ends
  simp [staysInside, oneLineText?_eq_none_of_isClosing closes,
    interiorText?_eq_none_of_isClosing true closes] at stays

lemma OpenFrom.unique {j j' : Nat} (opened : OpenFrom lines j k) (again : OpenFrom lines j' k) :
    j = j' := by
  have notBefore : ∀ {j j' : Nat}, OpenFrom lines j k → OpenFrom lines j' k → ¬ j < j' := by
    intro j j' opened again earlier
    obtain ⟨line, here, opens⟩ := again.opening
    have stays := opened.inside j' line earlier again.before here
    have notInterior : interiorText? true line = none := by
      rw [Option.eq_none_iff_forall_ne_some]
      intro text interior
      simp [isOpening_eq_false_of_interiorText? interior] at opens
    simp [staysInside, oneLineText?_eq_none_of_isOpening opens, notInterior] at stays
  have := notBefore opened again
  have := notBefore again opened
  omega

/-- A line stands in one comment, with one text. -/
lemma StandsIn.unique {k' : Nat} {text' : Text} (stands : StandsIn lines i k text)
    (again : StandsIn lines i k' text') : k = k' ∧ text = text' := by
  cases stands with
  | oneLine here whole itself =>
      cases again with
      | oneLine here' whole' itself' =>
          cases here.symm.trans here'
          cases whole.symm.trans whole'
          exact ⟨itself.trans itself'.symm, rfl⟩
      | interior here' inside' =>
          cases here.symm.trans here'
          simp [oneLineText?_eq_none_of_interiorText? inside'] at whole
  | interior here inside after before opened ends closes =>
      cases again with
      | oneLine here' whole' =>
          cases here.symm.trans here'
          simp [oneLineText?_eq_none_of_interiorText? inside] at whole'
      | interior here' inside' after' before' opened' ends' closes' =>
          cases here.symm.trans here'
          cases inside.symm.trans inside'
          -- Both comments are open at the line, so each is closed where the other one is.
          have upper := opened.le_of_isClosing (by omega) ends' closes'
          have lower := opened'.le_of_isClosing (by omega) ends closes
          exact ⟨by omega, rfl⟩

lemma lineNumber_mono {m : Nat} (upTo : i ≤ m) : lineNumber lines i ≤ lineNumber lines m :=
  (List.take_prefix_take_left upTo).sublist.countP_le

lemma lineNumber_lt_of_interiorText? {m : Nat} {line : Text} (here : lines[i]? = some line)
    (inside : interiorText? false line = some text) (before : i < m) :
    lineNumber lines i < lineNumber lines m := by
  have next := lineNumber_succ here
  have counted := oneLineText?_eq_none_of_interiorText? inside
  have further : lineNumber lines (i + 1) ≤ lineNumber lines m := lineNumber_mono before
  simp only [counted, Option.isNone_none, if_true] at next
  omega

/-- The lines of one comment have different numbers. -/
lemma StandsIn.eq_of_lineNumber_eq {i' : Nat} {text' : Text} (stands : StandsIn lines i k text)
    (other : StandsIn lines i' k text') (same : lineNumber lines i = lineNumber lines i') :
    i = i' := by
  cases stands with
  | oneLine here whole itself =>
      cases other with
      | oneLine here' whole' itself' => exact itself.symm.trans itself'
      | interior here' inside' after' before' opened' ends' closes' =>
          subst itself
          cases here.symm.trans ends'
          simp [oneLineText?_eq_none_of_isClosing closes'] at whole
  | interior here inside after before opened ends closes =>
      cases other with
      | oneLine here' whole' itself' =>
          subst itself'
          cases here'.symm.trans ends
          simp [oneLineText?_eq_none_of_isClosing closes] at whole'
      | interior here' inside' =>
          rcases Nat.lt_trichotomy i i' with earlier | equal | later
          · have := lineNumber_lt_of_interiorText? here inside earlier
            omega
          · exact equal
          · have := lineNumber_lt_of_interiorText? here' inside' later
            omega

/-- The number of a line is its index, less the lines before it that hold a whole comment. -/
lemma lineNumber_eq (within : i ≤ lines.length) :
    lineNumber lines i = i - (lines.take i).countP fun line => (oneLineText? line).isSome := by
  have split : (lines.take i).length =
      (lines.take i).countP (fun line => (oneLineText? line).isSome) + lineNumber lines i := by
    have others : ∀ line : Text, (oneLineText? line).isNone =
        decide ¬ (oneLineText? line).isSome = true := by
      intro line
      cases oneLineText? line <;> rfl
    simp only [lineNumber, others]
    exact List.length_eq_countP_add_countP _
  rw [List.length_take, Nat.min_eq_left within] at split
  omega

/-! ## The headers of completed comments -/

variable {content : Text}

lemma LiveHeader.exists_completes (header : LiveHeader lines i k content) :
    ∃ comment, Completes false lines k comment ∧
      ⟨content, lineNumber lines i⟩ ∈ headers (comment.map (Line.trimIf true)) := by
  obtain ⟨⟨text, stands, trimmed⟩, begins⟩ := header
  obtain ⟨comment, completes, isLine⟩ := stands.exists_completes
  exact ⟨comment, completes, mem_headers_trimmed_iff.mpr ⟨⟨text, isLine, trimmed⟩, begins⟩⟩

lemma Completes.exists_liveHeader {comment : List (Line Nat)} {number : Nat}
    (completes : Completes false lines k comment)
    (header : ⟨content, number⟩ ∈ headers (comment.map (Line.trimIf true))) :
    ∃ i, LiveHeader lines i k content ∧ number = lineNumber lines i := by
  obtain ⟨⟨text, isLine, trimmed⟩, begins⟩ := mem_headers_trimmed_iff.mp header
  rcases completes.exists_standsIn isLine with rfl | ⟨i, stands, same⟩
  · obtain ⟨c, rest, marked, -⟩ := begins
    simp [marked] at trimmed
  · exact ⟨i, ⟨⟨text, stands, trimmed⟩, begins⟩, same⟩

lemma LiveHeader.unique {k' : Nat} {content' : Text} (header : LiveHeader lines i k content)
    (again : LiveHeader lines i k' content') : k = k' ∧ content = content' := by
  obtain ⟨text, stands, rfl⟩ := header.stands
  obtain ⟨text', stands', rfl⟩ := again.stands
  obtain ⟨rfl, rfl⟩ := stands.unique stands'
  exact ⟨rfl, rfl⟩

end Lines

end DocComment
