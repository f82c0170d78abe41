import DocComment.Comment.Scan
import DocComment.Proofs.LineKinds
import DocComment.Proofs.Pieces

/-!
# The comments that a scan finds

The lines of every comment that a scan finds are numbered in a row (`numbered`), although a line
that holds a whole comment may stand between two of them, because such a line is not counted.  The
texts of these lines are empty at the markers and come from lines that the scan has read elsewhere
(`exists_numbered_of_comment_mem_findings`).

`Scan.Counts` is the invariant behind this: it says the same of the comment that is open.
-/

namespace DocComment

open Text

/-! ## Lines that are numbered in a row -/

/-- Texts as lines with numbers in a row, the first of them `start`. -/
def numbered (start : Nat) (texts : List Text) : List (Line Nat) :=
  (texts.zipIdx start).map fun (text, number) => ⟨text, number⟩

@[simp] lemma numbered_nil (start : Nat) : numbered start [] = [] := rfl

@[simp] lemma numbered_cons (start : Nat) (text : Text) (texts : List Text) :
    numbered start (text :: texts) = ⟨text, start⟩ :: numbered (start + 1) texts := rfl

lemma numbered_append (start : Nat) (texts more : List Text) :
    numbered start (texts ++ more) =
      numbered start texts ++ numbered (start + texts.length) more := by
  rw [numbered, List.zipIdx_append, List.map_append]
  rfl

@[simp] lemma map_number_numbered (start : Nat) (texts : List Text) :
    (numbered start texts).map (·.number) = List.range' start texts.length := by
  rw [numbered, List.map_map, ← List.zipIdx_map_snd]
  rfl

@[simp] lemma map_text_numbered (start : Nat) (texts : List Text) :
    (numbered start texts).map (·.text) = texts := by
  have texts_eq : (texts.zipIdx start).map Prod.fst = texts := List.zipIdx_map_fst start texts
  rw [numbered, List.map_map]
  exact texts_eq

/-- The lines of a comment have increasing numbers. -/
def Ascending (lines : List (Line Nat)) : Prop := lines.Pairwise (·.number < ·.number)

lemma ascending_numbered (start : Nat) (texts : List Text) : Ascending (numbered start texts) := by
  have increasing : ((numbered start texts).map (·.number)).Pairwise (· < ·) := by
    rw [map_number_numbered]
    exact List.pairwise_lt_range'
  exact List.pairwise_map.mp increasing

/-! ## What lines contribute to comments -/

/-- A text is what stands on a line of a comment, apart from the markers. -/
def Contributes (keepPadding : Bool) (line text : Text) : Prop :=
  oneLineText? line = some text ∨ interiorText? keepPadding line = some text

/-- What stands on an interior line is the end of that line. -/
lemma isSuffix_of_interiorText? {keepPadding : Bool} {line text : Text}
    (interior : interiorText? keepPadding line = some text) : text <:+ line := by
  have shownEnds : trimStart line <:+ line := List.dropWhile_suffix isBlank
  unfold interiorText? at interior
  split at interior
  · cases interior
    exact List.nil_suffix
  · next c rest shown =>
      have restEnds : rest <:+ line := by
        rw [shown] at shownEnds
        exact ((List.suffix_cons c rest).trans (List.suffix_cons '*' _)).trans shownEnds
      split at interior
      · cases keepPadding
        · cases interior
          exact (List.dropWhile_suffix isBlank).trans restEnds
        · cases interior
          exact restEnds
      · cases interior
  · cases interior

lemma Contributes.not_mem_newline {keepPadding : Bool} {line text : Text}
    (contributes : Contributes keepPadding line text) (oneLine : '\n' ∉ line) : '\n' ∉ text := by
  rcases contributes with whole | interior
  · unfold oneLineText? at whole
    split at whole
    · split at whole
      · split at whole
        · cases whole
          intro newline
          simpa using List.mem_takeWhile_imp newline
        · cases whole
      · cases whole
    · cases whole
  · exact fun newline => oneLine ((isSuffix_of_interiorText? interior).subset newline)

/-! ## The invariant of a scan -/

/-- The interior lines of the open comment are numbered in a row from behind the opening line up to
the present one, and each comes from one of `lines`. -/
def Scan.Counts (keepPadding : Bool) (lines : List Text) (scan : Scan) : Prop :=
  ∀ pending, scan.pending = some pending →
    ∃ texts, pending.interior.reverse = numbered (pending.opened + 1) texts ∧
      scan.next = pending.opened + 1 + texts.length ∧
      ∀ text ∈ texts, ∃ line ∈ lines, interiorText? keepPadding line = some text

/-- The lines of a comment are numbered in a row, and each is empty or comes from one of
`lines`. -/
def NumberedFrom (keepPadding : Bool) (lines : List Text) (found : List (Line Nat)) : Prop :=
  ∃ start texts, found = numbered start texts ∧
    ∀ text ∈ texts, text = [] ∨ ∃ line ∈ lines, Contributes keepPadding line text

section Counts

variable {keepPadding : Bool} {lines : List Text} {scan : Scan}

lemma Scan.Counts.start : Scan.start.Counts keepPadding lines := by
  intro pending isPending
  cases isPending

/-- An open comment that is closed has its lines numbered in a row. -/
lemma Scan.Counts.numberedFrom_close (counts : scan.Counts keepPadding lines) {pending : Pending}
    (isPending : scan.pending = some pending) :
    NumberedFrom keepPadding lines (pending.close scan.next) := by
  obtain ⟨texts, inRow, next, sources⟩ := counts pending isPending
  refine ⟨pending.opened, [] :: texts ++ [[]], ?_, fun text found => ?_⟩
  · simp only [Pending.close, inRow, next, List.cons_append, numbered_cons, numbered_append,
      numbered_nil]
  · simp only [List.cons_append, List.mem_cons, List.mem_append, List.not_mem_nil, or_false]
      at found
    rcases found with rfl | inside | rfl
    · exact .inl rfl
    · obtain ⟨line, isLine, interior⟩ := sources text inside
      exact .inr ⟨line, isLine, .inr interior⟩
    · exact .inl rfl

/-- One line keeps the numbers of the open comment in a row, and so are those of the comment that
it completes, if it does. -/
lemma Scan.Counts.step (counts : scan.Counts keepPadding lines) {line : Text}
    (isLine : line ∈ lines) :
    (scan.step keepPadding line).1.Counts keepPadding lines ∧
      ∀ found, (scan.step keepPadding line).2 = .comment found →
        NumberedFrom keepPadding lines found := by
  unfold Scan.step
  cases kind : LineKind.of keepPadding line with
  | oneLine text =>
      refine ⟨counts, fun found finding => ?_⟩
      cases finding
      refine ⟨scan.next, [text], rfl, fun other found => .inr ⟨line, isLine, .inl ?_⟩⟩
      rw [List.mem_singleton.mp found]
      exact kind_eq_oneLine_iff.mp kind
  | opening =>
      refine ⟨fun pending isPending => ?_, nofun⟩
      cases isPending
      exact ⟨[], rfl, rfl, nofun⟩
  | interior text =>
      cases before : scan.pending with
      | none => exact ⟨nofun, nofun⟩
      | some pending =>
          obtain ⟨texts, inRow, next, sources⟩ := counts pending before
          refine ⟨fun grown isPending => ?_, nofun⟩
          cases isPending
          refine ⟨texts ++ [text], ?_, ?_, ?_⟩
          · rw [List.reverse_cons, inRow, numbered_append, numbered_cons, numbered_nil, next]
          · have last : scan.next + 1 = pending.opened + 1 + (texts.length + 1) := by omega
            rw [List.length_append, List.length_singleton]
            exact last
          · refine List.forall_mem_append.mpr ⟨sources, fun other found => ?_⟩
            rw [List.mem_singleton.mp found]
            exact ⟨line, isLine, kind_eq_interior_iff.mp kind⟩
  | closing =>
      cases before : scan.pending with
      | none => exact ⟨nofun, nofun⟩
      | some pending =>
          refine ⟨nofun, fun found finding => ?_⟩
          cases finding
          exact counts.numberedFrom_close before
  | other => cases scan.pending <;> exact ⟨nofun, nofun⟩

lemma Scan.Counts.findings (counts : scan.Counts keepPadding lines) {next : List Text}
    (areLines : next ⊆ lines) {found : List (Line Nat)}
    (finding : .comment found ∈ scan.findings keepPadding next) :
    NumberedFrom keepPadding lines found := by
  induction next generalizing scan with
  | nil => simp [Scan.findings] at finding
  | cons line rest ih =>
      obtain ⟨isLine, others⟩ := List.cons_subset.mp areLines
      obtain ⟨countsNext, here⟩ := counts.step isLine
      rcases List.mem_cons.mp finding with first | later
      · exact here found first.symm
      · exact ih countsNext others later

lemma Scan.Counts.number_le (counts : scan.Counts keepPadding lines) {line : Text}
    {found : List (Line Nat)} (finding : (scan.step keepPadding line).2 = .comment found) :
    ∀ entry ∈ found, entry.number ≤ scan.next := by
  revert finding
  unfold Scan.step
  cases LineKind.of keepPadding line with
  | oneLine text =>
      rintro ⟨⟩
      simp
  | closing =>
      cases before : scan.pending with
      | none => exact nofun
      | some pending =>
          rintro ⟨⟩
          obtain ⟨texts, inRow, next, -⟩ := counts pending before
          have inside : ∀ entry ∈ pending.interior.reverse, entry.number < scan.next := by
            intro entry isEntry
            have number := List.mem_map_of_mem (f := (·.number)) (inRow ▸ isEntry)
            rw [map_number_numbered, List.mem_range'_1] at number
            omega
          refine List.forall_mem_cons.mpr ⟨?_, List.forall_mem_append.mpr
            ⟨fun entry isEntry => (inside entry isEntry).le, List.forall_mem_singleton.mpr le_rfl⟩⟩
          show pending.opened ≤ scan.next
          omega
  | opening => exact nofun
  | interior text => cases scan.pending <;> exact nofun
  | other => cases scan.pending <;> exact nofun

lemma Scan.next_step_le (keepPadding : Bool) (scan : Scan) (line : Text) :
    (scan.step keepPadding line).1.next ≤ scan.next + 1 := by
  unfold Scan.step
  split <;> simp

lemma Scan.Counts.number_lt (counts : scan.Counts keepPadding lines) {next : List Text}
    (areLines : next ⊆ lines) {found : List (Line Nat)}
    (finding : .comment found ∈ scan.findings keepPadding next) :
    ∀ entry ∈ found, entry.number < scan.next + next.length := by
  induction next generalizing scan with
  | nil => simp [Scan.findings] at finding
  | cons line rest ih =>
      obtain ⟨isLine, others⟩ := List.cons_subset.mp areLines
      intro entry isEntry
      rw [List.length_cons]
      rcases List.mem_cons.mp finding with first | later
      · have here := counts.number_le first.symm entry isEntry
        omega
      · have behind := ih (counts.step isLine).1 others later entry isEntry
        have advanced := scan.next_step_le keepPadding line
        omega

end Counts

/-- Every comment that a scan finds has its lines numbered in a row, and what stands on them comes
from the lines that the scan reads. -/
lemma exists_numbered_of_comment_mem_findings {keepPadding : Bool} {lines : List Text}
    {found : List (Line Nat)} (finding : .comment found ∈ Scan.start.findings keepPadding lines) :
    NumberedFrom keepPadding lines found :=
  Scan.Counts.start.findings (List.Subset.refl lines) finding

lemma number_lt_of_comment_mem_findings {keepPadding : Bool} {lines : List Text}
    {found : List (Line Nat)} (finding : .comment found ∈ Scan.start.findings keepPadding lines) :
    ∀ entry ∈ found, entry.number < lines.length := by
  have below := Scan.Counts.start.number_lt (List.Subset.refl lines) finding
  simpa [Scan.start] using below

lemma ascending_of_comment_mem_findings {keepPadding : Bool} {lines : List Text}
    {found : List (Line Nat)} (finding : .comment found ∈ Scan.start.findings keepPadding lines) :
    Ascending found := by
  obtain ⟨start, texts, rfl, -⟩ := exists_numbered_of_comment_mem_findings finding
  exact ascending_numbered start texts

/-- No line of a comment in a document has a newline in it. -/
lemma not_mem_newline_of_comment {keepPadding : Bool} {source : Text} {comment : List (Line Nat)}
    (finding : .comment comment ∈ Scan.start.findings keepPadding (pieces '\n' source)) :
    ∀ line ∈ comment, '\n' ∉ line.text := by
  obtain ⟨start, texts, rfl, sources⟩ := exists_numbered_of_comment_mem_findings finding
  intro line isLine
  have isText : line.text ∈ texts := by
    rw [← map_text_numbered start texts]
    exact List.mem_map_of_mem isLine
  rcases sources _ isText with isEmpty | ⟨origin, isOrigin, contributes⟩
  · rw [isEmpty]
    exact List.not_mem_nil
  · exact contributes.not_mem_newline (not_mem_of_mem_pieces isOrigin)

end DocComment
