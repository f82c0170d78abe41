import DocComment.Proofs.Recognition
import DocComment.Proofs.Renumbering

/-!
# Documents one after the other

A scan that starts with another number finds the same comments at other numbers
(`Scan.step_shifted`).  It does so, too, if a comment is open that the first line starts afresh
(`findings_of_afresh`).  Since renumbering the lines of a comment renumbers its block, two documents
that are joined by a newline have the blocks of the first and, at higher numbers, those of the
second (`joined_documents_read_apart`).
-/

namespace DocComment

open Text

/-! ## Scans that start with another number -/

/-- The finding at other numbers. -/
def Finding.renumbered (renumber : Nat → Nat) : Finding → Finding
  | .nothing => .nothing
  | .comment lines => .comment (lines.map (Line.renumbered renumber))
  | .abandoned opened given => .abandoned (renumber opened) (renumber given)

/-- The pending comment at numbers that are higher by `k`. -/
def Pending.shifted (k : Nat) (pending : Pending) : Pending :=
  ⟨pending.opened + k, pending.interior.map (Line.renumbered (· + k))⟩

/-- The scan at numbers that are higher by `k`. -/
def Scan.shifted (k : Nat) (scan : Scan) : Scan :=
  ⟨scan.next + k, scan.pending.map (Pending.shifted k)⟩

lemma Pending.close_shifted (k : Nat) (pending : Pending) (closed : Nat) :
    (pending.shifted k).close (closed + k) =
      (pending.close closed).map (Line.renumbered (· + k)) := by
  simp [close, shifted, Line.renumbered]

section Shift

variable (keepPadding : Bool) (k : Nat)

/-- One line keeps the distance between the numbers of two scans, and brings the same to light at
numbers at that distance. -/
lemma Scan.step_shifted (scan : Scan) (line : Text) :
    (scan.shifted k).step keepPadding line =
      ((scan.step keepPadding line).1.shifted k,
        (scan.step keepPadding line).2.renumbered (· + k)) := by
  have next : scan.next + k + 1 = scan.next + 1 + k := by omega
  unfold Scan.step
  cases LineKind.of keepPadding line with
  | oneLine text => simp [shifted, Finding.renumbered, Line.renumbered]
  | opening => simp [shifted, Pending.shifted, Finding.renumbered, next]
  | interior text =>
      cases pending : scan.pending <;>
        simp [shifted, Pending.shifted, Finding.renumbered, Line.renumbered, pending, next]
  | closing =>
      cases pending : scan.pending with
      | none => simp [shifted, Finding.renumbered, pending, next]
      | some comment =>
          simp [shifted, Finding.renumbered, pending, next, Pending.close_shifted]
  | other =>
      cases pending : scan.pending <;>
        simp [shifted, Pending.shifted, Finding.renumbered, pending, next]

/-- Two scans at a distance find the same comments at that distance, in all lines to come. -/
lemma Scan.findings_shifted (scan : Scan) (lines : List Text) :
    (scan.shifted k).findings keepPadding lines =
      (scan.findings keepPadding lines).map (Finding.renumbered (· + k)) := by
  induction lines generalizing scan with
  | nil => rfl
  | cons line rest ih =>
      simp only [findings, Scan.step_shifted keepPadding k scan line, ih, List.map_cons]

end Shift

/-- A scan with nothing open, or with an open comment that the next line starts afresh, goes on as
a scan that starts, at higher numbers. -/
lemma findings_of_afresh {keepPadding : Bool} {scan : Scan} {lines : List Text}
    (afresh : scan.isCollecting = false ∨
      ∃ line rest, lines = line :: rest ∧ isOpening line = true) :
    scan.findings keepPadding lines =
      (Scan.start.findings keepPadding lines).map (Finding.renumbered (· + scan.next)) := by
  rw [← Scan.findings_shifted]
  rcases afresh with closed | ⟨line, rest, rfl, opening⟩
  · have nothingOpen : scan.pending = none := by
      rw [Scan.isCollecting, Option.isSome_eq_false_iff, Option.isNone_iff_eq_none] at closed
      exact closed
    have same : Scan.start.shifted scan.next = scan := by
      obtain ⟨next, pending⟩ := scan
      simp_all [Scan.shifted, Scan.start]
    rw [same]
  · -- Whatever was open is forgotten at the opening line.
    have step : scan.step keepPadding line =
        (Scan.start.shifted scan.next).step keepPadding line := by
      simp [Scan.step, kind_eq_opening_iff.mpr opening, Scan.shifted, Scan.start]
    simp only [Scan.findings, step]

/-! ## Gathering -/

lemma Finding.outcome_renumbered (options : Options) (renumber : Nat → Nat) (finding : Finding) :
    ((finding.renumbered renumber).outcome options).outcome =
      (finding.outcome options).outcome.map (Option.map (Block.renumbered renumber)) := by
  cases finding with
  | nothing => rfl
  | comment lines => exact outcome_parseBlock_renumbered options renumber lines
  | abandoned opened given => rfl

lemma outcome_gather_renumbered (options : Options) (renumber : Nat → Nat)
    (findings : List Finding) :
    (gather ((findings.map (Finding.renumbered renumber)).map (Finding.outcome options))).outcome =
      (gather (findings.map (Finding.outcome options))).outcome.map
        (List.map (Block.renumbered renumber)) := by
  have outcomes : ∀ findings : List Finding,
      ((findings.map (Finding.renumbered renumber)).map (Finding.outcome options)).map (·.outcome) =
        ((findings.map (Finding.outcome options)).map (·.outcome)).map
          (Except.map (Option.map (Block.renumbered renumber))) := by
    intro findings
    simp only [List.map_map, Function.comp_def, Finding.outcome_renumbered]
  rw [outcome_gather_eq_collect, outcome_gather_eq_collect, outcomes, collect_map]

/-! ## Documents -/

/-- How many lines advance the numbering: all but those that hold a whole comment. -/
def countedLines (lines : List Text) : Nat :=
  lines.countP fun line => (oneLineText? line).isNone

/-- The number behind all lines that a scan has read. -/
lemma next_after (keepPadding : Bool) (lines : List Text) :
    (Scan.start.after keepPadding lines).next = countedLines lines := by
  have tracks := tracks_after keepPadding lines (Nat.le_refl lines.length)
  rw [List.take_length] at tracks
  rw [tracks.next, lineNumber, List.take_length, countedLines]

/-- **Joined documents are read apart.**  If no comment is open after the first document, or if the
second begins with an opening line, then the first followed by a newline and the second has the
blocks of the first and those of the second.  The latter, and all their tags at every depth, have
numbers that are higher by the number of counted lines of the first; nothing else about them is
different.  A fault in one of the documents is the fault of both together. -/
theorem joined_documents_read_apart (options : Options) (first second : Text)
    (afresh : ((Extractor.start options).after (pieces '\n' first)).scan.isCollecting = false ∨
      ∃ line rest, pieces '\n' second = line :: rest ∧ isOpening line = true) :
    (parse options (first ++ '\n' :: second)).outcome =
      (parse options first).outcome.bind fun blocks =>
        (parse options second).outcome.map fun more =>
          blocks ++ more.map (Block.renumbered (· + countedLines (pieces '\n' first))) := by
  have scan_eq : ((Extractor.start options).after (pieces '\n' first)).scan =
      Scan.start.after (!options.trim) (pieces '\n' first) := by
    rw [Extractor.after_eq]
    rfl
  rw [scan_eq] at afresh
  have later := outcome_gather_renumbered options
    (· + countedLines (pieces '\n' first))
    (Scan.start.findings (!options.trim) (pieces '\n' second))
  rw [← next_after (!options.trim), ← findings_of_afresh afresh, next_after] at later
  calc (parse options (first ++ '\n' :: second)).outcome
      = (gather (outcomes options (pieces '\n' first ++ pieces '\n' second))).outcome := by
        rw [parse, parseLines, pieces_append_sep]
    _ = (parse options first).outcome.bind fun blocks =>
          (gather (outcomesFrom options (Scan.start.after (!options.trim) (pieces '\n' first))
            (pieces '\n' second))).outcome.map (blocks ++ ·) := by
        rw [outcomes, outcomesFrom, Scan.findings_append, List.map_append,
          outcome_gather_eq_collect, List.map_append, collect_append, parse, parseLines,
          outcome_gather_eq_collect, outcome_gather_eq_collect]
        rfl
    _ = _ := by
        rw [outcomesFrom, later, parse, parse, parseLines, parseLines]
        cases (gather (outcomes options (pieces '\n' first))).outcome with
        | error fault => rfl
        | ok blocks =>
            simp only [Except.bind, outcomes, outcomesFrom]
            cases (gather ((Scan.start.findings (!options.trim) (pieces '\n' second)).map
              (Finding.outcome options))).outcome <;> rfl

/-- A document that ends inside a comment, with another comment on one line in it. -/
def unfinished : Text := "/**\n * left open\n/** b */".toList

/-- A document with a tag whose name has a dot. -/
def dottedTag : Text := "/**\n * @a p.q\n */".toList

theorem document_after_unfinished_reads_apart :
    (∃ line rest, pieces '\n' dottedTag = line :: rest ∧ isOpening line = true) ∧
      (parse ⟨true, true, Builtin.parsers⟩ (unfinished ++ '\n' :: dottedTag)).outcome =
        (parse ⟨true, true, Builtin.parsers⟩ unfinished).outcome.bind fun blocks =>
          (parse ⟨true, true, Builtin.parsers⟩ dottedTag).outcome.map fun more =>
            blocks ++ more.map (Block.renumbered (· + countedLines (pieces '\n' unfinished))) := by
  have opens : ∃ line rest, pieces '\n' dottedTag = line :: rest ∧ isOpening line = true :=
    ⟨_, _, rfl, by decide⟩
  exact ⟨opens, joined_documents_read_apart _ unfinished dottedTag (.inr opens)⟩

end DocComment
