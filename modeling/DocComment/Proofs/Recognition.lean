import DocComment.Document
import DocComment.Proofs.LineKinds

/-!
# Which comments a reader finds

A reader takes lines one at a time and keeps a buffer and a counter (`Scan`).  Here the comments in
a sequence of lines are described without either: a line that holds a whole comment completes it,
and a closing line completes the comment of an opening line before it if every line between the two
is interior or holds a whole comment (`Completes`).  A line is numbered by the lines before it that
do not hold a whole comment (`lineNumber`).

`Scan.Tracks` says how buffer and counter go back to the lines read so far.  One line keeps it
(`Scan.Tracks.step`), so it holds along every run (`tracks_after`), and what a reader makes of a
sequence of lines is what the description says (`reader_finds_completed_comments`).
-/

namespace DocComment

open Text

/-! ## Comments, by the lines alone -/

/-- The number of line `i`: how many lines before it do not hold a whole comment. -/
def lineNumber (lines : List Text) (i : Nat) : Nat :=
  (lines.take i).countP fun line => (oneLineText? line).isNone

/-- Whether a line leaves open the comment that it stands in. -/
def staysInside (line : Text) : Bool :=
  (oneLineText? line).isSome || (interiorText? true line).isSome

/-- Line `j` opens a comment, and no line after it and before line `i` ends that comment. -/
structure OpenFrom (lines : List Text) (j i : Nat) : Prop where
  before : j < i
  opening : ∃ line, lines[j]? = some line ∧ isOpening line = true
  inside : ∀ k line, j < k → k < i → lines[k]? = some line → staysInside line = true

/-- The content and the number of line `k`, if it is interior. -/
def interiorLine? (keepPadding : Bool) (lines : List Text) (k : Nat) : Option (Line Nat) := do
  let line ← lines[k]?
  let text ← interiorText? keepPadding line
  return ⟨text, lineNumber lines k⟩

/-- The interior lines after line `j` and before line `i`, in order. -/
def interiorLines (keepPadding : Bool) (lines : List Text) (j i : Nat) : List (Line Nat) :=
  (List.range' (j + 1) (i - (j + 1))).filterMap (interiorLine? keepPadding lines)

/-- Line `i` completes a comment that consists of the lines `found`. -/
inductive Completes (keepPadding : Bool) (lines : List Text) (i : Nat) : List (Line Nat) → Prop
  /-- The line holds a whole comment. -/
  | oneLine {line text : Text} (here : lines[i]? = some line)
      (oneLine : oneLineText? line = some text) :
      Completes keepPadding lines i [⟨text, lineNumber lines i⟩]
  /-- The line closes the comment that line `j` opens. -/
  | closing {line : Text} {j : Nat} (here : lines[i]? = some line)
      (closing : isClosing line = true) (opened : OpenFrom lines j i) :
      Completes keepPadding lines i
        (⟨[], lineNumber lines j⟩ :: interiorLines keepPadding lines j i ++
          [⟨[], lineNumber lines i⟩])

section Step

variable {keepPadding : Bool} {lines : List Text} {i j : Nat} {line : Text}

lemma lineNumber_succ (here : lines[i]? = some line) :
    lineNumber lines (i + 1) =
      lineNumber lines i + if (oneLineText? line).isNone then 1 else 0 := by
  simp [lineNumber, List.take_add_one, here, List.countP_append, List.countP_cons]

/-- An open comment was opened by the last line, or was open before and is left open by it. -/
lemma openFrom_succ_iff (here : lines[i]? = some line) :
    OpenFrom lines j (i + 1) ↔
      (j = i ∧ isOpening line = true) ∨ (OpenFrom lines j i ∧ staysInside line = true) := by
  constructor
  · rintro ⟨before, opening, inside⟩
    rcases Nat.lt_succ_iff_lt_or_eq.mp before with earlier | rfl
    · refine .inr ⟨⟨earlier, opening, fun k other after upTo => ?_⟩, ?_⟩
      · exact inside k other after (by omega)
      · exact inside i line earlier (by omega) here
    · obtain ⟨other, found, opens⟩ := opening
      rw [here] at found
      cases found
      exact .inl ⟨rfl, opens⟩
  · rintro (⟨rfl, opens⟩ | ⟨⟨before, opening, inside⟩, stays⟩)
    · exact ⟨by omega, ⟨line, here, opens⟩, fun k other after upTo _ => by omega⟩
    · refine ⟨by omega, opening, fun k other after upTo found => ?_⟩
      rcases Nat.lt_succ_iff_lt_or_eq.mp upTo with earlier | rfl
      · exact inside k other after earlier found
      · rw [here] at found
        cases found
        exact stays

lemma not_openFrom_zero : ¬ OpenFrom lines j 0 := fun opened => by
  have := opened.before
  omega

@[simp] lemma interiorLines_self : interiorLines keepPadding lines j (j + 1) = [] := by
  simp [interiorLines]

lemma interiorLines_succ (before : j < i) :
    interiorLines keepPadding lines j (i + 1) =
      interiorLines keepPadding lines j i ++ (interiorLine? keepPadding lines i).toList := by
  have count : i + 1 - (j + 1) = i - (j + 1) + 1 := by omega
  have last : j + 1 + (i - (j + 1)) = i := by omega
  rw [interiorLines, count, List.range'_1_concat, last, List.filterMap_append]
  cases found : interiorLine? keepPadding lines i <;> simp [interiorLines, found]

lemma interiorLine?_eq (here : lines[i]? = some line) :
    interiorLine? keepPadding lines i =
      (interiorText? keepPadding line).map (⟨·, lineNumber lines i⟩) := by
  simp only [interiorLine?, here, Option.pure_def, Option.bind_eq_bind, Option.bind_some]
  cases interiorText? keepPadding line <;> rfl

end Step

/-! ## The state of a scan and the lines behind it -/

/-- The state of a scan that has read the first `i` lines. -/
structure Scan.Tracks (keepPadding : Bool) (lines : List Text) (i : Nat) (scan : Scan) : Prop where
  next : scan.next = lineNumber lines i
  pending : ∀ comment, scan.pending = some comment ↔
    ∃ j, OpenFrom lines j i ∧
      comment = ⟨lineNumber lines j, (interiorLines keepPadding lines j i).reverse⟩

namespace Scan.Tracks

variable {keepPadding : Bool} {lines : List Text} {i : Nat} {line : Text} {scan : Scan}

/-- A comment is open exactly if the lines say so. -/
lemma isCollecting_iff (tracks : scan.Tracks keepPadding lines i) :
    scan.isCollecting = true ↔ ∃ j, OpenFrom lines j i := by
  rw [isCollecting, Option.isSome_iff_exists]
  constructor
  · rintro ⟨comment, pending⟩
    obtain ⟨j, opened, -⟩ := (tracks.pending comment).mp pending
    exact ⟨j, opened⟩
  · rintro ⟨j, opened⟩
    exact ⟨_, (tracks.pending _).mpr ⟨j, opened, rfl⟩⟩

lemma start : Scan.start.Tracks keepPadding lines 0 where
  next := by simp [Scan.start, lineNumber]
  pending comment := by
    constructor
    · intro pending
      cases pending
    · rintro ⟨j, opened, -⟩
      exact (not_openFrom_zero opened).elim

/-- After a line that leaves comments open, the open comment is the one before, with the content of
the line where it has some. -/
lemma exists_openFrom_succ_iff_of_staysInside (tracks : scan.Tracks keepPadding lines i)
    (here : lines[i]? = some line) (notOpening : isOpening line = false)
    (stays : staysInside line = true) (comment : Pending) :
    (∃ j, OpenFrom lines j (i + 1) ∧
        comment = ⟨lineNumber lines j, (interiorLines keepPadding lines j (i + 1)).reverse⟩) ↔
      ∃ before, scan.pending = some before ∧
        comment =
          ⟨before.opened, (interiorLine? keepPadding lines i).toList ++ before.interior⟩ := by
  have grown : ∀ j, OpenFrom lines j i →
      (interiorLines keepPadding lines j (i + 1)).reverse =
        (interiorLine? keepPadding lines i).toList ++
          (interiorLines keepPadding lines j i).reverse := by
    intro j opened
    rw [interiorLines_succ opened.before, List.reverse_append]
    cases interiorLine? keepPadding lines i <;> rfl
  constructor
  · rintro ⟨j, opened, rfl⟩
    rcases (openFrom_succ_iff here).mp opened with ⟨-, opens⟩ | ⟨earlier, -⟩
    · rw [notOpening] at opens
      cases opens
    · exact ⟨_, (tracks.pending _).mpr ⟨j, earlier, rfl⟩, by rw [grown j earlier]⟩
  · rintro ⟨before, pending, rfl⟩
    obtain ⟨j, earlier, rfl⟩ := (tracks.pending before).mp pending
    exact ⟨j, (openFrom_succ_iff here).mpr (.inr ⟨earlier, stays⟩), by rw [grown j earlier]⟩

lemma not_openFrom_succ (here : lines[i]? = some line) (notOpening : isOpening line = false)
    (ends : staysInside line = false) (j : Nat) : ¬ OpenFrom lines j (i + 1) := by
  rw [openFrom_succ_iff here, notOpening, ends]
  simp

/-- One line keeps a scan in step with the lines. -/
lemma step (here : lines[i]? = some line) (tracks : scan.Tracks keepPadding lines i) :
    (scan.step keepPadding line).1.Tracks keepPadding lines (i + 1) := by
  have fits := kind_fits keepPadding line
  have number := lineNumber_succ here
  unfold Scan.step
  cases kind : LineKind.of keepPadding line with
  | oneLine text =>
      have whole : oneLineText? line = some text := by simpa only [kind, LineKind.Fits] using fits
      have notOpening : isOpening line = false := by
        rw [Bool.eq_false_iff]
        intro opening
        simp [oneLineText?_eq_none_of_isOpening opening] at whole
      have noContent : interiorLine? keepPadding lines i = none := by
        rw [interiorLine?_eq here, Option.map_eq_none_iff, Option.eq_none_iff_forall_ne_some]
        intro content interior
        simp [oneLineText?_eq_none_of_interiorText? interior] at whole
      -- A comment around this one stays open, and gets no line of content.
      refine ⟨by simp [tracks.next, number, whole], fun comment => ?_⟩
      rw [tracks.exists_openFrom_succ_iff_of_staysInside here notOpening
        (by simp [staysInside, whole]) comment, noContent]
      simp
  | opening =>
      have opens : isOpening line = true := by simpa only [kind, LineKind.Fits] using fits
      have notWhole := oneLineText?_eq_none_of_isOpening opens
      have notInterior : interiorText? true line = none := by
        rw [Option.eq_none_iff_forall_ne_some]
        intro content interior
        simp [isOpening_eq_false_of_interiorText? interior] at opens
      -- The only comment that is open behind the line is the one that it opens.
      refine ⟨by simp [tracks.next, number, notWhole], fun comment => ?_⟩
      simp only [openFrom_succ_iff here, staysInside, notWhole, notInterior, opens, tracks.next]
      simp [eq_comm]
  | interior content =>
      have interior : interiorText? keepPadding line = some content := by
        simpa only [kind, LineKind.Fits] using fits
      have notWhole := oneLineText?_eq_none_of_interiorText? interior
      have stays : staysInside line = true := by
        simp [staysInside, ← isSome_interiorText? keepPadding, interior]
      have content_eq : interiorLine? keepPadding lines i =
          some ⟨content, lineNumber lines i⟩ := by
        simp [interiorLine?_eq here, interior]
      cases pending : scan.pending with
      | none =>
          refine ⟨by simp [tracks.next, number, notWhole], fun comment => ?_⟩
          rw [tracks.exists_openFrom_succ_iff_of_staysInside here
            (isOpening_eq_false_of_interiorText? interior) stays comment, pending]
          simp
      | some before =>
          refine ⟨by simp [tracks.next, number, notWhole], fun comment => ?_⟩
          rw [tracks.exists_openFrom_succ_iff_of_staysInside here
            (isOpening_eq_false_of_interiorText? interior) stays comment, pending, content_eq]
          simp [tracks.next, eq_comm]
  | closing =>
      have closes : isClosing line = true := by simpa only [kind, LineKind.Fits] using fits
      have notWhole := oneLineText?_eq_none_of_isClosing closes
      have ended := not_openFrom_succ here (isOpening_eq_false_of_isClosing closes)
        (by simp [staysInside, notWhole, interiorText?_eq_none_of_isClosing true closes])
      cases scan.pending <;>
        exact ⟨by simp [tracks.next, number, notWhole], fun comment => by simp [ended]⟩
  | other =>
      obtain ⟨notWhole, notOpening, notInterior, -⟩ :
          oneLineText? line = none ∧ isOpening line = false ∧
            interiorText? keepPadding line = none ∧ isClosing line = false := by
        simpa only [kind, LineKind.Fits] using fits
      have ended := not_openFrom_succ here notOpening
        (by simp [staysInside, notWhole, ← isSome_interiorText? keepPadding, notInterior])
      cases scan.pending <;>
        exact ⟨by simp [tracks.next, number, notWhole], fun comment => by simp [ended]⟩

end Scan.Tracks

/-- A scan is in step with the lines it has read, however many these are. -/
lemma tracks_after (keepPadding : Bool) (lines : List Text) {i : Nat} (within : i ≤ lines.length) :
    (Scan.start.after keepPadding (lines.take i)).Tracks keepPadding lines i := by
  induction i with
  | zero => exact .start
  | succ i ih =>
      have here : lines[i]? = some lines[i] := List.getElem?_eq_getElem within
      rw [List.take_add_one, here, Scan.after_append]
      exact (ih (by omega)).step here

/-- A line brings a comment to light exactly if it completes one, and that comment. -/
lemma Scan.Tracks.finding_eq_comment_iff {keepPadding : Bool} {lines : List Text} {i : Nat}
    {line : Text} {scan : Scan} (tracks : scan.Tracks keepPadding lines i)
    (here : lines[i]? = some line) (found : List (Line Nat)) :
    (scan.step keepPadding line).2 = .comment found ↔ Completes keepPadding lines i found := by
  constructor
  · intro finding
    have fits := kind_fits keepPadding line
    unfold Scan.step at finding
    cases kind : LineKind.of keepPadding line with
    | oneLine text =>
        have whole : oneLineText? line = some text := by simpa only [kind, LineKind.Fits] using fits
        simp only [kind, Finding.comment.injEq] at finding
        rw [← finding, tracks.next]
        exact .oneLine here whole
    | closing =>
        have closes : isClosing line = true := by simpa only [kind, LineKind.Fits] using fits
        cases pending : scan.pending with
        | none => simp [kind, pending] at finding
        | some comment =>
            obtain ⟨j, opened, rfl⟩ := (tracks.pending comment).mp pending
            simp only [kind, pending, Pending.close, tracks.next, List.reverse_reverse,
              Finding.comment.injEq] at finding
            rw [← finding]
            exact .closing here closes opened
    | opening => simp [kind] at finding
    | interior content => cases pending : scan.pending <;> simp [kind, pending] at finding
    | other => cases pending : scan.pending <;> simp [kind, pending] at finding
  · intro completes
    cases completes with
    | oneLine found whole =>
        cases here.symm.trans found
        simp [Scan.step, kind_eq_oneLine_iff.mpr whole, tracks.next]
    | closing found closes opened =>
        cases here.symm.trans found
        have pending := (tracks.pending _).mpr ⟨_, opened, rfl⟩
        simp [Scan.step, kind_eq_closing_iff.mpr closes, pending, Pending.close, tracks.next]

lemma Finding.outcome_of_ne_comment (options : Options) {finding : Finding}
    (noComment : ∀ found, finding ≠ .comment found) :
    (finding.outcome options).outcome = .ok none := by
  cases finding with
  | nothing => rfl
  | comment found => exact (noComment found rfl).elim
  | abandoned opened given => rfl

/-! ## The run of a reader -/

namespace Extractor

/-- The reader after some lines. -/
def after (reader : Extractor) (lines : List Text) : Extractor :=
  lines.foldl (fun reader line => (reader.feed line).1) reader

/-- What each of some lines comes to when they are fed in order. -/
def reports (reader : Extractor) : List Text → List (Report Nat (Option (Block Nat)))
  | [] => []
  | line :: rest => (reader.feed line).2 :: (reader.feed line).1.reports rest

lemma after_eq (reader : Extractor) (lines : List Text) :
    reader.after lines =
      ⟨reader.options, reader.scan.after (!reader.options.trim) lines⟩ := by
  induction lines generalizing reader with
  | nil => rfl
  | cons line rest ih => exact ih (reader.feed line).1

lemma reports_eq_outcomesFrom (reader : Extractor) (lines : List Text) :
    reader.reports lines = outcomesFrom reader.options reader.scan lines := by
  induction lines generalizing reader with
  | nil => rfl
  | cons line rest ih => simp only [reports, ih]; rfl

lemma getElem?_reports (reader : Extractor) (lines : List Text) (i : Nat) :
    (reader.reports lines)[i]? =
      lines[i]?.map fun line => ((reader.after (lines.take i)).feed line).2 := by
  induction lines generalizing reader i with
  | nil => simp [reports]
  | cons line rest ih =>
      cases i with
      | zero => rfl
      | succ i => exact ih (reader.feed line).1 i

@[simp] lemma length_reports (reader : Extractor) (lines : List Text) :
    (reader.reports lines).length = lines.length := by
  induction lines generalizing reader with
  | nil => rfl
  | cons line rest ih => simp [reports, ih]

end Extractor

/-! ## Blocks from a stream of lines -/

/-- The blocks in reports on lines, each with the number of lines taken by then, of which `taken`
were taken before the first report. -/
def blocksOfReports (taken : Nat) (reports : List (Report Nat (Option (Block Nat)))) :
    List (Nat × Block Nat) :=
  (reports.zipIdx (taken + 1)).filterMap fun (report, taken) =>
    match report.outcome with
    | .ok (some block) => some (taken, block)
    | _ => none

/-- The first fault in reports on lines, with the number of lines taken by then. -/
def firstFault? (taken : Nat) (reports : List (Report Nat (Option (Block Nat)))) :
    Option (Nat × Fault) :=
  (reports.zipIdx (taken + 1)).findSome? fun (report, taken) =>
    match report.outcome with
    | .error fault => some (taken, fault)
    | .ok _ => none

section Stream

variable {taken : Nat} {report : Report Nat (Option (Block Nat))}
  {rest : List (Report Nat (Option (Block Nat)))}

lemma blocksOfReports_cons_of_ok {found : Option (Block Nat)} (ok : report.outcome = .ok found) :
    blocksOfReports taken (report :: rest) =
      found.toList.map ((taken + 1, ·)) ++ blocksOfReports (taken + 1) rest := by
  cases found <;> simp [blocksOfReports, ok]

lemma firstFault?_cons_of_ok {found : Option (Block Nat)} (ok : report.outcome = .ok found) :
    firstFault? taken (report :: rest) = firstFault? (taken + 1) rest := by
  simp [firstFault?, ok]

lemma firstFault?_cons_of_error {fault : Fault} (error : report.outcome = .error fault) :
    firstFault? taken (report :: rest) = some (taken + 1, fault) := by
  simp [firstFault?, error]

lemma takeWhile_cons_of_ok {found : Option (Block Nat)} (ok : report.outcome = .ok found) :
    (report :: rest).takeWhile (·.outcome.isOk) = report :: rest.takeWhile (·.outcome.isOk) := by
  simp [ok, Except.isOk, Except.toBool]

lemma takeWhile_cons_of_error {fault : Fault} (error : report.outcome = .error fault) :
    (report :: rest).takeWhile (·.outcome.isOk) = [] := by
  simp [error, Except.isOk, Except.toBool]

end Stream

/-- A stream yields the blocks in the reports before the first fault, and ends with that fault. -/
lemma harvestFrom_eq (reader : Extractor) (taken : Nat) (raw : List Text) :
    let reports := reader.reports (raw.map dropNewline)
    let harvest := harvestFrom reader taken (raw.map .text)
    harvest.blocks = blocksOfReports taken (reports.takeWhile (·.outcome.isOk)) ∧
      harvest.stop = firstFault? taken reports := by
  induction raw generalizing reader taken with
  | nil => exact ⟨rfl, rfl⟩
  | cons line rest ih =>
      obtain ⟨blocks, stop⟩ := ih (reader.feed (dropNewline line)).1 (taken + 1)
      simp only [List.map_cons, Extractor.reports, harvestFrom, streamLine]
      cases outcome : (reader.feed (dropNewline line)).2.outcome with
      | error fault =>
          rw [takeWhile_cons_of_error outcome, firstFault?_cons_of_error outcome]
          exact ⟨rfl, rfl⟩
      | ok found =>
          rw [takeWhile_cons_of_ok outcome, blocksOfReports_cons_of_ok outcome,
            firstFault?_cons_of_ok outcome, ← blocks, ← stop]
          exact ⟨rfl, rfl⟩

/-- Gathering has all the blocks, unless there is a fault: then it ends with the first. -/
lemma outcome_gather (taken : Nat) (reports : List (Report Nat (Option (Block Nat)))) :
    (gather reports).outcome =
      match firstFault? taken reports with
      | some (_, fault) => .error fault
      | none => .ok ((blocksOfReports taken reports).map (·.2)) := by
  induction reports generalizing taken with
  | nil => rfl
  | cons report rest ih =>
      simp only [gather, Report.outcome_bind, Report.outcome_map, ih (taken + 1)]
      cases outcome : report.outcome with
      | error fault => simp only [firstFault?_cons_of_error outcome, Except.bind]
      | ok found =>
          simp only [firstFault?_cons_of_ok outcome, blocksOfReports_cons_of_ok outcome,
            Except.bind]
          cases firstFault? (taken + 1) rest <;> simp [Except.map, Function.comp_def]

/-! ## The description is what a reader finds -/

/-- **A reader finds the comments that the lines complete.**  Fed with lines in order, it comes at
each line to the block of the comment that the line completes, or to the fault of parsing that
comment, and to nothing at a line that completes none; a comment is open after a line exactly if an
opening line up to there leaves one open.  A stream of such lines, each with a newline at its end
or without, yields the blocks among these outcomes in their order, up to the first fault, and so
does parsing the lines at once. -/
theorem reader_finds_completed_comments (options : Options) (lines : List Text) :
    ((Extractor.start options).reports lines).length = lines.length ∧
    (∀ i report, ((Extractor.start options).reports lines)[i]? = some report →
      (∀ found, Completes (!options.trim) lines i found →
        report.outcome = (parseBlock options found).outcome) ∧
      ((∀ found, ¬ Completes (!options.trim) lines i found) → report.outcome = .ok none) ∧
      (((Extractor.start options).after (lines.take (i + 1))).scan.isCollecting = true ↔
        ∃ j, OpenFrom lines j (i + 1))) ∧
    ∀ raw : List Text, raw.map dropNewline = lines →
      let reports := (Extractor.start options).reports lines
      let harvest := harvestFrom (.start options) 0 (raw.map .text)
      harvest.blocks = blocksOfReports 0 (reports.takeWhile (·.outcome.isOk)) ∧
      harvest.stop = firstFault? 0 reports ∧
      (parseLines options lines).outcome =
        match firstFault? 0 reports with
        | some (_, fault) => .error fault
        | none => .ok ((blocksOfReports 0 reports).map (·.2)) := by
  refine ⟨Extractor.length_reports _ _, ?_, ?_⟩
  · intro i report reported
    rw [Extractor.getElem?_reports, Option.map_eq_some_iff] at reported
    obtain ⟨line, here, rfl⟩ := reported
    have within : i < lines.length := (List.getElem?_eq_some_iff.mp here).1
    have tracks := tracks_after (!options.trim) lines within.le
    have outcome_eq :
        (((Extractor.start options).after (lines.take i)).feed line).2.outcome =
          (((Scan.start.after (!options.trim) (lines.take i)).step (!options.trim) line).2.outcome
            options).outcome := by
      rw [Extractor.after_eq]
      rfl
    refine ⟨fun found completes => ?_, fun completesNone => ?_, ?_⟩
    · rw [outcome_eq, (tracks.finding_eq_comment_iff here found).mpr completes]
      rfl
    · rw [outcome_eq]
      refine Finding.outcome_of_ne_comment options fun found finding => ?_
      exact completesNone found ((tracks.finding_eq_comment_iff here found).mp finding)
    · rw [Extractor.after_eq]
      exact (tracks_after (!options.trim) lines within).isCollecting_iff
  · rintro raw rfl
    obtain ⟨blocks, stop⟩ := harvestFrom_eq (.start options) 0 raw
    refine ⟨blocks, stop, ?_⟩
    rw [Extractor.reports_eq_outcomesFrom]
    exact outcome_gather 0 _

/-- A comment with another one inside that stands on one line. -/
def commentAround : List Text := ["/**".toList, " * a".toList, "/** b */".toList, " */".toList]

/-- The closing line completes the outer comment, the line inside is not counted, and a stream of
the same lines with newlines yields the blocks of both. -/
theorem reader_finds_comment_around_another :
    (∃ report, ((Extractor.start .default).reports commentAround)[3]? = some report ∧
      report.outcome =
        (parseBlock .default [⟨[], 0⟩, ⟨"a".toList, 1⟩, ⟨[], 2⟩]).outcome) ∧
    (commentAround.map (· ++ ['\n'])).map dropNewline = commentAround ∧
    (harvestFrom (.start .default) 0 ((commentAround.map (· ++ ['\n'])).map .text)).blocks =
      blocksOfReports 0
        (((Extractor.start .default).reports commentAround).takeWhile (·.outcome.isOk)) := by
  obtain ⟨sameLength, each, stream⟩ := reader_finds_completed_comments .default commentAround
  have newlines : (commentAround.map (· ++ ['\n'])).map dropNewline = commentAround := by rfl
  have opened : OpenFrom commentAround 0 3 := by
    refine ⟨by decide, ⟨"/**".toList, rfl, by decide⟩, fun k line after before here => ?_⟩
    obtain rfl | rfl : k = 1 ∨ k = 2 := by omega
    · cases here
      decide
    · cases here
      decide
  have closes : isClosing " */".toList = true := by decide
  have completes : Completes (!Options.default.trim) commentAround 3
      [⟨[], 0⟩, ⟨"a".toList, 1⟩, ⟨[], 2⟩] := .closing rfl closes opened
  refine ⟨?_, newlines, (stream _ newlines).1⟩
  have within : 3 < ((Extractor.start .default).reports commentAround).length := by
    rw [sameLength]
    decide
  refine ⟨_, List.getElem?_eq_getElem within, ?_⟩
  exact (each 3 _ (List.getElem?_eq_getElem within)).1 _ completes

end DocComment
