import DocComment.Proofs.LegibleBlocks
import DocComment.Proofs.StrictRuns

/-!
# What is printed is read back

A run of `parse` that is not strict prints the blocks of the text that it reads.  Whatever the
indentation, the output is a JSON document that is read back as these blocks, and a run of
`validate` accepts a file with the output and counts them (`printed_blocks_are_read_back`).

The machine sets limits to that: checking has to get through the nested tags, and there must be no
obstacle to printing with the indentation.  Beyond either of them nothing is printed at all
(`nothing_is_printed_beyond_limits`).
-/

namespace DocComment.CommandLine

open DocComment Text

/-! ## Validating what was printed -/

/-- The ending that tells of a list of so many blocks. -/
def accepted (count : Nat) : Ending :=
  .exit 0 (document .oneLine (.record [("ok", .bool true), ("blocks", .ofNat count)])) []

/-- A run of `validate` on a file that holds a text ends by what is said of this text. -/
lemma runValidate_eq_ending {machine : Machine} {files : Files} {path : Text}
    {octets : List UInt8} {text : Text} (holds : files (Path.normalize path) = .octets octets)
    (decoded : Utf8.decode octets = .ok text) :
    runValidate machine files path = (judge machine (unifyLineEnds text)).ending path := by
  simp only [runValidate, holds, FileState.read, decoded]

/-- A file from which blocks are read that checking accepts is accepted. -/
lemma runValidate_eq_accepted {machine : Machine} {files : Files} {path text : Text}
    {blocks : List (Block Nat)} (holds : files (Path.normalize path) = .octets (Utf8.encode text))
    (readBack : Json.read machine.readingLevels (unifyLineEnds text) =
      .ok (.ofValue (blocksValue blocks)))
    (conforming : Schema.judge (.ofValue (blocksValue blocks)) machine.checker = .conforming) :
    runValidate machine files path = accepted blocks.length := by
  have isArray : Json.ofValue (blocksValue blocks) =
      .array (blocks.map fun block => .ofValue (block.toValue Value.ofNat)) := by
    rw [blocksValue, Json.ofValue, Schema.ofValues_eq_map, List.map_map]
    rfl
  have judged : judge machine (unifyLineEnds text) = .blocks blocks.length := by
    rw [judge, readBack]
    dsimp only
    rw [conforming, isArray]
    dsimp only
    rw [List.length_map]
  rw [runValidate_eq_ending holds (Utf8.decode_encode text), judged]
  rfl

/-! ## Printing and reading back -/

/-- A legible document on lines of its own has no carriage return in it. -/
lemma unifyLineEnds_document {value : Value} (legible : Json.Legible (.ofValue value))
    (style : Json.Style) : unifyLineEnds (document style value) = document style value := by
  refine unifyLineEnds_of_not_mem fun found => ?_
  rcases List.mem_append.mp found with inside | behind
  · have printed := legible.isPrinted style 0 '\r' inside
    simp [Json.IsPrinted] at printed
  · simp at behind

/-- The output of a run is read back as blocks by every reader that enters their levels, and a run
of `validate` on a file with the output accepts it and counts them, on every machine that reads and
checks so many levels. -/
structure IsReadBack (output : Text) (blocks : List (Block Nat)) : Prop where
  read : ∀ levels, (Json.ofValue (blocksValue blocks)).levels ≤ levels →
    Json.read levels output = .ok (.ofValue (blocksValue blocks))
  accepts : ∀ (machine : Machine) (files : Files) (path : Text),
    files (Path.normalize path) = .octets (Utf8.encode output) →
    (Json.ofValue (blocksValue blocks)).levels ≤ machine.readingLevels →
    machine.checker.reaches (.ofValue (blocksValue blocks)) = true →
      runValidate machine files path = accepted blocks.length

lemma isReadBack_document {lines : Nat} (few : Numberable lines)
    {blocks : List (Block Nat)} (printable : ∀ block ∈ blocks, block.IsPrintable lines)
    (style : Json.Style) : IsReadBack (document style (blocksValue blocks)) blocks := by
  have legible := legible_blocks few printable
  have sound := foundSound_of_complete fun block found => (printable block found).tags.complete
  have readBack : ∀ levels, (Json.ofValue (blocksValue blocks)).levels ≤ levels →
      Json.read levels (document style (blocksValue blocks)) = .ok (.ofValue (blocksValue blocks)) :=
    fun levels fits => Json.read_write legible fits style (by simp [Json.isSpace])
  refine ⟨readBack, fun machine files path holds fits reached => ?_⟩
  refine runValidate_eq_accepted holds ?_ ?_
  · rw [unifyLineEnds_document legible]
    exact readBack machine.readingLevels fits
  · rw [sound.judged, if_pos reached]

/-- **What is printed is read back.**  Let a run of `parse` read a text, not strictly, that has no
more lines than can be numbered with as many digits as are converted.  If checking gets through its
blocks and there is no obstacle to printing them, the run succeeds.  Then the output is a document
that is read back as the blocks of the text with its line ends unified, and a run of `validate` on a
file with the output accepts it and counts the blocks.  If there is an obstacle, or if checking does
not get through the blocks, the run breaks down. -/
theorem printed_blocks_are_read_back (machine : Machine) (readsUtf8 : machine.ReadsUtf8)
    (files : Files) (input : List UInt8) (request : Request) (notStrict : request.strict = false)
    {text : Text} (reads : Reads files input request.path (Utf8.encode text))
    (few : Numberable (pieces '\n' (unifyLineEnds text)).length) :
    ∃ blocks, (parse request.options (unifyLineEnds text)).outcome = .ok blocks ∧
      (machine.checker.reaches (.ofValue (blocksValue blocks)) = true →
        (machine.obstacle? request.indentation (.ofValue (blocksValue blocks)) = none →
          ∃ output log, runParse machine files input request = .exit 0 output log ∧
            IsReadBack output blocks) ∧
        ∀ reason,
          machine.obstacle? request.indentation (.ofValue (blocksValue blocks)) = some reason →
            runParse machine files input request = .breakdown reason) ∧
      (machine.checker.reaches (.ofValue (blocksValue blocks)) = false →
        runParse machine files input request = .breakdown .tooDeep) := by
  obtain ⟨blocks, parsed, printable⟩ :=
    exists_printable_blocks request.trim request.dottedNames (unifyLineEnds text)
  have complete := fun block found => (printable block found).tags.complete
  have reported := runParse_eq_report request readsUtf8 reads parsed
  refine ⟨blocks, parsed, fun reached => ?_, fun beyond => ?_⟩
  · have printed : runParse machine files input request = print machine request.indentation
        (readLog request (Utf8.encode text) blocks) (blocksValue blocks) := by
      rw [reported, report_of_reached _ complete reached (blockFailures_eq complete), if_neg]
      simp [notStrict]
    rw [printed, print]
    constructor
    · intro free
      rw [free]
      exact ⟨_, _, rfl, isReadBack_document few printable _⟩
    · intro reason stopped
      rw [stopped]
  · rw [reported]
    exact report_of_not_reached _ complete beyond

/-- A comment with quotes, a backslash, a control character and characters of two, three and four
octets, and with a tag that is nested below the next one. -/
def manyEscapes : Text :=
  "/**\r\n * \"Prägung\" \\ \x01 € 𝄞\r * @param \x7ba\x7d x.y [b=\"c\"]\n * @param x\n */".toList

theorem escaped_blocks_are_read_back :
    let files := singleFile "in" (Utf8.encode manyEscapes)
    let request : Request := ⟨.warning, some "in".toList, true, true, false, some 3⟩
    Machine.standard.ReadsUtf8 ∧ request.strict = false ∧
      Reads files [] request.path (Utf8.encode manyEscapes) ∧
      Numberable (pieces '\n' (unifyLineEnds manyEscapes)).length ∧
      ∃ output log blocks, runParse .standard files [] request = .exit 0 output log ∧
        Json.read Machine.standard.readingLevels output = .ok (.ofValue (blocksValue blocks)) ∧
        runValidate .standard (singleFile "out" (Utf8.encode output)) "./out".toList =
          accepted 1 := by
  intro files request
  have reads : Reads files [] request.path (Utf8.encode manyEscapes) := .file (by decide) rfl
  have few : Numberable (pieces '\n' (unifyLineEnds manyEscapes)).length :=
    show ∀ number < 5, (Decimal.numeral number).length ≤ integerDigitLimit by decide
  obtain ⟨blocks, parsed, printed, -⟩ := printed_blocks_are_read_back .standard
    Machine.readsUtf8_standard files [] request rfl reads few
  have shallow : ((parse ⟨true, true, Builtin.parsers⟩
      (unifyLineEnds manyEscapes)).outcome.toOption.map fun blocks =>
        (blocks.length, Machine.standard.checker.reaches (.ofValue (blocksValue blocks)),
          decide ((Json.ofValue (blocksValue blocks)).levels ≤ Machine.standard.readingLevels))) =
      some (1, true, true) := by
    decide +kernel
  have parsed : (parse ⟨true, true, Builtin.parsers⟩ (unifyLineEnds manyEscapes)).outcome =
    .ok blocks := parsed
  rw [parsed] at shallow
  simp only [Except.toOption, Option.map_some, Option.some.injEq, Prod.mk.injEq,
    decide_eq_true_eq] at shallow
  obtain ⟨single, reached, fits⟩ := shallow
  obtain ⟨output, log, ended, readBack⟩ := (printed reached).1 rfl
  refine ⟨Machine.readsUtf8_standard, rfl, reads, few, output, log, blocks, ended,
    readBack.read _ fits, ?_⟩
  rw [← single]
  exact readBack.accepts .standard _ "./out".toList rfl fits reached

theorem nothing_is_printed_beyond_limits :
    let files : Files := fun _ => .refused .missing
    runParse .standard files (Utf8.encode deeplyDotted) { plainRequest with dottedNames := true } =
        .breakdown .tooDeep ∧
      runParse .standard files [] { plainRequest with indentation := some 9223372036854775808 } =
        .breakdown .indentationOutOfRange := by
  intro files
  exact ⟨runParse_deeplyDotted rfl rfl .input, rfl⟩

end DocComment.CommandLine
