import DocComment.Proofs.CheckedRuns
import DocComment.Proofs.RecordedFailures
import DocComment.Proofs.Utf8

/-!
# Runs of `parse` on what they read

A run of `parse` reads a file or the standard input (`Reads`).  If the octets spell a text, either
way the run reports the blocks of that text with its line ends unified (`runParse_eq_report`): that
a stream delivers no line behind a newline at the end makes no difference, because an empty line
comes to no block.

If they spell none, the two ways part (`file_and_input_agree_iff`).  A file is always taken for
UTF-8, and a run on one that is not tells so.  What the standard input is taken for is left to the
machine, but whatever it delivers, a run never tells of a failure to read it.
-/

namespace DocComment

open CommandLine Text

/-! ## The lines of a stream -/

section Stream

variable (options : Options)

lemma outcome_finding_nil (keepPadding : Bool) (scan : Scan) :
    ((scan.step keepPadding []).2.outcome options).outcome = .ok none := by
  have kind : LineKind.of keepPadding [] = .other := by cases keepPadding <;> rfl
  rw [Scan.step, kind]
  cases scan.pending <;> rfl

/-- An empty line at the end of a document does not change what the document comes to. -/
lemma outcome_parseLines_concat_nil (lines : List Text) :
    (parseLines options (lines ++ [[]])).outcome = (parseLines options lines).outcome := by
  have last := outcome_finding_nil options (!options.trim)
    (Scan.start.after (!options.trim) lines)
  simp only [parseLines, outcomes, outcomesFrom, Scan.findings_append, List.map_append,
    outcome_gather_eq_collect, collect_append, Scan.findings, List.map_cons, List.map_nil, last]
  cases collect _ <;> simp [collect, Except.bind, Except.map]

lemma outcome_parseLines_deliveredLines (text : Text) :
    (parseLines options (deliveredLines text)).outcome = (parse options text).outcome := by
  rw [deliveredLines, parse]
  split
  · rename_i ends
    have parts := List.dropLast_append_getLast? [] ends
    rw [← outcome_parseLines_concat_nil, parts]
  · rfl

/-- A stream that spells a text comes to what the text comes to. -/
lemma outcome_parseStream_encode (text : Text) :
    (parseStream options (Utf8.encode text)).outcome =
      (parse options (unifyLineEnds text)).outcome.mapError .fault := by
  have delivered := Utf8.deliver_of_decode (Utf8.decode_encode text)
  simp only [parseStream, parseDelivery, delivered, outcome_parseLines_deliveredLines]
  cases (parse options (unifyLineEnds text)).outcome <;> rfl

/-- A delivery that a fault ends comes to that fault, if all that was read before can be parsed. -/
lemma outcome_parseDelivery_of_fault {options : Options}
    (isTyped : ∀ parser ∈ options.parsers, parser.IsTyped) {delivery : Utf8.Delivery}
    {fault : Utf8.Fault} (faulty : delivery.fault = some fault) :
    (parseDelivery options delivery).outcome = .error (.encoding fault) := by
  obtain ⟨blocks, parsed, -⟩ := exists_complete_blocks options isTyped delivery.lines
  simp only [parseDelivery, parsed, faulty]

lemma exists_fault_deliver_of_not_utf8 {octets : List UInt8}
    (invalid : ∀ text, octets ≠ Utf8.encode text) :
    ∃ fault, (Utf8.deliver octets).fault = some fault := by
  cases decoded : Utf8.decode octets with
  | ok text => exact absurd (Utf8.decode_eq_ok_iff.mp decoded) (invalid text)
  | error fault => simp [Utf8.deliver, decoded]

end Stream

/-! ## What a run reads -/

namespace CommandLine

/-- The octets that a run of `parse` reads: those of the file at the path, or, without a path or
with an empty one, those of the standard input. -/
inductive Reads (files : Files) (input : List UInt8) : Option Text → List UInt8 → Prop
  | input : Reads files input none input
  | emptyPath : Reads files input (some []) input
  | file {path : Text} {octets : List UInt8} (isPath : path ≠ [])
      (holds : files path = .octets octets) : Reads files input (some path) octets

/-- The log of a run that has read blocks from octets. -/
def readLog (request : Request) (octets : List UInt8) (blocks : List (Block Nat)) :
    List LogRecord :=
  let origin := match request.path with
    | none | some [] => "<stdin>".toList
    | some path => path
  logOf request.level (notesLog (parseStream request.options octets).notes ++
    [extractedRecord blocks.length origin])

section Runs

variable {machine : Machine} {files : Files} {input octets : List UInt8} {request : Request}

lemma runParse_file {path : Text} (isPath : path ≠ []) (named : request.path = some path) :
    runParse machine files input request = runParseFile machine files request path := by
  obtain ⟨c, rest, rfl⟩ := List.exists_cons_of_ne_nil isPath
  rw [runParse, named]

lemma runParse_input (unnamed : request.path = none) :
    runParse machine files input request = runParseInput machine request input := by
  rw [runParse, unnamed]

/-- **A run reports the blocks of the text that it reads**, with its line ends unified. -/
lemma runParse_eq_report (request : Request) (readsUtf8 : machine.ReadsUtf8) {text : Text}
    (reads : Reads files input request.path (Utf8.encode text)) {blocks : List (Block Nat)}
    (parsed : (parse request.options (unifyLineEnds text)).outcome = .ok blocks) :
    runParse machine files input request =
      report machine request (readLog request (Utf8.encode text) blocks) blocks := by
  have streamed := outcome_parseStream_encode request.options text
  rw [parsed, parseStream] at streamed
  have delivered := readsUtf8 text
  generalize Utf8.encode text = octets at reads streamed delivered ⊢
  generalize named : request.path = path at reads
  cases reads with
  | input | emptyPath =>
      simp only [runParse, named, runParseInput, delivered, streamed, Except.mapError, readLog,
        parseStream]
  | @file path octets isPath holds =>
      have settings : OptionsInput.read (.settings request.settings) = .ok request.options := rfl
      rw [runParse_file isPath named]
      simp only [runParseFile, parseFile, holds, FileState.read, settings, parseStream, streamed,
        Except.mapError, readLog, named]

lemma runParseInput_of_fault {fault : Utf8.Fault}
    (faulty : (machine.deliver input).fault = some fault) :
    runParseInput machine request input = .breakdown (.encoding fault) := by
  have isTyped : ∀ parser ∈ request.options.parsers, parser.IsTyped := Builtin.isTyped_parsers
  have read := outcome_parseDelivery_of_fault isTyped faulty
  simp only [runParseInput, read]

lemma tellsReadFailure_of_not_utf8 {path : Text} (holds : files path = .octets octets)
    (invalid : ∀ text, octets ≠ Utf8.encode text) :
    (runParseFile machine files request path).Tells "read_failed" := by
  obtain ⟨fault, faulty⟩ := exists_fault_deliver_of_not_utf8 invalid
  have isTyped : ∀ parser ∈ request.options.parsers, parser.IsTyped := Builtin.isTyped_parsers
  have read := outcome_parseDelivery_of_fault isTyped faulty
  have settings : OptionsInput.read (.settings request.settings) = .ok request.options := rfl
  simp only [runParseFile, parseFile, holds, FileState.read, settings, parseStream, read,
    Except.mapError]
  exact ⟨_, _, _, rfl⟩

end Runs

/-! ## What a report comes to -/

section Report

variable {machine : Machine} {request : Request} {blocks : List (Block Nat)}
  (log : List LogRecord) (complete : ∀ block ∈ blocks, CompleteForest block.tags)

include complete

/-- Blocks that checking gets through are printed, or the failures in them where failures count. -/
lemma report_of_reached
    (reached : machine.checker.reaches (.ofValue (blocksValue blocks)) = true)
    {told : List Value} (failures : blockFailures blocks = .ok told) :
    report machine request log blocks =
      if request.strict = true ∧ told ≠ [] then
        failing log "tag_errors" s!"{told.length} tag(s) could not be parsed"
          [("tags", .list told)]
      else print machine request.indentation log (blocksValue blocks) := by
  rw [report, (foundSound_of_complete complete).judged, if_pos reached]
  cases strict : request.strict with
  | false => simp
  | true => cases told <;> simp [failures]

lemma report_of_not_reached
    (beyond : machine.checker.reaches (.ofValue (blocksValue blocks)) = false) :
    report machine request log blocks = .breakdown .tooDeep := by
  rw [report, (foundSound_of_complete complete).judged, if_neg (by simp [beyond])]

end Report

/-- The ending without what was logged on the way. -/
def Ending.unlogged : Ending → Ending
  | .exit code output _ => .exit code output []
  | other => other

lemma unlogged_print (machine : Machine) (indentation : Option Int) (log other : List LogRecord)
    (blocks : Value) :
    (print machine indentation log blocks).unlogged =
      (print machine indentation other blocks).unlogged := by
  unfold print
  split <;> rfl

/-- Blocks are reported in the same way whatever the log, and wherever they were read. -/
lemma unlogged_report (machine : Machine) (request : Request) (path otherPath : Option Text)
    (log other : List LogRecord) (blocks : List (Block Nat)) :
    (report machine { request with path := path } log blocks).unlogged =
      (report machine { request with path := otherPath } other blocks).unlogged := by
  unfold report
  split
  · rfl
  · rfl
  · dsimp only
    split
    · split
      · rfl
      · exact unlogged_print _ _ _ _ _
      · rfl
    · exact unlogged_print _ _ _ _ _

/-! ## A file and the standard input -/

/-- A run ends by printing a document and exiting with this code. -/
def Ending.PrintsDocument (ending : Ending) (code : Nat) : Prop :=
  ∃ style value log, ending = .exit code (document style value) log

/-- A run on a file with these octets and one on the same octets from the standard input both end
with a document and with the same code, which is 0 or 2; the documents are the same if the octets
are UTF-8, and both tell of a failure to read if they are not. -/
structure InputsAgree (octets : List UInt8) (fromFile fromInput : Ending) : Prop where
  ended : ∃ code, (code = 0 ∨ code = 2) ∧ fromFile.PrintsDocument code ∧
    fromInput.PrintsDocument code
  same : (∃ text, octets = Utf8.encode text) → fromFile.unlogged = fromInput.unlogged
  unreadable : (∀ text, octets ≠ Utf8.encode text) →
    fromFile.Tells "read_failed" ∧ fromInput.Tells "read_failed"

/-- There is something to print for blocks: there is no obstacle to printing them, or failures are
printed in their place. -/
def Printable (machine : Machine) (request : Request) (blocks : List (Block Nat)) : Prop :=
  machine.obstacle? request.indentation (.ofValue (blocksValue blocks)) = none ∨
    request.strict = true ∧ ∃ told, told ≠ [] ∧ blockFailures blocks = .ok told

lemma printsDocument_print_iff {machine : Machine} {indentation : Option Int}
    {log : List LogRecord} {blocks : Value} {code : Nat} :
    (print machine indentation log blocks).PrintsDocument code ↔
      code = 0 ∧ machine.obstacle? indentation (.ofValue blocks) = none := by
  rw [print]
  cases machine.obstacle? indentation (.ofValue blocks) with
  | some reason => simp [Ending.PrintsDocument]
  | none =>
      constructor
      · rintro ⟨_, _, _, ended⟩
        exact ⟨(Ending.exit.inj ended).1.symm, rfl⟩
      · rintro ⟨rfl, -⟩
        exact ⟨_, blocks, log, rfl⟩

/-- What is logged does not show in what is printed. -/
lemma Ending.PrintsDocument.of_unlogged {ending other : Ending} {code : Nat}
    (prints : ending.PrintsDocument code) (same : other.unlogged = ending.unlogged) :
    other.PrintsDocument code := by
  obtain ⟨style, value, log, rfl⟩ := prints
  cases other with
  | usage => cases same
  | breakdown reason => cases same
  | exit otherCode output otherLog =>
      obtain ⟨rfl, rfl, -⟩ := Ending.exit.inj same
      exact ⟨style, value, otherLog, rfl⟩

/-- A report ends with a document exactly if checking gets through the blocks and there is something
to print for them. -/
lemma printsDocument_report_iff (machine : Machine) (request : Request)
    {blocks : List (Block Nat)} (log : List LogRecord)
    (complete : ∀ block ∈ blocks, CompleteForest block.tags) :
    (∃ code, (code = 0 ∨ code = 2) ∧ (report machine request log blocks).PrintsDocument code) ↔
      machine.checker.reaches (.ofValue (blocksValue blocks)) = true ∧
        Printable machine request blocks := by
  cases reached : machine.checker.reaches (.ofValue (blocksValue blocks)) with
  | true =>
      have failures := blockFailures_eq complete
      rw [report_of_reached log complete reached failures, Printable, failures]
      generalize (blocks.flatMap fun block => recordedFailures block.tags) = told
      by_cases fails : request.strict = true ∧ told ≠ []
      · rw [if_pos fails]
        exact iff_of_true ⟨2, .inr rfl, _, _, _, rfl⟩ ⟨rfl, .inr ⟨fails.1, told, fails.2, rfl⟩⟩
      · simp only [if_neg fails, printsDocument_print_iff]
        constructor
        · rintro ⟨_, -, -, printable⟩
          exact ⟨trivial, .inl printable⟩
        · rintro ⟨-, printable | ⟨strict, _, some, ⟨⟩⟩⟩
          · exact ⟨0, .inl rfl, rfl, printable⟩
          · exact absurd ⟨strict, some⟩ fails
  | false =>
      rw [report_of_not_reached log complete reached]
      refine iff_of_false ?_ (by simp)
      rintro ⟨_, -, _, _, _, ended⟩
      cases ended

section Texts

variable {machine : Machine} {files : Files} (readsUtf8 : machine.ReadsUtf8) {text : Text}

include readsUtf8

/-- Octets that spell a text are read alike wherever they stand. -/
lemma unlogged_runParse_eq {input otherInput : List UInt8} {path otherPath : Option Text}
    (request : Request) (reads : Reads files input path (Utf8.encode text))
    (otherReads : Reads files otherInput otherPath (Utf8.encode text)) :
    (runParse machine files input { request with path := path }).unlogged =
      (runParse machine files otherInput { request with path := otherPath }).unlogged := by
  obtain ⟨blocks, parsed, -⟩ := exists_complete_blocks request.options Builtin.isTyped_parsers
    (pieces '\n' (unifyLineEnds text))
  -- The logs name the places that were read, so the endings are compared without them.
  rw [runParse_eq_report { request with path := path } readsUtf8 reads parsed,
    runParse_eq_report { request with path := otherPath } readsUtf8 otherReads parsed]
  exact unlogged_report machine request _ _ _ _ blocks

/-- A run on a text ends with a document exactly if checking gets through its blocks and there is
something to print for them. -/
lemma printsDocument_runParse_iff {input : List UInt8} (request : Request)
    (reads : Reads files input request.path (Utf8.encode text)) :
    (∃ code, (code = 0 ∨ code = 2) ∧
        (runParse machine files input request).PrintsDocument code) ↔
      ∃ blocks, (parse request.options (unifyLineEnds text)).outcome = .ok blocks ∧
        machine.checker.reaches (.ofValue (blocksValue blocks)) = true ∧
        Printable machine request blocks := by
  obtain ⟨blocks, parsed, complete, -⟩ := exists_complete_blocks request.options
    Builtin.isTyped_parsers (pieces '\n' (unifyLineEnds text))
  have parsed : (parse request.options (unifyLineEnds text)).outcome = .ok blocks := parsed
  rw [runParse_eq_report request readsUtf8 reads parsed, printsDocument_report_iff _ _ _ complete,
    parsed]
  simp

end Texts

/-- **When a file and the standard input are read alike.**  On a machine whose standard input is
UTF-8, a run on a file whose octets spell a text ends as one that reads them from the standard
input.  Where the octets spell none, the run on the file tells that it cannot be read; the other one
never does, and it breaks down where the standard input delivers a fault.  So the two agree exactly
if the octets spell a text, checking gets through its blocks, and there is something to print for
them. -/
theorem file_and_input_agree_iff (machine : Machine) (readsUtf8 : machine.ReadsUtf8)
    (files : Files) (input octets : List UInt8) {path : Text} (isPath : path ≠ [])
    (holds : files path = .octets octets) (request : Request) :
    let fromFile := runParse machine files input { request with path := some path }
    let fromInput := runParse machine files octets { request with path := none }
    ((∃ text, octets = Utf8.encode text) → fromFile.unlogged = fromInput.unlogged) ∧
    ((∀ text, octets ≠ Utf8.encode text) →
      fromFile.Tells "read_failed" ∧ ¬ fromInput.Tells "read_failed" ∧
        ∀ fault, (machine.deliver octets).fault = some fault →
          fromInput = .breakdown (.encoding fault)) ∧
    (InputsAgree octets fromFile fromInput ↔
      ∃ text blocks, octets = Utf8.encode text ∧
        (parse request.options (unifyLineEnds text)).outcome = .ok blocks ∧
        machine.checker.reaches (.ofValue (blocksValue blocks)) = true ∧
        Printable machine request blocks) := by
  intro fromFile fromInput
  have ofFile : fromFile =
      runParseFile machine files { request with path := some path } path :=
    runParse_file isPath rfl
  have ofInput : fromInput = runParseInput machine { request with path := none } octets :=
    runParse_input rfl
  have silent : ¬ fromInput.Tells "read_failed" := by
    rw [ofInput]
    exact not_tells_runParseInput _ _ _ (.inr rfl)
  have unreadable : (∀ text, octets ≠ Utf8.encode text) →
      fromFile.Tells "read_failed" ∧ ¬ fromInput.Tells "read_failed" ∧
        ∀ fault, (machine.deliver octets).fault = some fault →
          fromInput = .breakdown (.encoding fault) := by
    intro invalid
    rw [ofFile, ofInput] at *
    exact ⟨tellsReadFailure_of_not_utf8 holds invalid, silent, fun _ => runParseInput_of_fault⟩
  by_cases valid : ∃ text, octets = Utf8.encode text
  · obtain ⟨text, rfl⟩ := valid
    have same : fromFile.unlogged = fromInput.unlogged :=
      unlogged_runParse_eq readsUtf8 request (.file isPath holds) .input
    have reads : Reads files (Utf8.encode text) none (Utf8.encode text) := .input
    have prints_iff := printsDocument_runParse_iff readsUtf8 { request with path := none } reads
    refine ⟨fun _ => same, unreadable, ?_, ?_⟩
    · rintro ⟨⟨code, isCode, -, prints⟩, -, -⟩
      obtain ⟨blocks, parsed, printable⟩ := prints_iff.mp ⟨code, isCode, prints⟩
      exact ⟨text, blocks, rfl, parsed, printable⟩
    · rintro ⟨other, blocks, spelled, parsed, printable⟩
      obtain rfl := Utf8.encode_injective spelled
      obtain ⟨code, isCode, prints⟩ := prints_iff.mpr ⟨blocks, parsed, printable⟩
      refine ⟨⟨code, isCode, prints.of_unlogged same, prints⟩, fun _ => same, fun invalid => ?_⟩
      exact absurd rfl (invalid text)
  · have invalid : ∀ text, octets ≠ Utf8.encode text := fun text spelled => valid ⟨text, spelled⟩
    refine ⟨fun spelled => absurd spelled valid, unreadable, iff_of_false ?_ ?_⟩
    · exact fun agree => silent (agree.unreadable invalid).2
    · rintro ⟨text, _, spelled, -⟩
      exact valid ⟨text, spelled⟩

/-- A single file. -/
def singleFile (path : String) (octets : List UInt8) : Files := fun other =>
  if other = path.toList then .octets octets else .refused .missing

/-- What is asked for where nothing is said. -/
def plainRequest : Request := ⟨.warning, none, true, false, false, none⟩

/-- A comment with characters that take two, three and four octets, and a carriage return for the
end of its last line. -/
def beyondAscii : Text := "/**\n * @π \x7b€\x7d 𝄞.é\r\n */\r".toList

theorem file_and_input_agree_beyond_ascii :
    let octets := Utf8.encode beyondAscii
    let files := singleFile "f" octets
    let request := { plainRequest with indentation := some 2 }
    Machine.standard.ReadsUtf8 ∧ "f".toList ≠ [] ∧ files "f".toList = .octets octets ∧
      InputsAgree octets
        (runParse .standard files [] { request with path := some "f".toList })
        (runParse .standard files octets { request with path := none }) := by
  intro octets files request
  have holds : files "f".toList = .octets octets := rfl
  obtain ⟨-, -, agree_iff⟩ := file_and_input_agree_iff .standard Machine.readsUtf8_standard files
    [] octets (by decide) holds request
  obtain ⟨blocks, parsed, -⟩ := exists_complete_blocks ⟨true, false, Builtin.parsers⟩
    Builtin.isTyped_parsers (pieces '\n' (unifyLineEnds beyondAscii))
  have shallow : (match (parse ⟨true, false, Builtin.parsers⟩ (unifyLineEnds beyondAscii)).outcome
      with
      | .ok blocks => Machine.standard.checker.reaches (.ofValue (blocksValue blocks))
      | .error _ => false) = true := by decide +kernel
  rw [parse, parsed] at shallow
  refine ⟨Machine.readsUtf8_standard, by decide, holds, agree_iff.mpr ?_⟩
  exact ⟨beyondAscii, blocks, rfl, parsed, shallow, .inl rfl⟩

/-- An octet with which no character begins is told of where it stands in a file, and breaks a run
down that reads it from a standard input that takes nothing but UTF-8. -/
theorem file_and_input_disagree_on_stray_octet :
    let files := singleFile "f" [0xff]
    ¬ InputsAgree [0xff]
      (runParse .standard files [] { plainRequest with path := some "f".toList })
      (runParse .standard files [0xff] plainRequest) := by
  intro files
  have broken : runParse .standard files [0xff] plainRequest =
      .breakdown (.encoding ⟨.invalidStart, 0, [0xff]⟩) := rfl
  rintro ⟨⟨_, -, -, _, _, _, prints⟩, -, -⟩
  rw [broken] at prints
  cases prints

/-! ## Tags beyond the reach of checking -/

lemma unifyLineEnds_of_not_mem {text : Text} (noReturn : '\r' ∉ text) :
    unifyLineEnds text = text := by
  induction text with
  | nil => rfl
  | cons c rest ih =>
      rw [List.mem_cons, not_or] at noReturn
      have other : c ≠ '\r' := Ne.symm noReturn.1
      have kept : unifyLineEnds (c :: rest) = c :: unifyLineEnds rest := by
        rw [unifyLineEnds] <;> simp [other]
      rw [kept, ih noReturn.2]

/-- A run that nests a tag whose name has four hundred parts breaks down. -/
lemma runParse_deeplyDotted {files : Files} {input : List UInt8} {request : Request}
    (trims : request.trim = true) (nests : request.dottedNames = true)
    (reads : Reads files input request.path (Utf8.encode deeplyDotted)) :
    runParse .standard files input request = .breakdown .tooDeep := by
  have options : request.options = ⟨true, true, Builtin.parsers⟩ := by
    obtain ⟨level, path, trim, dottedNames, strict, indentation⟩ := request
    cases trims
    cases nests
    rfl
  obtain ⟨blocks, parsed, beyond⟩ := exists_blocks_deeplyDotted
  obtain ⟨found, same, complete, -⟩ := exists_complete_blocks ⟨true, true, Builtin.parsers⟩
    Builtin.isTyped_parsers (pieces '\n' deeplyDotted)
  obtain rfl := Except.ok.inj (parsed.symm.trans same)
  have oneLine : unifyLineEnds deeplyDotted = deeplyDotted :=
    unifyLineEnds_of_not_mem (by decide +kernel)
  rw [runParse_eq_report request Machine.readsUtf8_standard reads
    (by rw [options, oneLine]; exact parsed)]
  exact report_of_not_reached _ complete beyond

end CommandLine

end DocComment
