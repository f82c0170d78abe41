import DocComment.Proofs.CheckedBlocks
import DocComment.Proofs.Flattening
import DocComment.Tag.Script

/-!
# Checking never finds a violation

Whatever typed parsers read conforms to the shape of block lists, so a run of `parse` never ends
with the document of a violation (`checking_finds_no_violation`).  A checker accepts all that it gets
through; of tags that are nested deeper than that it says nothing
(`deeply_dotted_tag_is_not_accepted`).
-/

namespace DocComment

open CommandLine Schema

/-! ## Runs -/

namespace CommandLine

/-- A run ends with the document of this failure. -/
def Ending.Tells (ending : Ending) (error : String) : Prop :=
  ∃ log hint details, ending = failing log error hint details

/-- The letter that the documents of failures differ by.  It is the first one of what failed, behind
`{"error": "`. -/
def Ending.letter? : Ending → Option Char
  | .exit _ output _ => output[11]?
  | _ => none

section Letters

variable (log : List LogRecord) (hint : String) (details : Record)

@[simp] lemma letter?_tagErrors :
    (failing log "tag_errors" hint details).letter? = some 't' := rfl

@[simp] lemma letter?_readFailed :
    (failing log "read_failed" hint details).letter? = some 'r' := rfl

@[simp] lemma letter?_schemaInvalid :
    (failing log "schema_invalid" hint details).letter? = some 's' := rfl

end Letters

lemma not_tells_breakdown (reason : Breakdown) (error : String) :
    ¬ (Ending.breakdown reason).Tells error := by
  rintro ⟨log, hint, details, same⟩
  cases same

lemma not_tells_print (machine : Machine) (indentation : Option Int) (log : List LogRecord)
    (blocks : Value) (error : String) : ¬ (print machine indentation log blocks).Tells error := by
  unfold print
  split
  · exact not_tells_breakdown _ _
  · rintro ⟨otherLog, hint, details, same⟩
    simp [failing] at same

lemma not_tells_tagErrors {error : String}
    (other : error = "schema_invalid" ∨ error = "read_failed") (log : List LogRecord)
    (hint : String) (details : Record) :
    ¬ (failing log "tag_errors" hint details).Tells error := by
  rintro ⟨otherLog, otherHint, otherDetails, same⟩
  have letters := congrArg Ending.letter? same
  rcases other with rfl | rfl <;> simp at letters

lemma not_tellsViolation_readFailed (log : List LogRecord) (hint : String) (details : Record) :
    ¬ (failing log "read_failed" hint details).Tells "schema_invalid" := by
  rintro ⟨otherLog, otherHint, otherDetails, same⟩
  have letters := congrArg Ending.letter? same
  simp at letters

/-- Blocks with complete tags are printed, or fail for the tags with errors. -/
lemma not_tells_report (machine : Machine) (request : Request) (log : List LogRecord)
    {blocks : List (Block Nat)} (complete : ∀ block ∈ blocks, CompleteForest block.tags)
    {error : String} (other : error = "schema_invalid" ∨ error = "read_failed") :
    ¬ (report machine request log blocks).Tells error := by
  unfold report
  -- Either checking finds nothing, or it comes to no end, which breaks the run down.
  rw [(foundSound_of_complete complete).judged machine.checker]
  by_cases reached : machine.checker.reaches (.ofValue (blocksValue blocks)) = true
  · rw [if_pos reached]
    dsimp only
    split
    · split
      · exact not_tells_breakdown _ _
      · exact not_tells_print _ _ _ _ _
      · exact not_tells_tagErrors other _ _ _
    · exact not_tells_print _ _ _ _ _
  · rw [if_neg reached]
    exact not_tells_breakdown _ _

/-- The blocks that a run reads are complete, because it reads with the standard parsers. -/
lemma complete_of_parseDelivery {request : Request} {delivery : Utf8.Delivery}
    {blocks : List (Block Nat)}
    (read : (parseDelivery request.options delivery).outcome = .ok blocks) :
    ∀ block ∈ blocks, CompleteForest block.tags := by
  obtain ⟨found, parsed, complete, -⟩ := exists_complete_blocks request.options
    Builtin.isTyped_parsers delivery.lines
  simp only [parseDelivery, parsed] at read
  cases fault : delivery.fault with
  | some cause => simp [fault] at read
  | none =>
      simp only [fault, Except.ok.injEq] at read
      exact read ▸ complete

lemma complete_of_parseFile {state : FileState} {request : Request} {blocks : List (Block Nat)}
    (read : (parseFile state (.settings request.settings)).outcome = .ok blocks) :
    ∀ block ∈ blocks, CompleteForest block.tags := by
  have settings : OptionsInput.read (.settings request.settings) = .ok request.options := rfl
  simp only [parseFile, settings] at read
  cases opened : state.read with
  | error reason => simp [opened] at read
  | ok octets =>
      rw [opened] at read
      cases streamed : (parseStream request.options octets).outcome with
      | error cause => simp [streamed, Except.mapError] at read
      | ok found =>
          simp only [streamed, Except.mapError, Except.ok.injEq] at read
          exact read ▸ complete_of_parseDelivery streamed

/-- A run that reads the standard input fails for nothing but tags with errors. -/
lemma not_tells_runParseInput (machine : Machine) (request : Request) (input : List UInt8)
    {error : String} (other : error = "schema_invalid" ∨ error = "read_failed") :
    ¬ (runParseInput machine request input).Tells error := by
  unfold runParseInput
  dsimp only
  split
  · exact not_tells_breakdown _ _
  · exact not_tells_breakdown _ _
  · next read => exact not_tells_report _ _ _ (complete_of_parseDelivery read) other

lemma not_tellsViolation_runParseFile (machine : Machine) (files : Files) (request : Request)
    (path : Text) : ¬ (runParseFile machine files request path).Tells "schema_invalid" := by
  unfold runParseFile
  dsimp only
  split
  · exact not_tells_breakdown _ _
  · exact not_tellsViolation_readFailed _ _ _
  · exact not_tells_breakdown _ _
  · exact not_tellsViolation_readFailed _ _ _
  · exact not_tells_breakdown _ _
  · next read => exact not_tells_report _ _ _ (complete_of_parseFile read) (.inl rfl)

lemma not_tellsViolation_runParse (machine : Machine) (files : Files) (input : List UInt8)
    (request : Request) : ¬ (runParse machine files input request).Tells "schema_invalid" := by
  unfold runParse
  split
  · exact not_tells_runParseInput _ _ _ (.inl rfl)
  · exact not_tells_runParseInput _ _ _ (.inl rfl)
  · exact not_tellsViolation_runParseFile _ _ _ _

end CommandLine

/-! ## Verdicts -/

/-- **Checking never finds a violation.**  If every parser is typed, every document is read without
a fault, and nothing is wrong with its blocks: whatever checker there is accepts them if it gets
through them.  The standard parsers are typed, so no run of `parse` tells of a violation, on any
machine. -/
theorem checking_finds_no_violation (options : Options)
    (isTyped : ∀ parser ∈ options.parsers, parser.IsTyped) (source : Text) :
    (∃ blocks, (parse options source).outcome = .ok blocks ∧ FoundSound blocks) ∧
    (∀ parser ∈ Builtin.parsers, parser.IsTyped) ∧
    ∀ machine files input request,
      ¬ (runParse machine files input request).Tells "schema_invalid" := by
  refine ⟨?_, Builtin.isTyped_parsers, not_tellsViolation_runParse⟩
  obtain ⟨blocks, parsed, complete, -⟩ :=
    exists_complete_blocks options isTyped (Text.pieces '\n' source)
  exact ⟨blocks, parsed, foundSound_of_complete complete⟩

/-- A parser that takes the rest of a text for the name, finds it too long, and contributes a field
of its own. -/
def complaining : TagParser :=
  Script.toParser ⟨"complain", [], .consumes .all
    [("errors", .list [.ofString "too long"]), ("weight", .int 3)] (some "name")⟩

lemma isTyped_complaining : complaining.IsTyped := by
  intro text record
  have errors : FitsField "errors" (.list [.ofString "too long"]) :=
    .ofMessages ["too long".toList]
  have weight : FitsField "weight" (.int 3) := .free (by simp [textFields]) (by simp) _
  have name : FitsField "name" (.text text) := .ofText (by simp [textFields]) text
  have typed : TypedFields [("errors", .list [.ofString "too long"]), ("weight", .int 3),
      ("name", .text text)] := .cons errors (.cons weight (.cons name .nil))
  exact .consuming typed text

theorem checking_finds_no_violation_in_complaints :
    (∀ parser ∈ [Builtin.keyword, complaining], parser.IsTyped) ∧
    ∃ blocks, (parse ⟨true, true, [Builtin.keyword, complaining]⟩
        "/** @a b.c */".toList).outcome = .ok blocks ∧ FoundSound blocks := by
  have isTyped : ∀ parser ∈ [Builtin.keyword, complaining], parser.IsTyped := by
    have keyword := Builtin.isTyped_parsers Builtin.keyword (by simp [Builtin.parsers])
    simpa using ⟨keyword, isTyped_complaining⟩
  obtain ⟨⟨blocks, parsed, sound⟩, -⟩ :=
    checking_finds_no_violation ⟨true, true, [Builtin.keyword, complaining]⟩ isTyped
      "/** @a b.c */".toList
  exact ⟨isTyped, blocks, parsed, sound⟩

/-- A comment on one line, with a tag whose name has four hundred parts. -/
def deeplyDotted : Text :=
  "/** @a ".toList ++ dotted (List.replicate 400 ['p']) ++ " d */".toList

set_option maxRecDepth 5000 in
lemma exists_blocks_deeplyDotted :
    ∃ blocks, (parse ⟨true, true, Builtin.parsers⟩ deeplyDotted).outcome = .ok blocks ∧
      Checker.standard.reaches (.ofValue (blocksValue blocks)) = false := by
  obtain ⟨blocks, parsed, -⟩ := exists_complete_blocks ⟨true, true, Builtin.parsers⟩
    Builtin.isTyped_parsers (Text.pieces '\n' deeplyDotted)
  have beyond : (match (parse ⟨true, true, Builtin.parsers⟩ deeplyDotted).outcome with
      | .ok blocks => Checker.standard.reaches (.ofValue (blocksValue blocks))
      | .error _ => true) = false := by decide +kernel
  rw [parse, parsed] at beyond
  exact ⟨blocks, parsed, beyond⟩

theorem deeply_dotted_tag_is_not_accepted :
    ∃ blocks, (parse ⟨true, true, Builtin.parsers⟩ deeplyDotted).outcome = .ok blocks ∧
      Schema.judge (.ofValue (blocksValue blocks)) .standard = .tooDeep := by
  obtain ⟨blocks, parsed, beyond⟩ := exists_blocks_deeplyDotted
  exact ⟨blocks, parsed, Checker.judge_eq_tooDeep_iff.mpr beyond⟩

end DocComment
