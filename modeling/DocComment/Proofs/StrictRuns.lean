import DocComment.Proofs.ReadRuns

/-!
# Strict runs

A strict run tells of the failures in the blocks that it reads, if there are any, and is the run
that is not strict if there are none.  Nesting loses no failure and moves none, so the verdict is
the same with nesting as without (`strict_verdict_ignores_nesting`), as long as checking gets
through the nested tags at all: that comes first, and breaks a run down on names with too many dots
(`deep_nesting_changes_strict_verdict`).
-/

namespace DocComment.CommandLine

open DocComment Text

/-- The code that a run exits with. -/
def Ending.code : Ending → Nat
  | .usage => 2
  | .exit code _ _ => code
  | .breakdown _ => 1

/-- The ending that tells of tags with errors, one by one and with their number. -/
def tagErrors (tags : List (TagNode Nat)) : Ending :=
  failing [] "tag_errors" s!"{tags.length} tag(s) could not be parsed"
    [("tags", .list (tags.map TagNode.failure))]

lemma code_unlogged (ending : Ending) : ending.unlogged.code = ending.code := by
  cases ending <;> rfl

lemma code_print_ne_two (machine : Machine) (indentation : Option Int) (log : List LogRecord)
    (blocks : Value) : (print machine indentation log blocks).code ≠ 2 := by
  rw [print]
  split <;> simp [Ending.code]

section Report

variable {machine : Machine} {request : Request} {blocks : List (Block Nat)}
  {failed : List (TagNode Nat)} (log : List LogRecord)
  (complete : ∀ block ∈ blocks, CompleteForest block.tags)
  (reached : machine.checker.reaches (.ofValue (blocksValue blocks)) = true)
  (failures : blockFailures blocks = .ok (failed.map TagNode.failure))

include complete reached failures

/-- A strict report tells of the tags with errors, if there are any. -/
lemma report_of_failed (strict : request.strict = true) (fails : failed ≠ []) :
    (report machine request log blocks).unlogged = tagErrors failed := by
  have told : failed.map TagNode.failure ≠ [] := mt List.map_eq_nil_iff.mp fails
  rw [report_of_reached log complete reached failures, if_pos ⟨strict, told⟩, List.length_map]
  rfl

/-- Without errors a report prints the blocks, strict or not. -/
lemma report_of_sound (sound : failed = []) :
    report machine request log blocks =
      print machine request.indentation log (blocksValue blocks) := by
  rw [report_of_reached log complete reached failures, if_neg]
  simp [sound]

lemma code_report_eq_two_iff (strict : request.strict = true) :
    (report machine request log blocks).code = 2 ↔ failed ≠ [] := by
  by_cases sound : failed = []
  · refine iff_of_false ?_ (not_not.mpr sound)
    rw [report_of_sound log complete reached failures sound]
    exact code_print_ne_two _ _ _ _
  · refine iff_of_true ?_ sound
    rw [← code_unlogged, report_of_failed log complete reached failures strict sound]
    rfl

/-- Blocks without errors that there is something to print for are printed. -/
lemma code_report_eq_zero (sound : failed = []) (printable : Printable machine request blocks) :
    (report machine request log blocks).code = 0 := by
  rw [report_of_sound log complete reached failures sound]
  rcases printable with free | ⟨-, told, some, same⟩
  · rw [print, free]
    rfl
  · rw [failures, sound] at same
    exact absurd (Except.ok.inj same).symm some

end Report

/-- **The strict verdict does not depend on nesting.**  Let a text be read with nesting and without,
each strictly and not.  Wherever checking gets through what is read, the strict run exits with 2
exactly if some tag has errors in the blocks that are not nested; then it prints the same document
with nesting and without, which tells of each of these tags once, in their order, and of their
number.  If none has, the strict run is the run that is not strict.  So both strict runs exit with
the same code, if there is something to print in both.  Where checking does not get through, the run
breaks down. -/
theorem strict_verdict_ignores_nesting (machine : Machine) (readsUtf8 : machine.ReadsUtf8)
    (files : Files) (input : List UInt8) (request : Request) (text : Text)
    (reads : Reads files input request.path (Utf8.encode text)) :
    let ending := fun strict dottedNames =>
      runParse machine files input { request with strict := strict, dottedNames := dottedNames }
    ∃ found : Bool → List (Block Nat),
      let IsReached := fun dottedNames =>
        machine.checker.reaches (.ofValue (blocksValue (found dottedNames))) = true
      (∀ dottedNames, (parse ⟨request.trim, dottedNames, Builtin.parsers⟩
        (unifyLineEnds text)).outcome = .ok (found dottedNames)) ∧
      (∀ dottedNames, IsReached dottedNames →
        ((ending true dottedNames).code = 2 ↔ failingTags (found false) ≠ []) ∧
        (failingTags (found false) ≠ [] →
          (ending true dottedNames).unlogged = tagErrors (failingTags (found false))) ∧
        (failingTags (found false) = [] →
          ending true dottedNames = ending false dottedNames)) ∧
      ((∀ dottedNames, IsReached dottedNames ∧
          Printable machine { request with strict := true } (found dottedNames)) →
        (ending true true).code = (ending true false).code) ∧
      ∀ dottedNames, ¬ IsReached dottedNames →
        ending true dottedNames = .breakdown .tooDeep := by
  intro ending
  obtain ⟨found, both⟩ := exists_readBothWays request.trim (unifyLineEnds text)
  let log := fun dottedNames =>
    readLog { request with dottedNames := dottedNames } (Utf8.encode text) (found dottedNames)
  -- All four runs report blocks that are found, or nested, in one and the same document.
  have reported : ∀ strict dottedNames, ending strict dottedNames =
      report machine { request with strict := strict, dottedNames := dottedNames }
        (log dottedNames) (found dottedNames) := fun strict dottedNames =>
    runParse_eq_report { request with strict := strict, dottedNames := dottedNames } readsUtf8 reads
      (both.parsed dottedNames)
  refine ⟨found, both.parsed, fun dottedNames reached => ⟨?_, fun fails => ?_, fun sound => ?_⟩,
    fun each => ?_, fun dottedNames beyond => ?_⟩
  · rw [reported]
    exact code_report_eq_two_iff _ (both.complete dottedNames) reached (both.failures dottedNames)
      rfl
  · rw [reported]
    exact report_of_failed _ (both.complete dottedNames) reached (both.failures dottedNames) rfl
      fails
  · have printed : ∀ strict, ending strict dottedNames =
        print machine request.indentation (log dottedNames) (blocksValue (found dottedNames)) :=
      fun strict => (reported strict dottedNames).trans
        (report_of_sound _ (both.complete dottedNames) reached (both.failures dottedNames) sound)
    rw [printed, printed]
  · by_cases sound : failingTags (found false) = []
    · have success : ∀ dottedNames, (ending true dottedNames).code = 0 := by
        intro dottedNames
        rw [reported]
        exact code_report_eq_zero _ (both.complete dottedNames) (each dottedNames).1
          (both.failures dottedNames) sound (each dottedNames).2
      rw [success, success]
    · have failure : ∀ dottedNames, (ending true dottedNames).code = 2 := by
        intro dottedNames
        rw [reported]
        exact (code_report_eq_two_iff _ (both.complete dottedNames) (each dottedNames).1
          (both.failures dottedNames) rfl).mpr sound
      rw [failure, failure]
  · rw [reported]
    exact report_of_not_reached _ (both.complete dottedNames) (Bool.eq_false_iff.mpr beyond)

/-- A comment with a tag whose type is not closed, and two tags whose names begin with dots. -/
def dotsBelowFailure : Text :=
  "/**\n * @param \x7ba b\n * @param .x c\n * @param ...rest\n */".toList

theorem strict_verdict_ignores_nesting_below_failure :
    let octets := Utf8.encode dotsBelowFailure
    let files : Files := fun _ => .refused .missing
    Machine.standard.ReadsUtf8 ∧ Reads files octets plainRequest.path octets ∧
    ∃ failed : TagNode Nat, failed.line = 1 ∧
      ∀ dottedNames, (runParse .standard files octets
        { plainRequest with strict := true, dottedNames := dottedNames }).unlogged =
          tagErrors [failed] := by
  intro octets files
  obtain ⟨found, parsed, verdict, -⟩ := strict_verdict_ignores_nesting .standard
    Machine.readsUtf8_standard files octets plainRequest dotsBelowFailure .input
  have read : ∀ dottedNames, ((parse ⟨true, dottedNames, Builtin.parsers⟩
      (unifyLineEnds dotsBelowFailure)).outcome.toOption.map fun blocks =>
        ((failingTags blocks).map (·.line),
          Machine.standard.checker.reaches (.ofValue (blocksValue blocks)))) =
      some ([1], true) := by
    decide +kernel
  have parsed : ∀ dottedNames, (parse ⟨true, dottedNames, Builtin.parsers⟩
      (unifyLineEnds dotsBelowFailure)).outcome = .ok (found dottedNames) := parsed
  have failed := read false
  rw [parsed false] at failed
  obtain ⟨node, onlyNode, onLine⟩ :=
    List.map_eq_singleton_iff.mp (Prod.mk.inj (Option.some.inj failed)).1
  refine ⟨Machine.readsUtf8_standard, .input, node, onLine, fun dottedNames => ?_⟩
  have reached := read dottedNames
  rw [parsed dottedNames] at reached
  obtain ⟨-, told, -⟩ := verdict dottedNames (Prod.mk.inj (Option.some.inj reached)).2
  rw [told (by simp [onlyNode]), onlyNode]

/-- A tag whose name has four hundred parts has no errors, but nested it is beyond the reach of
checking: with nesting a strict run breaks down, without it prints the tag. -/
theorem deep_nesting_changes_strict_verdict :
    let octets := Utf8.encode deeplyDotted
    let files : Files := fun _ => .refused .missing
    let request := { plainRequest with strict := true }
    (runParse .standard files octets request).code = 0 ∧
      runParse .standard files octets { request with dottedNames := true } =
        .breakdown .tooDeep := by
  intro octets files request
  have reads : Reads files octets none octets := .input
  obtain ⟨found, both⟩ := exists_readBothWays true (unifyLineEnds deeplyDotted)
  have flat : ((parse ⟨true, false, Builtin.parsers⟩
      (unifyLineEnds deeplyDotted)).outcome.toOption.map fun blocks =>
        ((failingTags blocks).isEmpty,
          Machine.standard.checker.reaches (.ofValue (blocksValue blocks)))) =
      some (true, true) := by
    decide +kernel
  rw [both.parsed false] at flat
  obtain ⟨none, reached⟩ := Prod.mk.inj (Option.some.inj flat)
  have printed := runParse_eq_report request Machine.readsUtf8_standard reads (both.parsed false)
  rw [report_of_sound _ (both.complete false) reached (both.failures false)
    (List.isEmpty_iff.mp none)] at printed
  exact ⟨congrArg Ending.code printed, runParse_deeplyDotted rfl rfl reads⟩

end DocComment.CommandLine
