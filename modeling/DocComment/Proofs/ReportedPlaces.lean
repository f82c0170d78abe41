import DocComment.Proofs.BrokenRules
import DocComment.Proofs.PrintedRuns

/-!
# The places that are reported

Of a document that is no list of blocks, a run of `validate` prints one place.  Read step by step
(`pathOf`), the place is the path of a violation (`pathOf_location`): none of the names that lead
down a document has a slash in it or is a number.  So the place leads to a value that is in the
document, which breaks a rule of the shape that is asked for there, and nothing that is nearer to
the root breaks any rule of its own shape (`reported_place_is_broken`).
-/

namespace DocComment.Schema

open DocComment Text

/-! ## Places read step by step -/

/-- The step that a part of a place stands for: an index if it is a number, and else a field. -/
def Step.ofLabel (label : Text) : Step :=
  if !label.isEmpty && label.all Json.isDigit then .index (Json.digitsValue label)
  else .field (String.ofList label)

/-- The path that a place stands for.  No place at all is the root. -/
def pathOf (place : Text) : List Step :=
  if place = [] then [] else (pieces '/' place).map Step.ofLabel

/-- A name that leads down a document: it is neither empty nor a number, and has no slash in it. -/
def IsStepName (name : String) : Prop :=
  name.toList.all Json.isDigit = false ∧ '/' ∉ name.toList

/-- A step with a name that a place can tell from the steps around it. -/
def Step.IsLegible : Step → Prop
  | .index _ => True
  | .field name => IsStepName name

lemma isStepName_of_mem_fields {shape : Shape} {field : String × Shape}
    (known : field ∈ shape.fields) : IsStepName field.1 := by
  have each : ∀ field ∈ shape.fields,
      field.1.toList.all Json.isDigit = false ∧ '/' ∉ field.1.toList := by
    cases shape <;> decide
  exact each field known

/-- Only such names lead to where a shape asks for something. -/
lemma isLegible_of_shapeAt? {path : List Step} {shape asked : Shape}
    (isAsked : shapeAt? path shape = some asked) : ∀ step ∈ path, step.IsLegible := by
  induction path generalizing shape with
  | nil => simp
  | cons step path ih =>
      obtain ⟨next, isNext, isAsked⟩ := Option.bind_eq_some_iff.mp isAsked
      refine List.forall_mem_cons.mpr ⟨?_, ih isAsked⟩
      cases step with
      | index i => trivial
      | field name => exact isStepName_of_mem_fields (Record.mem_of_get? isNext)

lemma toList_label_index (i : Nat) : (Step.index i).label.toList = Decimal.numeral i := by
  simp [Step.label, Decimal.numeral]

lemma Step.IsLegible.not_mem_label {step : Step} (legible : step.IsLegible) :
    '/' ∉ step.label.toList := by
  cases step with
  | index i =>
      rw [toList_label_index]
      intro slash
      exact absurd (Json.isDigit_of_mem_numeral slash) (by decide)
  | field name => exact legible.2

lemma Step.IsLegible.label_ne_nil {step : Step} (legible : step.IsLegible) :
    step.label.toList ≠ [] := by
  cases step with
  | index i =>
      rw [toList_label_index]
      exact Nat.toDigits_ne_nil
  | field name =>
      intro empty
      have notDigits := legible.1
      rw [show name.toList = [] from empty] at notDigits
      cases notDigits

lemma Step.IsLegible.ofLabel_label {step : Step} (legible : step.IsLegible) :
    Step.ofLabel step.label.toList = step := by
  cases step with
  | index i =>
      have digits : (Decimal.numeral i).all Json.isDigit = true :=
        List.all_eq_true.mpr fun _ => Json.isDigit_of_mem_numeral
      have notEmpty : (Decimal.numeral i).isEmpty = false :=
        List.isEmpty_eq_false_iff.mpr Nat.toDigits_ne_nil
      have value : Json.digitsValue (Decimal.numeral i) = i := Nat.ofDigitChars_ten_toDigits
      rw [toList_label_index, Step.ofLabel, notEmpty, digits, value]
      rfl
  | field name =>
      rw [Step.ofLabel, Step.label, if_neg (by simp [legible.1]), String.ofList_toList]

lemma pathOf_location {violation : Violation}
    (legible : ∀ step ∈ violation.path, step.IsLegible) :
    pathOf violation.location.toList = violation.path := by
  have labels : violation.location.toList =
      ['/'].intercalate (violation.path.map fun step => step.label.toList) := by
    rw [Violation.location, String.toList_intercalate, List.map_map]
    rfl
  rw [labels]
  cases steps : violation.path with
  | nil => rfl
  | cons step path =>
      rw [steps] at legible
      let labels := (step :: path).map fun step => step.label.toList
      have cut : pieces '/' (['/'].intercalate labels) = labels :=
        pieces_intercalate (by simp [labels])
          (List.forall_mem_map.mpr fun step found => (legible step found).not_mem_label)
      have nonempty : ['/'].intercalate labels ≠ [] := by
        intro empty
        rw [empty, pieces_nil] at cut
        exact (legible step List.mem_cons_self).label_ne_nil (List.cons.inj cut).1.symm
      rw [pathOf, if_neg nonempty, cut, List.map_map]
      have same := List.map_congr_left fun step found => (legible step found).ofLabel_label
      exact same.trans (List.map_id _)

/-! ## The nearest violation -/

/-- A violation is in a document: its value stands at the end of its path and breaks its rule, which
is one of the shape that is asked for there. -/
def Violation.IsIn (document : Json) (violation : Violation) : Prop :=
  ∃ shape, shapeAt? violation.path .blocks = some shape ∧
    valueAt? violation.path document = some violation.value ∧
      Breaks violation.rule shape violation.value

/-- Nothing at the end of a shorter path breaks a rule of the shape that is asked for there. -/
def IsNearest (document : Json) (path : List Step) : Prop :=
  ∀ (other : List Step) (shape : Shape) (value : Json) (rule : Rule),
    other.length < path.length → shapeAt? other .blocks = some shape →
      valueAt? other document = some value → ¬ Breaks rule shape value

lemma isNearest_of_validate {checker : Checker} {document : Json} {violation : Violation}
    (reported : checker.validate document = some violation) :
    violation.IsIn document ∧ IsNearest document violation.path := by
  obtain ⟨found, least⟩ := Checker.validate_spec reported
  refine ⟨breaks_of_mem_violations found,
    fun other shape value rule shorter isAsked stands breaks => ?_⟩
  obtain ⟨nearer, isNearer, rfl⟩ := exists_violation_of_breaks isAsked stands breaks
  exact absurd (least nearer isNearer) (Nat.not_le.mpr shorter)

end DocComment.Schema

namespace DocComment.CommandLine

open DocComment Text Schema

/-- What is printed of a violation: that the schema is violated, how, in which file, and where. -/
def violationRecord (hint : String) (path place : Text) : Value :=
  .record [("error", .ofString "schema_invalid"), ("hint", .ofString hint), ("path", .text path),
    ("at", .text place)]

lemma read_violationRecord (levels : Nat) (hint : String) (path place : Text) :
    Json.read (levels + 2) (document .oneLine (violationRecord hint path place)) =
      .ok (.ofValue (violationRecord hint path place)) := by
  have legible : Json.Legible (.ofValue (violationRecord hint path place)) := by
    have distinct : ["error", "hint", "path", "at"].Nodup := by decide
    refine legible_record distinct fun name value found => ?_
    simp only [List.mem_cons, Prod.mk.injEq, List.not_mem_nil, or_false] at found
    rcases found with ⟨-, rfl⟩ | ⟨-, rfl⟩ | ⟨-, rfl⟩ | ⟨-, rfl⟩ <;> exact legible_text _
  have flat : (Json.ofValue (violationRecord hint path place)).levels = 2 := rfl
  exact Json.read_write legible (flat.le.trans (Nat.le_add_left 2 levels)) .oneLine
    (by simp [Json.isSpace])

/-- **A run of `validate` points at a violation.**  Where it fails on a file from which a document
is read, its output says at which place of the document.  Read step by step, the place leads to a
value that is in the document and breaks a rule of the shape that is asked for there, which is what
the hint says.  Nothing at a shorter path breaks a rule of the shape that is asked for at it.  So it
is whichever of the nearest violations is the one that is picked. -/
theorem reported_place_is_broken (machine : Machine) (files : Files) (path : Text)
    {octets : List UInt8} {text : Text} {content : Json}
    (holds : files (Path.normalize path) = .octets octets)
    (decoded : Utf8.decode octets = .ok text)
    (isRead : Json.read machine.readingLevels (unifyLineEnds text) = .ok content)
    {output : Text} {log : List LogRecord}
    (rejects : runValidate machine files path = .exit 2 output log) :
    ∃ (place : Text) (violation : Violation),
      machine.checker.validate content = some violation ∧
      (∀ levels, Json.read (levels + 2) output =
        .ok (.ofValue (violationRecord violation.message path place))) ∧
      pathOf place = violation.path ∧ violation.IsIn content ∧
        IsNearest content violation.path := by
  rw [runValidate_eq_ending holds decoded, judge, isRead] at rejects
  dsimp only at rejects
  cases judged : Schema.judge content machine.checker with
  | tooDeep =>
      rw [judged] at rejects
      cases rejects
  | conforming =>
      rw [judged] at rejects
      cases content <;> cases rejects
  | violated violation =>
      rw [judged] at rejects
      have printed : output =
          document .oneLine (violationRecord violation.message path violation.location.toList) := by
        cases rejects
        rfl
      have reported := (Checker.judge_eq_violated_iff.mp judged).2
      have nearest := isNearest_of_validate reported
      obtain ⟨shape, isAsked, -, -⟩ := nearest.1
      refine ⟨violation.location.toList, violation, reported, fun levels => ?_, ?_, nearest⟩
      · rw [printed]
        exact read_violationRecord levels _ _ _
      · exact pathOf_location (isLegible_of_shapeAt? isAsked)

/-- A block with two tags that lack fields.  What is wrong in the second stands deeper. -/
def lackingTags : Value :=
  .list [.record [("line", .ofNat 0), ("description", .text []), ("source", .text []),
    ("tags", .list [.record [], .record [("line", .bool true)]])]]

lemma legible_lackingTags : Json.Legible (.ofValue lackingTags) := by
  have tags : Json.Legible (.ofValue (.list [.record [], .record [("line", .bool true)]])) := by
    refine legible_list (List.forall_mem_cons.mpr ⟨?_, List.forall_mem_singleton.mpr ?_⟩)
    · exact legible_record List.nodup_nil (by simp)
    · refine legible_record (List.nodup_singleton "line") fun name value found => ?_
      cases List.mem_singleton.mp found
      exact .bool true
  have distinct : ["line", "description", "source", "tags"].Nodup := by decide
  refine legible_list (List.forall_mem_singleton.mpr ?_)
  refine legible_record distinct fun name value found => ?_
  simp only [List.mem_cons, Prod.mk.injEq, List.not_mem_nil, or_false] at found
  rcases found with ⟨-, rfl⟩ | ⟨-, rfl⟩ | ⟨-, rfl⟩ | ⟨-, rfl⟩
  · exact .int (by decide)
  · exact legible_text _
  · exact legible_text _
  · exact tags

theorem second_lacking_tag_is_pointed_at :
    let text := document .oneLine lackingTags
    let files := singleFile "b" (Utf8.encode text)
    let path := "./b".toList
    files (Path.normalize path) = .octets (Utf8.encode text) ∧
      Utf8.decode (Utf8.encode text) = .ok text ∧
      Json.read Machine.standard.readingLevels (unifyLineEnds text) =
        .ok (.ofValue lackingTags) ∧
      ∃ (output place : Text) (violation : Violation),
        runValidate .standard files path = .exit 2 output [] ∧
        (∀ levels, Json.read (levels + 2) output =
          .ok (.ofValue (violationRecord violation.message path place))) ∧
        pathOf place = [.index 0, .field "tags", .index 1] ∧
        violation.IsIn (.ofValue lackingTags) := by
  intro text files path
  have holds : files (Path.normalize path) = .octets (Utf8.encode text) := rfl
  have decoded := Utf8.decode_encode text
  have isRead : Json.read Machine.standard.readingLevels (unifyLineEnds text) =
      .ok (.ofValue lackingTags) := by
    rw [unifyLineEnds_document legible_lackingTags]
    exact Json.read_write legible_lackingTags (by decide +kernel) .oneLine (by simp [Json.isSpace])
  have reached : Machine.standard.checker.reaches (.ofValue lackingTags) = true := by
    decide +kernel
  have shortest : (Machine.standard.checker.validate (.ofValue lackingTags)).map (·.path) =
      some [.index 0, .field "tags", .index 1] := by
    decide +kernel
  obtain ⟨violation, reported, shown⟩ := Option.map_eq_some_iff.mp shortest
  have verdict : Schema.judge (.ofValue lackingTags) Machine.standard.checker =
      .violated violation := Checker.judge_eq_violated_iff.mpr ⟨reached, reported⟩
  have ending : runValidate .standard files path = _ := runValidate_eq_ending holds decoded
  rw [judge, isRead] at ending
  dsimp only at ending
  rw [verdict] at ending
  obtain ⟨place, pointedAt, found, readBack, same, isIn, -⟩ :=
    reported_place_is_broken .standard files path holds decoded isRead ending
  obtain rfl := Option.some.inj (found.symm.trans reported)
  exact ⟨holds, decoded, isRead, _, place, pointedAt, ending, readBack, same.trans shown, isIn⟩

end DocComment.CommandLine
