import DocComment.Proofs.Records
import DocComment.Schema.Checker

/-!
# Where rules are broken

Checking goes down a document and lists violations with their paths.  Here a path is followed the
other way round: `valueAt?` is the value that stands at its end, `shapeAt?` the shape that is asked
for there, and `Breaks` says for each rule what it means for that value to break it, with a look at
nothing that stands further down.

A violation is then what it says: its rule is broken by the value at its path
(`breaks_of_mem_violations`), and a value that breaks a rule of its shape is found
(`exists_violation_of_breaks`).  Both go down the path, one step at a time; the step is that the
violations of a document are those of the document itself and those of its parts, one step further
up (`mem_violations_iff`).  Of the violations of a document the one that is reported has a shortest
path (`Checker.validate_spec`).
-/

namespace DocComment.Schema

open DocComment

/-! ## Names as code points -/

lemma listOf_injective {a b : String} (same : CodePoint.listOf a = CodePoint.listOf b) : a = b := by
  have ofChar_injective : ∀ c d, CodePoint.ofChar c = CodePoint.ofChar d → c = d := by
    intro c d equal
    have shown := congrArg CodePoint.toChar? equal
    rwa [CodePoint.toChar?_ofChar, CodePoint.toChar?_ofChar, Option.some.injEq] at shown
  exact String.toList_injective ((List.map_inj_right ofChar_injective).mp same)

lemma field?_listOf (shape : Shape) (name : String) :
    shape.field? (CodePoint.listOf name) =
      (Record.get? shape.fields name).map fun inner => (name, inner) := by
  rw [Shape.field?]
  induction shape.fields with
  | nil => rfl
  | cons field rest ih =>
      rw [List.find?_cons, Record.get?_cons, ih]
      by_cases same : name = field.1
      · simp [same]
      · have other : (CodePoint.listOf field.1 == CodePoint.listOf name) = false := by
          rw [beq_eq_false_iff_ne]
          exact fun equal => same (listOf_injective equal).symm
        simp [same, other]

/-! ## Places -/

/-- What stands one step further down: an item of an array, or the value of a field. -/
def Step.value? : Step → Json → Option Json
  | .index i, .array items => items[i]?
  | .field name, .object fields => Record.get? fields (CodePoint.listOf name)
  | _, _ => none

/-- The shape that is asked for one step further down. -/
def Step.shape? : Step → Shape → Option Shape
  | .index _, shape => shape.item?
  | .field name, shape => Record.get? shape.fields name

/-- The value at the end of a path. -/
def valueAt? : List Step → Json → Option Json
  | [], document => some document
  | step :: path, document => (step.value? document).bind (valueAt? path)

/-- The shape that is asked for at the end of a path. -/
def shapeAt? : List Step → Shape → Option Shape
  | [], shape => some shape
  | step :: path, shape => (step.shape? shape).bind (shapeAt? path)

lemma levels_lt_of_value? {step : Step} {document value : Json}
    (stands : step.value? document = some value) : value.levels < document.levels := by
  unfold Step.value? at stands
  split at stands
  · rw [Json.levels]
    exact Nat.lt_succ_of_le (Json.levels_le_levelsOfItems (List.mem_of_getElem? stands))
  · rw [Json.levels]
    exact Nat.lt_succ_of_le (Json.levels_le_levelsOfFields (Record.mem_of_get? stands))
  · cases stands

/-! ## Rules -/

/-- What it means for a value to break a rule of its shape: it is of another kind, it lacks a field
that is required, it is less than zero, or it has fields that a closed shape does not know. -/
inductive Breaks : Rule → Shape → Json → Prop
  | wrongKind {shape : Shape} {value : Json} (other : shape.kind.admits value = false) :
      Breaks (.wrongKind shape.kind) shape value
  | missing {shape inner : Shape} {name : String} {fields : List (List CodePoint × Json)}
      (required : (name, inner) ∈ shape.fields)
      (absent : Record.get? fields (CodePoint.listOf name) = none) :
      Breaks (.missing name) shape (.object fields)
  | belowZero {shape : Shape} {value : Json} (bounded : shape.isNonnegative = true)
      (below : isBelowZero value = true) : Breaks .belowZero shape value
  | unexpected {shape : Shape} {names : List (List CodePoint)}
      {fields : List (List CodePoint × Json)} (closed : shape.isClosed = true)
      (nonempty : names ≠ [])
      (unknown : ∀ name,
        name ∈ names ↔ name ∈ fields.map (·.1) ∧ shape.field? name = none) :
      Breaks (.unexpected names) shape (.object fields)

/-- The violations of a document whose path is empty. -/
def violationsHere (shape : Shape) : Json → List Violation
  | .object fields =>
    ownViolations shape (.object fields) ++ missingFields shape fields ++
      unexpectedFields shape fields
  | other => ownViolations shape other

lemma breaks_of_mem_ownViolations {shape : Shape} {document : Json} {violation : Violation}
    (found : violation ∈ ownViolations shape document) :
    violation.path = [] ∧ violation.value = document ∧ Breaks violation.rule shape document := by
  rw [ownViolations, List.mem_append] at found
  rcases found with kind | below
  · split at kind
    · simp at kind
    · next other =>
        obtain rfl := List.mem_singleton.mp kind
        exact ⟨rfl, rfl, .wrongKind (Bool.not_eq_true _ ▸ other)⟩
  · split at below
    · next both =>
        obtain rfl := List.mem_singleton.mp below
        obtain ⟨bounded, isBelow⟩ := Bool.and_eq_true_iff.mp both
        exact ⟨rfl, rfl, .belowZero bounded isBelow⟩
    · simp at below

lemma breaks_of_mem_violationsHere {shape : Shape} {document : Json} {violation : Violation}
    (found : violation ∈ violationsHere shape document) :
    violation.path = [] ∧ violation.value = document ∧ Breaks violation.rule shape document := by
  unfold violationsHere at found
  split at found
  · next fields =>
      rw [List.mem_append, List.mem_append] at found
      rcases found with (own | missing) | unexpected
      · exact breaks_of_mem_ownViolations own
      · obtain ⟨⟨name, inner⟩, required, rfl⟩ := List.mem_map.mp missing
        obtain ⟨isField, absent⟩ := List.mem_filter.mp required
        exact ⟨rfl, rfl, .missing isField (Option.isNone_iff_eq_none.mp absent)⟩
      · rw [unexpectedFields] at unexpected
        split at unexpected
        · next both =>
            obtain rfl := List.mem_singleton.mp unexpected
            obtain ⟨closed, nonempty⟩ := Bool.and_eq_true_iff.mp both
            have notEmpty :
                (fields.map (·.1)).filter (fun name => (shape.field? name).isNone) ≠ [] := by
              simpa only [Bool.not_eq_true', List.isEmpty_eq_false_iff] using nonempty
            obtain ⟨other, isOther⟩ := List.exists_mem_of_ne_nil _ notEmpty
            refine ⟨rfl, rfl, .unexpected closed ?_ fun name => ?_⟩
            · exact List.ne_nil_of_mem (List.mem_mergeSort.mpr isOther)
            · rw [List.mem_mergeSort, List.mem_filter, Option.isNone_iff_eq_none]
        · simp at unexpected
  · exact breaks_of_mem_ownViolations found

lemma violationsHere_ne_nil {rule : Rule} {shape : Shape} {document : Json}
    (breaks : Breaks rule shape document) : violationsHere shape document ≠ [] := by
  cases breaks with
  | wrongKind other => cases document <;> simp [violationsHere, ownViolations, other]
  | belowZero bounded below => cases document <;> simp_all [violationsHere, ownViolations]
  | missing required absent =>
      have found : ⟨[], .object _, .missing _, _⟩ ∈ missingFields shape _ :=
        List.mem_map_of_mem (List.mem_filter.mpr ⟨required, by rw [absent]; rfl⟩)
      exact List.ne_nil_of_mem (List.mem_append_left _ (List.mem_append_right _ found))
  | @unexpected _ names fields closed nonempty unknown =>
      obtain ⟨name, isName⟩ := List.exists_mem_of_ne_nil names nonempty
      obtain ⟨isField, isUnknown⟩ := (unknown name).mp isName
      have filtered : name ∈ (fields.map (·.1)).filter fun name => (shape.field? name).isNone :=
        List.mem_filter.mpr ⟨isField, by rw [isUnknown]; rfl⟩
      have nonempty := List.ne_nil_of_mem filtered
      simp [violationsHere, unexpectedFields, closed, nonempty]

/-! ## Violations one step at a time -/

lemma mem_itemViolations_iff {shape : Shape} {items : List Json} {first : Nat}
    {violation : Violation} :
    violation ∈ itemViolations shape first items ↔ ∃ i value inner, items[i]? = some value ∧
      inner ∈ violations shape value ∧ violation = inner.below (.index (first + i)) := by
  induction items generalizing first with
  | nil => simp [itemViolations]
  | cons item rest ih =>
      rw [itemViolations, List.mem_append, List.mem_map, ih]
      constructor
      · rintro (⟨inner, found, rfl⟩ | ⟨i, value, inner, stands, found, rfl⟩)
        · exact ⟨0, item, inner, rfl, found, rfl⟩
        · exact ⟨i + 1, value, inner, stands, found, by rw [Nat.add_right_comm, Nat.add_assoc]⟩
      · rintro ⟨i, value, inner, stands, found, rfl⟩
        cases i with
        | zero =>
            obtain rfl := Option.some.inj stands
            exact .inl ⟨inner, found, rfl⟩
        | succ i =>
            refine .inr ⟨i, value, inner, stands, found, ?_⟩
            rw [Nat.add_right_comm, Nat.add_assoc]

/-- Two fields are known under one name only if the names are the same. -/
lemma field?_eq_some_iff {shape : Shape} {name : List CodePoint} {known : String}
    {inner : Shape} :
    shape.field? name = some (known, inner) ↔
      CodePoint.listOf known = name ∧ Record.get? shape.fields known = some inner := by
  constructor
  · intro found
    have same : CodePoint.listOf known = name := by
      have tested := List.find?_some found
      exact beq_iff_eq.mp tested
    subst same
    rw [field?_listOf, Option.map_eq_some_iff] at found
    obtain ⟨_, present, same⟩ := found
    cases same
    exact ⟨rfl, present⟩
  · rintro ⟨rfl, present⟩
    rw [field?_listOf, present, Option.map_some]

/-- The violations found under a name are those of the first field of that name. -/
lemma lookup_fieldViolations_eq (shape : Shape) (fields : List (List CodePoint × Json))
    (name : String) :
    (fieldViolations shape fields).lookup name =
      (Record.get? shape.fields name).bind fun inner =>
        (Record.get? fields (CodePoint.listOf name)).map fun value =>
          (violations inner value).map (Violation.below (.field name)) := by
  induction fields with
  | nil => simp [fieldViolations]
  | cons field rest ih =>
      obtain ⟨other, value⟩ := field
      rw [fieldViolations, Record.get?_cons]
      by_cases same : CodePoint.listOf name = other
      · subst same
        rw [field?_listOf, if_pos rfl]
        cases known : Record.get? shape.fields name with
        | none => simpa [known] using ih
        | some inner => simp
      · rw [if_neg same, ← ih]
        cases known : shape.field? other with
        | none => rfl
        | some found =>
            have different : (name == found.1) = false := by
              rw [beq_eq_false_iff_ne]
              rintro rfl
              exact same (field?_eq_some_iff.mp known).1
            simp [List.lookup_cons, different]

/-- A violation stands one step further down than those of the part of a document that it is in. -/
def IsBelow (shape : Shape) (document : Json) (violation : Violation) : Prop :=
  ∃ (step : Step) (asked : Shape) (value : Json) (inner : Violation),
    step.shape? shape = some asked ∧ step.value? document = some value ∧
      inner ∈ violations asked value ∧ violation = inner.below step

lemma isBelow_array_iff {shape : Shape} {items : List Json} {violation : Violation} :
    IsBelow shape (.array items) violation ↔
      ∃ item, shape.item? = some item ∧ violation ∈ itemViolations item 0 items := by
  constructor
  · rintro ⟨step, item, value, inner, isAsked, stands, found, rfl⟩
    cases step with
    | index i =>
        exact ⟨item, isAsked,
          mem_itemViolations_iff.mpr ⟨i, value, inner, stands, found, by rw [Nat.zero_add]⟩⟩
    | field name => cases stands
  · rintro ⟨item, known, found⟩
    obtain ⟨i, value, inner, stands, isInner, rfl⟩ := mem_itemViolations_iff.mp found
    exact ⟨.index i, item, value, inner, known, stands, isInner, by rw [Nat.zero_add]⟩

lemma isBelow_object_iff {shape : Shape} {fields : List (List CodePoint × Json)}
    {violation : Violation} :
    IsBelow shape (.object fields) violation ↔ ∃ field ∈ shape.fields,
      violation ∈ ((fieldViolations shape fields).lookup field.1).getD [] := by
  constructor
  · rintro ⟨step, asked, value, inner, isAsked, stands, found, rfl⟩
    cases step with
    | index i => cases stands
    | field name =>
        have known : Record.get? shape.fields name = some asked := isAsked
        have stands : Record.get? fields (CodePoint.listOf name) = some value := stands
        refine ⟨(name, asked), Record.mem_of_get? known, ?_⟩
        rw [lookup_fieldViolations_eq, known, Option.bind_some, stands, Option.map_some,
          Option.getD_some]
        exact List.mem_map_of_mem found
  · rintro ⟨field, -, found⟩
    rw [lookup_fieldViolations_eq] at found
    cases known : Record.get? shape.fields field.1 with
    | none => simp [known] at found
    | some asked =>
        cases stands : Record.get? fields (CodePoint.listOf field.1) with
        | none => simp [known, stands] at found
        | some value =>
            simp only [known, stands, Option.bind_some, Option.map_some, Option.getD_some,
              List.mem_map] at found
            obtain ⟨inner, isInner, rfl⟩ := found
            exact ⟨.field field.1, asked, value, inner, known, stands, isInner, rfl⟩

/-- **The violations of a document are those of the document itself and those of its parts**, the
latter one step further up. -/
lemma mem_violations_iff {shape : Shape} {document : Json} {violation : Violation} :
    violation ∈ violations shape document ↔
      violation ∈ violationsHere shape document ∨ IsBelow shape document violation := by
  cases document with
  | array items =>
      rw [violations, List.mem_append, isBelow_array_iff]
      refine or_congr_right ?_
      cases known : shape.item? <;> simp
  | object fields =>
      rw [violations, violationsHere, isBelow_object_iff, List.mem_append,
        List.mem_append (s := _ ++ _), List.mem_append (t := unexpectedFields shape fields),
        List.mem_flatMap, or_right_comm]
  | null | bool | int | real | string =>
      refine ⟨.inl, ?_⟩
      rintro (here | ⟨step, asked, value, inner, isAsked, stands, found, same⟩)
      · exact here
      · cases step <;> cases stands

/-- Nothing is wrong with a document if it breaks no rule itself and nothing is wrong with its
parts. -/
lemma violations_eq_nil_iff {shape : Shape} {document : Json} :
    violations shape document = [] ↔ (∀ rule, ¬ Breaks rule shape document) ∧
      ∀ (step : Step) (asked : Shape) (value : Json), step.shape? shape = some asked →
        step.value? document = some value → violations asked value = [] := by
  simp only [List.eq_nil_iff_forall_not_mem]
  constructor
  · intro none
    refine ⟨fun rule breaks => ?_, fun step asked value isAsked stands inner found => ?_⟩
    · obtain ⟨violation, here⟩ := List.exists_mem_of_ne_nil _ (violationsHere_ne_nil breaks)
      exact none violation (mem_violations_iff.mpr (.inl here))
    · exact none _ (mem_violations_iff.mpr
        (.inr ⟨step, asked, value, inner, isAsked, stands, found, rfl⟩))
  · rintro ⟨unbroken, below⟩ violation found
    rcases mem_violations_iff.mp found with here | ⟨step, asked, value, inner, isAsked, stands,
      isInner, -⟩
    · exact unbroken _ (breaks_of_mem_violationsHere here).2.2
    · exact below step asked value isAsked stands inner isInner

/-! ## Violations along paths -/

/-- A violation is what it says: its rule is broken by its value, which stands at its path. -/
lemma breaks_of_mem_violations {shape : Shape} {document : Json} {violation : Violation}
    (found : violation ∈ violations shape document) :
    ∃ asked, shapeAt? violation.path shape = some asked ∧
      valueAt? violation.path document = some violation.value ∧
        Breaks violation.rule asked violation.value := by
  obtain ⟨path, value, rule, ofKind⟩ := violation
  induction path generalizing shape document with
  | nil =>
      rcases mem_violations_iff.mp found with here | ⟨step, -, -, inner, -, -, -, same⟩
      · obtain ⟨-, rfl, breaks⟩ := breaks_of_mem_violationsHere here
        exact ⟨shape, rfl, rfl, breaks⟩
      · cases congrArg Violation.path same
  | cons step path ih =>
      rcases mem_violations_iff.mp found with here | ⟨other, asked, part, inner, isAsked, stands,
        isInner, same⟩
      · cases (breaks_of_mem_violationsHere here).1
      · obtain ⟨innerPath, innerValue, innerRule, innerOfKind⟩ := inner
        cases same
        obtain ⟨last, isLast, standsLast, breaks⟩ := ih isInner
        refine ⟨last, ?_, ?_, breaks⟩
        · rw [shapeAt?, isAsked, Option.bind_some, isLast]
        · rw [valueAt?, stands, Option.bind_some, standsLast]

/-- Where a value breaks a rule of the shape that is asked for, a violation is found. -/
lemma exists_violation_of_breaks {rule : Rule} {path : List Step} {shape asked : Shape}
    {document value : Json} (isAsked : shapeAt? path shape = some asked)
    (stands : valueAt? path document = some value) (breaks : Breaks rule asked value) :
    ∃ violation ∈ violations shape document, violation.path = path := by
  induction path generalizing shape document with
  | nil =>
      obtain rfl := Option.some.inj isAsked
      obtain rfl := Option.some.inj stands
      obtain ⟨violation, here⟩ := List.exists_mem_of_ne_nil _ (violationsHere_ne_nil breaks)
      exact ⟨violation, mem_violations_iff.mpr (.inl here), (breaks_of_mem_violationsHere here).1⟩
  | cons step path ih =>
      rw [shapeAt?, Option.bind_eq_some_iff] at isAsked
      rw [valueAt?, Option.bind_eq_some_iff] at stands
      obtain ⟨next, isNext, isAsked⟩ := isAsked
      obtain ⟨part, isPart, stands⟩ := stands
      obtain ⟨inner, found, rfl⟩ := ih isAsked stands
      exact ⟨inner.below step,
        mem_violations_iff.mpr (.inr ⟨step, next, part, inner, isNext, isPart, found, rfl⟩), rfl⟩

/-! ## The violation that is reported -/

namespace Checker

variable {checker : Checker} {document : Json}

lemma validate_eq_none_iff : checker.validate document = none ↔ violations .blocks document = [] := by
  unfold validate
  split <;> simp [*]

lemma validate_spec {violation : Violation} (reported : checker.validate document = some violation) :
    violation ∈ violations .blocks document ∧
      ∀ other ∈ violations .blocks document, violation.path.length ≤ other.path.length := by
  unfold validate at reported
  split at reported
  · cases reported
  · next first others found =>
      obtain rfl := Option.some.inj reported
      rw [found]
      exact ⟨checker.pick_mem first others, checker.length_path_pick_le first others⟩

/-- Nothing is reported of a document exactly if checking finds no violation, and that is all there
is to a verdict where checking gets through. -/
lemma judge_eq_conforming_iff :
    judge document checker = .conforming ↔
      checker.reaches document = true ∧ violations .blocks document = [] := by
  have unreported_iff : checker.validate document = none ↔ violations .blocks document = [] :=
    validate_eq_none_iff
  rw [← unreported_iff, judge]
  cases checker.reaches document <;> cases checker.validate document <;> simp

lemma judge_eq_tooDeep_iff :
    judge document checker = .tooDeep ↔ checker.reaches document = false := by
  rw [judge]
  cases checker.reaches document <;> cases checker.validate document <;> simp

lemma judge_eq_violated_iff {violation : Violation} :
    judge document checker = .violated violation ↔
      checker.reaches document = true ∧ checker.validate document = some violation := by
  rw [judge]
  cases checker.reaches document <;> cases checker.validate document <;> simp

end Checker

end DocComment.Schema
