import DocComment.Proofs.BrokenRules
import Mathlib.Logic.Basic
import Mathlib.Tactic.ByContra

/-!
# Values of a shape

What a shape has to say of a value is one equation for arrays and one for objects
(`array_sound_iff`, `object_sound_iff`): an array is as it should be if its items are, and an object
if it has the required fields, each as it should be, and no others where its shape is closed.
-/

namespace DocComment.Schema

open DocComment

/-! ## Lists and fields -/

/-- A value is a list, and so is each of its items. -/
def IsListOf (IsItem : Json → Prop) (value : Json) : Prop :=
  ∃ items, value = .array items ∧ ∀ item ∈ items, IsItem item

/-- There is a field of this name, and its value is as it should be. -/
def HasField (fields : List (List CodePoint × Json)) (name : String) (IsValue : Json → Prop) :
    Prop :=
  ∃ value, Record.get? fields (CodePoint.listOf name) = some value ∧ IsValue value

/-! ## What a shape has to say of a value -/

/-- Nothing is wrong with a value of this shape. -/
def IsSound (shape : Shape) (value : Json) : Prop := violations shape value = []

lemma get?_fields_of_mem {shape : Shape} {field : String × Shape} (known : field ∈ shape.fields) :
    Record.get? shape.fields field.1 = some field.2 := by
  have distinct : (shape.fields.map (·.1)).Nodup := by cases shape <;> decide
  exact Record.get?_of_mem distinct known

lemma kind_eq_array {shape item : Shape} (holds : shape.item? = some item) :
    shape.kind = .array := by
  cases shape with
  | blocks | tags | messages => rfl
  | block | tag | text | flag | lineNumber => cases holds

/-- Where an array is asked for, it is as it should be if its items are. -/
lemma array_sound_iff {shape item : Shape} (holds : shape.item? = some item) {value : Json} :
    IsSound shape value ↔ IsListOf (IsSound item) value := by
  have isArray := kind_eq_array holds
  rw [IsSound, violations_eq_nil_iff]
  constructor
  · rintro ⟨unbroken, below⟩
    cases value with
    | array items =>
        refine ⟨items, rfl, fun found isItem => ?_⟩
        obtain ⟨i, stands⟩ := List.mem_iff_getElem?.mp isItem
        exact below (.index i) item found holds stands
    | null | bool | int | real | string | object =>
        exact absurd (.wrongKind (by rw [isArray]; rfl)) (unbroken _)
  · rintro ⟨items, rfl, each⟩
    refine ⟨fun rule breaks => ?_, fun step asked part isAsked stands => ?_⟩
    · cases breaks with
      | wrongKind other =>
          rw [isArray] at other
          cases other
      | belowZero bounded below => cases below
    · cases step with
      | index i =>
          obtain rfl := Option.some.inj (holds.symm.trans isAsked)
          exact each part (List.mem_of_getElem? stands)
      | field name => cases stands

lemma field?_eq_none_iff {shape : Shape} {name : List CodePoint} :
    shape.field? name = none ↔ name ∉ (shape.fields.map (·.1)).map CodePoint.listOf := by
  rw [← not_iff_not, not_not, ← ne_eq, Option.ne_none_iff_exists']
  constructor
  · rintro ⟨found, isKnown⟩
    obtain ⟨rfl, present⟩ := field?_eq_some_iff.mp isKnown
    rw [List.map_map]
    exact List.mem_map_of_mem (Record.mem_of_get? present)
  · intro known
    obtain ⟨_, isName, rfl⟩ := List.mem_map.mp known
    obtain ⟨field, isField, rfl⟩ := List.mem_map.mp isName
    exact ⟨(field.1, field.2), field?_eq_some_iff.mpr ⟨rfl, get?_fields_of_mem isField⟩⟩

/-- An object breaks no rule itself if it has the fields that are required, and no others where its
shape is closed. -/
lemma unbroken_object_iff {shape : Shape} (isObject : shape.kind = .object)
    {fields : List (List CodePoint × Json)} :
    (∀ rule, ¬ Breaks rule shape (.object fields)) ↔
      (∀ field ∈ shape.fields, ∃ value,
        Record.get? fields (CodePoint.listOf field.1) = some value) ∧
        (shape.isClosed = true → ∀ field ∈ fields,
          field.1 ∈ (shape.fields.map (·.1)).map CodePoint.listOf) := by
  constructor
  · intro unbroken
    refine ⟨fun field required => ?_, fun closed field isField => ?_⟩
    · rw [← Option.ne_none_iff_exists']
      exact fun absent => unbroken _ (.missing required absent)
    · by_contra isUnknown
      let unknown := (fields.map (·.1)).filter fun name => (shape.field? name).isNone
      have isOther : field.1 ∈ unknown := by
        rw [List.mem_filter, Option.isNone_iff_eq_none, field?_eq_none_iff]
        exact ⟨List.mem_map_of_mem isField, isUnknown⟩
      refine unbroken (.unexpected unknown) (.unexpected closed (List.ne_nil_of_mem isOther) ?_)
      intro name
      rw [List.mem_filter, Option.isNone_iff_eq_none]
  · rintro ⟨present, noOthers⟩ rule breaks
    cases breaks with
    | wrongKind other =>
        rw [isObject] at other
        cases other
    | belowZero bounded below => cases below
    | missing required absent =>
        obtain ⟨value, stands⟩ := present _ required
        cases absent.symm.trans stands
    | @unexpected _ names _ closed nonempty unknown =>
        obtain ⟨name, isName⟩ := List.exists_mem_of_ne_nil names nonempty
        obtain ⟨isPresent, isUnknown⟩ := (unknown name).mp isName
        obtain ⟨field, isField, rfl⟩ := List.mem_map.mp isPresent
        exact field?_eq_none_iff.mp isUnknown (noOthers closed field isField)

/-- An object is as it should be if it has the required fields, each as it should be, and no others
where its shape is closed. -/
lemma object_sound_iff {shape : Shape} (isObject : shape.kind = .object) {value : Json} :
    IsSound shape value ↔ ∃ fields, value = .object fields ∧
      (∀ field ∈ shape.fields, HasField fields field.1 (IsSound field.2)) ∧
        (shape.isClosed = true → ∀ field ∈ fields,
          field.1 ∈ (shape.fields.map (·.1)).map CodePoint.listOf) := by
  rw [IsSound, violations_eq_nil_iff]
  constructor
  · rintro ⟨unbroken, below⟩
    cases value with
    | object fields =>
        obtain ⟨present, noOthers⟩ := (unbroken_object_iff isObject).mp unbroken
        refine ⟨fields, rfl, fun field required => ?_, noOthers⟩
        obtain ⟨part, stands⟩ := present field required
        have isAsked := get?_fields_of_mem required
        exact ⟨part, stands, below (.field field.1) field.2 part isAsked stands⟩
    | null | bool | int | real | string | array =>
        exact absurd (.wrongKind (by rw [isObject]; rfl)) (unbroken _)
  · rintro ⟨fields, rfl, present, noOthers⟩
    constructor
    · refine (unbroken_object_iff isObject).mpr ⟨fun field required => ?_, noOthers⟩
      obtain ⟨part, stands, -⟩ := present field required
      exact ⟨part, stands⟩
    · intro step asked part isAsked stands
      cases step with
      | index i => cases stands
      | field name =>
          obtain ⟨found, standsFirst, sound⟩ := present (name, asked) (Record.mem_of_get? isAsked)
          obtain rfl := Option.some.inj (standsFirst.symm.trans stands)
          exact sound

/-- A value that holds nothing is sound if it breaks no rule itself. -/
lemma scalar_sound_iff {shape : Shape} (noItems : shape.item? = none) (noFields : shape.fields = [])
    (isOpen : shape.isClosed = false) {value : Json} :
    IsSound shape value ↔ shape.kind.admits value = true ∧
      ¬ (shape.isNonnegative = true ∧ isBelowZero value = true) := by
  rw [IsSound, violations_eq_nil_iff]
  constructor
  · rintro ⟨unbroken, -⟩
    refine ⟨?_, fun ⟨bounded, below⟩ => unbroken _ (.belowZero bounded below)⟩
    rw [← Bool.not_eq_false]
    exact fun other => unbroken _ (.wrongKind other)
  · rintro ⟨ofKind, notBelow⟩
    refine ⟨fun rule breaks => ?_, fun step asked part isAsked stands => ?_⟩
    · cases breaks with
      | wrongKind other => cases ofKind.symm.trans other
      | belowZero bounded below => exact notBelow ⟨bounded, below⟩
      | missing required => simp [noFields] at required
      | unexpected closed => cases isOpen.symm.trans closed
    · cases step with
      | index i => cases noItems.symm.trans isAsked
      | field name =>
          rw [Step.shape?, noFields] at isAsked
          cases isAsked

end DocComment.Schema
