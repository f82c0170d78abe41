import DocComment.Proofs.SoundValues

/-!
# Values that conform to a shape

Checking a document compares code points and collects violations, each with its path.  `Conforms`
says in one rule for each kind of value what it looks for.  A value that conforms is written to a
document without violations (`violations_eq_nil`).
-/

namespace DocComment.Schema

open DocComment

/-! ## Values as documents -/

lemma ofValues_eq_map (items : List Value) : Json.ofValues items = items.map Json.ofValue := by
  induction items with
  | nil => simp [Json.ofValues]
  | cons item rest ih => simp [Json.ofValues, ih]

lemma ofFields_eq_map (fields : Record) :
    Json.ofFields fields =
      fields.map fun field => (CodePoint.listOf field.1, Json.ofValue field.2) := by
  induction fields with
  | nil => simp [Json.ofFields]
  | cons field rest ih => simp [Json.ofFields, ih]

lemma get?_map_listOf {α : Type} (fields : List (String × α)) (name : String) :
    Record.get? (fields.map fun field => (CodePoint.listOf field.1, field.2))
      (CodePoint.listOf name) = Record.get? fields name := by
  induction fields with
  | nil => rfl
  | cons field rest ih =>
      rw [List.map_cons, Record.get?_cons, Record.get?_cons, ih]
      by_cases same : name = field.1
      · simp [same]
      · have other : CodePoint.listOf name ≠ CodePoint.listOf field.1 := mt listOf_injective same
        simp [same, other]

lemma get?_ofFields (fields : Record) (name : String) :
    Record.get? (Json.ofFields fields) (CodePoint.listOf name) =
      (Record.get? fields name).map Json.ofValue := by
  have inside : ∀ fields : Record,
      Record.get? (fields.map fun field => (field.1, Json.ofValue field.2)) name =
        (Record.get? fields name).map Json.ofValue := by
    intro fields
    induction fields with
    | nil => rfl
    | cons field rest ih =>
        rw [List.map_cons, Record.get?_cons, Record.get?_cons, ih]
        split <;> rfl
  rw [ofFields_eq_map, ← inside, ← get?_map_listOf, List.map_map]
  rfl

/-! ## Conforming values -/

/-- A value is of the kind that a shape asks for, and so is all that it holds: the items of a list
have the shape of items, and a record has the required fields, each of its shape, and no others if
the shape is closed. -/
inductive Conforms : Shape → Value → Prop
  | text (content : Text) : Conforms .text (.text content)
  | flag (raised : Bool) : Conforms .flag (.bool raised)
  | lineNumber (n : Nat) : Conforms .lineNumber (.ofNat n)
  | list {shape item : Shape} {items : List Value} (holds : shape.item? = some item)
      (each : ∀ value ∈ items, Conforms item value) : Conforms shape (.list items)
  | record {shape : Shape} {fields : Record} (isObject : shape.kind = .object)
      (present : ∀ field ∈ shape.fields, (Record.get? fields field.1).isSome = true)
      (each : ∀ name value inner, (name, value) ∈ fields →
        Record.get? shape.fields name = some inner → Conforms inner value)
      (closed : shape.isClosed = true →
        ∀ field ∈ fields, (Record.get? shape.fields field.1).isSome = true) :
      Conforms shape (.record fields)

/-- A value that conforms is written without violations. -/
lemma violations_eq_nil {shape : Shape} {value : Value} (conforms : Conforms shape value) :
    violations shape (Json.ofValue value) = [] := by
  induction conforms with
  | text content => exact (scalar_sound_iff rfl rfl rfl).mpr ⟨rfl, nofun⟩
  | flag raised => exact (scalar_sound_iff rfl rfl rfl).mpr ⟨rfl, nofun⟩
  | lineNumber n =>
      refine (scalar_sound_iff rfl rfl rfl).mpr ⟨rfl, fun ⟨_, below⟩ => ?_⟩
      exact Int.not_lt.mpr (Int.natCast_nonneg n) (of_decide_eq_true below)
  | @list shape item items holds each ih =>
      rw [Json.ofValue, ofValues_eq_map]
      exact (array_sound_iff holds).mpr ⟨_, rfl, List.forall_mem_map.mpr ih⟩
  | @record shape fields isObject present each closed ih =>
      rw [Json.ofValue]
      refine (object_sound_iff isObject).mpr
        ⟨_, rfl, fun field required => ?_, fun isClosed field found => ?_⟩
      · obtain ⟨value, stands⟩ := Option.isSome_iff_exists.mp (present field required)
        refine ⟨Json.ofValue value, by rw [get?_ofFields, stands, Option.map_some], ?_⟩
        exact ih field.1 value field.2 (Record.mem_of_get? stands) (get?_fields_of_mem required)
      · rw [ofFields_eq_map] at found
        obtain ⟨entry, isEntry, rfl⟩ := List.mem_map.mp found
        obtain ⟨inner, isKnown⟩ := Option.isSome_iff_exists.mp (closed isClosed entry isEntry)
        exact List.mem_map_of_mem (List.mem_map_of_mem (f := (·.1)) (Record.mem_of_get? isKnown))

end DocComment.Schema
