import DocComment.Value.Record
import Mathlib.Tactic.Lemma

/-!
# Fields of a record

What setting a field does to the other fields and to their names.  Setting never brings in a second
field of one name, so in a record that is built by setting, the fields that it has are the fields
that are found by their names (`get?_of_mem`).
-/

namespace DocComment.Record

open DocComment

variable {κ α : Type} [DecidableEq κ]

@[simp] lemma set_set (record : List (κ × α)) (name : κ) (first second : α) :
    set (set record name first) name second = set record name second := by
  induction record with
  | nil => simp [set]
  | cons field rest ih =>
      obtain ⟨other, old⟩ := field
      by_cases same : other = name <;> simp [set, same, ih]

lemma set_of_get? {record : List (κ × α)} {name : κ} {value : α}
    (present : get? record name = some value) : set record name value = record := by
  induction record with
  | nil => simp at present
  | cons field rest ih =>
      obtain ⟨other, old⟩ := field
      rw [get?_cons] at present
      by_cases same : other = name
      · subst same
        simp_all [set]
      · simp [set, same, ih (by simpa [Ne.symm same] using present)]

lemma get?_append (record more : List (κ × α)) (name : κ) :
    get? (record ++ more) name = (get? record name).or (get? more name) :=
  List.lookup_append

lemma get?_filter (keep : κ → Bool) (record : List (κ × α)) (name : κ) :
    get? (record.filter fun field => keep field.1) name =
      if keep name then get? record name else none := by
  induction record with
  | nil => simp
  | cons field rest ih =>
      rw [List.filter_cons]
      by_cases same : name = field.1
      · subst same
        split <;> simp_all [get?_cons]
      · split <;> simp [get?_cons, same, ih]

lemma mem_of_get? {record : List (κ × α)} {name : κ} {value : α}
    (present : get? record name = some value) : (name, value) ∈ record := by
  induction record with
  | nil => simp at present
  | cons field rest ih =>
      obtain ⟨other, old⟩ := field
      rw [get?_cons] at present
      by_cases same : name = other
      · simp_all
      · exact List.mem_cons_of_mem _ (ih (by simpa [same] using present))

/-- A field of a record with a field set is that field, or a field of the record. -/
lemma mem_set {record : List (κ × α)} {name other : κ} {value found : α}
    (field : (other, found) ∈ set record name value) :
    (other = name ∧ found = value) ∨ (other, found) ∈ record := by
  induction record with
  | nil => simpa [set] using field
  | cons first rest ih =>
      obtain ⟨known, old⟩ := first
      rw [set] at field
      split at field <;> rename_i same
      · rcases List.mem_cons.mp field with here | later
        · exact .inl (Prod.mk.inj here)
        · exact .inr (List.mem_cons_of_mem _ later)
      · rcases List.mem_cons.mp field with here | later
        · exact .inr (here ▸ List.mem_cons_self)
        · exact (ih later).imp_right (List.mem_cons_of_mem _)

/-- Setting a field keeps the names, or adds the new one behind them. -/
lemma map_fst_set (record : List (κ × α)) (name : κ) (value : α) :
    (set record name value).map (·.1) =
      if name ∈ record.map (·.1) then record.map (·.1) else record.map (·.1) ++ [name] := by
  induction record with
  | nil => simp [set]
  | cons first rest ih =>
      obtain ⟨known, old⟩ := first
      by_cases same : known = name
      · simp [set, same]
      · simp only [set, same, if_false, List.map_cons, ih, List.mem_cons, Ne.symm same, false_or]
        split <;> simp

lemma nodup_set {record : List (κ × α)} (distinct : (record.map (·.1)).Nodup) (name : κ)
    (value : α) : ((set record name value).map (·.1)).Nodup := by
  rw [map_fst_set]
  split
  · exact distinct
  · rename_i absent
    refine List.nodup_append.mpr ⟨distinct, List.nodup_cons.mpr ⟨by simp, .nil⟩, ?_⟩
    intro known isKnown new isNew same
    rw [List.mem_singleton.mp isNew] at same
    exact absent (same ▸ isKnown)

lemma get?_of_mem {record : List (κ × α)} (distinct : (record.map (·.1)).Nodup) {name : κ}
    {value : α} (found : (name, value) ∈ record) : get? record name = some value := by
  induction record with
  | nil => simp at found
  | cons field rest ih =>
      obtain ⟨absent, distinctRest⟩ := List.nodup_cons.mp distinct
      rw [get?_cons]
      rcases List.mem_cons.mp found with rfl | later
      · simp
      · have other : name ≠ field.1 := by
          rintro rfl
          exact absent (List.mem_map.mpr ⟨_, later, rfl⟩)
        rw [if_neg other]
        exact ih distinctRest later

lemma isSome_get?_set {record : List (κ × α)} {name other : κ}
    (present : other = name ∨ (get? record other).isSome = true) (value : α) :
    (get? (set record name value) other).isSome = true := by
  rw [get?_set]
  split
  · rfl
  · exact present.resolve_left ‹_›

lemma mem_setIfAbsent {record : List (κ × α)} {name other : κ} {value found : α}
    (field : (other, found) ∈ setIfAbsent record name value) :
    (other = name ∧ found = value) ∨ (other, found) ∈ record := by
  rw [setIfAbsent] at field
  split at field
  · exact .inr field
  · exact mem_set field

lemma isSome_get?_setIfAbsent {record : List (κ × α)} {name other : κ}
    (present : other = name ∨ (get? record other).isSome = true) (value : α) :
    (get? (setIfAbsent record name value) other).isSome = true := by
  rw [setIfAbsent]
  split
  · rename_i known
    rcases present with rfl | known
    · exact known
    · exact known
  · exact isSome_get?_set present value

lemma mem_update {record others : List (κ × α)} {name : κ} {value : α}
    (found : (name, value) ∈ update record others) :
    (name, value) ∈ record ∨ (name, value) ∈ others := by
  induction others generalizing record with
  | nil => exact .inl found
  | cons field rest ih =>
      rcases ih found with inSet | inRest
      · rcases mem_set inSet with ⟨rfl, rfl⟩ | old
        · exact .inr List.mem_cons_self
        · exact .inl old
      · exact .inr (List.mem_cons_of_mem _ inRest)

lemma set_of_not_mem {record : List (κ × α)} {name : κ} (absent : name ∉ record.map (·.1))
    (value : α) : set record name value = record ++ [(name, value)] := by
  induction record with
  | nil => rfl
  | cons field rest ih =>
      rw [List.map_cons, List.mem_cons, not_or] at absent
      rw [set, if_neg (Ne.symm absent.1), ih absent.2, List.cons_append]

/-- Fields with new names, each once, go to the end in their order. -/
lemma update_of_nodup {record others : List (κ × α)}
    (distinct : ((record ++ others).map (·.1)).Nodup) :
    update record others = record ++ others := by
  induction others generalizing record with
  | nil => rw [List.append_nil, update, List.foldl_nil]
  | cons field rest ih =>
      have absent : field.1 ∉ record.map (·.1) := by
        rw [List.map_append, List.map_cons] at distinct
        exact fun present => (List.nodup_append.mp distinct).2.2 _ present _ List.mem_cons_self rfl
      have regrouped : record ++ [(field.1, field.2)] ++ rest = record ++ field :: rest := by simp
      rw [update, List.foldl_cons, set_of_not_mem absent]
      rw [← regrouped] at distinct ⊢
      exact ih distinct

lemma ofFields_of_nodup {fields : List (κ × α)} (distinct : (fields.map (·.1)).Nodup) :
    ofFields fields = fields :=
  update_of_nodup distinct

end DocComment.Record
