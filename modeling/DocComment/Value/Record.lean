import DocComment.Value.Basic

/-!
# Records

Reading, setting and erasing a field, whatever the names and what stands under them.  Setting a
field that is present keeps its place; a new one goes to the end.
-/

namespace DocComment.Record

open DocComment

variable {κ α : Type} [DecidableEq κ]

/-- The value of a field. -/
def get? (record : List (κ × α)) (name : κ) : Option α := record.lookup name

/-- The value of a field, or `absent` where there is none. -/
def getD (record : List (κ × α)) (name : κ) (absent : α) : α :=
  (get? record name).getD absent

/-- Gives a field a value, in its place if it is present and at the end if not. -/
def set : List (κ × α) → κ → α → List (κ × α)
  | [], name, value => [(name, value)]
  | (other, old) :: rest, name, value =>
    if other = name then (name, value) :: rest else (other, old) :: set rest name value

/-- Removes a field. -/
def erase (record : List (κ × α)) (name : κ) : List (κ × α) :=
  record.filter fun field => field.1 != name

/-- Sets the fields of `others` one after the other. -/
def update (record others : List (κ × α)) : List (κ × α) :=
  others.foldl (fun result field => set result field.1 field.2) record

/-- Sets a field only where it is absent. -/
def setIfAbsent (record : List (κ × α)) (name : κ) (value : α) : List (κ × α) :=
  if (get? record name).isSome then record else set record name value

/-- The record with the given fields set in turn: of fields of one name the last value stays, in
the place of the first. -/
def ofFields (fields : List (κ × α)) : List (κ × α) := update [] fields

@[simp] theorem get?_nil (name : κ) : get? ([] : List (κ × α)) name = none := rfl

theorem get?_cons (field : κ × α) (rest : List (κ × α)) (name : κ) :
    get? (field :: rest) name = if name = field.1 then some field.2 else get? rest name := by
  obtain ⟨other, value⟩ := field
  by_cases h : name = other
  · subst h; simp [get?]
  · have : (name == other) = false := by simpa using h
    simp [get?, List.lookup_cons, this, h]

theorem get?_set (record : List (κ × α)) (name other : κ) (value : α) :
    get? (set record name value) other =
      if other = name then some value else get? record other := by
  induction record with
  | nil => simp [set, get?_cons]
  | cons field rest ih =>
    obtain ⟨first, old⟩ := field
    simp only [set]
    by_cases h : first = name
    · subst h
      simp only [if_true, get?_cons]
      split <;> rfl
    · simp only [if_neg h, get?_cons, ih]
      by_cases h' : other = first
      · simp [h', h]
      · simp [h']

theorem get?_set_self (record : List (κ × α)) (name : κ) (value : α) :
    get? (set record name value) name = some value := by
  simp [get?_set]

theorem get?_set_of_ne {name other : κ} (h : other ≠ name) (record : List (κ × α))
    (value : α) : get? (set record name value) other = get? record other := by
  simp [get?_set, h]

end DocComment.Record
