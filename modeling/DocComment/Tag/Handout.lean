import DocComment.Tag.Parser
import DocComment.Value.Display

/-!
# Handing out a record

A parser is handed a copy of the record in which the lists and records that stand directly under a
name are copied too.  What lies deeper is shared with the record at home, so a change there reaches
it.  A handout keeps track: a *cell* of a copied list or record is either the copy's own or still
the one at a known place of the record at home, even after cells around it were removed.
-/

namespace DocComment

/-! ## Changing values -/

namespace Value

/-- The index that a key stands for in a list of `size` items; a negative one counts from the end.
`outside` is the failure of an index that is none. -/
def indexIn (size : Nat) (outside : String) (key : Value) : Except String Nat :=
  match key.asInt? with
  | some n =>
    let index := if n < 0 then n + size else n
    if 0 ≤ index && index < size then .ok index.toNat else .error outside
  | none => .error s!"list indices must be integers or slices, not {key.kindName}"

/-- The name that a key stands for in a record. -/
def fieldName (key : Value) : Except String String :=
  match key with
  | .text name => .ok (String.ofList name)
  | .list _ | .record _ => .error s!"unhashable type: '{key.kindName}'"
  | other => .ok (String.ofList other.display)

/-- The failure of looking for a field that is absent. -/
def missing (key : Value) : String := String.ofList key.display

/-- The part of a value that a key leads to. -/
def part (value key : Value) : Except String Value :=
  match value with
  | .list items => do
    let index ← indexIn items.length "list index out of range" key
    return items[index]?.getD .null
  | .record fields => do
    match Record.get? fields (← key.fieldName) with
    | some found => .ok found
    | none => .error key.missing
  | .text characters =>
    match key.asInt? with
    | some _ => do
      let index ← indexIn characters.length "string index out of range" key
      return .text [characters[index]?.getD ' ']
    | none => .error s!"string indices must be integers, not '{key.kindName}'"
  | other => .error s!"'{other.kindName}' object is not subscriptable"

/-- The value with another part in the place that a key leads to. -/
def withPart (value key newPart : Value) : Except String Value :=
  match value with
  | .list items => do
    let index ← indexIn items.length "list assignment index out of range" key
    return .list (items.set index newPart)
  | .record fields => do return .record (Record.set fields (← key.fieldName) newPart)
  | other => .error s!"'{other.kindName}' object does not support item assignment"

/-- The value without the part that a key leads to. -/
def withoutPart (value key : Value) : Except String Value :=
  match value with
  | .list items => do
    let index ← indexIn items.length "list assignment index out of range" key
    return .list (items.eraseIdx index)
  | .record fields => do
    let name ← key.fieldName
    if (Record.get? fields name).isSome then .ok (.record (Record.erase fields name))
    else .error key.missing
  | other =>
    match other, key.asInt? with
    | .text _, some _ => .error s!"'{other.kindName}' object doesn't support item deletion"
    | _, _ => .error s!"'{other.kindName}' object does not support item deletion"

/-- The value after a change to it. -/
def changed (value : Value) : Change → Except String Value
  | .append new =>
    match value with
    | .list items => .ok (.list (items ++ [new]))
    | other => .error s!"'{other.kindName}' object has no attribute 'append'"
  | .put key new => value.withPart key new
  | .remove key => value.withoutPart key

/-- The value after a change to the part that a path leads to. -/
def changedAt (change : Change) : (path : List Value) → (value : Value) → Except String Value
  | [], value => value.changed change
  | key :: path, value => do
    let new ← changedAt change path (← value.part key)
    -- What was changed below a text or a like value cannot have been changed in place.
    match value with
    | .list _ | .record _ => value.withPart key new
    | other => .ok other

end Value

/-! ## Handouts -/

/-- A place in a list or record: an index or a name. -/
inductive Place where
  | item (index : Nat)
  | field (name : String)
deriving DecidableEq, Repr

/-- An item of a copied list or record. -/
inductive Cell where
  | own (value : Value)
  /-- The item at a place of what stands under a name of the record at home. -/
  | shared (name : String) (place : Place)
deriving Repr

/-- What stands under a name of a handed out record. -/
inductive Entry where
  /-- A value of the copy's own, or one that cannot be changed in place. -/
  | value (v : Value)
  | list (cells : List Cell)
  | record (cells : List (String × Cell))
deriving Repr

/-- A handed out copy of a record, and the record at home. -/
structure Handout where
  home : Record
  copy : List (String × Entry)
deriving Repr

namespace Handout

/-- The copy of a value that stands under `name`. -/
def entryOf (name : String) : Value → Entry
  | .list items => .list ((List.range items.length).map fun index => .shared name (.item index))
  | .record fields => .record (fields.map fun (key, _) => (key, .shared name (.field key)))
  | other => .value other

/-- Hands a record out. -/
def ofRecord (home : Record) : Handout :=
  ⟨home, home.map fun (name, value) => (name, entryOf name value)⟩

/-- The key of a place. -/
def Place.key : Place → Value
  | .item index => .int index
  | .field name => .text name.toList

/-- The present value of a cell. -/
def read (home : Record) : Cell → Value
  | .own value => value
  | .shared name place =>
    ((Record.getD home name .null).part (Place.key place)).toOption.getD .null

/-- Gives a cell another value: a cell of the copy's own in the copy, a shared one at home. -/
def write (home : Record) (value : Value) : Cell → Record × Cell
  | .own _ => (home, .own value)
  | .shared name place =>
    let holder := Record.getD home name .null
    (Record.set home name ((holder.withPart (Place.key place) value).toOption.getD holder),
      .shared name place)

/-- The entries with another one under a name. -/
def putEntry {α : Type} (entries : List (String × α)) (name : String) (entry : α) :
    List (String × α) :=
  if (entries.lookup name).isSome then
    entries.map fun (other, old) => if other = name then (other, entry) else (other, old)
  else entries ++ [(name, entry)]

/-- The entries without the one under a name. -/
def dropEntry {α : Type} (entries : List (String × α)) (name : String) : List (String × α) :=
  entries.filter fun entry => entry.1 != name

/-- The entry that a key leads to. -/
def findEntry {α : Type} (entries : List (String × α)) (key : Value) :
    Except String (String × α) := do
  let name ← key.fieldName
  match entries.lookup name with
  | some entry => .ok (name, entry)
  | none => .error key.missing

/-- A change to the copied record itself. -/
def changeTop (copy : List (String × Entry)) : Change → Except String (List (String × Entry))
  | .append _ => .error "'dict' object has no attribute 'append'"
  | .put key value => do return putEntry copy (← key.fieldName) (.value value)
  | .remove key => do return dropEntry copy (← findEntry copy key).1

/-- A change to a list or record that stands directly under a name. -/
def changeEntry : Entry → Change → Except String Entry
  | .value value, change => (value.changed change).map .value
  | .list cells, .append value => .ok (.list (cells ++ [.own value]))
  | .list cells, .put key value => do
    let index ← Value.indexIn cells.length "list assignment index out of range" key
    return .list (cells.set index (.own value))
  | .list cells, .remove key => do
    let index ← Value.indexIn cells.length "list assignment index out of range" key
    return .list (cells.eraseIdx index)
  | .record _, .append _ => .error "'dict' object has no attribute 'append'"
  | .record cells, .put key value => do
    return .record (putEntry cells (← key.fieldName) (.own value))
  | .record cells, .remove key => do return .record (dropEntry cells (← findEntry cells key).1)

/-- A change inside a cell. -/
def changeCell (home : Record) (cell : Cell) (path : List Value) (change : Change) :
    Except String (Record × Cell) := do
  return write home (← Value.changedAt change path (read home cell)) cell

/-- A change below a list or record that stands directly under a name. -/
def changeBelow (home : Record) (entry : Entry) (key : Value) (path : List Value)
    (change : Change) : Except String (Record × Entry) :=
  match entry with
  | .value value => do return (home, .value (← Value.changedAt change (key :: path) value))
  | .list cells => do
    let index ← Value.indexIn cells.length "list index out of range" key
    let (home, cell) ← changeCell home (cells[index]?.getD (.own .null)) path change
    return (home, .list (cells.set index cell))
  | .record cells => do
    let (name, cell) ← findEntry cells key
    let (home, cell) ← changeCell home cell path change
    return (home, .record (putEntry cells name cell))

/-- Makes an edit. -/
def edit (handout : Handout) (edit : Edit) : Except String Handout :=
  match edit.path with
  | [] => do return { handout with copy := ← changeTop handout.copy edit.change }
  | [first] => do
    let (name, entry) ← findEntry handout.copy first
    return { handout with copy := putEntry handout.copy name (← changeEntry entry edit.change) }
  | first :: key :: path => do
    let (name, entry) ← findEntry handout.copy first
    let (home, entry) ← changeBelow handout.home entry key path edit.change
    return ⟨home, putEntry handout.copy name entry⟩

/-- Makes edits in turn up to the first that fails: the record at home afterwards, and that
failure. -/
def run (handout : Handout) : List Edit → Record × Option String
  | [] => (handout.home, none)
  | next :: rest =>
    match handout.edit next with
    | .ok handout => handout.run rest
    | .error failure => (handout.home, some failure)

end Handout

/-- The record at home after a parser made edits to its copy, and the first failure among them. -/
def Record.handOut (record : Record) (edits : List Edit) : Record × Option String :=
  (Handout.ofRecord record).run edits

@[simp] theorem Record.handOut_nil (record : Record) : record.handOut [] = (record, none) := rfl

end DocComment
