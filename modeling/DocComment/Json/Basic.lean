import DocComment.Text.CodePoint
import DocComment.Value.Record

/-!
# JSON documents

A JSON document is a tree much like a value, with two differences.  It has no kinds but those of
JSON: octets are written as a text and tuples as lists.  And its texts and names are sequences of
code points, because an escape may spell half a surrogate pair, which no text of characters holds.
-/

namespace DocComment

/-- A JSON document. -/
inductive Json where
  | null
  | bool (flag : Bool)
  | int (n : Int)
  | real (x : Binary64)
  | string (codes : List CodePoint)
  | array (items : List Json)
  | object (fields : List (List CodePoint × Json))
deriving Repr, Inhabited

namespace Json

mutual

/-- The document that a value is written as. -/
def ofValue : Value → Json
  | .null => .null
  | .bool flag => .bool flag
  | .int n => .int n
  | .real x => .real x
  | .text characters => .string characters.codes
  | .bytes octets => .string (octets.map fun octet => CodePoint.ofNat octet.toNat)
  | .list items => .array (ofValues items)
  | .tuple items => .array (ofValues items)
  | .record fields => .object (ofFields fields)

/-- The documents that several values are written as. -/
def ofValues : List Value → List Json
  | [] => []
  | item :: rest => ofValue item :: ofValues rest

/-- The fields that the fields of a record are written as. -/
def ofFields : List (String × Value) → List (List CodePoint × Json)
  | [] => []
  | (name, value) :: rest => (CodePoint.listOf name, ofValue value) :: ofFields rest

end

mutual

/-- How many levels a document has: one for what holds nothing, and one more than what it holds for
an array or an object. -/
def levels : Json → Nat
  | .array items => levelsOfItems items + 1
  | .object fields => levelsOfFields fields + 1
  | _ => 1

/-- The levels of the item that has most of them. -/
def levelsOfItems : List Json → Nat
  | [] => 0
  | item :: rest => max (levels item) (levelsOfItems rest)

/-- The levels of the field that has most of them. -/
def levelsOfFields : List (List CodePoint × Json) → Nat
  | [] => 0
  | (_, value) :: rest => max (levels value) (levelsOfFields rest)

end

theorem levels_le_levelsOfItems {item : Json} {items : List Json} (found : item ∈ items) :
    item.levels ≤ levelsOfItems items := by
  induction items with
  | nil => cases found
  | cons first rest ih =>
    rw [levelsOfItems]
    rcases List.mem_cons.mp found with rfl | inRest
    · exact Nat.le_max_left _ _
    · exact Nat.le_trans (ih inRest) (Nat.le_max_right _ _)

theorem levels_le_levelsOfFields {field : List CodePoint × Json}
    {fields : List (List CodePoint × Json)} (found : field ∈ fields) :
    field.2.levels ≤ levelsOfFields fields := by
  induction fields with
  | nil => cases found
  | cons first rest ih =>
    rw [levelsOfFields]
    rcases List.mem_cons.mp found with rfl | inRest
    · exact Nat.le_max_left _ _
    · exact Nat.le_trans (ih inRest) (Nat.le_max_right _ _)

end Json

end DocComment
