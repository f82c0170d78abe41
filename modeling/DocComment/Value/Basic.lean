import DocComment.Number.Binary64
import DocComment.Text.Basic

/-!
# Values

What a tag parser contributes and what an option is set to is not known beforehand: it is a *value*,
one of a few kinds.  A record keeps its fields in the order in which they were first set, because
that order shows when it is written.
-/

namespace DocComment

/-- A value of any kind. -/
inductive Value where
  | null
  | bool (flag : Bool)
  | int (n : Int)
  | real (x : Binary64)
  | text (characters : Text)
  | bytes (octets : List UInt8)
  | list (items : List Value)
  | tuple (items : List Value)
  | record (fields : List (String × Value))
deriving Repr, Inhabited

/-- Named values in the order in which the names were first set, each name once. -/
abbrev Record := List (String × Value)

namespace Value

/-- The name of a value's kind, as messages give it. -/
def kindName : Value → String
  | .null => "NoneType"
  | .bool _ => "bool"
  | .int _ => "int"
  | .real _ => "float"
  | .text _ => "str"
  | .bytes _ => "bytes"
  | .list _ => "list"
  | .tuple _ => "tuple"
  | .record _ => "dict"

/-- Whether a value counts as true: neither absent, nor false, nor zero, nor empty. -/
def isTruthy : Value → Bool
  | .null => false
  | .bool flag => flag
  | .int n => n != 0
  | .real x => !x.isZero
  | .text characters => !characters.isEmpty
  | .bytes octets => !octets.isEmpty
  | .list items => !items.isEmpty
  | .tuple items => !items.isEmpty
  | .record fields => !fields.isEmpty

/-- The text with the characters of a literal. -/
def ofString (s : String) : Value := .text s.toList

/-- A natural number as a value. -/
def ofNat (n : Nat) : Value := .int n

/-- The items that a value yields one after the other: characters, octets, list items, or the names
of a record's fields. -/
def items? : Value → Option (List Value)
  | .text characters => some (characters.map fun c => .text [c])
  | .bytes octets => some (octets.map fun octet => .int octet.toNat)
  | .list items => some items
  | .tuple items => some items
  | .record fields => some (fields.map fun (name, _) => .text name.toList)
  | _ => none

/-- The whole number that a flag or a whole number stands for. -/
def asInt? : Value → Option Int
  | .bool flag => some (if flag then 1 else 0)
  | .int n => some n
  | _ => none

mutual

/-- Equality of values: flags and numbers are compared by what they are worth, lists item by item,
records field by field in any order. -/
def equals : Value → Value → Bool
  | .null, .null => true
  | .text a, .text b => a == b
  | .bytes a, .bytes b => a == b
  | .list a, .list b => equalItems a b
  | .tuple a, .tuple b => equalItems a b
  | .record a, .record b => a.length == b.length && fieldsAmong b a
  | .real x, .real y => x.equals y
  | .real x, b => match b.asInt? with
    | some n => x.equalsInt n
    | none => false
  | a, .real y => match a.asInt? with
    | some n => y.equalsInt n
    | none => false
  | a, b => match a.asInt?, b.asInt? with
    | some m, some n => m == n
    | _, _ => false

/-- Equality of two lists, item by item. -/
def equalItems : List Value → List Value → Bool
  | [], [] => true
  | a :: as, b :: bs => equals a b && equalItems as bs
  | _, _ => false

/-- Whether `others` has an equal field for each of these. -/
def fieldsAmong (others : List (String × Value)) : List (String × Value) → Bool
  | [] => true
  | (name, value) :: rest =>
    (match others.lookup name with
      | some other => equals value other
      | none => false) && fieldsAmong others rest

end

end Value

end DocComment
