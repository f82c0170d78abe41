import DocComment.Number.Shortest
import DocComment.Text.Digit
import DocComment.Text.Quoted
import DocComment.Value.Basic

/-!
# Values in messages

Messages show a value the way it would be typed in: texts quoted, lists in brackets, tuples in
parentheses with a comma after a single item, records in braces with their fields in order.  Not
every value can be shown: there may be no room for lists that are nested very deeply, and whole
numbers of very many digits are not written.
-/

namespace DocComment.Value

open DocComment

/-- Texts with a comma and a blank between two neighbours. -/
def commaSeparated (parts : List Text) : Text := [',', ' '].intercalate parts

mutual

/-- The text that stands for a value in a message. -/
def display : Value → Text
  | .null => "None".toList
  | .bool flag => if flag then "True".toList else "False".toList
  | .int n => Decimal.integer n
  | .real x => Decimal.Layout.plain.write x
  | .text characters => Text.quoted characters
  | .bytes octets => Text.quotedOctets octets
  | .list items => '[' :: commaSeparated (displayItems items) ++ [']']
  | .tuple [item] => '(' :: display item ++ [',', ')']
  | .tuple items => '(' :: commaSeparated (displayItems items) ++ [')']
  | .record fields => '{' :: commaSeparated (displayFields fields) ++ ['}']

/-- The texts of several values. -/
def displayItems : List Value → List Text
  | [] => []
  | item :: rest => display item :: displayItems rest

/-- The texts of fields: the quoted name, a colon and the value. -/
def displayFields : List (String × Value) → List Text
  | [] => []
  | (name, value) :: rest =>
    (Text.quoted name.toList ++ ':' :: ' ' :: display value) :: displayFields rest

end

/-! ## Values that can be shown -/

mutual

/-- Whether a value can be shown where there is room for so many lists, tuples and records inside
one another. -/
def isShowable (room : Nat) : Value → Bool
  | .int n => (Decimal.numeral n.natAbs).length ≤ Text.integerDigitLimit
  | .list items | .tuple items => room != 0 && areShowable (room - 1) items
  | .record fields => room != 0 && haveShowable (room - 1) fields
  | _ => true

/-- Whether several values can be shown. -/
def areShowable (room : Nat) : List Value → Bool
  | [] => true
  | item :: rest => isShowable room item && areShowable room rest

/-- Whether the values of fields can be shown. -/
def haveShowable (room : Nat) : List (String × Value) → Bool
  | [] => true
  | (_, value) :: rest => isShowable room value && haveShowable room rest

end

/-- The room for a value in a message, where nothing else is said of it. -/
def usualRoom : Nat := 1000

end DocComment.Value
