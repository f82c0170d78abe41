import DocComment.Json.Basic
import DocComment.Number.Shortest
import DocComment.Text.Quoted

/-!
# Writing JSON

A document is written in ASCII: every other code point becomes an escape with four hexadecimal
digits, or a pair of them beyond the first plane.  A style says what stands between the items; with
an indentation every item has a line of its own, empty arrays and objects excepted.
-/

namespace DocComment.Json

open DocComment

/-- The two-character escape of a character that has one. -/
def shortEscape? (c : Char) : Option Text :=
  if c = '"' then some ['\\', '"']
  else if c = '\\' then some ['\\', '\\']
  else if c = '\n' then some ['\\', 'n']
  else if c = '\r' then some ['\\', 'r']
  else if c = '\t' then some ['\\', 't']
  else if c.toNat = 0x0c then some ['\\', 'f']
  else if c.toNat = 0x08 then some ['\\', 'b']
  else none

/-- The escape of one unit of sixteen bits. -/
def unitEscape (unit : Nat) : Text := '\\' :: 'u' :: Text.hex 4 unit

/-- A code without a character or an escape of its own, as it stands inside a JSON string. -/
def escapeCode (code : Nat) : Text :=
  if code < 0x10000 then unitEscape code
  else
    let offset := code - 0x10000
    unitEscape (0xd800 + offset / 0x400) ++ unitEscape (0xdc00 + offset % 0x400)

/-- A code point as it stands inside a JSON string. -/
def writeCode (code : CodePoint) : Text :=
  match code.toChar? with
  | some c =>
    match shortEscape? c with
    | some escape => escape
    | none => if 0x20 ≤ c.toNat && c.toNat < 0x7f then [c] else escapeCode c.toNat
  | none => escapeCode code.val

/-- A JSON string. -/
def writeString (codes : List CodePoint) : Text := '"' :: codes.flatMap writeCode ++ ['"']

/-- Numbers in JSON are laid out as in messages, with names of their own for the three that JSON
does not know. -/
def numberLayout : Decimal.Layout :=
  { Decimal.Layout.plain with nan := "NaN", infinity := "Infinity" }

/-- Where line breaks go: nowhere, or before every item with this many blanks for each level. -/
inductive Style where
  | oneLine
  | indented (width : Nat)
deriving DecidableEq, Repr

/-- What stands between a bracket and an item next to it, at the given depth. -/
def Style.gap : Style → (depth : Nat) → Text
  | .oneLine, _ => []
  | .indented width, depth => '\n' :: List.replicate (width * depth) ' '

/-- What stands between two items at the given depth. -/
def Style.separator : Style → (depth : Nat) → Text
  | .oneLine, _ => [',', ' ']
  | .indented width, depth => ',' :: Style.gap (.indented width) depth

mutual

/-- The text of a document whose items stand at depth `depth + 1`. -/
def writeAt (style : Style) (depth : Nat) : Json → Text
  | .null => "null".toList
  | .bool flag => if flag then "true".toList else "false".toList
  | .int n => Decimal.integer n
  | .real x => numberLayout.write x
  | .string codes => writeString codes
  | .array [] => ['[', ']']
  | .array (item :: rest) =>
    '[' :: style.gap (depth + 1) ++ writeAt style (depth + 1) item ++
      writeItems style (depth + 1) rest ++ style.gap depth ++ [']']
  | .object [] => ['{', '}']
  | .object ((name, item) :: rest) =>
    '{' :: style.gap (depth + 1) ++ writeString name ++ ':' :: ' ' ::
      writeAt style (depth + 1) item ++ writeFields style (depth + 1) rest ++
        style.gap depth ++ ['}']

/-- Further items of an array, each after a separator. -/
def writeItems (style : Style) (depth : Nat) : List Json → Text
  | [] => []
  | item :: rest => style.separator depth ++ writeAt style depth item ++ writeItems style depth rest

/-- Further fields of an object, each after a separator. -/
def writeFields (style : Style) (depth : Nat) : List (List CodePoint × Json) → Text
  | [] => []
  | (name, item) :: rest =>
    style.separator depth ++ writeString name ++ ':' :: ' ' :: writeAt style depth item ++
      writeFields style depth rest

end

/-- The text of a document. -/
def write (style : Style) (document : Json) : Text := writeAt style 0 document

end DocComment.Json
