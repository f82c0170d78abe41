import DocComment.Json.Basic
import DocComment.Number.Shortest
import DocComment.Text.Digit

/-!
# Reading JSON

A reader takes the characters from the place where it stands and returns what it read with the
characters that are left, which are fewer; that is why reading ends.  A defect carries the number of
characters that were left where it lies, from which `read` finds its position.

Beyond the standard, `NaN`, `Infinity` and `-Infinity` are numbers.  Of fields with one name the
last value stays, in the place of the first.  An escaped half of a surrogate pair without its other
half reads as a code point of its own.  A reader is told how many levels of arrays and objects it
may still enter, and stops at the bracket that opens one more.
-/

namespace DocComment.Json

open DocComment

/-- Why a text is not JSON. -/
inductive Defect where
  | valueExpected
  | nameExpected
  | colonExpected
  | commaExpected
  | extraData
  | unterminatedText
  | controlCharacter
  | invalidEscape
  | invalidUnitEscape
  | byteOrderMark
  /-- A whole number with more digits than are converted. -/
  | overlongInteger
  /-- An array or an object in too many others. -/
  | tooDeep
deriving DecidableEq, Repr

/-- A defect and the number of characters left where it lies. -/
structure Stop where
  defect : Defect
  left : Nat
deriving DecidableEq, Repr

/-- What is left of `text` after something of it was read. -/
abbrev Rest (text : Text) := { rest : Text // rest.length < text.length }

/-- The result of reading something from the front of `text`. -/
abbrev Reading (α : Type) (text : Text) := Except Stop (α × Rest text)

/-- The blanks that may stand between the parts of a JSON text. -/
def isSpace (c : Char) : Bool := c == ' ' || c == '\t' || c == '\n' || c == '\r'

/-- The text from its first character that is not such a blank. -/
def skipSpaces (text : Text) : Text := text.dropWhile isSpace

theorem length_skipSpaces_le (text : Text) : (skipSpaces text).length ≤ text.length :=
  (List.dropWhile_suffix _).length_le

/-! ## Strings -/

/-- The value of a hexadecimal digit. -/
def hexValue? (c : Char) : Option Nat :=
  if '0' ≤ c && c ≤ '9' then some (c.toNat - 48)
  else if 'a' ≤ c && c ≤ 'f' then some (c.toNat - 87)
  else if 'A' ≤ c && c ≤ 'F' then some (c.toNat - 55)
  else none

/-- The code point that four hexadecimal digits spell. -/
def unit? (a b c d : Char) : Option CodePoint := do
  return .ofNat
    (((← hexValue? a) * 16 + (← hexValue? b)) * 256 + (← hexValue? c) * 16 + (← hexValue? d))

/-- The character that a backslash before `c` stands for. -/
def escaped? (c : Char) : Option Char :=
  if c = '"' || c = '\\' || c = '/' then some c
  else if c = 'n' then some '\n'
  else if c = 'r' then some '\r'
  else if c = 't' then some '\t'
  else if c = 'b' then some (Char.ofNat 8)
  else if c = 'f' then some (Char.ofNat 12)
  else none

/-- What the four digits spell of an escape that stands in front of at least one more character:
nothing at all where no such escape stands, and no code point where the digits are not
hexadecimal. -/
def unitAhead? : Text → Option (Option CodePoint)
  | '\\' :: 'u' :: a :: b :: c :: d :: _ :: _ => some (unit? a b c d)
  | _ => none

/-- Reads an escape from the letter `u` on.  A character has to follow the four digits, and after
the first half of a pair the second half counts only if a character follows it as well. -/
def readUnitEscape (text : Text) : Reading CodePoint text :=
  match text with
  | _ :: a :: b :: c :: d :: after :: rest =>
    have shorter : (after :: rest).length < rest.length + 6 := by simp
    match unit? a b c d with
    | none => .error ⟨.invalidUnitEscape, rest.length + 6⟩
    | some unit =>
      if unit.isHighHalf then
        match unitAhead? (after :: rest) with
        | none => .ok (unit, ⟨after :: rest, shorter⟩)
        | some none => .error ⟨.invalidUnitEscape, rest.length⟩
        | some (some next) =>
          if next.isLowHalf then
            .ok (CodePoint.pair unit next,
              ⟨rest.drop 5, by simp only [List.length_drop, List.length_cons]; omega⟩)
          else .ok (unit, ⟨after :: rest, shorter⟩)
      else .ok (unit, ⟨after :: rest, shorter⟩)
  | other => .error ⟨.invalidUnitEscape, other.length⟩

/-- Reads the code points of a string up to its closing quote; `opening` is the text from the
opening one on. -/
def readCodes (opening : Text) (text : Text) : Reading (List CodePoint) text :=
  match text with
  | [] => .error ⟨.unterminatedText, opening.length⟩
  | '"' :: rest => .ok ([], ⟨rest, by simp⟩)
  | '\\' :: [] => .error ⟨.unterminatedText, opening.length⟩
  | '\\' :: c :: rest =>
    if c = 'u' then
      match readUnitEscape (c :: rest) with
      | .error stop => .error stop
      | .ok (read, ⟨after, _⟩) =>
        match readCodes opening after with
        | .error stop => .error stop
        | .ok (more, ⟨final, _⟩) =>
          .ok (read :: more, ⟨final, by simp_all only [List.length_cons]; omega⟩)
    else
      match escaped? c with
      | none => .error ⟨.invalidEscape, rest.length + 2⟩
      | some read =>
        match readCodes opening rest with
        | .error stop => .error stop
        | .ok (more, ⟨final, _⟩) =>
          .ok (.ofChar read :: more, ⟨final, by simp only [List.length_cons]; omega⟩)
  | c :: rest =>
    if c.toNat ≤ 0x1f then .error ⟨.controlCharacter, rest.length + 1⟩
    else
      match readCodes opening rest with
      | .error stop => .error stop
      | .ok (more, ⟨final, _⟩) =>
        .ok (.ofChar c :: more, ⟨final, by simp only [List.length_cons]; omega⟩)
termination_by text.length
decreasing_by all_goals (simp_all only [List.length_cons]; omega)

/-! ## Numbers -/

/-- An ASCII digit. -/
def isDigit (c : Char) : Bool := '0' ≤ c && c ≤ '9'

/-- The number that ASCII digits spell. -/
def digitsValue (digits : Text) : Nat :=
  digits.foldl (fun value c => 10 * value + (c.toNat - 48)) 0

/-- The digits before the point: a zero alone, or digits that begin with another one. -/
def wholeDigits (text : Text) : Text :=
  match text with
  | '0' :: _ => ['0']
  | _ => text.takeWhile isDigit

/-- The digits after a point, if a point with a digit after it stands here. -/
def fractionDigits : Text → Text
  | '.' :: rest => rest.takeWhile isDigit
  | _ => []

/-- The sign and digits of an exponent, if one with a digit stands here: the sign as it is written
and the digits. -/
def exponentParts : Text → Text × Text
  | mark :: rest =>
    if mark = 'e' || mark = 'E' then
      match rest with
      | '+' :: digits => (['+'], digits.takeWhile isDigit)
      | '-' :: digits => (['-'], digits.takeWhile isDigit)
      | digits => ([], digits.takeWhile isDigit)
    else ([], [])
  | [] => ([], [])

/-- Reads a number after its sign; `start` is the text from the sign on. -/
def readUnsigned (negative : Bool) (start : Text) (text : Text) : Reading Json text :=
  match hw : wholeDigits text with
  | [] => .error ⟨.valueExpected, start.length⟩
  | first :: others =>
    let whole := first :: others
    let afterWhole := text.drop whole.length
    let fraction := fractionDigits afterWhole
    let afterFraction :=
      if fraction.isEmpty then afterWhole else afterWhole.drop (fraction.length + 1)
    let (sign, exponent) := exponentParts afterFraction
    let afterExponent :=
      if exponent.isEmpty then afterFraction
      else afterFraction.drop (sign.length + exponent.length + 1)
    have shorter : afterExponent.length < text.length := by
      have nonempty : text ≠ [] := by
        rintro rfl
        simp [wholeDigits] at hw
      have : 0 < text.length := List.length_pos_iff.2 nonempty
      simp only [afterExponent, afterFraction, afterWhole, whole]
      split <;> split <;> simp only [List.length_drop, List.length_cons] <;> omega
    if fraction.isEmpty && exponent.isEmpty then
      if Text.integerDigitLimit < whole.length then .error ⟨.overlongInteger, start.length⟩
      else
        let n := Int.ofNat (digitsValue whole)
        .ok (.int (if negative then -n else n), ⟨afterExponent, shorter⟩)
    else
      let digits := digitsValue (whole ++ fraction)
      let size := Int.ofNat (digitsValue exponent)
      let power := (if sign = ['-'] then -size else size) - Int.ofNat fraction.length
      .ok (.real (Binary64.ofDecimal negative digits (Decimal.numeral digits).length power),
        ⟨afterExponent, shorter⟩)

/-- Takes a word off the front of a text. -/
def dropWord? (word text : Text) : Option Text :=
  if word.isPrefixOf text then some (text.drop word.length) else none

theorem length_dropWord? {word text rest : Text} (h : dropWord? word text = some rest)
    (positive : 0 < word.length) : rest.length < text.length := by
  unfold dropWord? at h
  split at h
  · rename_i found
    have := (List.isPrefixOf_iff_prefix.1 found).length_le
    cases h
    simp only [List.length_drop]
    omega
  · cases h

/-- The words that stand for a document each. -/
def words : List (String × Json) :=
  [("null", .null), ("true", .bool true), ("false", .bool false), ("NaN", .real .nan),
    ("Infinity", .real (.infinite false)), ("-Infinity", .real (.infinite true))]

/-- Reads one of the words or a number. -/
def readScalar (text : Text) : Reading Json text :=
  match words.findSome? fun (word, value) =>
      match h : dropWord? word.toList text with
      | some rest =>
        if positive : 0 < word.toList.length then
          some (value, (⟨rest, length_dropWord? h positive⟩ : Rest text))
        else none
      | none => none with
  | some found => .ok found
  | none =>
    match text with
    | '-' :: rest =>
      match readUnsigned true ('-' :: rest) rest with
      | .error stop => .error stop
      | .ok (value, ⟨final, _⟩) => .ok (value, ⟨final, by simp only [List.length_cons]; omega⟩)
    | other => readUnsigned false other other

/-! ## Documents in documents -/

mutual

/-- Reads a document that begins with the first character and has no more than so many levels of
arrays and objects. -/
def readValue (levels : Nat) (text : Text) : Reading Json text :=
  match levels, text with
  | _, '"' :: rest =>
    match readCodes ('"' :: rest) rest with
    | .error stop => .error stop
    | .ok (codes, ⟨final, _⟩) =>
      .ok (.string codes, ⟨final, by simp only [List.length_cons]; omega⟩)
  | 0, '[' :: rest | 0, '{' :: rest => .error ⟨.tooDeep, rest.length + 1⟩
  | levels + 1, '[' :: rest =>
    match h : skipSpaces rest with
    | ']' :: final =>
      .ok (.array [], ⟨final, by
        have := length_skipSpaces_le rest
        simp only [h, List.length_cons] at this ⊢
        omega⟩)
    | start =>
      have : start.length ≤ rest.length := h ▸ length_skipSpaces_le rest
      match readItems levels start with
      | .error stop => .error stop
      | .ok (items, ⟨final, _⟩) =>
        .ok (.array items, ⟨final, by simp only [List.length_cons]; omega⟩)
  | levels + 1, '{' :: rest =>
    match h : skipSpaces rest with
    | '}' :: final =>
      .ok (.object [], ⟨final, by
        have := length_skipSpaces_le rest
        simp only [h, List.length_cons] at this ⊢
        omega⟩)
    | start =>
      have : start.length ≤ rest.length := h ▸ length_skipSpaces_le rest
      match readFields levels start with
      | .error stop => .error stop
      | .ok (fields, ⟨final, _⟩) =>
        .ok (.object (Record.ofFields fields), ⟨final, by simp only [List.length_cons]; omega⟩)
  | _, other => readScalar other
termination_by (text.length, 0)

/-- Reads the items of an array from the first of them to the closing bracket. -/
def readItems (levels : Nat) (text : Text) : Reading (List Json) text :=
  match readValue levels text with
  | .error stop => .error stop
  | .ok (item, ⟨after, _⟩) =>
    match h : skipSpaces after with
    | ']' :: final =>
      .ok ([item], ⟨final, by
        have := length_skipSpaces_le after
        simp only [h, List.length_cons] at this
        omega⟩)
    | ',' :: rest =>
      have : (skipSpaces rest).length < text.length := by
        have := length_skipSpaces_le after
        have := length_skipSpaces_le rest
        simp only [h, List.length_cons] at *
        omega
      match readItems levels (skipSpaces rest) with
      | .error stop => .error stop
      | .ok (items, ⟨final, _⟩) => .ok (item :: items, ⟨final, by omega⟩)
    | other => .error ⟨.commaExpected, other.length⟩
termination_by (text.length, 1)

/-- Reads the fields of an object from the first of them to the closing brace. -/
def readFields (levels : Nat) (text : Text) : Reading (List (List CodePoint × Json)) text :=
  match text with
  | '"' :: rest =>
    match readCodes ('"' :: rest) rest with
    | .error stop => .error stop
    | .ok (name, ⟨afterName, _⟩) =>
      match h : skipSpaces afterName with
      | ':' :: beforeValue =>
        have : (skipSpaces beforeValue).length < rest.length := by
          have := length_skipSpaces_le afterName
          have := length_skipSpaces_le beforeValue
          simp only [h, List.length_cons] at *
          omega
        match readValue levels (skipSpaces beforeValue) with
        | .error stop => .error stop
        | .ok (value, ⟨after, _⟩) =>
          match h' : skipSpaces after with
          | '}' :: final =>
            .ok ([(name, value)], ⟨final, by
              have := length_skipSpaces_le after
              simp only [h', List.length_cons] at *
              omega⟩)
          | ',' :: next =>
            have : (skipSpaces next).length < rest.length := by
              have := length_skipSpaces_le after
              have := length_skipSpaces_le next
              simp only [h', List.length_cons] at *
              omega
            match readFields levels (skipSpaces next) with
            | .error stop => .error stop
            | .ok (fields, ⟨final, _⟩) =>
              .ok ((name, value) :: fields,
                ⟨final, by simp only [List.length_cons]; omega⟩)
          | other => .error ⟨.commaExpected, other.length⟩
      | other => .error ⟨.colonExpected, other.length⟩
  | other => .error ⟨.nameExpected, other.length⟩
termination_by (text.length, 1)

end

/-! ## Whole documents -/

/-- A defect of a JSON document and its position. -/
structure Fault where
  defect : Defect
  position : Nat
deriving DecidableEq, Repr

/-- Reads the only document in a text, with blanks around it and no more than so many levels of
arrays and objects. -/
def read (levels : Nat) (text : Text) : Except Fault Json :=
  match text with
  | '\uFEFF' :: _ => .error ⟨.byteOrderMark, 0⟩
  | _ =>
    match readValue levels (skipSpaces text) with
    | .error stop => .error ⟨stop.defect, text.length - stop.left⟩
    | .ok (value, ⟨after, _⟩) =>
      match skipSpaces after with
      | [] => .ok value
      | rest => .error ⟨.extraData, text.length - rest.length⟩

/-- What a defect is called. -/
def Defect.message : Defect → String
  | .valueExpected => "Expecting value"
  | .nameExpected => "Expecting property name enclosed in double quotes"
  | .colonExpected => "Expecting ':' delimiter"
  | .commaExpected => "Expecting ',' delimiter"
  | .extraData => "Extra data"
  | .unterminatedText => "Unterminated string starting at"
  | .controlCharacter => "Invalid control character at"
  | .invalidEscape => "Invalid \\escape"
  | .invalidUnitEscape => "Invalid \\uXXXX escape"
  | .byteOrderMark => "Unexpected UTF-8 BOM (decode using utf-8-sig)"
  | .overlongInteger => "Exceeds the limit of digits for an integer"
  | .tooDeep => "Nested too deeply"

/-- The fault's name with its line, its column and its position, of which the first two count
from one. -/
def Fault.message (text : Text) (fault : Fault) : String :=
  let before := text.take fault.position
  let line := before.count '\n' + 1
  let column := (before.reverse.takeWhile (· != '\n')).length + 1
  s!"{fault.defect.message}: line {line} column {column} (char {fault.position})"

end DocComment.Json
