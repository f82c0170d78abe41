import DocComment.Text.Blank

/-!
# Decimal digits and whole numbers

Every script of Unicode 14 that writes decimal numbers has its ten digits in a row, so a table of
the zeros gives each digit its value.  A whole number is read from digits of any script, with an
optional sign, single underscores between digits and blanks around it; the four ASCII separators of
files, groups, records and units are not skipped there.  Numbers of very many digits are not read,
leading zeros included.
-/

namespace DocComment.Text

/-- The code of the digit zero in each script that has decimal digits, in increasing order. -/
def digitZeros : List Nat :=
  [0x30, 0x660, 0x6f0, 0x7c0, 0x966, 0x9e6, 0xa66, 0xae6, 0xb66, 0xbe6, 0xc66, 0xce6, 0xd66,
  0xde6, 0xe50, 0xed0, 0xf20, 0x1040, 0x1090, 0x17e0, 0x1810, 0x1946, 0x19d0, 0x1a80, 0x1a90,
  0x1b50, 0x1bb0, 0x1c40, 0x1c50, 0xa620, 0xa8d0, 0xa900, 0xa9d0, 0xa9f0, 0xaa50, 0xabf0, 0xff10,
  0x104a0, 0x10d30, 0x11066, 0x110f0, 0x11136, 0x111d0, 0x112f0, 0x11450, 0x114d0, 0x11650,
  0x116c0, 0x11730, 0x118e0, 0x11950, 0x11c50, 0x11d50, 0x11da0, 0x16a60, 0x16ac0, 0x16b50,
  0x1d7ce, 0x1d7d8, 0x1d7e2, 0x1d7ec, 0x1d7f6, 0x1e140, 0x1e2f0, 0x1e950, 0x1fbf0]

/-- The value of a decimal digit of any script. -/
def digitValue? (c : Char) : Option Nat :=
  (digitZeros.find? fun first => first ≤ c.toNat && c.toNat < first + 10).map (c.toNat - ·)

/-- Reads digits onto `value`; an underscore may stand between two digits and nowhere else. -/
def readDigits (value : Nat) : Text → Option Nat
  | [] => some value
  | '_' :: c :: rest => do readDigits (10 * value + (← digitValue? c)) rest
  | c :: rest => do readDigits (10 * value + (← digitValue? c)) rest

/-- How many digits of a whole number are read at most. -/
def integerDigitLimit : Nat := 4300

/-- Reads digits that begin with a digit and are not too many. -/
def readNat? (text : Text) : Option Nat :=
  if integerDigitLimit < (text.filter (· != '_')).length then none
  else
    match text with
    | [] => none
    | c :: rest => do readDigits (← digitValue? c) rest

/-- The blanks that may stand around a number. -/
def isNumberSpace (c : Char) : Bool := isBlank c && !(0x1c ≤ c.toNat && c.toNat ≤ 0x1f)

/-- Reads a whole number with an optional sign, ignoring blanks at both ends. -/
def readInt? (text : Text) : Option Int :=
  let inner := ((text.dropWhile isNumberSpace).reverse.dropWhile isNumberSpace).reverse
  match inner with
  | '-' :: rest => (readNat? rest).map (-Int.ofNat ·)
  | '+' :: rest => (readNat? rest).map Int.ofNat
  | rest => (readNat? rest).map Int.ofNat

end DocComment.Text
