import DocComment.Text.CodePoint
import DocComment.Text.Printable

/-!
# Quoted texts

Messages show a text between quotes, with a backslash escape for every character that would not
be seen as itself.  Single quotes are used unless the text holds a single quote and no double one.
A sequence of code points is shown alike, each half of a surrogate pair by its escape.  Octet
sequences follow the letter `b`, and every octet outside printable ASCII is escaped.
-/

namespace DocComment.Text

/-- One hexadecimal digit, in lower case. -/
def hexDigit (n : Nat) : Char := if n < 10 then Char.ofNat (48 + n) else Char.ofNat (87 + n)

/-- The last `width` hexadecimal digits of `n`. -/
def hex : (width : Nat) → (n : Nat) → Text
  | 0, _ => []
  | width + 1, n => hex width (n / 16) ++ [hexDigit (n % 16)]

/-- The escape that stands for a code which is not shown as a character: two, four or eight digits
of it. -/
def escapeCode (code : Nat) : Text :=
  if code < 0x100 then '\\' :: 'x' :: hex 2 code
  else if code < 0x10000 then '\\' :: 'u' :: hex 4 code
  else '\\' :: 'U' :: hex 8 code

/-- A character as it appears between the quotes `quote`. -/
def quoteChar (quote : Char) (c : Char) : Text :=
  if c = quote || c = '\\' then ['\\', c]
  else if c = '\n' then ['\\', 'n']
  else if c = '\r' then ['\\', 'r']
  else if c = '\t' then ['\\', 't']
  else if isPrintable c then [c]
  else escapeCode c.toNat

/-- The quote that surrounds `text`. -/
def quoteFor (text : Text) : Char :=
  if text.contains '\'' && !text.contains '"' then '"' else '\''

/-- The text between quotes. -/
def quoted (text : Text) : Text :=
  quoteFor text :: text.flatMap (quoteChar (quoteFor text)) ++ [quoteFor text]

/-- A code point as it appears between the quotes `quote`. -/
def quoteCode (quote : Char) (code : CodePoint) : Text :=
  match code.toChar? with
  | some c => quoteChar quote c
  | none => escapeCode code.val

/-- The code points between quotes. -/
def quotedCodes (codes : List CodePoint) : Text :=
  let quote := quoteFor (codes.filterMap CodePoint.toChar?)
  quote :: codes.flatMap (quoteCode quote) ++ [quote]

/-- An octet as it appears between the quotes `quote`. -/
def quoteOctet (quote : Char) (octet : UInt8) : Text :=
  if octet < 0x20 || 0x7f ≤ octet then
    if octet = 0x0a then ['\\', 'n']
    else if octet = 0x0d then ['\\', 'r']
    else if octet = 0x09 then ['\\', 't']
    else '\\' :: 'x' :: hex 2 octet.toNat
  else quoteChar quote (Char.ofNat octet.toNat)

/-- The octets between quotes, after the letter `b`. -/
def quotedOctets (octets : List UInt8) : Text :=
  let quote := quoteFor (octets.map fun octet => Char.ofNat octet.toNat)
  'b' :: quote :: octets.flatMap (quoteOctet quote) ++ [quote]

end DocComment.Text
