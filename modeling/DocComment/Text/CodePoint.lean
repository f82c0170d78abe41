import DocComment.Text.Basic

/-!
# Code points

A code point is the code of a character or a half of a surrogate pair.  The halves are no
characters, so a text never holds one; but in a JSON document an escape may spell a half that stands
alone, and then the sequence of code points is all there is.
-/

namespace DocComment

/-- A code point: a number in the range of the codes. -/
abbrev CodePoint := Fin 0x110000

namespace CodePoint

/-- The code of a character. -/
def ofChar (c : Char) : CodePoint :=
  ⟨c.toNat, by
    have := c.valid
    simp only [UInt32.isValidChar, Nat.isValidChar] at this
    simp only [Char.toNat]
    omega⟩

/-- The code point of this number; numbers beyond the range start again from zero. -/
def ofNat (n : Nat) : CodePoint := Fin.ofNat 0x110000 n

/-- Whether a code point is the first half of a surrogate pair. -/
def isHighHalf (code : CodePoint) : Bool := 0xd800 ≤ code.val && code.val < 0xdc00

/-- Whether a code point is the second half of a surrogate pair. -/
def isLowHalf (code : CodePoint) : Bool := 0xdc00 ≤ code.val && code.val < 0xe000

/-- The code that the two halves of a pair make. -/
def pair (high low : CodePoint) : CodePoint :=
  ofNat (0x10000 + (high.val - 0xd800) * 0x400 + (low.val - 0xdc00))

/-- The character with this code; a half has none. -/
def toChar? (code : CodePoint) : Option Char :=
  if code.isHighHalf || code.isLowHalf then none else some (Char.ofNat code.val)

@[simp] theorem val_ofChar (c : Char) : (ofChar c).val = c.toNat := rfl

/-- The code of a character leads back to the character. -/
@[simp] theorem toChar?_ofChar (c : Char) : toChar? (ofChar c) = some c := by
  have valid := c.valid
  simp only [UInt32.isValidChar, Nat.isValidChar] at valid
  have known : (ofChar c).val = c.val.toNat := rfl
  have neither : ((ofChar c).isHighHalf || (ofChar c).isLowHalf) = false := by
    simp only [isHighHalf, isLowHalf, known, Bool.or_eq_false_iff, Bool.and_eq_false_iff,
      decide_eq_false_iff_not]
    omega
  simp [toChar?, neither]

end CodePoint

/-- The codes of the characters of a text. -/
def Text.codes (text : Text) : List CodePoint := text.map CodePoint.ofChar

@[simp] theorem Text.codes_nil : Text.codes [] = [] := rfl

@[simp] theorem Text.codes_cons (c : Char) (text : Text) :
    Text.codes (c :: text) = CodePoint.ofChar c :: Text.codes text := rfl

/-- The codes of the characters of a literal. -/
def CodePoint.listOf (s : String) : List CodePoint := Text.codes s.toList

/-- Whether two sequences stand in alphabetical order by their code points. -/
def CodePoint.inOrder : List CodePoint → List CodePoint → Bool
  | [], _ => true
  | _ :: _, [] => false
  | a :: as, b :: bs => a.val < b.val || (a.val == b.val && inOrder as bs)

end DocComment
