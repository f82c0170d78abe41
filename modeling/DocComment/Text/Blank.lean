import DocComment.Text.Ranges

/-!
# Blank characters and trimming

The blank characters are the ASCII spaces and control separators together with the spaces and line
separators of Unicode.  Zero-width characters and the byte order mark are not blank.
-/

namespace DocComment.Text

/-- The code ranges of the blank characters, in increasing order. -/
def blankRanges : List (Nat × Nat) :=
  [(0x9, 0xd), (0x1c, 0x20), (0x85, 0x85), (0xa0, 0xa0), (0x1680, 0x1680), (0x2000, 0x200a),
  (0x2028, 0x2029), (0x202f, 0x202f), (0x205f, 0x205f), (0x3000, 0x3000)]

/-- Spaces, tabs, line ends and the other separators. -/
def isBlank (c : Char) : Bool := inRanges blankRanges c

/-- The text from its first character that is not blank. -/
def trimStart (text : Text) : Text := text.dropWhile isBlank

/-- The text up to its last character that is not blank. -/
def trimEnd (text : Text) : Text := (text.reverse.dropWhile isBlank).reverse

/-- The text without the blanks at its two ends. -/
def trim (text : Text) : Text := trimEnd (trimStart text)

@[simp] theorem trimStart_nil : trimStart [] = [] := rfl

@[simp] theorem trimEnd_nil : trimEnd [] = [] := rfl

@[simp] theorem trim_nil : trim [] = [] := rfl

theorem trimStart_cons_of_blank {c : Char} (h : isBlank c = true) (text : Text) :
    trimStart (c :: text) = trimStart text := by
  simp [trimStart, h]

theorem trimStart_cons_of_not_blank {c : Char} (h : isBlank c = false) (text : Text) :
    trimStart (c :: text) = c :: text := by
  simp [trimStart, h]

end DocComment.Text
