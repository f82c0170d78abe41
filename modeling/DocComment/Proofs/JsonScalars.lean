import DocComment.Json.Reader
import DocComment.Json.Writer
import Mathlib.Data.List.TakeWhile
import Mathlib.Tactic.Lemma
import Mathlib.Tactic.SplitIfs

/-!
# Strings, numbers and words that are read back

What is written for a text, a whole number, a flag or nothing is read back as that, whatever
follows (`readCodes_codes`, `readScalar_integer`, `readScalar_bool`, `readScalar_null`).  A string
ends at its closing quote, so what follows it does not matter.  A number ends only where no
character follows that it could go on with (`EndsNumber`).

The escape of a character needs a character behind it to be read, and a string always has one: its
closing quote.  Beyond the first plane a character is written as two halves; the reader takes them
together because the first is a high half and the second a low one (`readUnitEscape_pair`), and it
takes no other escape for a half because no character has the code of one.
-/

namespace DocComment.Json

open DocComment

/-- Reading a text from its front comes to a value and leaves a rest. -/
def Yields {α : Type} (read : (text : Text) → Reading α text) (text : Text) (value : α)
    (rest : Text) : Prop :=
  ∃ shorter, read text = .ok (value, ⟨rest, shorter⟩)

lemma Yields.shorter {α : Type} {read : (text : Text) → Reading α text} {text rest : Text}
    {value : α} (yields : Yields read text value rest) : rest.length < text.length :=
  yields.1

/-! ## Escapes of a unit -/

section Units

lemma hexValue?_hexDigit {n : Nat} (small : n < 16) : hexValue? (Text.hexDigit n) = some n := by
  revert n
  decide

lemma hex_four (n : Nat) :
    Text.hex 4 n = [Text.hexDigit (n / 16 / 16 / 16 % 16), Text.hexDigit (n / 16 / 16 % 16),
      Text.hexDigit (n / 16 % 16), Text.hexDigit (n % 16)] := rfl

/-- Four hexadecimal digits spell the number that they were made from. -/
lemma unit?_hex {n : Nat} (small : n < 0x10000) :
    unit? (Text.hexDigit (n / 16 / 16 / 16 % 16)) (Text.hexDigit (n / 16 / 16 % 16))
      (Text.hexDigit (n / 16 % 16)) (Text.hexDigit (n % 16)) = some (.ofNat n) := by
  have isDigit : ∀ m : Nat, hexValue? (Text.hexDigit (m % 16)) = some (m % 16) := fun m =>
    hexValue?_hexDigit (Nat.mod_lt m (by decide))
  have digits : (n / 16 / 16 / 16 % 16 * 16 + n / 16 / 16 % 16) * 256 + n / 16 % 16 * 16 +
      n % 16 = n := by omega
  simp only [unit?, isDigit, Option.bind_eq_bind, Option.bind_some, Option.pure_def, digits]

lemma readUnitEscape_lone {n : Nat} (small : n < 0x10000)
    (notHigh : (CodePoint.ofNat n).isHighHalf = false) (after : Char) (rest : Text) :
    Yields readUnitEscape ('u' :: Text.hex 4 n ++ after :: rest) (.ofNat n) (after :: rest) := by
  refine ⟨by simp [hex_four], ?_⟩
  simp only [hex_four, List.cons_append, List.nil_append, readUnitEscape, unit?_hex small, notHigh,
    Bool.false_eq_true, if_false]

lemma readUnitEscape_pair {high low : Nat} (smallHigh : high < 0x10000) (smallLow : low < 0x10000)
    (isHigh : (CodePoint.ofNat high).isHighHalf = true)
    (isLow : (CodePoint.ofNat low).isLowHalf = true) (after : Char) (rest : Text) :
    Yields readUnitEscape ('u' :: Text.hex 4 high ++ unitEscape low ++ after :: rest)
      (CodePoint.pair (.ofNat high) (.ofNat low)) (after :: rest) := by
  refine ⟨by simp [hex_four, unitEscape], ?_⟩
  simp only [hex_four, unitEscape, List.cons_append, List.nil_append, readUnitEscape, unitAhead?,
    unit?_hex smallHigh, unit?_hex smallLow, isHigh, isLow, if_true]
  rfl

lemma val_ofNat {n : Nat} (inRange : n < 0x110000) : (CodePoint.ofNat n).val = n :=
  Nat.mod_eq_of_lt inRange

lemma ofNat_toNat (c : Char) : CodePoint.ofNat c.toNat = .ofChar c :=
  Fin.ext (val_ofNat (CodePoint.ofChar c).isLt)

/-- A code beyond the first plane is put together from its two halves. -/
lemma pair_halves {n : Nat} (beyond : 0x10000 ≤ n) (inRange : n < 0x110000) :
    CodePoint.pair (.ofNat (0xd800 + (n - 0x10000) / 0x400))
      (.ofNat (0xdc00 + (n - 0x10000) % 0x400)) = .ofNat n := by
  have high : (CodePoint.ofNat (0xd800 + (n - 0x10000) / 0x400)).val =
    0xd800 + (n - 0x10000) / 0x400 := val_ofNat (by omega)
  have low : (CodePoint.ofNat (0xdc00 + (n - 0x10000) % 0x400)).val =
    0xdc00 + (n - 0x10000) % 0x400 := val_ofNat (by omega)
  rw [CodePoint.pair, high, low]
  refine congrArg CodePoint.ofNat ?_
  omega

lemma isHighHalf_ofNat_iff {n : Nat} (inRange : n < 0x110000) :
    (CodePoint.ofNat n).isHighHalf = true ↔ 0xd800 ≤ n ∧ n < 0xdc00 := by
  rw [CodePoint.isHighHalf, val_ofNat inRange, Bool.and_eq_true, decide_eq_true_iff,
    decide_eq_true_iff]

lemma isLowHalf_ofNat_iff {n : Nat} (inRange : n < 0x110000) :
    (CodePoint.ofNat n).isLowHalf = true ↔ 0xdc00 ≤ n ∧ n < 0xe000 := by
  rw [CodePoint.isLowHalf, val_ofNat inRange, Bool.and_eq_true, decide_eq_true_iff,
    decide_eq_true_iff]

end Units

/-! ## Strings -/

section Strings

variable {opening rest final : Text} {codes : List CodePoint}

lemma readCodes_quote (opening rest : Text) : Yields (readCodes opening) ('"' :: rest) [] rest :=
  ⟨by simp, by rw [readCodes]⟩

lemma readCodes_short {c read : Char} (notUnit : c ≠ 'u') (short : escaped? c = some read)
    (reads : Yields (readCodes opening) rest codes final) :
    Yields (readCodes opening) ('\\' :: c :: rest) (.ofChar read :: codes) final := by
  obtain ⟨shorter, reads⟩ := reads
  refine ⟨by simp only [List.length_cons]; omega, ?_⟩
  rw [readCodes, if_neg notUnit]
  simp only [short, reads]

lemma readCodes_unit {code : CodePoint} {after : Text}
    (unit : Yields readUnitEscape ('u' :: rest) code after)
    (reads : Yields (readCodes opening) after codes final) :
    Yields (readCodes opening) ('\\' :: 'u' :: rest) (code :: codes) final := by
  obtain ⟨fewer, unit⟩ := unit
  obtain ⟨shorter, reads⟩ := reads
  refine ⟨by simp only [List.length_cons] at fewer ⊢; omega, ?_⟩
  rw [readCodes, if_pos rfl]
  simp only [unit, reads]

lemma readCodes_plain {c : Char} (noQuote : c ≠ '"') (noEscape : c ≠ '\\')
    (noControl : 0x1f < c.toNat) (reads : Yields (readCodes opening) rest codes final) :
    Yields (readCodes opening) (c :: rest) (.ofChar c :: codes) final := by
  obtain ⟨shorter, reads⟩ := reads
  refine ⟨by simp only [List.length_cons]; omega, ?_⟩
  rw [readCodes]
  · rw [if_neg (by omega)]
    simp only [reads]
  all_goals simp_all

/-- What a backslash and a letter are written for is what they stand for. -/
lemma escaped?_of_shortEscape? {c : Char} {escape : Text} (short : shortEscape? c = some escape) :
    ∃ letter, escape = ['\\', letter] ∧ letter ≠ 'u' ∧ escaped? letter = some c := by
  have ofCode : ∀ {n : Nat}, c.toNat = n → c = Char.ofNat n := by
    rintro n rfl
    exact (Char.ofNat_toNat c).symm
  unfold shortEscape? at short
  split_ifs at short with quote backslash newline ret tab formFeed backspace <;>
    obtain rfl := (Option.some.inj short).symm
  · exact ⟨'"', rfl, by decide, by rw [quote]; rfl⟩
  · exact ⟨'\\', rfl, by decide, by rw [backslash]; rfl⟩
  · exact ⟨'n', rfl, by decide, by rw [newline]; rfl⟩
  · exact ⟨'r', rfl, by decide, by rw [ret]; rfl⟩
  · exact ⟨'t', rfl, by decide, by rw [tab]; rfl⟩
  · exact ⟨'f', rfl, by decide, by rw [ofCode formFeed]; rfl⟩
  · exact ⟨'b', rfl, by decide, by rw [ofCode backspace]; rfl⟩

lemma ne_of_shortEscape?_eq_none {c : Char} (none : shortEscape? c = none) :
    c ≠ '"' ∧ c ≠ '\\' := by
  constructor <;> rintro rfl <;> cases none

lemma readCodes_escapeCode (c after : Char)
    (reads : Yields (readCodes opening) (after :: rest) codes final) :
    Yields (readCodes opening) (escapeCode c.toNat ++ after :: rest) (.ofChar c :: codes)
      final := by
  have valid : c.toNat < 0xd800 ∨ 0xdfff < c.toNat ∧ c.toNat < 0x110000 := c.valid
  rw [escapeCode]
  split
  · rename_i firstPlane
    have notHigh : (CodePoint.ofNat c.toNat).isHighHalf = false := by
      rw [Bool.eq_false_iff, ne_eq, isHighHalf_ofNat_iff (by omega)]
      omega
    have unit := readUnitEscape_lone firstPlane notHigh after rest
    rw [ofNat_toNat] at unit
    exact readCodes_unit unit reads
  · have isHigh : (CodePoint.ofNat (0xd800 + (c.toNat - 0x10000) / 0x400)).isHighHalf = true :=
      (isHighHalf_ofNat_iff (by omega)).mpr (by omega)
    have isLow : (CodePoint.ofNat (0xdc00 + (c.toNat - 0x10000) % 0x400)).isLowHalf = true :=
      (isLowHalf_ofNat_iff (by omega)).mpr (by omega)
    have unit := readUnitEscape_pair (by omega) (by omega) isHigh isLow after rest
    rw [pair_halves (by omega) (by omega), ofNat_toNat] at unit
    exact readCodes_unit unit reads

lemma readCodes_writeCode (c after : Char)
    (reads : Yields (readCodes opening) (after :: rest) codes final) :
    Yields (readCodes opening) (writeCode (.ofChar c) ++ after :: rest) (.ofChar c :: codes)
      final := by
  simp only [writeCode, CodePoint.toChar?_ofChar]
  cases short : shortEscape? c with
  | some escape =>
      obtain ⟨letter, rfl, notUnit, readBack⟩ := escaped?_of_shortEscape? short
      exact readCodes_short notUnit readBack reads
  | none =>
      dsimp only
      split
      · rename_i printable
        simp only [Bool.and_eq_true, decide_eq_true_eq] at printable
        obtain ⟨noQuote, noEscape⟩ := ne_of_shortEscape?_eq_none short
        exact readCodes_plain noQuote noEscape (by omega) reads
      · exact readCodes_escapeCode c after reads

/-- **A string is read back as the text that it was written for.** -/
lemma readCodes_codes (opening content rest : Text) :
    Yields (readCodes opening) (content.codes.flatMap writeCode ++ '"' :: rest) content.codes
      rest := by
  induction content with
  | nil => exact readCodes_quote opening rest
  | cons c more ih =>
      have notEmpty : (Text.codes more).flatMap writeCode ++ '"' :: rest ≠ [] := by simp
      obtain ⟨after, later, shown⟩ := List.exists_cons_of_ne_nil notEmpty
      rw [Text.codes_cons, List.flatMap_cons, List.append_assoc, shown]
      rw [shown] at ih
      exact readCodes_writeCode c after ih

end Strings

/-! ## Words -/

/-- A text that begins with none of the words is read as a number, behind its sign if it has
one. -/
lemma readScalar_of_no_word {text final : Text} {value : Json}
    (noWord : ∀ word ∈ words, ¬ word.1.toList <+: text)
    (reads : (∃ rest, text = '-' :: rest ∧ Yields (readUnsigned true text) rest value final) ∨
      (∀ rest, text ≠ '-' :: rest) ∧ Yields (readUnsigned false text) text value final) :
    Yields readScalar text value final := by
  unfold Yields readScalar
  split
  · rename_i found some
    obtain ⟨word, isWord, dropped⟩ := List.exists_of_findSome?_eq_some some
    have missing : dropWord? word.1.toList text = none := by
      rw [dropWord?, if_neg (mt List.isPrefixOf_iff_prefix.mp (noWord word isWord))]
    dsimp only at dropped
    split at dropped
    · rename_i rest found
      rw [missing] at found
      cases found
    · cases dropped
  · rcases reads with ⟨rest, rfl, shorter, reads⟩ | ⟨unsigned, shorter, reads⟩
    · exact ⟨shorter.trans (Nat.lt_succ_self _), by simp only [reads]⟩
    · refine ⟨shorter, ?_⟩
      split
      · exact absurd rfl (unsigned _)
      · exact reads

lemma readScalar_null (rest : Text) : Yields readScalar ("null".toList ++ rest) .null rest :=
  ⟨by simp; omega, rfl⟩

lemma readScalar_bool (flag : Bool) (rest : Text) :
    Yields readScalar ((if flag then "true".toList else "false".toList) ++ rest) (.bool flag)
      rest := by
  cases flag <;> exact ⟨by simp; omega, rfl⟩

/-! ## Whole numbers -/

section Numbers

/-- A number that stands in front of a text does not go on in it. -/
def EndsNumber (rest : Text) : Prop :=
  ∀ c ∈ rest.head?, (isDigit c || c == '.' || c == 'e' || c == 'E') = false

variable {rest : Text}

lemma EndsNumber.takeWhile_isDigit (ends : EndsNumber rest) : rest.takeWhile isDigit = [] := by
  cases rest with
  | nil => rfl
  | cons c more =>
      have other := ends c rfl
      simp only [Bool.or_eq_false_iff] at other
      exact List.takeWhile_cons_of_neg (by simp [other.1.1.1])

lemma EndsNumber.fractionDigits (ends : EndsNumber rest) : fractionDigits rest = [] := by
  cases rest with
  | nil => rfl
  | cons c more =>
      have other := ends c rfl
      rw [Json.fractionDigits]
      rintro more same
      cases same
      simp at other

lemma EndsNumber.exponentParts (ends : EndsNumber rest) : exponentParts rest = ([], []) := by
  cases rest with
  | nil => rfl
  | cons c more =>
      have other := ends c rfl
      have noMark : ¬ (c = 'e' || c = 'E') = true := by simp_all
      exact if_neg noMark

lemma isDigit_of_mem_numeral {n : Nat} {c : Char} (digit : c ∈ Decimal.numeral n) :
    isDigit c = true :=
  Nat.isDigit_of_mem_toDigits (by decide) (by decide) digit

lemma exists_numeral_eq_cons (n : Nat) :
    ∃ first others, Decimal.numeral n = first :: others ∧ isDigit first = true := by
  obtain ⟨first, others, shown⟩ :=
    List.exists_cons_of_ne_nil (show Decimal.numeral n ≠ [] from Nat.toDigits_ne_nil)
  exact ⟨first, others, shown, isDigit_of_mem_numeral (shown ▸ List.mem_cons_self)⟩

lemma numeral_ne_zero_cons {n : Nat} (positive : 0 < n) (more : Text) :
    Decimal.numeral n ≠ '0' :: more := by
  have noZero : ∀ d < 10, 0 < d → Nat.digitChar d ≠ '0' := by decide
  induction n using Nat.strongRecOn generalizing more with
  | ind n ih =>
      rw [Decimal.numeral]
      by_cases small : n < 10
      · rw [Nat.toDigits_of_lt_base small]
        exact fun same => noZero n small positive (List.cons.inj same).1
      · obtain ⟨first, others, shown, -⟩ := exists_numeral_eq_cons (n / 10)
        have notZero : first ≠ '0' := by
          rintro rfl
          exact ih (n / 10) (by omega) (by omega) others shown
        rw [Decimal.numeral] at shown
        rw [Nat.toDigits_of_base_le (by decide) (by omega), shown]
        exact fun same => notZero (List.cons.inj same).1

lemma wholeDigits_numeral (n : Nat) (ends : EndsNumber rest) :
    wholeDigits (Decimal.numeral n ++ rest) = Decimal.numeral n := by
  have taken : (Decimal.numeral n ++ rest).takeWhile isDigit = Decimal.numeral n := by
    rw [List.takeWhile_append_of_pos fun c digit => isDigit_of_mem_numeral digit,
      ends.takeWhile_isDigit, List.append_nil]
  rcases Nat.eq_zero_or_pos n with rfl | positive
  · rfl
  · rw [wholeDigits, taken]
    intro more zero
    obtain ⟨first, others, shown, -⟩ := exists_numeral_eq_cons n
    rw [shown] at zero
    obtain rfl : first = '0' := (List.cons.inj zero).1
    exact numeral_ne_zero_cons positive others shown

lemma readUnsigned_numeral (negative : Bool) (start : Text) {n : Nat} (ends : EndsNumber rest)
    (short : (Decimal.numeral n).length ≤ Text.integerDigitLimit) :
    Yields (readUnsigned negative start) (Decimal.numeral n ++ rest)
      (.int (if negative then -(n : Int) else n)) rest := by
  have whole := wholeDigits_numeral n ends
  have notEmpty : 0 < (Decimal.numeral n).length := List.length_pos_iff.mpr Nat.toDigits_ne_nil
  have value : digitsValue (Decimal.numeral n) = n := Nat.ofDigitChars_ten_toDigits
  refine ⟨by simp [notEmpty], ?_⟩
  unfold readUnsigned
  split
  · rename_i none
    rw [whole] at none
    simp [none] at notEmpty
  · rename_i first others some
    have digits : first :: others = Decimal.numeral n := some.symm.trans whole
    simp only [digits, List.drop_left, ends.fractionDigits, ends.exponentParts, List.isEmpty_nil,
      if_true, Bool.and_self, Nat.not_lt.mpr short, if_false, value]
    rfl

lemma exists_integer_eq_cons (n : Int) :
    ∃ first others, Decimal.integer n = first :: others ∧
      (first = '-' ∨ isDigit first = true) := by
  obtain ⟨first, others, shown, digit⟩ := exists_numeral_eq_cons n.natAbs
  rw [Decimal.integer]
  split
  · exact ⟨'-', _, rfl, .inl rfl⟩
  · exact ⟨first, others, shown, .inr digit⟩

/-- **A whole number is read back**, if it has no more digits than are converted. -/
lemma readScalar_integer {n : Int} (ends : EndsNumber rest)
    (short : (Decimal.numeral n.natAbs).length ≤ Text.integerDigitLimit) :
    Yields readScalar (Decimal.integer n ++ rest) (.int n) rest := by
  obtain ⟨first, others, shown, digit⟩ := exists_numeral_eq_cons n.natAbs
  have other : ∀ c, isDigit c = false → c ≠ first := by
    rintro c noDigit rfl
    simp [noDigit] at digit
  rw [Decimal.integer]
  split
  · have value : -(n.natAbs : Int) = n := by omega
    have reads := readUnsigned_numeral true ('-' :: (Decimal.numeral n.natAbs ++ rest)) ends short
    rw [if_pos rfl, value] at reads
    refine readScalar_of_no_word ?_ (.inl ⟨_, rfl, reads⟩)
    simp [words, shown, List.cons_prefix_cons, other 'I' rfl]
  · have value : (n.natAbs : Int) = n := by omega
    have reads := readUnsigned_numeral false (Decimal.numeral n.natAbs ++ rest) ends short
    rw [if_neg Bool.false_ne_true, value] at reads
    refine readScalar_of_no_word ?_ (.inr ⟨fun more minus => ?_, reads⟩)
    · simp [words, shown, List.cons_prefix_cons, other 'n' rfl, other 't' rfl, other 'f' rfl,
        other 'N' rfl, other 'I' rfl, other '-' rfl]
    · rw [shown] at minus
      exact absurd (List.cons.inj minus).1.symm (other '-' rfl)

end Numbers

end DocComment.Json
