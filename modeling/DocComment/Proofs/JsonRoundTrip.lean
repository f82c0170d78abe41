import DocComment.Proofs.JsonScalars
import DocComment.Proofs.Records

/-!
# Documents that are read back

A document is read back from the text that is written for it, in every style (`read_write`), if it
has no more levels than the reader enters and is *legible*: its strings are texts, its numbers are
whole and of no more digits than are converted, and no object has two fields of one name.  Fractions
are left out, because nothing that is written here has any.

A legible document is written in ASCII and newlines (`Legible.isPrinted`), so it survives every
encoding, and unifying its line ends changes nothing.
-/

namespace DocComment.Json

open DocComment

/-! ## Reading documents in documents -/

section Reading

variable {levels : Nat} {text rest after final : Text} {codes : List CodePoint}
  {item value : Json} {items : List Json} {fields : List (List CodePoint × Json)}

lemma skipSpaces_cons {c : Char} (shown : isSpace c = false) (rest : Text) :
    skipSpaces (c :: rest) = c :: rest :=
  List.dropWhile_cons_of_neg (by simp [shown])

lemma readValue_string (reads : Yields (readCodes ('"' :: rest)) rest codes final) :
    Yields (readValue levels) ('"' :: rest) (.string codes) final := by
  obtain ⟨shorter, reads⟩ := reads
  refine ⟨shorter.trans (Nat.lt_succ_self _), ?_⟩
  rw [readValue]
  simp only [reads]

lemma readValue_scalar {first : Char} (other : first ≠ '"' ∧ first ≠ '[' ∧ first ≠ '{')
    (reads : Yields readScalar (first :: rest) value final) :
    Yields (readValue levels) (first :: rest) value final := by
  obtain ⟨shorter, reads⟩ := reads
  refine ⟨shorter, ?_⟩
  rw [readValue]
  · exact reads
  all_goals simp_all

lemma readValue_emptyArray (levels : Nat) (rest : Text) :
    Yields (readValue (levels + 1)) ('[' :: ']' :: rest) (.array []) rest := by
  refine ⟨by simp only [List.length_cons]; omega, ?_⟩
  have closes : skipSpaces (']' :: rest) = ']' :: rest := skipSpaces_cons rfl rest
  rw [readValue]
  split
  · rename_i more same
    obtain rfl := (List.cons.inj (closes.symm.trans same)).2
    rfl
  · rename_i other
    exact absurd closes (other _)

lemma readValue_array (opens : ∀ final, skipSpaces rest ≠ ']' :: final)
    (reads : Yields (readItems levels) (skipSpaces rest) items final) :
    Yields (readValue (levels + 1)) ('[' :: rest) (.array items) final := by
  have shorter := reads.shorter.trans_le (length_skipSpaces_le rest)
  refine ⟨shorter.trans (Nat.lt_succ_self _), ?_⟩
  obtain ⟨_, reads⟩ := reads
  rw [readValue]
  split
  · rename_i more same
    exact absurd same (opens more)
  · simp only [reads]

lemma readValue_emptyObject (levels : Nat) (rest : Text) :
    Yields (readValue (levels + 1)) ('{' :: '}' :: rest) (.object []) rest := by
  refine ⟨by simp only [List.length_cons]; omega, ?_⟩
  have closes : skipSpaces ('}' :: rest) = '}' :: rest := skipSpaces_cons rfl rest
  rw [readValue]
  split
  · rename_i more same
    obtain rfl := (List.cons.inj (closes.symm.trans same)).2
    rfl
  · rename_i other
    exact absurd closes (other _)

lemma readValue_object (opens : ∀ final, skipSpaces rest ≠ '}' :: final)
    (reads : Yields (readFields levels) (skipSpaces rest) fields final) :
    Yields (readValue (levels + 1)) ('{' :: rest) (.object (Record.ofFields fields)) final := by
  have shorter := reads.shorter.trans_le (length_skipSpaces_le rest)
  refine ⟨shorter.trans (Nat.lt_succ_self _), ?_⟩
  obtain ⟨_, reads⟩ := reads
  rw [readValue]
  split
  · rename_i more same
    exact absurd same (opens more)
  · simp only [reads]

/-- What stands behind an item: the closing bracket, or a comma and further items. -/
inductive Continues {α : Type} (close : Char) (read : (text : Text) → Reading (List α) text)
    (after : Text) : (items : List α) → (final : Text) → Prop
  | closing {final : Text} (closes : skipSpaces after = close :: final) :
      Continues close read after [] final
  | further {rest final : Text} {items : List α} (comma : skipSpaces after = ',' :: rest)
      (more : Yields read (skipSpaces rest) items final) : Continues close read after items final

lemma Continues.shorter {α : Type} {close : Char} {read : (text : Text) → Reading (List α) text}
    {items : List α} (continues : Continues close read after items final) :
    final.length < after.length := by
  have fewer := length_skipSpaces_le after
  cases continues with
  | closing closes => rwa [closes, List.length_cons] at fewer
  | @further rest _ _ comma more =>
      rw [comma, List.length_cons] at fewer
      have shorter := more.shorter.trans_le (length_skipSpaces_le rest)
      omega

lemma readItems_cons (reads : Yields (readValue levels) text item after)
    (continues : Continues ']' (readItems levels) after items final) :
    Yields (readItems levels) text (item :: items) final := by
  refine ⟨continues.shorter.trans reads.shorter, ?_⟩
  obtain ⟨_, reads⟩ := reads
  rw [readItems]
  simp only [reads]
  cases continues with
  | closing closes =>
      split
      · rename_i same
        obtain rfl := (List.cons.inj (closes.symm.trans same)).2
        rfl
      · rename_i same
        simp [closes] at same
      · rename_i noClosing _
        exact absurd closes (noClosing _)
  | further comma more =>
      obtain ⟨_, more⟩ := more
      split
      · rename_i same
        simp [comma] at same
      · rename_i same
        obtain rfl := (List.cons.inj (comma.symm.trans same)).2
        simp only [more]
      · rename_i noComma
        exact absurd comma (noComma _)

lemma readFields_cons {name : List CodePoint} {afterName beforeValue : Text}
    (readsName : Yields (readCodes ('"' :: rest)) rest name afterName)
    (colon : skipSpaces afterName = ':' :: beforeValue)
    (reads : Yields (readValue levels) (skipSpaces beforeValue) value after)
    (continues : Continues '}' (readFields levels) after fields final) :
    Yields (readFields levels) ('"' :: rest) ((name, value) :: fields) final := by
  have shorter : final.length < rest.length := by
    have fewerName := length_skipSpaces_le afterName
    rw [colon, List.length_cons] at fewerName
    have beforeComma := reads.shorter.trans_le (length_skipSpaces_le beforeValue)
    have behindName := readsName.shorter
    have behindValue := continues.shorter
    omega
  refine ⟨shorter.trans (Nat.lt_succ_self _), ?_⟩
  obtain ⟨_, readsName⟩ := readsName
  obtain ⟨_, reads⟩ := reads
  rw [readFields]
  simp only [readsName]
  split
  · rename_i same
    obtain rfl := (List.cons.inj (colon.symm.trans same)).2
    simp only [reads]
    cases continues with
    | closing closes =>
        split
        · rename_i same
          obtain rfl := (List.cons.inj (closes.symm.trans same)).2
          rfl
        · rename_i same
          simp [closes] at same
        · rename_i noClosing _
          exact absurd closes (noClosing _)
    | further comma more =>
        obtain ⟨_, more⟩ := more
        split
        · rename_i same
          simp [comma] at same
        · rename_i same
          obtain rfl := (List.cons.inj (comma.symm.trans same)).2
          simp only [more]
        · rename_i noComma
          exact absurd comma (noComma _)
  · rename_i noColon
    exact absurd colon (noColon _)

end Reading

/-! ## Documents that can be read back -/

/-- All that is in a document can be read back. -/
inductive Legible : Json → Prop
  | null : Legible .null
  | bool (flag : Bool) : Legible (.bool flag)
  | int {n : Int} (short : (Decimal.numeral n.natAbs).length ≤ Text.integerDigitLimit) :
      Legible (.int n)
  | text (content : Text) : Legible (.string content.codes)
  | array {items : List Json} (each : ∀ item ∈ items, Legible item) : Legible (.array items)
  | object {fields : List (List CodePoint × Json)}
      (named : ∀ field ∈ fields, ∃ name : Text, field.1 = name.codes)
      (distinct : (fields.map (·.1)).Nodup) (each : ∀ field ∈ fields, Legible field.2) :
      Legible (.object fields)

/-! ## What stands between items -/

section Style

variable (style : Style) (depth : Nat)

lemma skipSpaces_gap (text : Text) : skipSpaces (style.gap depth ++ text) = skipSpaces text := by
  cases style with
  | oneLine => rfl
  | indented width =>
      refine List.dropWhile_append_of_pos fun c blank => ?_
      rcases List.mem_cons.mp blank with rfl | blank
      · rfl
      · rw [(List.mem_replicate.mp blank).2]
        rfl

/-- Items are separated by a comma and by what is skipped. -/
lemma exists_separator : ∃ blanks, style.separator depth = ',' :: blanks ∧
    ∀ text, skipSpaces (blanks ++ text) = skipSpaces text := by
  cases style with
  | oneLine => exact ⟨[' '], rfl, fun text => rfl⟩
  | indented width => exact ⟨_, rfl, skipSpaces_gap (.indented width) depth⟩

lemma endsNumber_comma (rest : Text) : EndsNumber (',' :: rest) := by
  rintro c ⟨⟩
  rfl

lemma endsNumber_gap {close : Char} (isClose : close = ']' ∨ close = '}') (rest : Text) :
    EndsNumber (style.gap depth ++ close :: rest) := by
  cases style with
  | oneLine => rcases isClose with rfl | rfl <;> rintro c ⟨⟩ <;> rfl
  | indented width =>
      rintro c ⟨⟩
      rfl

end Style

/-! ## Reading what is written -/

/-- A document is read back wherever it is written in a style at a depth.  It begins with no blank
and with no bracket that closes an array, so a reader that stands before it does not pass it. -/
structure ReadsBack (style : Style) (levels depth : Nat) (document : Json) : Prop where
  opens : ∃ first others, writeAt style depth document = first :: others ∧
    isSpace first = false ∧ first ≠ ']'
  reads : ∀ rest, EndsNumber rest →
    Yields (readValue levels) (writeAt style depth document ++ rest) document rest

section Written

variable {style : Style} {levels depth outer : Nat}

lemma ReadsBack.skipSpaces_append {document : Json} (back : ReadsBack style levels depth document)
    (rest : Text) : skipSpaces (writeAt style depth document ++ rest) =
      writeAt style depth document ++ rest := by
  obtain ⟨first, others, shown, noSpace, -⟩ := back.opens
  rw [shown]
  exact skipSpaces_cons noSpace _

lemma readItems_written {item : Json} {rest : List Json}
    (back : ∀ written ∈ item :: rest, ReadsBack style levels depth written) (final : Text) :
    Yields (readItems levels) (writeAt style depth item ++ (writeItems style depth rest ++
      (style.gap outer ++ ']' :: final))) (item :: rest) final := by
  induction rest generalizing item with
  | nil =>
      rw [writeItems, List.nil_append]
      refine readItems_cons ((back item List.mem_cons_self).reads _
        (endsNumber_gap style outer (.inl rfl) final)) (.closing ?_)
      rw [skipSpaces_gap]
      rfl
  | cons next rest ih =>
      obtain ⟨backItem, others⟩ := List.forall_mem_cons.mp back
      obtain ⟨blanks, separator, skips⟩ := exists_separator style depth
      rw [writeItems, separator]
      simp only [List.cons_append, List.append_assoc]
      refine readItems_cons (backItem.reads _ (endsNumber_comma _))
        (.further (skipSpaces_cons rfl _) ?_)
      rw [skips, (others next List.mem_cons_self).skipSpaces_append]
      exact ih others

lemma readField_written {item : Json} (back : ReadsBack style levels depth item) (name : Text)
    {after final : Text} {fields : List (List CodePoint × Json)} (ends : EndsNumber after)
    (continues : Continues '}' (readFields levels) after fields final) :
    Yields (readFields levels)
      (writeString name.codes ++ ':' :: ' ' :: (writeAt style depth item ++ after))
      ((name.codes, item) :: fields) final := by
  have start : skipSpaces (' ' :: (writeAt style depth item ++ after)) =
    writeAt style depth item ++ after := back.skipSpaces_append after
  have reads := back.reads after ends
  rw [← start] at reads
  rw [writeString, List.append_assoc]
  exact readFields_cons (readCodes_codes _ name _) (skipSpaces_cons rfl _) reads continues

lemma readFields_written {name : Text} {item : Json} {rest : List (List CodePoint × Json)}
    (named : ∀ field ∈ rest, ∃ name : Text, field.1 = name.codes)
    (back : ∀ field ∈ (name.codes, item) :: rest, ReadsBack style levels depth field.2)
    (final : Text) :
    Yields (readFields levels) (writeString name.codes ++ ':' :: ' ' ::
      (writeAt style depth item ++ (writeFields style depth rest ++
        (style.gap outer ++ '}' :: final)))) ((name.codes, item) :: rest) final := by
  induction rest generalizing name item with
  | nil =>
      rw [writeFields, List.nil_append]
      refine readField_written (back _ List.mem_cons_self) name
        (endsNumber_gap style outer (.inr rfl) final) (.closing ?_)
      rw [skipSpaces_gap]
      rfl
  | cons next rest ih =>
      obtain ⟨nextName, nextItem⟩ := next
      obtain ⟨⟨nextName, rfl⟩, namedRest⟩ := List.forall_mem_cons.mp named
      obtain ⟨backItem, others⟩ := List.forall_mem_cons.mp back
      obtain ⟨blanks, separator, skips⟩ := exists_separator style depth
      rw [writeFields, separator]
      simp only [List.cons_append, List.append_assoc]
      refine readField_written backItem name (endsNumber_comma _)
        (.further (skipSpaces_cons rfl _) ?_)
      rw [skips]
      exact ih namedRest others

/-! ### One lemma for each kind of document -/

variable (style levels depth)

lemma readsBack_null : ReadsBack style levels depth .null := by
  refine ⟨⟨'n', _, by rw [writeAt]; rfl, rfl, by decide⟩, fun rest _ => ?_⟩
  rw [writeAt]
  exact readValue_scalar (by decide) (readScalar_null rest)

lemma readsBack_bool (flag : Bool) : ReadsBack style levels depth (.bool flag) := by
  constructor
  · rw [writeAt]
    cases flag
    · exact ⟨'f', _, rfl, rfl, by decide⟩
    · exact ⟨'t', _, rfl, rfl, by decide⟩
  · intro rest _
    have reads := readScalar_bool flag rest
    rw [writeAt]
    cases flag <;> exact readValue_scalar (by decide) reads

lemma readsBack_int {n : Int}
    (short : (Decimal.numeral n.natAbs).length ≤ Text.integerDigitLimit) :
    ReadsBack style levels depth (.int n) := by
  obtain ⟨first, others, shown, starts⟩ := exists_integer_eq_cons n
  have other : ∀ c, isDigit c = false → c ≠ '-' → first ≠ c := by
    rintro c noDigit noMinus rfl
    rcases starts with minus | digit
    · exact noMinus minus
    · simp [noDigit] at digit
  have noSpace : isSpace first = false := by
    simp only [isSpace, Bool.or_eq_false_iff, beq_eq_false_iff_ne]
    exact ⟨⟨⟨other ' ' rfl (by decide), other '\t' rfl (by decide)⟩,
      other '\n' rfl (by decide)⟩, other '\r' rfl (by decide)⟩
  refine ⟨⟨first, others, by rw [writeAt, shown], noSpace, other ']' rfl (by decide)⟩, ?_⟩
  intro rest ends
  have reads := readScalar_integer ends short
  rw [shown, List.cons_append] at reads
  rw [writeAt, shown, List.cons_append]
  exact readValue_scalar ⟨other '"' rfl (by decide), other '[' rfl (by decide),
    other '{' rfl (by decide)⟩ reads

lemma readsBack_string (content : Text) :
    ReadsBack style levels depth (.string content.codes) := by
  refine ⟨⟨'"', _, by rw [writeAt]; rfl, rfl, by decide⟩, fun rest _ => ?_⟩
  rw [writeAt, writeString, List.append_assoc]
  exact readValue_string (readCodes_codes _ content rest)

variable {style levels depth}

lemma readsBack_array {items : List Json}
    (back : ∀ item ∈ items, ReadsBack style levels (depth + 1) item) :
    ReadsBack style (levels + 1) depth (.array items) := by
  cases items with
  | nil =>
      refine ⟨⟨'[', _, by rw [writeAt], rfl, by decide⟩, fun rest _ => ?_⟩
      rw [writeAt]
      exact readValue_emptyArray levels rest
  | cons item others =>
      refine ⟨⟨'[', _, by rw [writeAt]; rfl, rfl, by decide⟩, fun rest _ => ?_⟩
      have backItem := back item List.mem_cons_self
      have start := backItem.skipSpaces_append
        (writeItems style (depth + 1) others ++ (style.gap depth ++ ']' :: rest))
      obtain ⟨first, more, shown, -, noClosing⟩ := backItem.opens
      rw [writeAt]
      simp only [List.cons_append, List.append_assoc, List.nil_append]
      refine readValue_array ?_ ?_
      · rw [skipSpaces_gap, start, shown]
        exact fun final same => noClosing (List.cons.inj same).1
      · rw [skipSpaces_gap, start]
        exact readItems_written back rest

lemma readsBack_object {fields : List (List CodePoint × Json)}
    (named : ∀ field ∈ fields, ∃ name : Text, field.1 = name.codes)
    (distinct : (fields.map (·.1)).Nodup)
    (back : ∀ field ∈ fields, ReadsBack style levels (depth + 1) field.2) :
    ReadsBack style (levels + 1) depth (.object fields) := by
  cases fields with
  | nil =>
      refine ⟨⟨'{', _, by rw [writeAt], rfl, by decide⟩, fun rest _ => ?_⟩
      rw [writeAt]
      exact readValue_emptyObject levels rest
  | cons field others =>
      obtain ⟨name, item⟩ := field
      obtain ⟨⟨name, rfl⟩, namedOthers⟩ := List.forall_mem_cons.mp named
      refine ⟨⟨'{', _, by rw [writeAt]; rfl, rfl, by decide⟩, fun rest _ => ?_⟩
      rw [writeAt, ← Record.ofFields_of_nodup distinct]
      simp only [List.cons_append, List.append_assoc, List.nil_append]
      refine readValue_object ?_ ?_
      · rw [skipSpaces_gap]
        rintro final ⟨⟩
      · rw [skipSpaces_gap]
        exact readFields_written namedOthers back rest

/-- **A legible document is read back wherever it is written**, by a reader that enters its
levels. -/
lemma Legible.readsBack {document : Json} (legible : Legible document)
    (fits : document.levels ≤ levels) (style : Style) (depth : Nat) :
    ReadsBack style levels depth document := by
  induction legible generalizing levels depth with
  | null => exact readsBack_null style levels depth
  | bool flag => exact readsBack_bool style levels depth flag
  | int short => exact readsBack_int style levels depth short
  | text content => exact readsBack_string style levels depth content
  | array each ih =>
      rw [Json.levels] at fits
      obtain ⟨inner, rfl⟩ := Nat.exists_eq_add_of_le' (Nat.one_le_of_lt fits)
      refine readsBack_array fun item found => ih item found ?_ (depth + 1)
      exact (levels_le_levelsOfItems found).trans (Nat.le_of_succ_le_succ fits)
  | object named distinct each ih =>
      rw [Json.levels] at fits
      obtain ⟨inner, rfl⟩ := Nat.exists_eq_add_of_le' (Nat.one_le_of_lt fits)
      refine readsBack_object named distinct fun field found => ih field found ?_ (depth + 1)
      exact (levels_le_levelsOfFields found).trans (Nat.le_of_succ_le_succ fits)

end Written

/-! ## What is written is ASCII -/

/-- A newline or a printable ASCII character. -/
def IsPrinted (c : Char) : Prop := c = '\n' ∨ 0x20 ≤ c.toNat ∧ c.toNat < 0x7f

section Printed

lemma isPrinted_of_isDigit {c : Char} (digit : isDigit c = true) : IsPrinted c := by
  simp only [isDigit, Bool.and_eq_true, decide_eq_true_eq, Char.le_def, UInt32.le_iff_toNat_le]
    at digit
  have low : 48 ≤ c.toNat := digit.1
  have high : c.toNat ≤ 57 := digit.2
  exact .inr ⟨by omega, by omega⟩

lemma isPrinted_hexDigit {n : Nat} (small : n < 16) : IsPrinted (Text.hexDigit n) := by
  have printed : ∀ n < 16, 0x20 ≤ (Text.hexDigit n).toNat ∧ (Text.hexDigit n).toNat < 0x7f := by
    decide
  exact .inr (printed n small)

lemma forall_isPrinted_unitEscape (unit : Nat) : ∀ c ∈ unitEscape unit, IsPrinted c := by
  have digit : ∀ m : Nat, IsPrinted (Text.hexDigit (m % 16)) := fun m =>
    isPrinted_hexDigit (Nat.mod_lt m (by decide))
  rw [unitEscape, hex_four]
  simp only [List.forall_mem_cons, List.not_mem_nil, false_implies, implies_true, and_true, digit]
  exact ⟨.inr (by decide), .inr (by decide)⟩

lemma forall_isPrinted_escapeCode (code : Nat) : ∀ c ∈ escapeCode code, IsPrinted c := by
  rw [escapeCode]
  split
  · exact forall_isPrinted_unitEscape code
  · exact List.forall_mem_append.mpr
      ⟨forall_isPrinted_unitEscape _, forall_isPrinted_unitEscape _⟩

lemma forall_isPrinted_of_shortEscape? {c : Char} {escape : Text}
    (short : shortEscape? c = some escape) : ∀ letter ∈ escape, IsPrinted letter := by
  unfold shortEscape? at short
  split_ifs at short <;> obtain rfl := (Option.some.inj short).symm <;> simp [IsPrinted]

lemma forall_isPrinted_writeCode (code : CodePoint) : ∀ c ∈ writeCode code, IsPrinted c := by
  unfold writeCode
  split
  · split
    · rename_i escape short
      exact forall_isPrinted_of_shortEscape? short
    · split
      · rename_i c _ printable
        simp only [Bool.and_eq_true, decide_eq_true_eq] at printable
        exact List.forall_mem_singleton.mpr (.inr printable)
      · exact forall_isPrinted_escapeCode _
  · exact forall_isPrinted_escapeCode _

lemma forall_isPrinted_writeString (codes : List CodePoint) :
    ∀ c ∈ writeString codes, IsPrinted c := by
  have quote : IsPrinted '"' := .inr (by decide)
  refine List.forall_mem_cons.mpr ⟨quote, List.forall_mem_append.mpr ⟨?_, ?_⟩⟩
  · exact List.forall_mem_flatMap.mpr fun code _ => forall_isPrinted_writeCode code
  · exact List.forall_mem_singleton.mpr quote

lemma forall_isPrinted_integer (n : Int) : ∀ c ∈ Decimal.integer n, IsPrinted c := by
  have digits : ∀ c ∈ Decimal.numeral n.natAbs, IsPrinted c := fun c digit =>
    isPrinted_of_isDigit (isDigit_of_mem_numeral digit)
  rw [Decimal.integer]
  split
  · exact List.forall_mem_cons.mpr ⟨.inr (by decide), digits⟩
  · exact digits

lemma forall_isPrinted_gap (style : Style) (depth : Nat) : ∀ c ∈ style.gap depth, IsPrinted c := by
  cases style with
  | oneLine => exact nofun
  | indented width =>
      refine List.forall_mem_cons.mpr ⟨.inl rfl, fun c blank => ?_⟩
      rw [(List.mem_replicate.mp blank).2]
      exact .inr (by decide)

lemma forall_isPrinted_separator (style : Style) (depth : Nat) :
    ∀ c ∈ style.separator depth, IsPrinted c := by
  have comma : IsPrinted ',' := .inr (by decide)
  cases style with
  | oneLine =>
      exact List.forall_mem_cons.mpr ⟨comma, List.forall_mem_singleton.mpr (.inr (by decide))⟩
  | indented width => exact List.forall_mem_cons.mpr ⟨comma, forall_isPrinted_gap _ _⟩

lemma forall_isPrinted_writeItems {style : Style} {depth : Nat} {items : List Json}
    (each : ∀ item ∈ items, ∀ c ∈ writeAt style depth item, IsPrinted c) :
    ∀ c ∈ writeItems style depth items, IsPrinted c := by
  induction items with
  | nil =>
      rw [writeItems]
      exact nofun
  | cons item rest ih =>
      obtain ⟨first, others⟩ := List.forall_mem_cons.mp each
      rw [writeItems]
      exact List.forall_mem_append.mpr ⟨List.forall_mem_append.mpr
        ⟨forall_isPrinted_separator style depth, first⟩, ih others⟩

lemma forall_isPrinted_writeFields {style : Style} {depth : Nat}
    {fields : List (List CodePoint × Json)}
    (each : ∀ field ∈ fields, ∀ c ∈ writeAt style depth field.2, IsPrinted c) :
    ∀ c ∈ writeFields style depth fields, IsPrinted c := by
  induction fields with
  | nil =>
      rw [writeFields]
      exact nofun
  | cons field rest ih =>
      obtain ⟨first, others⟩ := List.forall_mem_cons.mp each
      obtain ⟨name, item⟩ := field
      rw [writeFields]
      simp only [List.forall_mem_append, List.forall_mem_cons]
      exact ⟨⟨⟨forall_isPrinted_separator style depth, forall_isPrinted_writeString name⟩,
        .inr (by decide), .inr (by decide), first⟩, ih others⟩

/-- **A legible document is written in printable ASCII and newlines.** -/
lemma Legible.isPrinted {document : Json} (legible : Legible document)
    (style : Style) (depth : Nat) : ∀ c ∈ writeAt style depth document, IsPrinted c := by
  have bracket : IsPrinted '[' ∧ IsPrinted ']' ∧ IsPrinted '{' ∧ IsPrinted '}' :=
    ⟨.inr (by decide), .inr (by decide), .inr (by decide), .inr (by decide)⟩
  have gap := forall_isPrinted_gap style
  induction legible generalizing depth with
  | null =>
      rw [writeAt]
      simp [IsPrinted]
  | bool flag =>
      rw [writeAt]
      cases flag <;> simp [IsPrinted]
  | int short =>
      rw [writeAt]
      exact forall_isPrinted_integer _
  | text content =>
      rw [writeAt]
      exact forall_isPrinted_writeString _
  | @array items each ih =>
      cases items with
      | nil =>
          rw [writeAt]
          simp [bracket]
      | cons item rest =>
          have printed := fun written found => ih written found (depth + 1)
          obtain ⟨first, others⟩ := List.forall_mem_cons.mp printed
          rw [writeAt]
          simp only [List.forall_mem_append, List.forall_mem_cons, List.not_mem_nil,
            false_implies, implies_true, and_true]
          exact ⟨⟨⟨⟨⟨bracket.1, gap _⟩, first⟩, forall_isPrinted_writeItems others⟩, gap _⟩,
            bracket.2.1⟩
  | @object fields named distinct each ih =>
      cases fields with
      | nil =>
          rw [writeAt]
          simp [bracket]
      | cons field rest =>
          obtain ⟨name, item⟩ := field
          have printed := fun written found => ih written found (depth + 1)
          obtain ⟨first, others⟩ := List.forall_mem_cons.mp printed
          rw [writeAt]
          simp only [List.forall_mem_append, List.forall_mem_cons, List.not_mem_nil,
            false_implies, implies_true, and_true]
          exact ⟨⟨⟨⟨⟨⟨bracket.2.2.1, gap _⟩, forall_isPrinted_writeString _⟩, .inr (by decide),
            .inr (by decide), first⟩, forall_isPrinted_writeFields others⟩, gap _⟩,
            bracket.2.2.2⟩

end Printed

/-! ## Whole documents -/

/-- **A legible document is read back from its text**, also with blanks behind it. -/
lemma read_write {levels : Nat} {document : Json} (legible : Legible document)
    (fits : document.levels ≤ levels) (style : Style) {blanks : Text} (blank : ∀ c ∈ blanks, isSpace c = true) :
    read levels (write style document ++ blanks) = .ok document := by
  have back := legible.readsBack fits style 0
  have skipped : skipSpaces blanks = [] := List.dropWhile_eq_nil_iff.mpr blank
  have ends : EndsNumber blanks := by
    intro c first
    have space := blank c (List.mem_of_mem_head? first)
    simp only [isSpace, Bool.or_eq_true, beq_iff_eq] at space
    rcases space with ((rfl | rfl) | rfl) | rfl <;> rfl
  have reads := back.reads blanks ends
  rw [← back.skipSpaces_append blanks] at reads
  obtain ⟨_, reads⟩ := reads
  obtain ⟨first, others, shown, -⟩ := back.opens
  have noMark : first ≠ '\uFEFF' := by
    rintro rfl
    have printed := legible.isPrinted style 0 '\uFEFF' (shown ▸ List.mem_cons_self)
    simp [IsPrinted] at printed
  rw [read, write]
  · simp only [reads, skipped]
  · rintro rest same
    rw [write, shown] at same
    exact noMark (List.cons.inj same).1

end DocComment.Json
