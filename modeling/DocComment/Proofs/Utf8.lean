import DocComment.Text.Utf8
import DocComment.Proofs.Outcomes

/-!
# UTF-8 read back

A text has one spelling in octets, and the decoder accepts that spelling and no other: octets decode
to a text exactly when they are its encoding.  The decoder is a machine that owes octets, so it is
compared with the octets that complete what it has begun, which are counted down with what it owes;
one character then is arithmetic on codes.
-/

namespace DocComment.Utf8

open DocComment

/-! ## What completes a character -/

/-- The octet lies in the range of those that may come next. -/
def Begun.Admits (begun : Begun) (octet : UInt8) : Prop :=
  begun.low.toNat ≤ octet.toNat ∧ octet.toNat ≤ begun.high.toNat

/-- Octets that complete a begun character, one after the other. -/
inductive Begun.Spells : Begun → List UInt8 → Char → Prop
  | last {low high octet : UInt8} {code : Nat} {taken : List UInt8}
      (admits : Begun.Admits ⟨0, low, high, code, taken⟩ octet) :
      Spells ⟨0, low, high, code, taken⟩ [octet] (Char.ofNat (code * 64 + (octet.toNat - 0x80)))
  | next {more : Nat} {low high octet : UInt8} {code : Nat} {taken octets : List UInt8} {c : Char}
      (admits : Begun.Admits ⟨more + 1, low, high, code, taken⟩ octet)
      (later : Spells ⟨more, 0x80, 0xbf, code * 64 + (octet.toNat - 0x80), taken ++ [octet]⟩
        octets c) :
      Spells ⟨more + 1, low, high, code, taken⟩ (octet :: octets) c

/-- Octets that complete what a first octet announces. -/
inductive Lead.Spells : Lead → List UInt8 → Char → Prop
  | complete {c : Char} : Spells (.complete c) [] c
  | begun {character : Begun} {octets : List UInt8} {c : Char}
      (spells : character.Spells octets c) : Spells (.begun character) octets c

/-- The last octet of a character, with the code that all of them give. -/
lemma Begun.Spells.of_last {low high octet : UInt8} {code : Nat} {taken : List UInt8} {c : Char}
    (admits : Begun.Admits ⟨0, low, high, code, taken⟩ octet)
    (same : code * 64 + (octet.toNat - 0x80) = c.toNat) :
    Begun.Spells ⟨0, low, high, code, taken⟩ [octet] c := by
  have spells := Begun.Spells.last admits
  rwa [same, Char.ofNat_toNat] at spells

lemma admits_iff {begun : Begun} {octet : UInt8} :
    begun.Admits octet ↔ ¬ (octet < begun.low || begun.high < octet) = true := by
  simp only [Begun.Admits, UInt8.lt_iff_toNat_lt, Bool.or_eq_true, decide_eq_true_eq]
  omega

/-- The position is only counted for faults. -/
lemma decodeFrom_eq_ok_congr {position : Nat} {begun : Option Begun} {octets : List UInt8}
    {text : Text} (other : Nat) (decoded : decodeFrom position begun octets = .ok text) :
    decodeFrom other begun octets = .ok text := by
  induction octets generalizing position other begun text with
  | nil => cases begun <;> simp_all [decodeFrom]
  | cons octet octets ih =>
      cases begun with
      | none =>
          cases first : lead octet with
          | complete c =>
              simp only [decodeFrom, first, map_eq_ok_iff] at decoded ⊢
              obtain ⟨more, later, rfl⟩ := decoded
              exact ⟨more, ih _ later, rfl⟩
          | begun character =>
              simp only [decodeFrom, first] at decoded ⊢
              exact ih _ decoded
          | refused => simp [decodeFrom, first] at decoded
      | some character =>
          obtain ⟨count, low, high, code, taken⟩ := character
          rw [decodeFrom] at decoded ⊢
          split at decoded
          · cases decoded
          · rename_i admits
            rw [if_neg admits]
            cases count with
            | zero =>
                obtain ⟨more, later, rfl⟩ := map_eq_ok_iff.mp decoded
                exact map_eq_ok_iff.mpr ⟨more, ih _ later, rfl⟩
            | succ count => exact ih _ decoded

lemma decodeFrom_none_eq_ok_iff {position : Nat} {octets : List UInt8} {text : Text} :
    decodeFrom position none octets = .ok text ↔ decode octets = .ok text :=
  ⟨decodeFrom_eq_ok_congr 0, decodeFrom_eq_ok_congr position⟩

/-- **A begun character is read by what completes it**, and the text goes on behind. -/
lemma decodeFrom_some_eq_ok_iff {position : Nat} {begun : Begun} {octets : List UInt8}
    {text : Text} :
    decodeFrom position (some begun) octets = .ok text ↔
      ∃ taken rest c more, octets = taken ++ rest ∧ begun.Spells taken c ∧ text = c :: more ∧
        decode rest = .ok more := by
  induction octets generalizing begun with
  | nil =>
      simp only [decodeFrom, reduceCtorEq, false_iff]
      rintro ⟨taken, rest, c, more, parts, spells, -, -⟩
      obtain ⟨rfl, rfl⟩ := List.append_eq_nil_iff.mp parts.symm
      cases spells
  | cons octet octets ih =>
      obtain ⟨count, low, high, code, taken⟩ := begun
      rw [decodeFrom]
      by_cases admits : Begun.Admits ⟨count, low, high, code, taken⟩ octet
      · rw [if_neg (admits_iff.mp admits)]
        cases count with
        | zero =>
            simp only [map_eq_ok_iff, decodeFrom_none_eq_ok_iff]
            constructor
            · rintro ⟨more, decoded, rfl⟩
              exact ⟨[octet], octets, _, more, rfl, .last admits, rfl, decoded⟩
            · rintro ⟨_, rest, c, more, parts, ⟨⟩, rfl, decoded⟩
              cases parts
              exact ⟨more, decoded, rfl⟩
        | succ count =>
            simp only [ih]
            constructor
            · rintro ⟨others, rest, c, more, rfl, spells, rfl, decoded⟩
              exact ⟨octet :: others, rest, c, more, rfl, .next admits spells, rfl, decoded⟩
            · rintro ⟨_, rest, c, more, parts, spells, rfl, decoded⟩
              cases spells with
              | next _ later =>
                  cases parts
                  exact ⟨_, rest, c, more, rfl, later, rfl, decoded⟩
      · rw [if_pos (Decidable.not_not.mp (mt admits_iff.mpr admits))]
        simp only [reduceCtorEq, false_iff]
        rintro ⟨_, rest, c, more, parts, spells, -, -⟩
        cases spells with
        | last other | next other _ =>
            cases parts
            exact admits other

/-- A text is read by its first character and what is read behind it. -/
lemma decode_cons_eq_ok_iff {octet : UInt8} {octets : List UInt8} {text : Text} :
    decode (octet :: octets) = .ok text ↔
      ∃ taken rest c more, octets = taken ++ rest ∧ (lead octet).Spells taken c ∧
        text = c :: more ∧ decode rest = .ok more := by
  rw [decode]
  cases first : lead octet with
  | complete c =>
      simp only [decodeFrom, first, map_eq_ok_iff, decodeFrom_none_eq_ok_iff]
      constructor
      · rintro ⟨more, decoded, rfl⟩
        exact ⟨[], octets, c, more, rfl, .complete, rfl, decoded⟩
      · rintro ⟨_, rest, c, more, rfl, ⟨⟩, rfl, decoded⟩
        exact ⟨more, decoded, rfl⟩
  | begun character =>
      simp only [decodeFrom, first, decodeFrom_some_eq_ok_iff]
      constructor
      · rintro ⟨taken, rest, c, more, rfl, spells, rfl, decoded⟩
        exact ⟨taken, rest, c, more, rfl, .begun spells, rfl, decoded⟩
      · rintro ⟨taken, rest, c, more, rfl, spells, rfl, decoded⟩
        cases spells with
        | begun spells => exact ⟨taken, rest, c, more, rfl, spells, rfl, decoded⟩
  | refused =>
      simp only [decodeFrom, first, reduceCtorEq, false_iff]
      rintro ⟨_, rest, c, more, -, spells, -, -⟩
      cases spells

/-! ## One character

Below, octets are compared as numbers: which first octet announces how many others is a matter of
ranges, and the code of a character is put together from what the octets exceed their range by.
-/

lemma toNat_ofNat {n : Nat} (small : n < 0x100) : (UInt8.ofNat n).toNat = n := by
  rw [UInt8.toNat_ofNat']
  omega

lemma ofNat_eq (octet : UInt8) {n : Nat} (same : n = octet.toNat) : UInt8.ofNat n = octet := by
  rw [same, UInt8.ofNat_toNat]

lemma valid_toNat (c : Char) : c.toNat < 0xd800 ∨ 0xdfff < c.toNat ∧ c.toNat < 0x110000 :=
  c.valid

lemma toNat_charOfNat {n : Nat} (valid : n < 0xd800 ∨ 0xdfff < n ∧ n < 0x110000) :
    (Char.ofNat n).toNat = n := by
  rw [Char.ofNat, dif_pos (show n.isValidChar from valid)]
  rfl

lemma lead_one {octet : UInt8} (small : octet.toNat < 0x80) :
    lead octet = .complete (Char.ofNat octet.toNat) :=
  if_pos (UInt8.lt_iff_toNat_lt.mpr small)

lemma lead_two {octet : UInt8} (low : 0xc2 ≤ octet.toNat) (high : octet.toNat < 0xe0) :
    lead octet = .begun ⟨0, 0x80, 0xbf, octet.toNat - 0xc0, [octet]⟩ := by
  have past : ¬ octet < 0x80 ∧ ¬ octet < 0xc2 ∧ octet < 0xe0 := by
    simp only [UInt8.lt_iff_toNat_lt, UInt8.reduceToNat]
    omega
  rw [lead, if_neg past.1, if_neg past.2.1, if_pos past.2.2]

lemma lead_three {octet : UInt8} (low : 0xe0 ≤ octet.toNat) (high : octet.toNat < 0xf0) :
    lead octet = .begun ⟨1, if octet = 0xe0 then 0xa0 else 0x80,
      if octet = 0xed then 0x9f else 0xbf, octet.toNat - 0xe0, [octet]⟩ := by
  have past : ¬ octet < 0x80 ∧ ¬ octet < 0xc2 ∧ ¬ octet < 0xe0 ∧ octet < 0xf0 := by
    simp only [UInt8.lt_iff_toNat_lt, UInt8.reduceToNat]
    omega
  rw [lead, if_neg past.1, if_neg past.2.1, if_neg past.2.2.1, if_pos past.2.2.2]

lemma lead_four {octet : UInt8} (low : 0xf0 ≤ octet.toNat) (high : octet.toNat < 0xf5) :
    lead octet = .begun ⟨2, if octet = 0xf0 then 0x90 else 0x80,
      if octet = 0xf4 then 0x8f else 0xbf, octet.toNat - 0xf0, [octet]⟩ := by
  have past : ¬ octet < 0x80 ∧ ¬ octet < 0xc2 ∧ ¬ octet < 0xe0 ∧ ¬ octet < 0xf0 ∧ octet < 0xf5 := by
    simp only [UInt8.lt_iff_toNat_lt, UInt8.reduceToNat]
    omega
  rw [lead, if_neg past.1, if_neg past.2.1, if_neg past.2.2.1, if_neg past.2.2.2.1,
    if_pos past.2.2.2.2]

lemma lead_refused {octet : UInt8}
    (outside : 0x80 ≤ octet.toNat ∧ octet.toNat < 0xc2 ∨ 0xf5 ≤ octet.toNat) :
    lead octet = .refused := by
  have past : ¬ octet < 0x80 ∧ (octet < 0xc2 ∨ ¬ octet < 0xc2 ∧ ¬ octet < 0xe0 ∧ ¬ octet < 0xf0 ∧
      ¬ octet < 0xf5) := by
    simp only [UInt8.lt_iff_toNat_lt, UInt8.reduceToNat]
    omega
  obtain ⟨past, early | ⟨later, two, three, four⟩⟩ := past
  · rw [lead, if_neg past, if_pos early]
  · rw [lead, if_neg past, if_neg later, if_neg two, if_neg three, if_neg four]

lemma admits_continuation_iff {more code : Nat} {taken : List UInt8} {next : UInt8} :
    Begun.Admits ⟨more, 0x80, 0xbf, code, taken⟩ next ↔
      0x80 ≤ next.toNat ∧ next.toNat ≤ 0xbf := Iff.rfl

/-- What an octet after a first one may be, where the first one narrows the range. -/
lemma admits_narrowed_iff {octet first last low high next : UInt8} {more code : Nat}
    {taken : List UInt8} (above : 0x80 ≤ low.toNat) (below : high.toNat ≤ 0xbf) :
    Begun.Admits ⟨more, if octet = first then low else 0x80, if octet = last then high else 0xbf,
        code, taken⟩ next ↔
      0x80 ≤ next.toNat ∧ next.toNat ≤ 0xbf ∧
        (octet.toNat = first.toNat → low.toNat ≤ next.toNat) ∧
        (octet.toNat = last.toNat → next.toNat ≤ high.toNat) := by
  have least : (0x80 : UInt8).toNat = 0x80 := rfl
  have greatest : (0xbf : UInt8).toNat = 0xbf := rfl
  simp only [Begun.Admits, ← UInt8.toNat_inj]
  split <;> split <;> omega

lemma encodeChar_of_spells {octet : UInt8} {octets : List UInt8} {c : Char}
    (spells : (lead octet).Spells octets c) : encodeChar c = octet :: octets := by
  have bound := octet.toNat_lt
  -- The range of the first octet says how many follow it.
  rcases (by omega : octet.toNat < 0x80 ∨ (0xc2 ≤ octet.toNat ∧ octet.toNat < 0xe0) ∨
      (0xe0 ≤ octet.toNat ∧ octet.toNat < 0xf0) ∨ (0xf0 ≤ octet.toNat ∧ octet.toNat < 0xf5) ∨
      (0x80 ≤ octet.toNat ∧ octet.toNat < 0xc2 ∨ 0xf5 ≤ octet.toNat)) with
    one | ⟨low, high⟩ | ⟨low, high⟩ | ⟨low, high⟩ | outside
  · rw [lead_one one] at spells
    cases spells
    have code : (Char.ofNat octet.toNat).toNat = _ := toNat_charOfNat (by omega)
    simp only [encodeChar]
    rw [if_pos (by omega), code, ofNat_eq octet rfl]
  · rw [lead_two low high] at spells
    rcases spells with _ | ⟨⟨admits⟩⟩
    rename_i last
    rw [admits_continuation_iff] at admits
    have code : (Char.ofNat ((octet.toNat - 0xc0) * 64 + (last.toNat - 0x80))).toNat = _ :=
      toNat_charOfNat (by omega)
    simp only [encodeChar]
    rw [if_neg (by omega), if_pos (by omega), code, ofNat_eq octet (by omega),
      ofNat_eq last (by omega)]
  · rw [lead_three low high] at spells
    rcases spells with _ | ⟨_ | ⟨second, ⟨admits⟩⟩⟩
    rename_i middle last
    rw [admits_continuation_iff] at admits
    rw [admits_narrowed_iff (by decide) (by decide)] at second
    simp only [UInt8.reduceToNat] at second
    have code : (Char.ofNat (((octet.toNat - 0xe0) * 64 + (middle.toNat - 0x80)) * 64 +
        (last.toNat - 0x80))).toNat = _ := toNat_charOfNat (by omega)
    simp only [encodeChar]
    rw [if_neg (by omega), if_neg (by omega), if_pos (by omega), code, ofNat_eq octet (by omega),
      ofNat_eq middle (by omega), ofNat_eq last (by omega)]
  · rw [lead_four low high] at spells
    rcases spells with _ | ⟨_ | ⟨second, _ | ⟨third, ⟨admits⟩⟩⟩⟩
    rename_i middle other last
    rw [admits_continuation_iff] at third
    rw [admits_continuation_iff] at admits
    rw [admits_narrowed_iff (by decide) (by decide)] at second
    simp only [UInt8.reduceToNat] at second
    have code : (Char.ofNat ((((octet.toNat - 0xf0) * 64 + (middle.toNat - 0x80)) * 64 +
        (other.toNat - 0x80)) * 64 + (last.toNat - 0x80))).toNat = _ :=
      toNat_charOfNat (by omega)
    simp only [encodeChar]
    rw [if_neg (by omega), if_neg (by omega), if_neg (by omega), code, ofNat_eq octet (by omega),
      ofNat_eq middle (by omega), ofNat_eq other (by omega), ofNat_eq last (by omega)]
  · rw [lead_refused outside] at spells
    cases spells

lemma spells_of_encodeChar {octet : UInt8} {octets : List UInt8} {c : Char}
    (encoded : encodeChar c = octet :: octets) : (lead octet).Spells octets c := by
  have valid := valid_toNat c
  simp only [encodeChar] at encoded
  have last := toNat_ofNat (n := 0x80 + c.toNat % 64) (by omega)
  have middle := toNat_ofNat (n := 0x80 + c.toNat / 64 % 64) (by omega)
  by_cases one : c.toNat < 0x80
  · rw [if_pos one] at encoded
    obtain ⟨rfl, rfl⟩ := List.cons_eq_cons.mp encoded
    have first := toNat_ofNat (n := c.toNat) (by omega)
    rw [lead_one (by omega), first, Char.ofNat_toNat]
    exact .complete
  rw [if_neg one] at encoded
  by_cases two : c.toNat < 0x800
  · rw [if_pos two] at encoded
    obtain ⟨rfl, rfl⟩ := List.cons_eq_cons.mp encoded
    have first := toNat_ofNat (n := 0xc0 + c.toNat / 64) (by omega)
    rw [lead_two (by omega) (by omega)]
    refine .begun (.of_last ?_ (by omega))
    rw [admits_continuation_iff]
    omega
  rw [if_neg two] at encoded
  by_cases three : c.toNat < 0x10000
  · rw [if_pos three] at encoded
    obtain ⟨rfl, rfl⟩ := List.cons_eq_cons.mp encoded
    have first := toNat_ofNat (n := 0xe0 + c.toNat / 4096) (by omega)
    rw [lead_three (by omega) (by omega)]
    refine .begun (.next ?_ (.of_last ?_ (by omega)))
    · rw [admits_narrowed_iff (by decide) (by decide)]
      simp only [UInt8.reduceToNat]
      omega
    · rw [admits_continuation_iff]
      omega
  rw [if_neg three] at encoded
  obtain ⟨rfl, rfl⟩ := List.cons_eq_cons.mp encoded
  have first := toNat_ofNat (n := 0xf0 + c.toNat / 262144) (by omega)
  have second := toNat_ofNat (n := 0x80 + c.toNat / 4096 % 64) (by omega)
  rw [lead_four (by omega) (by omega)]
  refine .begun (.next ?_ (.next ?_ (.of_last ?_ (by omega))))
  · rw [admits_narrowed_iff (by decide) (by decide)]
    simp only [UInt8.reduceToNat]
    omega
  · rw [admits_continuation_iff]
    omega
  · rw [admits_continuation_iff]
    omega

lemma encodeChar_ne_nil (c : Char) : encodeChar c ≠ [] := by
  simp only [encodeChar]
  split
  · exact List.cons_ne_nil _ _
  · split
    · exact List.cons_ne_nil _ _
    · split <;> exact List.cons_ne_nil _ _

/-! ## Whole texts -/

lemma decode_encode (text : Text) : decode (encode text) = .ok text := by
  induction text with
  | nil => rfl
  | cons c text ih =>
      obtain ⟨octet, octets, encoded⟩ := List.exists_cons_of_ne_nil (encodeChar_ne_nil c)
      rw [encode_cons, encoded, List.cons_append, decode_cons_eq_ok_iff]
      exact ⟨octets, encode text, c, text, rfl, spells_of_encodeChar encoded, rfl, ih⟩

/-- **Octets decode to a text exactly when they are its encoding.** -/
theorem decode_eq_ok_iff {octets : List UInt8} {text : Text} :
    decode octets = .ok text ↔ octets = encode text := by
  constructor
  · intro decoded
    induction text generalizing octets with
    | nil =>
        cases octets with
        | nil => rfl
        | cons octet octets =>
            obtain ⟨_, _, _, _, -, -, impossible, -⟩ := decode_cons_eq_ok_iff.mp decoded
            cases impossible
    | cons c text ih =>
        cases octets with
        | nil => cases decoded
        | cons octet octets =>
            obtain ⟨taken, rest, d, more, rfl, spells, same, later⟩ :=
              decode_cons_eq_ok_iff.mp decoded
            cases same
            rw [encode_cons, encodeChar_of_spells spells, ih later, List.cons_append]
  · rintro rfl
    exact decode_encode text

/-- Different texts have different spellings. -/
lemma encode_injective : Function.Injective encode := by
  intro text other same
  exact Except.ok.inj ((decode_encode text).symm.trans (decode_eq_ok_iff.mpr same))

end DocComment.Utf8
