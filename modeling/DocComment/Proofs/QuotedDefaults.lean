import DocComment.Proofs.PairedBrackets

/-!
# Quotes around defaults

One pair of quotes around a default is taken off, by a pattern: a quote, at least one character and
no newline among them, and the same quote, at the end of the text or in front of a newline at the
end.  Here this is compared with what a value between quotes is (`Quotes`).

The two differ in two ways.  A value that is empty or has a newline keeps its quotes, because the
pattern does not match it (`unquoted_of_quotes`).  And where a newline stands behind the closing
quote, the quotes are taken off though the text as a whole is not in quotes
(`unquoted_of_quotes_newline`).  Everything else is read as it is written
(`quotes_or_unquoted_eq_self`).

The default itself is found by the brackets around the name, so it may have quotes, equals signs,
blanks and brackets in pairs in it, and what follows the brackets does not matter
(`readsDefault_iff`).
-/

namespace DocComment

open Builtin Text

/-! ## Texts in quotes -/

/-- A value with a quote in front of it and the same quote behind it. -/
inductive Quotes (value : Text) : Text → Prop
  | intro (quote : Char) (isQuote : quote = '"' ∨ quote = '\'') :
      Quotes value (quote :: (value ++ [quote]))

/-- Something on one line: it is not empty and has no newline. -/
def IsOneLine (value : Text) : Prop := value ≠ [] ∧ '\n' ∉ value

instance : DecidablePred IsOneLine := fun _ => inferInstanceAs (Decidable (_ ∧ _))

lemma isQuotable_iff {value : Text} : isQuotable value = true ↔ IsOneLine value := by
  simp [isQuotable, IsOneLine]

lemma Quotes.ne_value {value raw : Text} (quotes : Quotes value raw) : raw ≠ value := by
  intro same
  have lengths := congrArg List.length same
  cases quotes
  simp at lengths
  omega

lemma Quotes.wellNested {value raw : Text} (quotes : Quotes value raw)
    (nested : WellNested '[' ']' value) : WellNested '[' ']' raw := by
  obtain ⟨quote, isQuote⟩ := quotes
  have plain : WellNested '[' ']' [quote] := by
    apply WellNested.of_not_mem <;> rcases isQuote with rfl | rfl <;> decide
  exact plain.append (nested.append plain)

/-- The quotes around a value are taken off if it is on one line. -/
lemma unquoted_of_quotes {value raw : Text} (quotes : Quotes value raw) :
    unquoted raw = if IsOneLine value then value else raw := by
  obtain ⟨quote, isQuote⟩ := quotes
  have closed : dropEnding? [quote] (value ++ [quote]) = some value := dropEnding?_append _ _
  rw [unquoted, if_pos (by simpa using isQuote), closed]
  simp only [isQuotable_iff]

/-- They are also taken off in front of a newline, which stays. -/
lemma unquoted_of_quotes_newline {value raw : Text} (quotes : Quotes value raw) :
    unquoted (raw ++ ['\n']) = if IsOneLine value then value ++ ['\n'] else raw ++ ['\n'] := by
  obtain ⟨quote, isQuote⟩ := quotes
  have notNewline : quote ≠ '\n' := by
    rintro rfl
    revert isQuote
    decide
  have notHere : dropEnding? [quote] (value ++ [quote] ++ ['\n']) = none := by
    by_contra closed
    obtain ⟨before, closed⟩ := Option.ne_none_iff_exists'.mp closed
    obtain ⟨-, same⟩ := List.append_inj' (eq_append_of_dropEnding? closed) rfl
    exact notNewline (List.singleton_inj.mp same).symm
  have closed : dropEnding? [quote, '\n'] (value ++ [quote] ++ ['\n']) = some value := by
    rw [List.append_assoc]
    exact dropEnding?_append _ _
  rw [List.cons_append, unquoted, if_pos (by simpa using isQuote), notHere, closed]
  simp only [isQuotable_iff]

/-- A text that is not in quotes, up to a newline, is not changed. -/
lemma quotes_or_unquoted_eq_self (raw : Text) :
    (∃ value, Quotes value raw) ∨ (∃ value before, Quotes value before ∧ raw = before ++ ['\n']) ∨
      unquoted raw = raw := by
  cases raw with
  | nil => exact .inr (.inr rfl)
  | cons quote rest =>
      rw [unquoted]
      by_cases isQuote : quote = '"' ∨ quote = '\''
      · rw [if_pos (by simpa using isQuote)]
        cases closed : dropEnding? [quote] rest with
        | some value =>
            left
            rw [eq_append_of_dropEnding? closed]
            exact ⟨value, .intro quote isQuote⟩
        | none =>
            right
            cases closed : dropEnding? [quote, '\n'] rest with
            | some value =>
                left
                refine ⟨value, _, .intro quote isQuote, ?_⟩
                rw [eq_append_of_dropEnding? closed, List.cons_append, List.append_assoc,
                  List.singleton_append]
            | none => exact .inr rfl
      · right
        right
        rw [if_neg (by simpa using isQuote)]

/-! ## Defaults of names -/

/-- Behind a space and in front of the rest, an optional name with a default is read with all its
brackets, and the default is read in this way. -/
def ReadsDefault (record : Record) (name raw rest read : Text) : Prop :=
  readName (' ' :: (NameToken.withDefault name raw).text ++ rest) record =
    .consuming (' ' :: (NameToken.withDefault name raw).text)
      (NameToken.withDefault name read).fields

/-- With brackets in pairs, a default is read as it is without quotes, whatever follows. -/
lemma readsDefault_iff {record : Record} {name raw rest read : Text}
    (sound : hasFailed record = false) (noEquals : '=' ∉ name) (noOpening : '[' ∉ name)
    (noClosing : ']' ∉ name) (nested : WellNested '[' ']' raw) (ends : EndsPart rest) :
    ReadsDefault record name raw rest read ↔ unquoted raw = read := by
  have inner : isNested '[' ']' 0 (name ++ ['='] ++ raw) = true := by
    rw [← wellNested_iff_isNested (by decide)]
    apply WellNested.append _ nested
    apply WellNested.of_not_mem
    · simp [noOpening]
    · simp [noClosing]
  have scanned : nameToken? 0 ((NameToken.withDefault name raw).text ++ rest) =
      some (NameToken.withDefault name raw).text := by
    rw [List.append_assoc, List.singleton_append] at inner
    exact nameToken?_of_isNested inner ends
  have reply : readName (' ' :: (NameToken.withDefault name raw).text ++ rest) record =
      .consuming (' ' :: (NameToken.withDefault name raw).text)
        (nameFields (NameToken.withDefault name raw).text) :=
    readName_of_scanned sound (c := '[') (by decide) scanned
  rw [ReadsDefault, reply, NameToken.nameFields_withDefault noEquals]
  simp [Reply.consuming, NameToken.fields, NameToken.name, NameToken.isOptional,
    NameToken.default?]

/-- **From which defaults one pair of quotes is taken off.**  Let a name without brackets and equals
signs stand in brackets with a default in which brackets are paired.  A value in quotes is read
without them exactly if it is on one line, and otherwise it is read with them.  A default that is
not in quotes is read as it is written, unless it is a value on one line in quotes with a newline
behind them: then the newline is read behind the value. -/
theorem one_pair_of_quotes_is_removed_iff {record : Record} {name : Text}
    (sound : hasFailed record = false) (noEquals : '=' ∉ name) (noOpening : '[' ∉ name)
    (noClosing : ']' ∉ name) :
    (∀ value raw rest, Quotes value raw → WellNested '[' ']' value → EndsPart rest →
      (ReadsDefault record name raw rest value ↔ IsOneLine value) ∧
        (¬ IsOneLine value → ReadsDefault record name raw rest raw)) ∧
    (∀ raw rest, (∀ value, ¬ Quotes value raw) → WellNested '[' ']' raw → EndsPart rest →
      (ReadsDefault record name raw rest raw ↔
        ∀ value before, Quotes value before → IsOneLine value → raw ≠ before ++ ['\n']) ∧
        ∀ value before, Quotes value before → IsOneLine value → raw = before ++ ['\n'] →
          ReadsDefault record name raw rest (value ++ ['\n'])) := by
  have reads : ∀ {raw rest read : Text}, WellNested '[' ']' raw → EndsPart rest →
      (ReadsDefault record name raw rest read ↔ unquoted raw = read) :=
    readsDefault_iff sound noEquals noOpening noClosing
  constructor
  · intro value raw rest quotes nested ends
    have inQuotes := quotes.wellNested nested
    rw [reads inQuotes ends, reads inQuotes ends, unquoted_of_quotes quotes, ite_eq_left_iff]
    refine ⟨⟨fun same => ?_, fun oneLine => absurd oneLine⟩, fun notOneLine => if_neg notOneLine⟩
    by_contra notOneLine
    exact quotes.ne_value (same notOneLine)
  · intro raw rest bare nested ends
    rw [reads nested ends]
    refine ⟨⟨?_, ?_⟩, ?_⟩
    · rintro kept value before quotes oneLine rfl
      rw [unquoted_of_quotes_newline quotes, if_pos oneLine] at kept
      exact quotes.ne_value (List.append_cancel_right kept).symm
    · intro each
      rcases quotes_or_unquoted_eq_self raw with
        ⟨value, quotes⟩ | ⟨value, before, quotes, rfl⟩ | kept
      · exact absurd quotes (bare value)
      · rw [unquoted_of_quotes_newline quotes, if_neg]
        exact fun oneLine => each value before quotes oneLine rfl
      · exact kept
    · rintro value before quotes oneLine rfl
      rw [reads nested ends, unquoted_of_quotes_newline quotes, if_pos oneLine]

/-- A value with quotes of both kinds, brackets in pairs, an equals sign and a blank in it. -/
def quotedValue : Text := "\"[=]\u2003'".toList

theorem outer_quotes_are_removed :
    hasFailed [] = false ∧ ('=' ∉ "x\n y".toList ∧ '[' ∉ "x\n y".toList ∧ ']' ∉ "x\n y".toList) ∧
      EndsPart "\x0b]".toList ∧
      (Quotes quotedValue ('"' :: (quotedValue ++ ['"'])) ∧ WellNested '[' ']' quotedValue ∧
        ReadsDefault [] "x\n y".toList ('"' :: (quotedValue ++ ['"'])) "\x0b]".toList
          quotedValue) ∧
      ((∀ value, ¬ Quotes value "[]\"\n\"".toList) ∧ WellNested '[' ']' "[]\"\n\"".toList ∧
        ReadsDefault [] "x\n y".toList "[]\"\n\"".toList "\x0b]".toList "[]\"\n\"".toList) := by
  have sound : hasFailed [] = false := rfl
  have plain : '=' ∉ "x\n y".toList ∧ '[' ∉ "x\n y".toList ∧ ']' ∉ "x\n y".toList := by decide
  have ends : EndsPart "\x0b]".toList := .inr rfl
  have quotes : Quotes quotedValue ('"' :: (quotedValue ++ ['"'])) := .intro '"' (.inl rfl)
  have nested : WellNested '[' ']' quotedValue := by decide
  have bare : ∀ value, ¬ Quotes value "[]\"\n\"".toList := by
    intro value quotes
    generalize same : "[]\"\n\"".toList = raw at quotes
    obtain ⟨quote, isQuote⟩ := quotes
    obtain ⟨rfl, -⟩ := List.cons.inj same
    revert isQuote
    decide
  have bareNested : WellNested '[' ']' "[]\"\n\"".toList := by decide
  obtain ⟨fromQuotes, fromBare⟩ :=
    one_pair_of_quotes_is_removed_iff sound plain.1 plain.2.1 plain.2.2
  obtain ⟨removed_iff, -⟩ := fromQuotes quotedValue _ "\x0b]".toList quotes nested ends
  obtain ⟨kept_iff, -⟩ := fromBare _ "\x0b]".toList bare bareNested ends
  refine ⟨sound, plain, ends, ⟨quotes, nested, removed_iff.mpr (by decide)⟩, bare, bareNested,
    kept_iff.mpr ?_⟩
  rintro value before ⟨quote, isQuote⟩ - same
  obtain ⟨rfl, -⟩ := List.cons.inj same
  revert isQuote
  decide

theorem empty_value_keeps_quotes :
    hasFailed [] = false ∧ ('=' ∉ ['n'] ∧ '[' ∉ ['n'] ∧ ']' ∉ ['n']) ∧ EndsPart [] ∧
      Quotes [] ['"', '"'] ∧ WellNested '[' ']' [] ∧
      ¬ ReadsDefault [] ['n'] ['"', '"'] [] [] := by
  refine ⟨rfl, by decide, .inl rfl, .intro '"' (.inl rfl), by decide, fun reads => ?_⟩
  have quoted : readName " [n=\"\"]".toList [] = .consuming " [n=\"\"]".toList
      (NameToken.withDefault ['n'] ['"', '"']).fields := rfl
  exact nomatch quoted.symm.trans reads

end DocComment
