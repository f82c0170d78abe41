import DocComment.Proofs.QuotedDefaults
import DocComment.Proofs.Trimming

/-!
# A sound tag is made of its parts

The standard parsers pass the text of a tag on from one to the next, and each has a notion of its
own of what a blank is: the keyword ends at any blank, only spaces and tabs are skipped in front of
a type or a name, a name is not looked for at the end of a line, and the description takes any
blank.  Here these notions are fitted together.  What the keyword or the name leaves begins with a
blank (`exists_readKeyword`, `exists_readName`), so the description takes all of it
(`exists_readDescription`), and a tag without errors is the concatenation of what was read from it
(`sound_tag_is_made_of_its_parts`).
-/

namespace DocComment

open Builtin Text

/-! ## Parts -/

/-- What may be read for a default that is written as `raw`: all of it, or what is left without a
quote at its start and an equal one further on. -/
inductive IsUnquoted (raw : Text) : Text → Prop
  | asWritten : IsUnquoted raw raw
  | quoted {quote : Char} {body after : Text} (isQuote : quote = '"' ∨ quote = '\'')
      (written : raw = quote :: body ++ quote :: after) : IsUnquoted raw (body ++ after)

/-- A part of a tag with the spaces and tabs in front of it. -/
structure Padded (α : Type) where
  pad : Text
  content : α
  pad_isPad : ∀ c ∈ pad, c = ' ' ∨ c = '\t'

/-- The text of a part that may be absent. -/
def Padded.text {α : Type} (spell : α → Text) (part : Option (Padded α)) : Text :=
  part.elim [] fun present => present.pad ++ spell present.content

/-- A type as it is written. -/
def bracedType (type : Text) : Text := '{' :: type ++ ['}']

/-- What a tag is made of.  The keyword is always there, a type and a name may be, and what is left
is a gap of blanks and the description behind it. -/
structure TagParts where
  keyword : Text
  type : Option (Padded Text)
  token : Option (Padded NameToken)
  gap : Text
  description : Text
  gap_isBlank : ∀ c ∈ gap, isBlank c = true
  gap_ne_nil : description ≠ [] → gap ≠ []

namespace TagParts

variable (parts : TagParts)

/-- The parts one after the other. -/
def text : Text :=
  '@' :: parts.keyword ++ Padded.text bracedType parts.type ++
    Padded.text NameToken.text parts.token ++ parts.gap ++ parts.description

/-- The type without what stands in front of it. -/
def type? : Option Text := parts.type.map (·.content)

/-- The name token without what stands in front of it. -/
def token? : Option NameToken := parts.token.map (·.content)

/-- A record with these parts.  A field is empty where the part is absent, the name is marked as
optional exactly if it is in brackets, and there is a default exactly if one is written. -/
structure FoundIn (record : Record) : Prop where
  tag : Record.get? record "tag" = some (.text parts.keyword)
  type : Record.get? record "type" = some (.text (parts.type?.getD []))
  name : Record.get? record "name" = some (.text (parts.token?.elim [] NameToken.name))
  optional : Record.get? record "optional" = some (.bool (parts.token?.any (·.isOptional)))
  fallback : ∃ read, Option.Rel IsUnquoted (parts.token?.bind NameToken.default?) read ∧
    Record.get? record "default" = read.map .text
  description : Record.get? record "description" = some (.text parts.description)

end TagParts

/-! ## Taking parts off -/

namespace Reply

/-- The text that a reply consumes. -/
def consumedText (reply : Reply) : Text := (reply.pair?.map (·.1)).getD []

/-- A reply that consumes this text, contributes these fields and adds no errors. -/
structure Takes (reply : Reply) (part : Text) (fields : Record) : Prop
    extends reply.Yields part.length fields where
  consumedText : reply.consumedText = part

lemma takes_declining : Reply.declining.Takes [] [] := ⟨yields_declining, rfl⟩

lemma takes_consuming {text : Text} {fields : Record}
    (distinct : Record.ofFields fields = fields) (noErrors : Record.get? fields "errors" = none) :
    (Reply.consuming text fields).Takes text fields :=
  ⟨yields_consuming distinct noErrors, rfl⟩

lemma ne_failed_of_errors {reply : Reply} {parser : String}
    (sound : reply.errors parser = []) (message : String) : reply ≠ .failed message := by
  rintro rfl
  cases sound

end Reply

/-! ## Where the scanners stop -/

lemma isUnquoted_unquoted (raw : Text) : IsUnquoted raw (unquoted raw) := by
  rcases quotes_or_unquoted_eq_self raw with
    ⟨value, quotes⟩ | ⟨value, before, quotes, rfl⟩ | kept
  · rw [unquoted_of_quotes quotes]
    split
    · obtain ⟨quote, isQuote⟩ := quotes
      have removed : IsUnquoted _ (value ++ []) := .quoted isQuote rfl
      rwa [List.append_nil] at removed
    · exact .asWritten
  · rw [unquoted_of_quotes_newline quotes]
    split
    · obtain ⟨quote, isQuote⟩ := quotes
      exact .quoted isQuote (by simp)
    · exact .asWritten
  · rw [kept]
    exact .asWritten

/-- A text is what stands in front of the first occurrence of a character, the character, and what
stands behind it. -/
lemma eq_takeWhile_append_drop {c : Char} {text : Text} (among : c ∈ text) :
    text = text.takeWhile (· != c) ++ c :: (text.dropWhile (· != c)).drop 1 := by
  cases left : text.dropWhile (· != c) with
  | nil =>
      have passed := List.dropWhile_eq_nil_iff.mp left c among
      simp at passed
  | cons d more =>
      have first : d ∈ (text.dropWhile (· != c)).head? := by rw [left, List.head?_cons]; rfl
      obtain rfl : d = c := by simpa using not_of_mem_head?_dropWhile first
      calc text = text.takeWhile (· != d) ++ text.dropWhile (· != d) :=
            List.takeWhile_append_dropWhile.symm
        _ = text.takeWhile (· != d) ++ d :: (d :: more).drop 1 := by
            rw [left, List.drop_one, List.tail_cons]

/-! ## What each parser takes -/

lemma exists_readKeyword {rest : Text}
    (sound : ∀ message, readKeyword ('@' :: rest) ≠ .failed message) :
    ∃ keyword more, '@' :: rest = '@' :: keyword ++ more ∧ EndsPart more ∧
      (readKeyword ('@' :: rest)).Takes ('@' :: keyword) [("tag", .text keyword)] := by
  have split : rest = rest.takeWhile (!isBlank ·) ++ rest.dropWhile (!isBlank ·) :=
    List.takeWhile_append_dropWhile.symm
  have ends : EndsPart (rest.dropWhile (!isBlank ·)) := by
    cases behind : rest.dropWhile (!isBlank ·) with
    | nil => exact .inl rfl
    | cons c more =>
        have first : c ∈ (rest.dropWhile (!isBlank ·)).head? := by rw [behind, List.head?_cons]; rfl
        have stopped := not_of_mem_head?_dropWhile first
        exact .inr (by simpa [startsBlank] using stopped)
  have solid : ∀ c ∈ rest.takeWhile (!isBlank ·), isBlank c = false := by
    intro c among
    simpa using List.mem_takeWhile_imp among
  have notEmpty : rest.takeWhile (!isBlank ·) ≠ [] := by
    intro empty
    have marker : isBlank '@' = false := by decide
    refine sound "Invalid `@tag`, missing @ symbol" ?_
    have shown : ('@' :: rest).dropWhile isBlank = '@' :: rest := by simp [marker]
    rw [readKeyword, shown]
    simp only [empty]
  have reply := readKeyword_marked notEmpty
  exact ⟨_, _, by rw [List.cons_append, ← split], ends, reply ▸ Reply.takes_consuming rfl rfl⟩

lemma isPad_of_mem_takeWhile {source : Text} :
    ∀ c ∈ source.takeWhile isPad, c = ' ' ∨ c = '\t' := by
  intro c among
  simpa [isPad] using List.mem_takeWhile_imp among

lemma exists_readType {source : Text} {record : Record} (goesOn : hasFailed record = false)
    (sound : ∀ message, readType source record ≠ .failed message) :
    ∃ type more, source = Padded.text bracedType type ++ more ∧
      (readType source record).Takes (Padded.text bracedType type)
        (typeFields (type.map (·.content))) := by
  by_cases begins : (source.dropWhile isPad).head? = some '{'
  · obtain ⟨rest, shown⟩ := List.head?_eq_some_iff.mp begins
    have split : source = source.takeWhile isPad ++ '{' :: rest := by
      rw [← shown, List.takeWhile_append_dropWhile]
    cases scanned : bracedText? 1 rest with
    | none => exact absurd (readType_of_unclosed goesOn shown scanned) (sound _)
    | some taken =>
        obtain ⟨content, more, rfl, behind, -⟩ := exists_of_bracedText? scanned
        let type : Padded Text := ⟨source.takeWhile isPad, content, isPad_of_mem_takeWhile⟩
        have reply : readType source record =
            .consuming (Padded.text bracedType (some type)) (typeFields (some content)) :=
          readType_of_closed goesOn shown scanned
        refine ⟨some type, more, ?_, reply ▸ Reply.takes_consuming rfl rfl⟩
        calc source = source.takeWhile isPad ++ '{' :: (content ++ ['}'] ++ more) := by
              rw [← behind, ← split]
          _ = Padded.text bracedType (some type) ++ more := by
              simp [Padded.text, bracedType, type]
  · exact ⟨none, source, rfl, readType_eq_declining begins ▸ Reply.takes_declining⟩

/-- What is read for a name token: its name, whether it is optional, and a default exactly if one is
written, which may have lost its quotes. -/
structure NameToken.ReadsAs (token read : NameToken) : Prop where
  name : read.name = token.name
  isOptional : read.isOptional = token.isOptional
  fallback : Option.Rel IsUnquoted token.default? read.default?

/-- The same of a name that may be absent. -/
lemma NameToken.ReadsAs.of_rel {token read : Option NameToken}
    (alike : Option.Rel ReadsAs token read) :
    read.elim [] NameToken.name = token.elim [] NameToken.name ∧
      read.any (·.isOptional) = token.any (·.isOptional) ∧
      Option.Rel IsUnquoted (token.bind NameToken.default?) (read.bind NameToken.default?) := by
  cases alike with
  | none => exact ⟨rfl, rfl, .none⟩
  | some alike => exact ⟨alike.name, alike.isOptional, alike.fallback⟩

/-- Every name token is spelled in one of the ways, and it contributes what is spelled, with the
default as it is without quotes. -/
lemma exists_nameFields (letters : Text) :
    ∃ token read : NameToken, token.text = letters ∧ nameFields letters = read.fields ∧
      token.ReadsAs read := by
  have plain : ∀ fields, fields = (NameToken.plain letters).fields → ∃ token read : NameToken,
      token.text = letters ∧ fields = read.fields ∧ token.ReadsAs read :=
    fun fields same => ⟨.plain letters, .plain letters, rfl, same, rfl, rfl, .none⟩
  cases letters with
  | nil => exact plain _ rfl
  | cons c rest =>
      by_cases bracketed : c = '[' ∧ ∃ inner, dropEnding? [']'] rest = some inner
      · obtain ⟨rfl, inner, closed⟩ := bracketed
        rw [eq_append_of_dropEnding? closed, ← List.cons_append,
          NameToken.nameFields_bracketed]
        by_cases hasDefault : '=' ∈ inner
        · let name := inner.takeWhile (· != '=')
          let raw := (inner.dropWhile (· != '=')).drop 1
          have split : inner = name ++ '=' :: raw := eq_takeWhile_append_drop hasDefault
          refine ⟨.withDefault name raw, .withDefault name (unquoted raw), ?_, ?_, rfl, rfl,
            .some (isUnquoted_unquoted raw)⟩
          · show '[' :: (name ++ '=' :: raw) ++ [']'] = _
            rw [← split]
          · simp [hasDefault, NameToken.fields, NameToken.name, NameToken.isOptional,
              NameToken.default?, name, raw]
        · exact ⟨.optional inner, .optional inner, rfl, by simp [hasDefault]; rfl, rfl, rfl, .none⟩
      · refine plain _ ?_
        unfold nameFields
        split
        · next same =>
            obtain ⟨rfl, rfl⟩ := List.cons.inj same
            split
            · next inner closed => exact absurd ⟨rfl, inner, closed⟩ bracketed
            · rfl
        · rfl

/-- A name that is read is a beginning of the text, and whether one is read or not, a blank follows
or nothing. -/
lemma exists_readName {source : Text} {record : Record} (goesOn : hasFailed record = false)
    (sound : ∀ message, readName source record ≠ .failed message) :
    ∃ (token : Option (Padded NameToken)) (read : Option NameToken) (more : Text),
      source = Padded.text NameToken.text token ++ more ∧ EndsPart more ∧
      (readName source record).Takes (Padded.text NameToken.text token) (tokenFields read) ∧
      Option.Rel NameToken.ReadsAs (token.map (·.content)) read := by
  have split : source = source.takeWhile isPad ++ source.dropWhile isPad :=
    List.takeWhile_append_dropWhile.symm
  by_cases ends : EndsLine (source.dropWhile isPad)
  · -- The line ends here, so what is left begins with a space, a tab or a line end.
    have endsPart : EndsPart source := by
      cases source with
      | nil => exact .inl rfl
      | cons c more =>
          right
          show isBlank c = true
          by_cases pad : isPad c = true
          · rcases (by simpa [isPad] using pad : c = ' ' ∨ c = '\t') with rfl | rfl <;> decide
          · rw [List.dropWhile_cons_of_neg pad] at ends
            rcases ends c rfl with rfl | rfl <;> decide
    exact ⟨none, none, source, rfl, endsPart,
      readName_of_endsLine record ends ▸ Reply.takes_declining, .none⟩
  · have reply := readName_eq goesOn ends
    cases scanned : nameToken? 0 (source.dropWhile isPad) with
    | none =>
        rw [scanned] at reply
        exact absurd reply (sound _)
    | some letters =>
        obtain ⟨more, behind, endsPart⟩ := (nameToken?_eq_some_iff.mp scanned).isCandidate.ends
        obtain ⟨token, read, rfl, fields, alike⟩ := exists_nameFields letters
        let padded : Padded NameToken :=
          ⟨source.takeWhile isPad, token, isPad_of_mem_takeWhile⟩
        have reply : readName source record =
            .consuming (Padded.text NameToken.text (some padded)) (tokenFields (some read)) := by
          rw [reply, scanned, Option.elim_some, fields]
          rfl
        have noErrors : Record.ofFields read.fields = read.fields ∧
            Record.get? read.fields "errors" = none := by
          cases read <;> exact ⟨rfl, rfl⟩
        refine ⟨some padded, some read, more, ?_, endsPart, ?_, .some alike⟩
        · rw [split, behind]
          simp [Padded.text, padded]
        · rw [reply]
          exact Reply.takes_consuming noErrors.1 noErrors.2

/-- What is left behind a blank is the description and the gap in front of it, and nothing is left
behind these. -/
lemma exists_readDescription {source : Text} {record : Record} (goesOn : hasFailed record = false)
    (ends : EndsPart source) :
    ∃ gap description, source = gap ++ description ∧ (∀ c ∈ gap, isBlank c = true) ∧
      (description ≠ [] → gap ≠ []) ∧
      (readDescription source record).Takes source (descriptionFields source description) := by
  rcases ends with rfl | blank
  · have reply : readDescription [] record = .declining := by rw [readDescription, goesOn]; rfl
    exact ⟨[], [], rfl, List.forall_mem_nil _, fun shown => shown, reply ▸ Reply.takes_declining⟩
  · obtain ⟨c, rest, rfl⟩ : ∃ c rest, source = c :: rest := by
      cases source with
      | nil => cases blank
      | cons c rest => exact ⟨c, rest, rfl⟩
    have isBlank : isBlank c = true := blank
    have reply : readDescription (c :: rest) record =
        .consuming (c :: rest) [("description", .text (trimStart (c :: rest)))] := by
      rw [readDescription, goesOn, blank]
      rfl
    refine ⟨(c :: rest).takeWhile Text.isBlank, trimStart (c :: rest), ?_, ?_, ?_, ?_⟩
    · exact List.takeWhile_append_dropWhile.symm
    · exact fun d among => List.mem_takeWhile_imp among
    · simp [isBlank]
    · rw [reply, descriptionFields, if_neg (List.cons_ne_nil c rest)]
      exact Reply.takes_consuming rfl rfl

/-! ## The run over a sound tag -/

lemma consumedBy_eq_length (calls : List Call) :
    consumedBy calls = (calls.flatMap (·.reply.consumedText)).length := by
  induction calls using List.reverseRecOn with
  | nil => rfl
  | append_singleton rest call ih =>
      rw [consumedBy_concat, ih, List.flatMap_append, List.length_append, List.flatMap_singleton,
        Reply.consumedLength, Reply.consumedText]
      cases call.reply.pair? <;> rfl

/-- What four calls take off a tag are these parts, where `read` is what is read for the name. -/
structure TagParts.TakenBy (parts : TagParts) (read : Option NameToken)
    (first second third fourth : Call) : Prop where
  keyword : first.reply.Takes ('@' :: parts.keyword) [("tag", .text parts.keyword)]
  type : second.reply.Takes (Padded.text bracedType parts.type) (typeFields parts.type?)
  token : third.reply.Takes (Padded.text NameToken.text parts.token) (tokenFields read)
  alike : Option.Rel NameToken.ReadsAs parts.token? read
  description : fourth.reply.Takes (parts.gap ++ parts.description)
    (descriptionFields (parts.gap ++ parts.description) parts.description)

section Run

variable {source : Text} {record : Record} {first second third fourth : Call} {parts : TagParts}
  {read : Option NameToken}

/-- **The calls take a sound tag apart**, and leave nothing. -/
lemma StandardRun.exists_takenBy {rest : Text}
    (run : StandardRun ('@' :: rest) record first second third fourth)
    (sound : gatheredErrors [first, second, third, fourth] = []) :
    ∃ parts read, parts.text = '@' :: rest ∧
      TagParts.TakenBy parts read first second third fourth := by
  obtain ⟨soundFirst, soundSecond, soundThird, -⟩ :
      first.reply.errors first.parser.name = [] ∧ second.reply.errors second.parser.name = [] ∧
        third.reply.errors third.parser.name = [] ∧
        fourth.reply.errors fourth.parser.name = [] := by
    simpa [gatheredErrors] using sound
  obtain ⟨keyword, afterKeyword, splitFirst, ends, takesKeyword⟩ :=
    exists_readKeyword (run.keyword ▸ Reply.ne_failed_of_errors soundFirst)
  rw [← run.keyword] at takesKeyword
  have start : Leaves ('@' :: rest) [] ('@' :: keyword ++ afterKeyword) := ⟨splitFirst, rfl⟩
  have leavesFirst : Leaves ('@' :: rest) [first] afterKeyword :=
    start.step takesKeyword.toYields
  have typeReply := run.type
  rw [leavesFirst.remaining] at typeReply
  obtain ⟨type, afterType, splitSecond, takesType⟩ := exists_readType
    (Bool.eq_false_iff.mpr fun failed => run.typeDeclines.mp failed leavesFirst.sound)
    (typeReply ▸ Reply.ne_failed_of_errors soundSecond)
  rw [← typeReply] at takesType
  have leavesSecond : Leaves ('@' :: rest) [first, second] afterType :=
    (splitSecond ▸ leavesFirst).step takesType.toYields
  have nameReply := run.name
  rw [leavesSecond.remaining] at nameReply
  obtain ⟨token, read, afterName, splitThird, endsName, takesName, alike⟩ := exists_readName
    (Bool.eq_false_iff.mpr fun failed => run.nameDeclines.mp failed leavesSecond.sound)
    (nameReply ▸ Reply.ne_failed_of_errors soundThird)
  rw [← nameReply] at takesName
  have leavesThird : Leaves ('@' :: rest) [first, second, third] afterName :=
    (splitThird ▸ leavesSecond).step takesName.toYields
  have descriptionReply := run.description
  rw [leavesThird.remaining] at descriptionReply
  obtain ⟨gap, description, rfl, gapIsBlank, gapShown, takesDescription⟩ := exists_readDescription
    (Bool.eq_false_iff.mpr fun failed => run.descriptionDeclines.mp failed leavesThird.sound)
    endsName
  rw [← descriptionReply] at takesDescription
  refine ⟨⟨keyword, type, token, gap, description, gapIsBlank, gapShown⟩, read, ?_,
    takesKeyword, takesType, takesName, alike, takesDescription⟩
  rw [splitFirst, splitSecond, splitThird]
  simp [TagParts.text]

/-- What the calls take off is what the record holds. -/
lemma TagParts.TakenBy.foundIn (taken : TakenBy parts read first second third fourth)
    (run : StandardRun source record first second third fourth) : parts.FoundIn record := by
  have contributed : ∀ field, lastContribution? [first, second, third, fourth] field =
      (Record.get? (descriptionFields (parts.gap ++ parts.description) parts.description) field).or
        ((Record.get? (tokenFields read) field).or
          ((Record.get? (typeFields parts.type?) field).or
            (Record.get? [("tag", .text parts.keyword)] field))) := by
    intro field
    rw [StandardRun.lastContribution?_eq, taken.description.contributed, taken.token.contributed,
      taken.type.contributed, taken.keyword.contributed]
  simp only [get?_descriptionFields, get?_tokenFields, get?_typeFields] at contributed
  obtain ⟨name, optional, fallback⟩ := NameToken.ReadsAs.of_rel taken.alike
  refine ⟨?_, ?_, ?_, ?_, ⟨_, fallback, ?_⟩, ?_⟩
  · rw [run.concludes.get?_text (by decide), contributed]
    simp [Record.get?_cons]
  · rw [run.concludes.get?_text (by decide), contributed]
    cases parts.type? <;> simp [Record.get?_cons]
  · rw [run.concludes.get?_text (by decide), contributed, ← name]
    cases read <;> simp [Record.get?_cons]
  · rw [run.concludes.optional, contributed, ← optional]
    cases read <;> simp [Record.get?_cons, Value.isTruthy]
  · rw [run.concludes.field "default" (by decide) (by decide), contributed,
      if_neg (show "default" ∉ textFields by decide)]
    simp [Record.get?_cons]
  · rw [run.concludes.get?_text (by decide), contributed]
    by_cases nothing : parts.gap ++ parts.description = []
    · have silent := (List.append_eq_nil_iff.mp nothing).2
      rw [nothing]
      simp [silent, Record.get?_cons]
    · simp [nothing, Record.get?_cons]

end Run

/-- **A sound tag is made of its parts.**  A tag in which the standard parsers find no error is `@`
with the keyword behind it, and then, each with spaces and tabs in front, the type in braces and the
name token, if they are there, and last the description with a gap of blanks in front.  What is
recorded is exactly these parts.  Each parser consumes a beginning of what it is given, and together
they leave nothing. -/
theorem sound_tag_is_made_of_its_parts (ν : Type) (rest : Text) {record : Record}
    (parsed : (parseTag ('@' :: rest) parsers : Report ν (Option Record)).outcome =
      .ok (some record))
    (sound : Record.get? record "errors" = some (.list [])) :
    let source := '@' :: rest
    let calls := (parseTag source parsers : Report ν (Option Record)).calls parsers
    (∃ parts : TagParts, parts.text = source ∧ parts.FoundIn record) ∧
    calls.map (·.parser) = parsers ∧
    (∀ call ∈ calls, call.reply.consumedText <+: call.remaining) ∧
    source.drop (consumedBy calls) = [] := by
  intro source calls
  obtain ⟨again, first, second, third, fourth, parsedAgain, made, inOrder, given, run⟩ :=
    exists_calls_standardRun ν rest
  obtain rfl : again = record :=
    Option.some.inj (Except.ok.inj (parsedAgain.symm.trans parsed))
  rw [run.concludes.errors] at sound
  have noErrors : gatheredErrors [first, second, third, fourth] = [] :=
    Value.list.inj (Option.some.inj sound)
  obtain ⟨parts, read, whole, taken⟩ := run.exists_takenBy noErrors
  have sameCalls : calls = [first, second, third, fourth] := made
  have consumed : calls.flatMap (·.reply.consumedText) = source := by
    rw [sameCalls, show source = parts.text from whole.symm]
    simp [taken.keyword.consumedText, taken.type.consumedText, taken.token.consumedText,
      taken.description.consumedText, TagParts.text]
  refine ⟨⟨parts, whole, taken.foundIn run⟩, sameCalls ▸ inOrder, fun call among => ?_, ?_⟩
  · obtain ⟨earlier, later, split⟩ := List.append_of_mem among
    rw [given earlier call later (sameCalls ▸ split), consumedBy_eq_length,
      show '@' :: rest = source from rfl, ← consumed, split, List.flatMap_append, List.drop_left]
    exact ⟨later.flatMap (·.reply.consumedText), rfl⟩
  · rw [consumedBy_eq_length, consumed, List.drop_length]

/-- A tag with a nested type, a name in brackets with a quoted default, and various blanks. -/
def wellSpacedTag : Text := "a \t\x7bb \x7b\n\x7d\x7d\t[c=\"d\"\n]\u2003\n e ".toList

theorem well_spaced_tag_is_made_of_its_parts :
    ∃ record, (parseTag ('@' :: wellSpacedTag) parsers : Report Nat (Option Record)).outcome =
        .ok (some record) ∧
      Record.get? record "errors" = some (.list []) ∧
      Record.get? record "default" = some (.ofString "d\n") ∧
      (∃ parts : TagParts, parts.text = '@' :: wellSpacedTag ∧ parts.FoundIn record) ∧
      ('@' :: wellSpacedTag).drop (consumedBy ((parseTag ('@' :: wellSpacedTag) parsers :
        Report Nat (Option Record)).calls parsers)) = [] := by
  have parsed : (parseTag ('@' :: wellSpacedTag) parsers : Report Nat (Option Record)).outcome =
      .ok (some [("tag", .ofString "a"), ("type", .ofString "b \x7b\n\x7d"),
        ("name", .ofString "c"), ("optional", .bool true), ("default", .ofString "d\n"),
        ("description", .ofString "e "), ("errors", .list [])]) := rfl
  obtain ⟨parts, -, -, nothing⟩ := sound_tag_is_made_of_its_parts Nat wellSpacedTag parsed rfl
  exact ⟨_, parsed, rfl, rfl, parts, nothing⟩

end DocComment
