import DocComment.Proofs.StandardTags

/-!
# Tags read back from their spelling

A tag is spelled as its keyword, its type in braces, its name and its description, each with what
separates it in front (`TagSpelling.text`).  The standard parsers read all of this back
(`spelled_tag_reads_back`).  Each of the four scanners is shown to stop where the next part begins,
whatever follows: in front of a blank or at the end of the text, and for a type right behind the
brace that closes it.
-/

namespace DocComment

open Builtin Text

/-! ## Spellings -/

/-- Brackets open and close in pairs in a text that stands inside `depth` pairs of them. -/
def isNested (opening closing : Char) : (depth : Nat) → Text → Bool
  | depth, [] => depth == 0
  | depth, c :: rest =>
    if c = opening then isNested opening closing (depth + 1) rest
    else if c = closing then 0 < depth && isNested opening closing (depth - 1) rest
    else isNested opening closing depth rest

/-- What stands for the name in a tag. -/
inductive NameToken where
  | plain (name : Text)
  /-- The name of something optional. -/
  | optional (name : Text)
  /-- The name of something optional, and what it is if it is not given. -/
  | withDefault (name fallback : Text)
deriving DecidableEq, Repr

namespace NameToken

/-- The name itself. -/
def name : NameToken → Text
  | .plain name | .optional name | .withDefault name _ => name

/-- Whether the name is one of something optional. -/
def isOptional : NameToken → Bool
  | .plain _ => false
  | .optional _ | .withDefault _ _ => true

/-- The default, if there is one. -/
def default? : NameToken → Option Text
  | .plain _ | .optional _ => none
  | .withDefault _ fallback => some fallback

/-- What stands between the brackets of an optional name. -/
def inner : NameToken → Text
  | .plain name | .optional name => name
  | .withDefault name fallback => name ++ '=' :: fallback

/-- The token as it is spelled. -/
def text (token : NameToken) : Text :=
  if token.isOptional then '[' :: token.inner ++ [']'] else token.name

/-- A token that can be told from what stands around it. -/
def IsWellFormed : NameToken → Prop
  | .plain name => name ≠ [] ∧ ∀ c ∈ name, isBlank c = false ∧ c ≠ '[' ∧ c ≠ ']'
  | .optional name => isNested '[' ']' 0 name = true ∧ '=' ∉ name
  | .withDefault name fallback =>
    isNested '[' ']' 0 (name ++ '=' :: fallback) = true ∧ '=' ∉ name ∧
      fallback.head? ≠ some '"' ∧ fallback.head? ≠ some '\''

instance : DecidablePred IsWellFormed
  | .plain _ | .optional _ | .withDefault _ _ => inferInstanceAs (Decidable (_ ∧ _))

end NameToken

/-- The parts of a tag that can be told from each other once they are spelled. -/
structure TagSpelling where
  keyword : Text
  type : Option Text
  token : Option NameToken
  description : Text
  keyword_ne_nil : keyword ≠ []
  keyword_solid : ∀ c ∈ keyword, isBlank c = false
  type_nested : ∀ content ∈ type, isNested '{' '}' 0 content = true
  token_wellFormed : ∀ spelled ∈ token, spelled.IsWellFormed
  /-- A name right behind the keyword is not taken for a type. -/
  token_not_type : type = none → ∀ spelled ∈ token, spelled.text.head? ≠ some '{'
  description_solid : ∀ c ∈ description.head?, isBlank c = false

namespace TagSpelling

variable (spelling : TagSpelling)

/-- The description with what separates it: a blank behind a name, and a line end where there is
none, because what follows on the line would be read as the name. -/
def descriptionText : Text :=
  match spelling.description with
  | [] => []
  | description => (if spelling.token.isSome then ' ' else '\n') :: description

/-- The name with the blank in front of it, and the description. -/
def nameText : Text :=
  (spelling.token.elim [] fun token => ' ' :: token.text) ++ spelling.descriptionText

/-- The type with the blank in front of it, and what follows it. -/
def typeText : Text :=
  (spelling.type.elim [] fun content => ' ' :: '{' :: content ++ ['}']) ++ spelling.nameText

/-- The tag as it is spelled. -/
def text : Text := '@' :: spelling.keyword ++ spelling.typeText

/-- A record with these parts, empty where there is none, with a default exactly if one is spelled,
and without errors. -/
structure ReadsBack (record : Record) : Prop where
  tag : Record.get? record "tag" = some (.text spelling.keyword)
  type : Record.get? record "type" = some (.text (spelling.type.getD []))
  name : Record.get? record "name" = some (.text (spelling.token.elim [] NameToken.name))
  optional : Record.get? record "optional" = some (.bool (spelling.token.any (·.isOptional)))
  fallback : Record.get? record "default" = (spelling.token.bind NameToken.default?).map .text
  description : Record.get? record "description" = some (.text spelling.description)
  errors : Record.get? record "errors" = some (.list [])

end TagSpelling

/-! ## Where the scanners stop -/

/-- A text that stands behind a part of a tag: nothing, or something with a blank in front. -/
def EndsPart (rest : Text) : Prop := rest = [] ∨ startsBlank rest = true

/-- Nothing stands on the rest of the line. -/
def EndsLine (text : Text) : Prop := ∀ c ∈ text.head?, c = '\r' ∨ c = '\n'

lemma not_endsLine_cons {c : Char} {rest : Text} (noReturn : c ≠ '\r') (noNewline : c ≠ '\n') :
    ¬ EndsLine (c :: rest) :=
  fun ends => (ends c rfl).elim noReturn noNewline

/-- A character opens a pair, closes one, or leaves the depth as it is. -/
lemma exists_depth_of_isNested {opening closing : Char} {depth : Nat} {c : Char} {rest : Text}
    (nested : isNested opening closing depth (c :: rest) = true) :
    ∃ next, isNested opening closing next rest = true ∧
      ((c = opening ∧ next = depth + 1) ∨ (c ≠ opening ∧ c = closing ∧ depth = next + 1) ∨
        (c ≠ opening ∧ c ≠ closing ∧ next = depth)) := by
  rw [isNested] at nested
  by_cases opens : c = opening
  · rw [if_pos opens] at nested
    exact ⟨depth + 1, nested, .inl ⟨opens, rfl⟩⟩
  · rw [if_neg opens] at nested
    by_cases closes : c = closing
    · rw [if_pos closes, Bool.and_eq_true, decide_eq_true_eq] at nested
      exact ⟨depth - 1, nested.2, .inr (.inl ⟨opens, closes, by omega⟩)⟩
    · rw [if_neg closes] at nested
      exact ⟨depth, nested, .inr (.inr ⟨opens, closes, rfl⟩)⟩

/-- The scanner for types stops behind the brace that closes the first one. -/
lemma bracedText?_append {depth : Nat} {content : Text}
    (nested : isNested '{' '}' depth content = true) (rest : Text) :
    bracedText? (depth + 1) (content ++ '}' :: rest) = some (content ++ ['}']) := by
  induction content generalizing depth with
  | nil =>
      obtain rfl : depth = 0 := by simpa [isNested] using nested
      rfl
  | cons c content ih =>
      obtain ⟨next, nestedNext, step⟩ := exists_depth_of_isNested nested
      have later := ih nestedNext
      rw [List.cons_append, bracedText?]
      rcases step with ⟨rfl, rfl⟩ | ⟨noOpening, rfl, rfl⟩ | ⟨noOpening, noClosing, rfl⟩
      · simp [later]
      · simp [later]
      · simp [noOpening, noClosing, later]

/-- Inside brackets the scanner for names does not stop, and behind them it does. -/
lemma nameToken?_bracketed {depth : Nat} {content rest : Text}
    (nested : isNested '[' ']' depth content = true) (ends : EndsPart rest) :
    nameToken? (depth + 1 : Nat) (content ++ ']' :: rest) = some (content ++ [']']) := by
  induction content generalizing depth with
  | nil =>
      obtain rfl : depth = 0 := by simpa [isNested] using nested
      rcases ends with rfl | blank
      · rfl
      · simp [nameToken?, blank]
  | cons c content ih =>
      obtain ⟨next, nestedNext, step⟩ := exists_depth_of_isNested nested
      have later := ih nestedNext
      have inside : ((next + 1 : Nat) : Int) ≠ 0 := by omega
      rw [List.cons_append, nameToken?]
      have shifted : (if c = '[' then ((depth + 1 : Nat) : Int) + 1
          else if c = ']' then ((depth + 1 : Nat) : Int) - 1 else ((depth + 1 : Nat) : Int)) =
            ((next + 1 : Nat) : Int) := by
        rcases step with ⟨rfl, rfl⟩ | ⟨noOpening, rfl, rfl⟩ | ⟨noOpening, noClosing, rfl⟩
        · simp
        · simp
        · simp [noOpening, noClosing]
      simp only [shifted, later, decide_eq_false inside, Bool.false_and, Bool.false_eq_true,
        if_false, Option.map_some, List.cons_append]

/-- A name in brackets is taken with them if the brackets inside are paired. -/
lemma nameToken?_of_isNested {inner rest : Text} (nested : isNested '[' ']' 0 inner = true)
    (ends : EndsPart rest) :
    nameToken? 0 ('[' :: inner ++ [']'] ++ rest) = some ('[' :: inner ++ [']']) := by
  have later : nameToken? 1 (inner ++ ']' :: rest) = some (inner ++ [']']) :=
    nameToken?_bracketed nested ends
  simp [nameToken?, later]

/-- Outside brackets the scanner for names stops at the first blank. -/
lemma nameToken?_plain {name rest : Text} (notEmpty : name ≠ [])
    (solid : ∀ c ∈ name, isBlank c = false ∧ c ≠ '[' ∧ c ≠ ']') (ends : EndsPart rest) :
    nameToken? 0 (name ++ rest) = some name := by
  induction name with
  | nil => exact absurd rfl notEmpty
  | cons c name ih =>
      obtain ⟨⟨-, noOpening, noClosing⟩, solidRest⟩ := List.forall_mem_cons.mp solid
      rw [List.cons_append, nameToken?]
      simp only [if_neg noOpening, if_neg noClosing]
      cases name with
      | nil =>
          rcases ends with rfl | blank
          · rfl
          · simp [blank]
      | cons d name =>
          have goesOn : startsBlank (d :: name ++ rest) = false := (solidRest d (by simp)).1
          rw [goesOn, ih (List.cons_ne_nil d name) solidRest]
          rfl

/-! ## What each parser replies -/

/-- A reply that consumes so many characters, contributes these fields and adds no errors. -/
structure Reply.Yields (reply : Reply) (length : Nat) (fields : Record) : Prop where
  consumed : reply.consumedLength = length
  contributed : ∀ name, reply.contribution? name = Record.get? fields name
  sound : ∀ parser, reply.errors parser = []

lemma Reply.yields_declining : Reply.declining.Yields 0 [] :=
  ⟨rfl, fun _ => rfl, fun _ => rfl⟩

lemma Reply.yields_consuming {text : Text} {fields : Record}
    (distinct : Record.ofFields fields = fields) (noErrors : Record.get? fields "errors" = none) :
    (Reply.consuming text fields).Yields text.length fields := by
  refine ⟨rfl, fun name => ?_, fun parser => ?_⟩
  · show Record.get? (Record.ofFields fields) name = _
    rw [distinct]
  · show ((Record.get? fields "errors").bind Value.items?).getD [] = []
    rw [noErrors]
    rfl

lemma takeWhile_append_of_endsPart (text : Text) {rest : Text} (ends : EndsPart rest) :
    (text ++ rest).takeWhile (!isBlank ·) = text.takeWhile (!isBlank ·) := by
  induction text with
  | nil =>
      cases rest with
      | nil => rfl
      | cons c rest =>
          rcases ends with none | blank
          · cases none
          · have blank : isBlank c = true := blank
            simp [blank]
  | cons c text ih =>
      rw [List.cons_append, List.takeWhile_cons, List.takeWhile_cons, ih]

lemma takeWhile_solid_append {solid rest : Text} (isSolid : ∀ c ∈ solid, isBlank c = false)
    (ends : EndsPart rest) : (solid ++ rest).takeWhile (!isBlank ·) = solid := by
  rw [takeWhile_append_of_endsPart solid ends, List.takeWhile_eq_self_iff]
  exact fun c among => by simp [isSolid c among]

lemma readKeyword_append {keyword rest : Text} (notEmpty : keyword ≠ [])
    (solid : ∀ c ∈ keyword, isBlank c = false) (ends : EndsPart rest) :
    readKeyword ('@' :: keyword ++ rest) =
      .consuming ('@' :: keyword) [("tag", .text keyword)] := by
  have taken := takeWhile_solid_append solid ends
  rw [List.cons_append, readKeyword_marked (taken.symm ▸ notEmpty), taken]

lemma yields_readKeyword {keyword rest : Text} (notEmpty : keyword ≠ [])
    (solid : ∀ c ∈ keyword, isBlank c = false) (ends : EndsPart rest) :
    (readKeyword ('@' :: keyword ++ rest)).Yields (keyword.length + 1)
      [("tag", .text keyword)] := by
  rw [readKeyword_append notEmpty solid ends]
  exact Reply.yields_consuming rfl rfl

section ReadType

variable {source rest content : Text} {record : Record} (succeeded : hasFailed record = false)
  (begins : source.dropWhile isPad = '{' :: rest)

include succeeded begins

lemma readType_of_closed (scanned : bracedText? 1 rest = some (content ++ ['}'])) :
    readType source record =
      .consuming (source.takeWhile isPad ++ ('{' :: content ++ ['}']))
        [("type", .text content)] := by
  rw [readType, succeeded, begins]
  simp [bracedText?, scanned]

lemma readType_of_unclosed (scanned : bracedText? 1 rest = none) :
    readType source record = .failed "Invalid `\x7btype\x7d`, unpaired curlies" := by
  rw [readType, succeeded, begins]
  simp [bracedText?, scanned]

end ReadType

lemma yields_readType {record : Record} (succeeded : hasFailed record = false) {content : Text}
    (nested : isNested '{' '}' 0 content = true) (rest : Text) :
    (readType (' ' :: '{' :: content ++ '}' :: rest) record).Yields (content.length + 3)
      [("type", .text content)] := by
  have begins : (' ' :: '{' :: content ++ '}' :: rest).dropWhile isPad =
      '{' :: (content ++ '}' :: rest) := rfl
  have reply : readType (' ' :: '{' :: content ++ '}' :: rest) record =
      .consuming (' ' :: '{' :: (content ++ ['}'])) [("type", .text content)] :=
    readType_of_closed succeeded begins (bracedText?_append nested rest)
  rw [reply]
  have yields : (Reply.consuming (' ' :: '{' :: (content ++ ['}']))
    [("type", .text content)]).Yields _ _ := Reply.yields_consuming rfl rfl
  simpa using yields

lemma readType_eq_declining {record : Record} {source : Text}
    (noBrace : (source.dropWhile isPad).head? ≠ some '{') :
    readType source record = .declining := by
  rw [readType]
  split
  · rfl
  · split
    · next rest shown =>
        rw [shown] at noBrace
        exact absurd rfl noBrace
    · rfl

lemma isPad_eq_false {c : Char} (solid : isBlank c = false) :
    isPad c = false ∧ c ≠ '\r' ∧ c ≠ '\n' := by
  have differs : ∀ blank : Char, isBlank blank = true → c ≠ blank := by
    rintro blank isBlank rfl
    exact Bool.noConfusion (isBlank.symm.trans solid)
  have space := differs ' ' (by decide)
  have tab := differs '\t' (by decide)
  exact ⟨by simp [isPad, space, tab], differs '\r' (by decide), differs '\n' (by decide)⟩

namespace NameToken

variable {token : NameToken}

/-- What a token contributes to a record. -/
def fields (token : NameToken) : Record :=
  ("name", .text token.name) :: ("optional", .bool token.isOptional) ::
    token.default?.toList.map fun fallback => ("default", .text fallback)

lemma exists_text_eq_cons (wellFormed : token.IsWellFormed) :
    ∃ c rest, token.text = c :: rest ∧ isBlank c = false := by
  cases token with
  | plain name =>
      obtain ⟨notEmpty, solid⟩ := wellFormed
      obtain ⟨c, rest, rfl⟩ := List.exists_cons_of_ne_nil notEmpty
      exact ⟨c, rest, rfl, (solid c List.mem_cons_self).1⟩
  | optional name => exact ⟨'[', name ++ [']'], rfl, by decide⟩
  | withDefault name fallback => exact ⟨'[', name ++ '=' :: fallback ++ [']'], rfl, by decide⟩

/-- The brackets of an optional name open and close in pairs. -/
lemma isNested_inner (wellFormed : token.IsWellFormed) (isOptional : token.isOptional = true) :
    isNested '[' ']' 0 token.inner = true := by
  cases token with
  | plain name => cases isOptional
  | optional name => exact wellFormed.1
  | withDefault name fallback => exact wellFormed.1

lemma nameToken?_text (wellFormed : token.IsWellFormed) {rest : Text} (ends : EndsPart rest) :
    nameToken? 0 (token.text ++ rest) = some token.text := by
  by_cases isOptional : token.isOptional = true
  · rw [text, if_pos isOptional]
    exact nameToken?_of_isNested (isNested_inner wellFormed isOptional) ends
  · rw [text, if_neg isOptional]
    cases token with
    | plain name => exact nameToken?_plain wellFormed.1 wellFormed.2 ends
    | optional name => exact absurd rfl isOptional
    | withDefault name fallback => exact absurd rfl isOptional

lemma nameFields_bracketed (inner : Text) :
    nameFields ('[' :: inner ++ [']']) =
      if inner.contains '=' then
        [("name", .text (inner.takeWhile (· != '='))), ("optional", .bool true),
          ("default", .text (unquoted ((inner.dropWhile (· != '=')).drop 1)))]
      else [("name", .text inner), ("optional", .bool true)] := by
  simp only [nameFields, List.cons_append, dropEnding?_append]

lemma nameFields_withDefault {name : Text} (noEquals : '=' ∉ name) (raw : Text) :
    nameFields (withDefault name raw).text = (withDefault name (unquoted raw)).fields := by
  have before : ∀ c ∈ name, (c != '=') = true := by
    intro c among
    simpa using fun same : c = '=' => noEquals (same ▸ among)
  show nameFields ('[' :: (name ++ '=' :: raw) ++ [']']) = _
  rw [nameFields_bracketed, List.takeWhile_append_of_pos before,
    List.dropWhile_append_of_pos before]
  simp [fields, NameToken.name, isOptional, default?]

lemma nameFields_text (wellFormed : token.IsWellFormed) : nameFields token.text = token.fields := by
  cases token with
  | plain name =>
      obtain ⟨notEmpty, solid⟩ := wellFormed
      obtain ⟨c, rest, rfl⟩ := List.exists_cons_of_ne_nil notEmpty
      have noBracket := (solid c List.mem_cons_self).2.1
      show nameFields (c :: rest) = _
      unfold nameFields
      split
      · next same => exact absurd (List.cons.inj same).1 noBracket
      · rfl
  | optional name =>
      have noDefault : name.contains '=' = false := by simpa using wellFormed.2
      show nameFields ('[' :: name ++ [']']) = _
      rw [nameFields_bracketed, noDefault]
      rfl
  | withDefault name fallback =>
      obtain ⟨-, noEquals, noQuote⟩ := wellFormed
      have kept : unquoted fallback = fallback := by
        cases fallback with
        | nil => rfl
        | cons c rest =>
            have noQuote : ¬ (c = '"' ∨ c = '\'') := by simpa using noQuote
            rw [unquoted]
            simp [noQuote]
      rw [nameFields_withDefault noEquals, kept]

end NameToken

/-- No name is read where the line ends. -/
lemma readName_of_endsLine {source : Text} (record : Record)
    (ends : EndsLine (source.dropWhile isPad)) : readName source record = .declining := by
  rw [readName]
  cases left : source.dropWhile isPad with
  | nil => simp
  | cons c rest =>
      have lineEnd : c = '\r' ∨ c = '\n' := by simpa [EndsLine, left] using ends
      simp [lineEnd]

/-- Where the line does not end, what is read is what the scanner takes. -/
lemma readName_eq {source : Text} {record : Record} (succeeded : hasFailed record = false)
    (shown : ¬ EndsLine (source.dropWhile isPad)) :
    readName source record =
      (nameToken? 0 (source.dropWhile isPad)).elim (.failed "Invalid `name`, unpaired brackets")
        fun token => .consuming (source.takeWhile isPad ++ token) (nameFields token) := by
  cases left : source.dropWhile isPad with
  | nil =>
      rw [left] at shown
      exact (shown nofun).elim
  | cons c rest =>
      have noLineEnd : ¬ (c = '\r' ∨ c = '\n') := by simpa [EndsLine, left] using shown
      rw [readName, succeeded, left]
      simp only [Bool.false_eq_true, if_false, Bool.or_eq_true, decide_eq_true_eq, noLineEnd]
      cases nameToken? 0 (c :: rest) <;> rfl

/-- A name is read behind a space as it is scanned. -/
lemma readName_of_scanned {record : Record} (succeeded : hasFailed record = false) {c : Char}
    {others rest : Text} (solid : isBlank c = false)
    (scanned : nameToken? 0 (c :: others ++ rest) = some (c :: others)) :
    readName (' ' :: c :: others ++ rest) record =
      .consuming (' ' :: c :: others) (nameFields (c :: others)) := by
  obtain ⟨noPad, noReturn, noNewline⟩ := isPad_eq_false solid
  have pad : isPad ' ' = true := rfl
  have left : (' ' :: c :: others ++ rest).dropWhile isPad = c :: others ++ rest := by
    simp [pad, noPad]
  have skipped : (' ' :: c :: others ++ rest).takeWhile isPad = [' '] := by simp [pad, noPad]
  have shown : ¬ EndsLine ((' ' :: c :: others ++ rest).dropWhile isPad) := by
    rw [left]
    exact not_endsLine_cons noReturn noNewline
  rw [readName_eq succeeded shown, left, skipped, scanned]
  rfl

lemma yields_readName {record : Record} (succeeded : hasFailed record = false) {token : NameToken}
    (wellFormed : token.IsWellFormed) {rest : Text} (ends : EndsPart rest) :
    (readName (' ' :: token.text ++ rest) record).Yields (token.text.length + 1)
      token.fields := by
  obtain ⟨c, others, letters, solid⟩ := token.exists_text_eq_cons wellFormed
  have scanned := token.nameToken?_text wellFormed ends
  have reply : readName (' ' :: token.text ++ rest) record =
      .consuming (' ' :: token.text) (nameFields token.text) := by
    rw [letters] at scanned ⊢
    exact readName_of_scanned succeeded solid scanned
  have noErrors : Record.get? token.fields "errors" = none ∧
      Record.ofFields token.fields = token.fields := by
    cases token <;> exact ⟨rfl, rfl⟩
  rw [reply, token.nameFields_text wellFormed]
  have yields : (Reply.consuming (' ' :: token.text) token.fields).Yields _ _ :=
    Reply.yields_consuming noErrors.2 noErrors.1
  simpa using yields

lemma yields_readDescription {record : Record} (succeeded : hasFailed record = false) {blank : Char}
    (isBlank : Text.isBlank blank = true) {description : Text}
    (solid : ∀ c ∈ description.head?, Text.isBlank c = false) :
    (readDescription (blank :: description) record).Yields (description.length + 1)
      [("description", .text description)] := by
  have shown : trimStart (blank :: description) = description := by
    rw [trimStart_cons_of_blank isBlank]
    cases description with
    | nil => rfl
    | cons c rest => exact trimStart_cons_of_not_blank (solid c rfl) rest
  have reply : readDescription (blank :: description) record =
      .consuming (blank :: description) [("description", .text description)] := by
    rw [readDescription, succeeded, shown]
    simp [startsBlank, isBlank]
  rw [reply]
  exact Reply.yields_consuming rfl rfl

/-! ## What the parts contribute -/

/-- What a type that may be absent contributes. -/
def typeFields (type : Option Text) : Record :=
  type.elim [] fun content => [("type", .text content)]

lemma get?_typeFields (type : Option Text) (field : String) :
    Record.get? (typeFields type) field = if field = "type" then type.map .text else none := by
  cases type <;> simp [typeFields, Record.get?_cons]

/-- What a name that may be absent contributes. -/
def tokenFields (token : Option NameToken) : Record := token.elim [] NameToken.fields

lemma get?_tokenFields (token : Option NameToken) (field : String) :
    Record.get? (tokenFields token) field =
      if field = "name" then token.map (.text ·.name)
      else if field = "optional" then token.map (.bool ·.isOptional)
      else if field = "default" then (token.bind NameToken.default?).map .text
      else none := by
  cases token with
  | none => simp [tokenFields]
  | some token =>
      cases token <;> simp [tokenFields, NameToken.fields, NameToken.default?, Record.get?_cons]

/-- What a description that is read from `source` contributes: nothing where nothing is left. -/
def descriptionFields (source description : Text) : Record :=
  if source = [] then [] else [("description", .text description)]

lemma get?_descriptionFields (source description : Text) (field : String) :
    Record.get? (descriptionFields source description) field =
      if field = "description" ∧ source ≠ [] then some (.text description) else none := by
  cases source <;> simp [descriptionFields, Record.get?_cons]

/-! ## The run over a spelling -/

/-- Calls that have left this rest of a text, and that have added no errors. -/
structure Leaves (source : Text) (calls : List Call) (rest : Text) : Prop where
  remaining : source.drop (consumedBy calls) = rest
  sound : gatheredErrors calls = []

/-- A call takes off the part that it reads. -/
lemma Leaves.step {source part rest : Text} {calls : List Call} {call : Call} {fields : Record}
    (leaves : Leaves source calls (part ++ rest)) (yields : call.reply.Yields part.length fields) :
    Leaves source (calls ++ [call]) rest where
  remaining := by
    rw [consumedBy_concat, ← List.drop_drop, leaves.remaining, yields.consumed, List.drop_left]
  sound := by rw [gatheredErrors_concat, leaves.sound, yields.sound, List.append_nil]

namespace TagSpelling

variable (spelling : TagSpelling)

/-- The type as it is spelled, with the blank in front of it. -/
def typePart : Text := spelling.type.elim [] fun content => ' ' :: '{' :: content ++ ['}']

/-- The name as it is spelled, with the blank in front of it. -/
def namePart : Text := spelling.token.elim [] fun token => ' ' :: token.text

lemma endsPart_descriptionText : EndsPart spelling.descriptionText := by
  rw [descriptionText]
  split
  · exact .inl rfl
  · right
    split <;> rfl

lemma endsPart_nameText : EndsPart spelling.nameText := by
  rw [nameText]
  cases spelling.token with
  | none => exact spelling.endsPart_descriptionText
  | some token => exact .inr rfl

lemma endsPart_typeText : EndsPart spelling.typeText := by
  rw [typeText]
  cases spelling.type with
  | none => exact spelling.endsPart_nameText
  | some content => exact .inr rfl

/-- Without a name, the line ends in front of the description. -/
lemma endsLine_of_unnamed (unnamed : spelling.token = none) :
    EndsLine (spelling.descriptionText.dropWhile isPad) := by
  intro c first
  rw [descriptionText, unnamed] at first
  split at first
  · cases first
  · exact .inr (Option.some.inj first).symm

lemma yields_type {record : Record} (succeeded : hasFailed record = false) :
    (readType spelling.typeText record).Yields spelling.typePart.length
      (typeFields spelling.type) := by
  cases written : spelling.type with
  | some content =>
      have yields := yields_readType succeeded (spelling.type_nested content (by simp [written]))
        spelling.nameText
      simpa [typeText, typePart, typeFields, written] using yields
  | none =>
      have noBrace : (spelling.typeText.dropWhile isPad).head? ≠ some '{' := by
        rw [typeText, written, nameText]
        cases named : spelling.token with
        | some token =>
            obtain ⟨c, rest, letters, solid⟩ :=
              token.exists_text_eq_cons (spelling.token_wellFormed token (by simp [named]))
            have noType := spelling.token_not_type written token (by simp [named])
            rw [letters] at noType
            have pad : isPad ' ' = true := rfl
            simpa [letters, pad, (isPad_eq_false solid).1] using noType
        | none =>
            intro brace
            have lineEnd := spelling.endsLine_of_unnamed named '{' brace
            revert lineEnd
            decide
      rw [readType_eq_declining noBrace, typePart, typeFields, written]
      exact Reply.yields_declining

lemma yields_name {record : Record} (succeeded : hasFailed record = false) :
    (readName spelling.nameText record).Yields spelling.namePart.length
      (tokenFields spelling.token) := by
  cases named : spelling.token with
  | some token =>
      have yields := yields_readName succeeded
        (spelling.token_wellFormed token (by simp [named])) spelling.endsPart_descriptionText
      simpa [nameText, namePart, tokenFields, named] using yields
  | none =>
      have source : spelling.nameText = spelling.descriptionText := by rw [nameText, named]; rfl
      rw [source, readName_of_endsLine record (spelling.endsLine_of_unnamed named), namePart,
        tokenFields, named]
      exact Reply.yields_declining

lemma yields_description {record : Record} (succeeded : hasFailed record = false) :
    (readDescription spelling.descriptionText record).Yields spelling.descriptionText.length
      (descriptionFields spelling.description spelling.description) := by
  cases described : spelling.description with
  | nil =>
      have reply : readDescription spelling.descriptionText record = .declining := by
        rw [descriptionText, described, readDescription, succeeded]
        rfl
      rw [reply, descriptionText, descriptionFields, described]
      exact Reply.yields_declining
  | cons c rest =>
      have isBlank : Text.isBlank (if spelling.token.isSome then ' ' else '\n') = true := by
        split <;> decide
      have yields := yields_readDescription succeeded isBlank spelling.description_solid
      simpa [descriptionText, descriptionFields, described] using yields

/-- **The calls take the spelling apart**: each takes off its part and contributes it. -/
lemma contributions {record : Record} {first second third fourth : Call}
    (run : StandardRun spelling.text record first second third fourth) :
    gatheredErrors [first, second, third, fourth] = [] ∧
      ∀ field, lastContribution? [first, second, third, fourth] field =
        (Record.get? (descriptionFields spelling.description spelling.description) field).or
          ((Record.get? (tokenFields spelling.token) field).or
            ((Record.get? (typeFields spelling.type) field).or
              (Record.get? [("tag", .text spelling.keyword)] field))) := by
  have keyword : first.reply.Yields (spelling.keyword.length + 1)
      [("tag", .text spelling.keyword)] := by
    rw [run.keyword]
    exact yields_readKeyword spelling.keyword_ne_nil spelling.keyword_solid
      spelling.endsPart_typeText
  have start : Leaves spelling.text [] ('@' :: spelling.keyword ++ spelling.typeText) := ⟨rfl, rfl⟩
  have afterKeyword : Leaves spelling.text [first] spelling.typeText := start.step keyword
  have type : second.reply.Yields spelling.typePart.length (typeFields spelling.type) := by
    rw [run.type, afterKeyword.remaining]
    exact spelling.yields_type
      (Bool.eq_false_iff.mpr fun failed => run.typeDeclines.mp failed afterKeyword.sound)
  have afterType : Leaves spelling.text [first, second] spelling.nameText := afterKeyword.step type
  have name : third.reply.Yields spelling.namePart.length (tokenFields spelling.token) := by
    rw [run.name, afterType.remaining]
    exact spelling.yields_name
      (Bool.eq_false_iff.mpr fun failed => run.nameDeclines.mp failed afterType.sound)
  have afterName : Leaves spelling.text [first, second, third] spelling.descriptionText :=
    afterType.step name
  have description : fourth.reply.Yields spelling.descriptionText.length
      (descriptionFields spelling.description spelling.description) := by
    rw [run.description, afterName.remaining]
    exact spelling.yields_description
      (Bool.eq_false_iff.mpr fun failed => run.descriptionDeclines.mp failed afterName.sound)
  have whole : Leaves spelling.text [first, second, third] (spelling.descriptionText ++ []) := by
    rwa [List.append_nil]
  refine ⟨(whole.step description).sound, fun field => ?_⟩
  rw [StandardRun.lastContribution?_eq, description.contributed, name.contributed,
    type.contributed, keyword.contributed]

end TagSpelling

/-- **A spelled tag reads back.**  Whatever the keyword, the type, the name and the description of a
tag are, if the parts can be told from each other, the standard parsers read them from its spelling,
with a default exactly where one is spelled, and without errors. -/
theorem spelled_tag_reads_back (ν : Type) (spelling : TagSpelling) :
    ∃ record, (parseTag spelling.text parsers : Report ν (Option Record)).outcome =
      .ok (some record) ∧ spelling.ReadsBack record := by
  obtain ⟨record, first, second, third, fourth, parsed, run⟩ :=
    exists_standardRun ν (spelling.keyword ++ spelling.typeText)
  obtain ⟨sound, contributed⟩ := spelling.contributions run
  simp only [get?_typeFields, get?_tokenFields, get?_descriptionFields] at contributed
  have isText : ∀ field ∈ textFields, Record.get? record field =
      (lastContribution? [first, second, third, fourth] field).or (some (.text [])) := by
    intro field among
    have other : field ≠ "errors" ∧ field ≠ "optional" := by
      rw [← not_or]
      rintro (rfl | rfl) <;> revert among <;> decide
    rw [run.concludes.field field other.1 other.2, if_pos among]
  refine ⟨record, parsed, ?_, ?_, ?_, ?_, ?_, ?_, ?_⟩
  · rw [isText "tag" (by decide), contributed]
    simp [Record.get?_cons]
  · rw [isText "type" (by decide), contributed]
    cases spelling.type <;> simp [Record.get?_cons]
  · rw [isText "name" (by decide), contributed]
    cases spelling.token <;> simp [Record.get?_cons]
  · rw [run.concludes.optional, contributed]
    cases spelling.token <;> simp [Record.get?_cons, Value.isTruthy]
  · rw [run.concludes.field "default" (by decide) (by decide), contributed,
      if_neg (show "default" ∉ textFields by decide)]
    simp [Record.get?_cons]
  · rw [isText "description" (by decide), contributed]
    cases spelling.description <;> simp [Record.get?_cons]
  · rw [run.concludes.errors, sound]

/-- A tag with brackets and line ends in all parts that may have them. -/
def intricateTag : TagSpelling where
  keyword := "@\x7b*/".toList
  type := some "a\x7b\n\x7d|\x7bb \x7b\x7d\x7d]".toList
  token := some (.withDefault "x[\ty]".toList "[=]\x7b \"".toList)
  description := "\x7bd\x7d [\n = ".toList
  keyword_ne_nil := by decide
  keyword_solid := by simpa using (by decide : "@\x7b*/".toList.all (!isBlank ·) = true)
  type_nested := by decide
  token_wellFormed := by decide
  token_not_type := nofun
  description_solid := by
    rintro c isFirst
    obtain rfl : '{' = c := by simpa using isFirst
    decide

theorem intricate_tag_reads_back :
    ∃ record, (parseTag ("@@\x7b*/ \x7ba\x7b\n\x7d|\x7bb \x7b\x7d\x7d]\x7d [x[\ty]=[=]\x7b \"] " ++
        "\x7bd\x7d [\n = ").toList parsers : Report Nat (Option Record)).outcome =
          .ok (some record) ∧
      Record.get? record "default" = some (.ofString "[=]\x7b \"") ∧
      Record.get? record "description" = some (.ofString "\x7bd\x7d [\n = ") ∧
      Record.get? record "errors" = some (.list []) := by
  obtain ⟨record, parsed, back⟩ := spelled_tag_reads_back Nat intricateTag
  exact ⟨record, parsed, back.fallback, back.description, back.errors⟩

end DocComment
