import DocComment.Proofs.Handouts
import DocComment.Proofs.WrittenTags

/-!
# Tag parsers that keep to their fields

The keyword, the type, the name and the description of a tag are texts, and its errors are a list
of texts.  A tag parser keeps to that (`TagParser.IsTyped`) if it fails, declines, or contributes
nothing else under these names; what it contributes under other names is free, and so are the edits
that it makes to its copy of the record.  A run of such parsers never ends in a fault, and every tag
that it comes to has all its fields, of the right kinds (`exists_parseTag_of_isTyped`).

The record is typed at every step of a run.  The step that takes an argument is the handing out
(`TypedRecord.handOut`): edits of a copy reach the record at home only below its lists and records,
and below a list of texts there is nothing to change.
-/

namespace DocComment

/-! ## Typed records -/

/-- The fields of a tag that hold texts. -/
def textFields : List String := ["tag", "type", "name", "description"]

/-- What a field may hold, by its name. -/
structure FitsField (name : String) (value : Value) : Prop where
  text : name ∈ textFields → ∃ content, value = .text content
  messages : name = "errors" → ∃ messages : List Text, value = .list (messages.map .text)

/-- Fields each of which holds what its name asks for. -/
def TypedFields (fields : Record) : Prop :=
  ∀ name value, (name, value) ∈ fields → FitsField name value

/-- A record as a run of parsers keeps it: its fields are typed and no name comes twice. -/
structure TypedRecord (record : Record) : Prop where
  typed : TypedFields record
  distinct : (record.map (·.1)).Nodup

lemma FitsField.ofText {name : String} (isText : name ∈ textFields) (content : Text) :
    FitsField name (.text content) where
  text _ := ⟨content, rfl⟩
  messages same := by
    subst same
    simp [textFields] at isText

lemma FitsField.ofMessages (messages : List Text) :
    FitsField "errors" (.list (messages.map .text)) where
  text isText := by simp [textFields] at isText
  messages _ := ⟨messages, rfl⟩

lemma FitsField.free {name : String} (notText : name ∉ textFields) (notErrors : name ≠ "errors")
    (value : Value) : FitsField name value where
  text isText := (notText isText).elim
  messages same := (notErrors same).elim

lemma TypedRecord.nil : TypedRecord [] where
  typed _ _ found := by simp at found
  distinct := List.nodup_nil

lemma TypedRecord.set {record : Record} (typed : TypedRecord record) {name : String} {value : Value}
    (fits : FitsField name value) : TypedRecord (Record.set record name value) where
  typed other found isField := by
    rcases Record.mem_set isField with ⟨rfl, rfl⟩ | old
    · exact fits
    · exact typed.typed other found old
  distinct := Record.nodup_set typed.distinct name value

lemma TypedRecord.update {record : Record} (typed : TypedRecord record) {fields : Record}
    (typedFields : TypedFields fields) : TypedRecord (Record.update record fields) := by
  induction fields generalizing record with
  | nil => exact typed
  | cons field rest ih =>
      exact ih (typed.set (typedFields field.1 field.2 (by simp)))
        fun name value later => typedFields name value (List.mem_cons_of_mem _ later)

/-! ## Handing out a typed record -/

section Handout

variable {home : Record}

/-- What is shared of a field whose kind is fixed has nothing in it to be changed. -/
lemma TypedRecord.isScalar_read (typed : TypedRecord home) {name : String}
    (fixed : name ∈ textFields ∨ name = "errors") (place : Place) :
    (Handout.read home (.shared name place)).IsScalar := by
  have read : Handout.read home (.shared name place) =
      ((Record.getD home name .null).part (Handout.Place.key place)).toOption.getD .null := rfl
  rw [read]
  cases found : (Record.getD home name .null).part (Handout.Place.key place) with
  | error failure => exact .inl rfl
  | ok inner =>
      cases present : Record.get? home name with
      | none => simp [Record.getD, present, Value.part] at found
      | some value =>
          have fits := typed.typed name value (Record.mem_of_get? present)
          rw [Record.getD, present, Option.getD_some] at found
          rcases fixed with isText | rfl
          · obtain ⟨content, rfl⟩ := fits.text isText
            have scalar : (Value.text content).IsScalar := .inr ⟨content, rfl⟩
            exact scalar.part found
          · obtain ⟨messages, rfl⟩ := fits.messages rfl
            obtain ⟨index, -, made⟩ := bind_eq_ok_iff.mp found
            cases made
            show Value.IsScalar ((messages.map Value.text)[index]?.getD .null)
            rw [List.getElem?_map]
            cases messages[index]? with
            | none => exact .inl rfl
            | some content => exact .inr ⟨content, rfl⟩

/-- A change inside a cell reaches the record at home only under names whose kind is free. -/
lemma TypedRecord.changeCell (typed : TypedRecord home) {cell : Cell} {path : List Value}
    {change : Change} {result : Record × Cell}
    (changed : Handout.changeCell home cell path change = .ok result) :
    TypedRecord result.1 := by
  obtain ⟨value, inside, made⟩ := bind_eq_ok_iff.mp changed
  cases made
  cases cell with
  | own value => exact typed
  | shared name place =>
      by_cases fixed : name ∈ textFields ∨ name = "errors"
      · obtain ⟨failure, failed⟩ :=
          (typed.isScalar_read fixed place).exists_changedAt_eq_error change path
        rw [failed] at inside
        cases inside
      · obtain ⟨notText, notErrors⟩ := not_or.mp fixed
        exact typed.set (.free notText notErrors _)

/-- **Whatever edits are made to its copy, a typed record stays typed.** -/
lemma TypedRecord.handOut (typed : TypedRecord home) (edits : List Edit) :
    TypedRecord (home.handOut edits).1 :=
  Handout.kept_handOut (fun kept changed => kept.changeCell changed) typed edits

end Handout

/-! ## A run of typed parsers -/

/-- A reply that fails, declines, or consumes a text and contributes typed fields. -/
def Reply.IsTyped : Reply → Prop
  | .failed _ => True
  | .value given => given.isTruthy = false ∨
      ∃ text fields, given = .tuple [.text text, .record fields] ∧ TypedFields fields

/-- A parser whose replies are typed. -/
def TagParser.IsTyped (parser : TagParser) : Prop :=
  ∀ source record, (parser.run source record).2.IsTyped

/-- A failed edit stands for a failure, which is typed. -/
lemma Reply.IsTyped.effective {reply : Reply} (isTyped : reply.IsTyped)
    (failedEdit : Option String) : (Progress.effectiveReply reply failedEdit).IsTyped := by
  cases failedEdit with
  | none => exact isTyped
  | some failure => exact trivial

namespace Progress

lemma exists_errorsOf {record : Record} (typed : TypedRecord record) :
    ∃ messages : List Text, errorsOf record = messages.map .text := by
  unfold errorsOf
  cases present : Record.get? record "errors" with
  | none => exact ⟨[], rfl⟩
  | some value =>
      obtain ⟨messages, rfl⟩ :=
        (typed.typed "errors" value (Record.mem_of_get? present)).messages rfl
      exact ⟨messages, rfl⟩

lemma typedRecord_addErrors {record : Record} (typed : TypedRecord record) (more : List Text) :
    TypedRecord (addErrors record (more.map .text)) := by
  obtain ⟨messages, found⟩ := exists_errorsOf typed
  rw [addErrors, found, ← List.map_append]
  exact typed.set (.ofMessages _)

lemma exists_contributedErrors {fields : Record} (typed : TypedFields fields) :
    ∃ messages : List Text, contributedErrors fields = .ok (messages.map .text) := by
  unfold contributedErrors
  cases present : Record.get? fields "errors" with
  | none => exact ⟨[], rfl⟩
  | some value =>
      obtain ⟨messages, rfl⟩ := (typed "errors" value (Record.mem_of_get? present)).messages rfl
      refine ⟨messages, ?_⟩
      cases messages <;> rfl

lemma exists_contribute {record : Record} (typed : TypedRecord record) {fields : Record}
    (typedFields : TypedFields fields) :
    ∃ result, contribute record fields = .ok result ∧ TypedRecord result := by
  obtain ⟨messages, found⟩ := exists_contributedErrors typedFields
  have merged : TypedRecord (Record.update record (Record.erase fields "errors")) :=
    typed.update fun name value kept => typedFields name value (List.mem_filter.mp kept).1
  refine ⟨_, by rw [contribute, found]; rfl, ?_⟩
  split
  · exact merged
  · exact typedRecord_addErrors merged messages

/-- A typed reply is never a fault, and leaves the record typed. -/
lemma exists_absorb (ν : Type) (source : Text) (parser : String) (remaining : Text)
    {record : Record} (typed : TypedRecord record) {reply : Reply} (isTyped : reply.IsTyped) :
    ∃ progress, (absorb source parser remaining record reply : Report ν Progress).outcome =
      .ok progress ∧ TypedRecord progress.record := by
  cases reply with
  | failed message =>
      exact ⟨_, rfl, typedRecord_addErrors typed [(parser ++ ": " ++ message).toList]⟩
  | value value =>
      rcases isTyped with declines | ⟨text, fields, rfl, typedFields⟩
      · refine ⟨⟨remaining, record⟩, ?_, typed⟩
        simp [absorb, Response.ofValue, declines]
      · obtain ⟨result, contributed, typedResult⟩ := exists_contribute typed typedFields
        refine ⟨⟨remaining.drop text.length, result⟩, ?_, typedResult⟩
        simp only [absorb, Response.ofValue_consuming, Report.outcome_ofExcept, contributed]
        rfl

lemma exists_call (ν : Type) (source : Text) (index : Nat) {parser : TagParser}
    (isTyped : parser.IsTyped) {progress : Progress} (typed : TypedRecord progress.record) :
    ∃ result, (call source index parser progress : Report ν Progress).outcome = .ok result ∧
      TypedRecord result.record := by
  have typedHome := typed.handOut (parser.run progress.remaining progress.record).1
  exact exists_absorb ν source parser.name progress.remaining typedHome
    ((isTyped progress.remaining progress.record).effective _)

lemma exists_callAll (ν : Type) (source : Text) {parsers : List TagParser}
    (isTyped : ∀ parser ∈ parsers, parser.IsTyped) (index : Nat) {progress : Progress}
    (typed : TypedRecord progress.record) :
    ∃ result, (callAll source index parsers progress : Report ν Progress).outcome = .ok result ∧
      TypedRecord result.record := by
  induction parsers generalizing index progress with
  | nil => exact ⟨progress, rfl, typed⟩
  | cons parser rest ih =>
      obtain ⟨first, later⟩ := List.forall_mem_cons.mp isTyped
      obtain ⟨next, called, typedNext⟩ := exists_call ν source index first typed
      obtain ⟨result, run, typedResult⟩ := ih later (index + 1) typedNext
      refine ⟨result, ?_, typedResult⟩
      rw [callAll, Report.outcome_bind, called]
      exact run

end Progress

/-! ## The record of a tag -/

/-- A record with all the fields of a tag that the parsers decide, each of its kind. -/
structure CompleteRecord (record : Record) : Prop extends TypedRecord record where
  flag : ∀ value, ("optional", value) ∈ record → ∃ set, value = .bool set
  present : ∀ name ∈ "optional" :: "errors" :: textFields,
    (Record.get? record name).isSome = true

lemma TypedRecord.setIfAbsent {record : Record} (typed : TypedRecord record) {name : String}
    {value : Value} (fits : FitsField name value) :
    TypedRecord (Record.setIfAbsent record name value) := by
  rw [Record.setIfAbsent]
  split
  · exact typed
  · exact typed.set fits

lemma TypedRecord.fillTexts {record : Record} (typed : TypedRecord record) {names : List String}
    (areTexts : ∀ name ∈ names, name ∈ textFields) :
    let filled := names.foldl (fun record name => Record.setIfAbsent record name (.text [])) record
    TypedRecord filled ∧
      (∀ name value, (name, value) ∈ filled → name ∈ textFields ∨ (name, value) ∈ record) ∧
      ∀ name, name ∈ names ∨ (Record.get? record name).isSome = true →
        (Record.get? filled name).isSome = true := by
  induction names generalizing record with
  | nil => exact ⟨typed, fun _ _ => .inr, fun _ present => present.resolve_left (by simp)⟩
  | cons first rest ih =>
      obtain ⟨isText, restTexts⟩ := List.forall_mem_cons.mp areTexts
      obtain ⟨typedFilled, added, kept⟩ := ih (typed.setIfAbsent (.ofText isText [])) restTexts
      refine ⟨typedFilled, fun name value found => ?_, fun name present => kept name ?_⟩
      · rcases added name value found with text | inFirst
        · exact .inl text
        · rcases Record.mem_setIfAbsent inFirst with ⟨rfl, -⟩ | old
          · exact .inl isText
          · exact .inr old
      · rw [List.mem_cons, or_assoc] at present
        rcases present with here | later | known
        · exact .inr (Record.isSome_get?_setIfAbsent (.inl here) _)
        · exact .inl later
        · exact .inr (Record.isSome_get?_setIfAbsent (.inr known) _)

lemma completeRecord_complete {record : Record} (typed : TypedRecord record) :
    CompleteRecord (completeRecord record) := by
  have flagged : TypedRecord (Record.set record "optional"
      (.bool (Record.getD record "optional" .null).isTruthy)) :=
    typed.set (.free (by simp [textFields]) (by simp) _)
  obtain ⟨typedFilled, added, kept⟩ :=
    flagged.fillTexts fun name (isText : name ∈ textFields) => isText
  refine ⟨typedFilled.setIfAbsent (.ofMessages []), fun value found => ?_, fun name known => ?_⟩
  · rcases Record.mem_setIfAbsent found with ⟨same, -⟩ | filled
    · simp at same
    · have here := (added "optional" value filled).resolve_left (by simp [textFields])
      have last := Record.get?_of_mem flagged.distinct here
      rw [Record.get?_set_self, Option.some.injEq] at last
      exact ⟨_, last.symm⟩
  · refine Record.isSome_get?_setIfAbsent ?_ _
    rcases List.mem_cons.mp known with rfl | known
    · exact .inr (kept _ (.inr (by rw [Record.get?_set_self]; rfl)))
    · rcases List.mem_cons.mp known with rfl | isText
      · exact .inl rfl
      · exact .inr (kept name (.inl isText))

/-- **Typed parsers come to a complete record on every text of a tag.** -/
lemma exists_parseTag_of_isTyped (ν : Type) {parsers : List TagParser}
    (isTyped : ∀ parser ∈ parsers, parser.IsTyped) (source : Text) :
    ∃ result, (parseTag source parsers : Report ν (Option Record)).outcome = .ok result ∧
      ∀ record ∈ result, CompleteRecord record := by
  cases source with
  | nil => exact ⟨none, rfl, nofun⟩
  | cons c rest =>
      by_cases marked : c = '@'
      · subst marked
        have typedStart : TypedRecord (Progress.mk ('@' :: rest) []).record := .nil
        obtain ⟨progress, run, typed⟩ :=
          Progress.exists_callAll ν ('@' :: rest) isTyped 0 typedStart
        refine ⟨some (completeRecord progress.record), ?_, ?_⟩
        · rw [parseTag, Report.outcome_bind, run]
          rfl
        · rintro record ⟨⟩
          exact completeRecord_complete typed
      · refine ⟨none, ?_, nofun⟩
        simp [parseTag, marked]

/-! ## Documents that typed parsers read -/

/-- A tag with all the fields that a tag has, each of its kind, and with no field twice. -/
def TagNode.IsComplete {ν : Type} : TagNode ν → Prop
  | .written fields _ _ _ => CompleteRecord fields ∧ ∀ field ∈ fields, field.1 ∉ placeFields
  | .implied tag _ _ _ => ∃ keyword, tag = .text keyword

section Documents

variable {ν : Type}

lemma TagNode.isComplete_ofRecord {record : Record} (complete : CompleteRecord record) (line : ν)
    (source : Text) : (TagNode.ofRecord record line source).IsComplete := by
  have distinct : ((record.filter fun field => !placeFields.contains field.1).map
      (·.1)).Nodup := complete.distinct.sublist (List.filter_sublist.map _)
  have elsewhere : ∀ name ∈ "optional" :: "errors" :: textFields, name ∉ placeFields := by decide
  refine ⟨⟨⟨fun name value found => ?_, distinct⟩, fun value found => ?_, fun name known => ?_⟩, ?_⟩
  · exact complete.typed name value (List.mem_filter.mp found).1
  · exact complete.flag value (List.mem_filter.mp found).1
  · obtain ⟨value, present⟩ := Option.isSome_iff_exists.mp (complete.present name known)
    have kept : (name, value) ∈ record.filter fun field => !placeFields.contains field.1 :=
      List.mem_filter.mpr ⟨Record.mem_of_get? present, by simpa using elsewhere name known⟩
    rw [Record.get?_of_mem distinct kept]
    rfl
  · intro field found
    simpa using (List.mem_filter.mp found).2

lemma TagNode.IsComplete.isNamed {node : TagNode ν} (complete : node.IsComplete) :
    node.IsNamed := by
  cases node with
  | written fields line source tags =>
      have text : ∀ name ∈ textFields,
          ∃ content, Record.getD fields name .null = .text content := by
        intro name isText
        obtain ⟨value, present⟩ := Option.isSome_iff_exists.mp
          (complete.1.present name (by simp [isText]))
        obtain ⟨content, rfl⟩ :=
          (complete.1.typed name value (Record.mem_of_get? present)).text isText
        exact ⟨content, by rw [Record.getD, present]; rfl⟩
      exact ⟨text "name" (by simp [textFields]), text "tag" (by simp [textFields])⟩
  | implied tag name line tags => exact ⟨⟨name, rfl⟩, complete⟩

variable {parsers : List TagParser} (isTyped : ∀ parser ∈ parsers, parser.IsTyped)

include isTyped

lemma exists_writtenTag?_of_isTyped (trimmed : Bool) (passage : Passage ν) :
    ∃ written, writtenTag? trimmed parsers passage = .ok written ∧
      ∀ node ∈ written, node.IsComplete := by
  obtain ⟨result, parsed, complete⟩ :=
    exists_parseTag_of_isTyped ν isTyped (sourceOf trimmed passage.lines)
  refine ⟨_, by rw [writtenTag?, parsed]; rfl, ?_⟩
  intro node found
  obtain ⟨record, isResult, rfl⟩ := Option.map_eq_some_iff.mp found
  exact TagNode.isComplete_ofRecord (complete record isResult) _ _

lemma exists_writtenTags_of_isTyped (trimmed : Bool) (passages : List (Passage ν)) :
    ∃ nodes, writtenTags trimmed parsers passages = .ok nodes ∧
      ∀ node ∈ nodes, node.IsComplete := by
  refine exists_collect fun outcome found => ?_
  obtain ⟨passage, -, rfl⟩ := List.mem_map.mp found
  exact exists_writtenTag?_of_isTyped isTyped trimmed passage

omit isTyped in
/-- Typed parsers come to a block with complete tags on every comment, or to none. -/
lemma exists_parseBlock_of_isTyped {options : Options} (plain : options.dottedNames = false)
    (isTyped : ∀ parser ∈ options.parsers, parser.IsTyped) (lines : List (Line ν)) :
    ∃ found, (parseBlock options lines).outcome = .ok found ∧
      ∀ block ∈ found, ∀ node ∈ block.tags, node.IsComplete := by
  obtain ⟨nodes, written, complete⟩ :=
    exists_writtenTags_of_isTyped isTyped options.trim (tagPassages options.trim lines)
  have parsed : (parseBlock options lines).outcome =
      .ok (blockWith options.trim lines nodes) := by
    rw [outcome_parseBlock, outcome_addPassages_of_not_dottedNames options plain, written]
    rfl
  refine ⟨_, parsed, fun block made => ?_⟩
  rw [Option.mem_def.mp made] at parsed
  have tags := tags_of_parseBlock plain parsed
  rw [written, Except.ok.injEq] at tags
  exact tags ▸ complete

omit isTyped in
/-- **Without nesting, typed parsers read every document**, to blocks with complete tags. -/
lemma exists_parseLines_of_isTyped (options : Options) (plain : options.dottedNames = false)
    (isTyped : ∀ parser ∈ options.parsers, parser.IsTyped) (lines : List Text) :
    ∃ blocks, (parseLines options lines).outcome = .ok blocks ∧
      ∀ block ∈ blocks, ∀ node ∈ block.tags, node.IsComplete := by
  rw [parseLines, outcome_gather_eq_collect]
  refine exists_collect fun outcome found => ?_
  obtain ⟨report, reported, rfl⟩ := List.mem_map.mp found
  obtain ⟨finding, -, rfl⟩ := List.mem_map.mp reported
  cases finding with
  | nothing => exact ⟨none, rfl, nofun⟩
  | abandoned opened given => exact ⟨none, rfl, nofun⟩
  | comment lines => exact exists_parseBlock_of_isTyped plain isTyped lines

end Documents

lemma namesTags_of_isTyped {options : Options}
    (isTyped : ∀ parser ∈ options.parsers, parser.IsTyped) (source : Text) :
    NamesTags options source := by
  obtain ⟨blocks, parsed, complete⟩ := exists_parseLines_of_isTyped
    { options with dottedNames := false } rfl isTyped (Text.pieces '\n' source)
  exact ⟨blocks, parsed, fun block found node isTag => (complete block found node isTag).isNamed⟩

/-! ## The standard parsers -/

lemma TypedFields.nil : TypedFields [] := fun _ _ found => by simp at found

lemma TypedFields.cons {name : String} {value : Value} {fields : Record}
    (fits : FitsField name value) (rest : TypedFields fields) :
    TypedFields ((name, value) :: fields) := by
  intro other found isField
  rcases List.mem_cons.mp isField with here | later
  · cases here
    exact fits
  · exact rest other found later

lemma Reply.IsTyped.consuming {fields : Record} (typed : TypedFields fields) (text : Text) :
    (Reply.consuming text fields).IsTyped :=
  .inr ⟨text, fields, rfl, typed⟩

lemma Reply.IsTyped.declining : Reply.declining.IsTyped := .inl rfl

namespace Builtin

lemma typedFields_text {name : String} (isText : name ∈ textFields) (content : Text) :
    TypedFields [(name, .text content)] :=
  .cons (.ofText isText content) .nil

lemma isTyped_readKeyword (source : Text) : (readKeyword source).IsTyped := by
  unfold readKeyword
  split
  · split
    · exact trivial
    · exact .consuming (typedFields_text (by simp [textFields]) _) _
  · exact trivial

lemma isTyped_readType (source : Text) (record : Record) : (readType source record).IsTyped := by
  unfold readType
  split
  · exact .declining
  · split
    · split
      · exact .consuming (typedFields_text (by simp [textFields]) _) _
      · exact trivial
    · exact .declining

lemma typedFields_nameFields (token : Text) : TypedFields (nameFields token) := by
  have name (content : Text) : FitsField "name" (.text content) :=
    .ofText (by simp [textFields]) content
  have optional (flag : Bool) : FitsField "optional" (.bool flag) :=
    .free (by simp [textFields]) (by simp) _
  have standard (content : Text) : FitsField "default" (.text content) :=
    .free (by simp [textFields]) (by simp) _
  unfold nameFields
  split
  · split
    · split
      · exact .cons (name _) (.cons (optional _) (.cons (standard _) .nil))
      · exact .cons (name _) (.cons (optional _) .nil)
    · exact .cons (name _) (.cons (optional _) .nil)
  · exact .cons (name _) (.cons (optional _) .nil)

lemma isTyped_readName (source : Text) (record : Record) : (readName source record).IsTyped := by
  unfold readName
  split
  · exact .declining
  · split
    · exact .declining
    · split
      · exact .declining
      · split
        · exact .consuming (typedFields_nameFields _) _
        · exact trivial

lemma isTyped_readDescription (source : Text) (record : Record) :
    (readDescription source record).IsTyped := by
  unfold readDescription
  split
  · exact .declining
  · split
    · exact .consuming (typedFields_text (by simp [textFields]) _) _
    · exact .declining

lemma isTyped_parsers : ∀ parser ∈ parsers, parser.IsTyped := by
  intro parser found
  simp only [parsers, List.mem_cons, List.not_mem_nil, or_false] at found
  rcases found with rfl | rfl | rfl | rfl
  · exact fun source _ => isTyped_readKeyword source
  · exact isTyped_readType
  · exact isTyped_readName
  · exact isTyped_readDescription

end Builtin

end DocComment
