import DocComment.Proofs.ParserRuns
import DocComment.Proofs.TypedParsers

/-!
# What the standard parsers record

The standard parsers run in a row of four calls (`exists_standardRun`).  Each of them declines where
an earlier one has failed, so a tag in which errors are recorded was given up before it had a name
(`StandardRun.name_of_errors`).  What they contribute are texts and flags
(`StandardRun.isSimple`).
-/

namespace DocComment

open Builtin

variable {ν : Type}

/-! ## The four calls -/

/-- The calls of the standard parsers on a text, with what each replies and when it has to decline,
and the record that they conclude in. -/
structure StandardRun (source : Text) (record : Record) (first second third fourth : Call) :
    Prop where
  keyword : first.reply = readKeyword source
  type : second.reply = readType (source.drop (consumedBy [first])) second.record
  name : third.reply = readName (source.drop (consumedBy [first, second])) third.record
  description : fourth.reply =
    readDescription (source.drop (consumedBy [first, second, third])) fourth.record
  typeDeclines : hasFailed second.record = true ↔ gatheredErrors [first] ≠ []
  nameDeclines : hasFailed third.record = true ↔ gatheredErrors [first, second] ≠ []
  descriptionDeclines : hasFailed fourth.record = true ↔ gatheredErrors [first, second, third] ≠ []
  concludes : Concludes [first, second, third, fourth] record

lemma Accumulates.hasFailed_iff {calls : List Call} {record : Record}
    (accumulates : Accumulates calls record) :
    hasFailed record = true ↔ gatheredErrors calls ≠ [] := by
  rw [hasFailed, accumulates.errors]
  by_cases silent : gatheredErrors calls = []
  · simp [silent]
  · simp [silent, Value.isTruthy]

lemma Builtin.keepsRecord {call : Call} (isParser : call.parser ∈ parsers) : call.KeepsRecord := by
  simp only [parsers, List.mem_cons, List.not_mem_nil, or_false] at isParser
  rcases isParser with known | known | known | known <;> rw [Call.KeepsRecord, known] <;> rfl

/-- **The standard parsers conclude every tag**, in four calls, each on what those before it left of
the text. -/
lemma exists_calls_standardRun (ν : Type) (rest : Text) :
    ∃ record first second third fourth,
      (parseTag ('@' :: rest) parsers : Report ν (Option Record)).outcome = .ok (some record) ∧
        (parseTag ('@' :: rest) parsers : Report ν (Option Record)).calls parsers =
          [first, second, third, fourth] ∧
        [first, second, third, fourth].map (·.parser) = parsers ∧
        (∀ earlier call later, [first, second, third, fourth] = earlier ++ call :: later →
          call.remaining = ('@' :: rest).drop (consumedBy earlier)) ∧
        StandardRun ('@' :: rest) record first second third fourth := by
  have typedStart : TypedRecord (Progress.mk ('@' :: rest) []).record := .nil
  obtain ⟨progress, run, -⟩ := Progress.exists_callAll ν ('@' :: rest) isTyped_parsers 0 typedStart
  obtain ⟨inOrder, leads, given⟩ := Progress.after_callAll .start List.drop_zero run
  rw [calls_parseTag_marked]
  generalize (Progress.callAll ('@' :: rest) 0 parsers ⟨'@' :: rest, []⟩ :
    Report ν Progress).calls parsers = calls at inOrder leads given
  have keep : ∀ call ∈ calls, call.KeepsRecord := fun call isMade =>
    keepsRecord (inOrder ▸ List.mem_map_of_mem isMade)
  have remaining : ∀ earlier call later, calls = earlier ++ call :: later →
      call.remaining = ('@' :: rest).drop (consumedBy earlier) :=
    fun earlier call later split => (given earlier call later split).remaining
  have accumulates : ∀ earlier call later, calls = earlier ++ call :: later →
      Accumulates earlier call.record := by
    intro earlier call later split
    refine (given earlier call later split).record fun other found => keep other ?_
    rw [split]
    exact List.mem_append_left _ found
  have concludes := (leads.record keep).concludes
  simp only [parsers, List.map_eq_cons_iff, List.map_eq_nil_iff] at inOrder
  obtain ⟨first, _, rfl, isKeyword, second, _, rfl, isType, third, _, rfl, isName, fourth, _, rfl,
    isDescription, rfl⟩ := inOrder
  refine ⟨completeRecord progress.record, first, second, third, fourth, ?_, rfl, ?_, remaining, ?_,
    ?_, ?_, ?_, (accumulates [first] second _ rfl).hasFailed_iff,
    (accumulates [first, second] third _ rfl).hasFailed_iff,
    (accumulates [first, second, third] fourth _ rfl).hasFailed_iff, concludes⟩
  · rw [outcome_parseTag_marked, run]
    rfl
  · simp only [List.map_cons, List.map_nil, isKeyword, isType, isName, isDescription, parsers]
  · rw [Call.reply, isKeyword, remaining [] first _ rfl]
    rfl
  · rw [Call.reply, isType, remaining [first] second _ rfl]
    rfl
  · rw [Call.reply, isName, remaining [first, second] third _ rfl]
    rfl
  · rw [Call.reply, isDescription, remaining [first, second, third] fourth _ rfl]
    rfl

lemma exists_standardRun (ν : Type) (rest : Text) :
    ∃ record first second third fourth,
      (parseTag ('@' :: rest) parsers : Report ν (Option Record)).outcome = .ok (some record) ∧
        StandardRun ('@' :: rest) record first second third fourth := by
  obtain ⟨record, first, second, third, fourth, parsed, -, -, -, run⟩ :=
    exists_calls_standardRun ν rest
  exact ⟨record, first, second, third, fourth, parsed, run⟩

/-! ## What each call contributes -/

/-- A text or a flag. -/
def Value.IsTextOrFlag (value : Value) : Prop :=
  (∃ content, value = .text content) ∨ ∃ raised, value = .bool raised

/-- A text, a flag or a list of texts. -/
inductive Value.IsSimple : Value → Prop
  | text (content : Text) : IsSimple (.text content)
  | flag (raised : Bool) : IsSimple (.bool raised)
  | messages (messages : List Text) : IsSimple (.list (messages.map .text))

lemma Value.IsTextOrFlag.isSimple {value : Value} (plain : value.IsTextOrFlag) :
    value.IsSimple := by
  rcases plain with ⟨content, rfl⟩ | ⟨raised, rfl⟩
  · exact .text content
  · exact .flag raised

/-- What a standard parser replies: a failure, nothing, or a text with texts and flags in some of
the named fields. -/
inductive Reply.IsPlain (names : List String) : Reply → Prop
  | failed (message : String) : IsPlain names (.failed message)
  | declining : IsPlain names .declining
  | consuming {text : Text} {fields : Record}
      (plain : ∀ field ∈ fields, field.1 ∈ names ∧ field.2.IsTextOrFlag) :
      IsPlain names (.consuming text fields)

namespace Reply.IsPlain

variable {names : List String} {reply : Reply}

lemma contribution (plain : reply.IsPlain names) {name : String} {value : Value}
    (contributes : reply.contribution? name = some value) : name ∈ names ∧ value.IsTextOrFlag := by
  cases plain with
  | failed message => cases contributes
  | declining => cases contributes
  | consuming plain =>
      rcases Record.mem_update (Record.mem_of_get? contributes) with none | found
      · cases none
      · exact plain _ found

lemma contribution?_eq_none (plain : reply.IsPlain names) {name : String} (other : name ∉ names) :
    reply.contribution? name = none :=
  Option.eq_none_iff_forall_ne_some.mpr fun _ found => other (plain.contribution found).1

lemma errors_eq_nil (plain : reply.IsPlain names) (noErrors : "errors" ∉ names)
    (succeeds : ∀ message, reply ≠ .failed message) (parser : String) :
    reply.errors parser = [] := by
  cases plain with
  | failed message => exact absurd rfl (succeeds message)
  | declining => rfl
  | @consuming text fields plain =>
      have absent : Record.get? fields "errors" = none := by
        rw [Option.eq_none_iff_forall_ne_some]
        exact fun value found => noErrors (plain _ (Record.mem_of_get? found)).1
      show ((Record.get? fields "errors").bind Value.items?).getD [] = []
      rw [absent]
      rfl

/-- A single text. -/
lemma single {name : String} {content text : Text} :
    IsPlain [name] (.consuming text [(name, .text content)]) :=
  .consuming (by simp [Value.IsTextOrFlag])

end Reply.IsPlain

namespace Builtin

/-- The keyword is what stands between the marker and the first blank. -/
lemma readKeyword_marked {rest : Text} (notEmpty : rest.takeWhile (!Text.isBlank ·) ≠ []) :
    readKeyword ('@' :: rest) = .consuming ('@' :: rest.takeWhile (!Text.isBlank ·))
      [("tag", .text (rest.takeWhile (!Text.isBlank ·)))] := by
  have marker : Text.isBlank '@' = false := by decide
  have shown : ('@' :: rest).dropWhile Text.isBlank = '@' :: rest := by simp [marker]
  have noPad : ('@' :: rest).takeWhile Text.isBlank = [] := by simp [marker]
  obtain ⟨c, more, keyword⟩ := List.exists_cons_of_ne_nil notEmpty
  rw [readKeyword, shown, noPad]
  simp only [keyword, List.nil_append]

lemma isPlain_readKeyword (source : Text) : (readKeyword source).IsPlain ["tag"] := by
  unfold readKeyword
  split
  · split
    · exact .failed _
    · exact .single
  · exact .failed _

lemma isPlain_readType (source : Text) (record : Record) :
    (readType source record).IsPlain ["type"] := by
  unfold readType
  split
  · exact .declining
  · split
    · split
      · exact .single
      · exact .failed _
    · exact .declining

lemma isPlain_readName (source : Text) (record : Record) :
    (readName source record).IsPlain ["name", "optional", "default"] := by
  have plain : ∀ token, ∀ field ∈ nameFields token,
      field.1 ∈ ["name", "optional", "default"] ∧ field.2.IsTextOrFlag := by
    intro token
    unfold nameFields
    split
    · split
      · split <;> simp [Value.IsTextOrFlag]
      · simp [Value.IsTextOrFlag]
    · simp [Value.IsTextOrFlag]
  unfold readName
  split
  · exact .declining
  · split
    · exact .declining
    · split
      · exact .declining
      · split
        · exact .consuming (plain _)
        · exact .failed _

lemma isPlain_readDescription (source : Text) (record : Record) :
    (readDescription source record).IsPlain ["description"] := by
  unfold readDescription
  split
  · exact .declining
  · split
    · exact .single
    · exact .declining

lemma readDescription_ne_failed (source : Text) (record : Record) (message : String) :
    readDescription source record ≠ .failed message := by
  unfold readDescription
  split
  · exact nofun
  · split <;> exact nofun

end Builtin

/-! ## What is recorded -/

namespace StandardRun

variable {source : Text} {record : Record} {first second third fourth : Call}

lemma lastContribution?_eq (name : String) :
    lastContribution? [first, second, third, fourth] name =
      (fourth.reply.contribution? name).or ((third.reply.contribution? name).or
        ((second.reply.contribution? name).or (first.reply.contribution? name))) := by
  show lastContribution? ([] ++ [first] ++ [second] ++ [third] ++ [fourth]) name = _
  simp only [lastContribution?_concat]
  simp [lastContribution?]

/-- The keyword is recorded whatever the later parsers make of the rest. -/
lemma get?_tag {rest : Text} (run : StandardRun ('@' :: rest) record first second third fourth)
    (notEmpty : rest.takeWhile (!Text.isBlank ·) ≠ []) :
    Record.get? record "tag" = some (.text (rest.takeWhile (!Text.isBlank ·))) := by
  have type := isPlain_readType (('@' :: rest).drop (consumedBy [first])) second.record
  have name := isPlain_readName (('@' :: rest).drop (consumedBy [first, second])) third.record
  have description := isPlain_readDescription
    (('@' :: rest).drop (consumedBy [first, second, third])) fourth.record
  rw [← run.type] at type
  rw [← run.name] at name
  rw [← run.description] at description
  rw [run.concludes.get?_text (by decide), lastContribution?_eq,
    description.contribution?_eq_none (by decide), name.contribution?_eq_none (by decide),
    type.contribution?_eq_none (by decide), run.keyword, readKeyword_marked notEmpty]
  rfl

/-- Where something is contributed to the name, no parser fails. -/
lemma errors_of_name (run : StandardRun source record first second third fourth) {value : Value}
    (named : third.reply.contribution? "name" = some value) :
    gatheredErrors [first, second, third, fourth] = [] := by
  have plain := isPlain_readName (source.drop (consumedBy [first, second])) third.record
  rw [← run.name] at plain
  have goesOn : hasFailed third.record = false := by
    rw [Bool.eq_false_iff]
    intro failed
    rw [run.name, readName, if_pos failed] at named
    cases named
  have before : gatheredErrors [first, second] = [] :=
    Decidable.not_not.mp (mt run.nameDeclines.mpr (Bool.eq_false_iff.mp goesOn))
  have here : third.reply.errors third.parser.name = [] := by
    refine plain.errors_eq_nil (by decide) (fun message failed => ?_) _
    rw [failed] at named
    cases named
  have last : fourth.reply.errors fourth.parser.name = [] := by
    rw [run.description]
    exact (isPlain_readDescription _ _).errors_eq_nil (by decide)
      (readDescription_ne_failed _ _) _
  show gatheredErrors ([first, second] ++ [third] ++ [fourth]) = []
  rw [gatheredErrors_concat, gatheredErrors_concat, before, here, last]
  rfl

/-- What only the parser of the name reads comes from its call. -/
lemma lastContribution?_eq_third (run : StandardRun source record first second third fourth)
    {field : String} (other : field ∉ ["tag", "type", "description"]) :
    lastContribution? [first, second, third, fourth] field = third.reply.contribution? field := by
  have keyword := isPlain_readKeyword source
  have type := isPlain_readType (source.drop (consumedBy [first])) second.record
  have description := isPlain_readDescription (source.drop (consumedBy [first, second, third]))
    fourth.record
  rw [← run.keyword] at keyword
  rw [← run.type] at type
  rw [← run.description] at description
  have outside : field ∉ ["tag"] ∧ field ∉ ["type"] ∧ field ∉ ["description"] := by
    simpa [not_or] using other
  rw [lastContribution?_eq, keyword.contribution?_eq_none outside.1,
    type.contribution?_eq_none outside.2.1, description.contribution?_eq_none outside.2.2,
    Option.none_or, Option.none_or, Option.or_none]

/-- **A tag in which errors are recorded has no name.** -/
lemma name_of_errors (run : StandardRun source record first second third fourth)
    (errors : Record.get? record "errors" ≠ some (.list [])) :
    Record.get? record "name" = some (.text []) := by
  have unnamed : third.reply.contribution? "name" = none := by
    rw [Option.eq_none_iff_forall_ne_some]
    intro value named
    rw [run.concludes.errors, run.errors_of_name named] at errors
    exact errors rfl
  rw [run.concludes.get?_text (by decide), run.lastContribution?_eq_third (by decide), unnamed]
  rfl

/-- Every field that is recorded holds a text, a flag or a list of messages. -/
lemma isSimple (run : StandardRun source record first second third fourth)
    (complete : CompleteRecord record) {name : String} {value : Value}
    (found : (name, value) ∈ record) : value.IsSimple := by
  have recorded := Record.get?_of_mem complete.distinct found
  by_cases isErrors : name = "errors"
  · obtain ⟨messages, rfl⟩ := (complete.typed name value found).messages isErrors
    exact .messages messages
  by_cases isOptional : name = "optional"
  · rw [isOptional, run.concludes.optional] at recorded
    exact Option.some.inj recorded ▸ .flag _
  rw [run.concludes.field name isErrors isOptional, lastContribution?_eq] at recorded
  refine Value.IsTextOrFlag.isSimple ?_
  rcases Option.or_eq_some_iff.mp recorded with contributed | ⟨-, filled⟩
  · rcases Option.or_eq_some_iff.mp contributed with last | ⟨-, contributed⟩
    · rw [run.description] at last
      exact ((isPlain_readDescription _ _).contribution last).2
    · rcases Option.or_eq_some_iff.mp contributed with inName | ⟨-, contributed⟩
      · rw [run.name] at inName
        exact ((isPlain_readName _ _).contribution inName).2
      · rcases Option.or_eq_some_iff.mp contributed with inType | ⟨-, inKeyword⟩
        · rw [run.type] at inType
          exact ((isPlain_readType _ _).contribution inType).2
        · rw [run.keyword] at inKeyword
          exact ((isPlain_readKeyword _).contribution inKeyword).2
  · split at filled
    · exact .inl ⟨[], (Option.some.inj filled).symm⟩
    · cases filled

end StandardRun

end DocComment
