import DocComment.Proofs.TypedParsers
import DocComment.Tag.Script
import Mathlib.Data.List.Induction

/-!
# What a run of parsers comes to

A run keeps an account of what its parsers reply: how far they have consumed the text, what they
contributed under each name, and the errors.  Here the account is described from the replies alone:
the lengths of the consumed texts add up, of the contributions to one field the last stays, and the
errors follow one another.  What a parser does to the copy of the record that it is handed does not
count unless it reaches the record at home (`Call.KeepsRecord`).

One reply changes the account by what it consumes and contributes (`Progress.absorbs_of_eq_ok`), so
the account is kept along a run (`Progress.After.step`, `Progress.after_callAll`), and the record
that a run comes to is the account of all its calls, filled up (`parsers_run_in_turn`).
-/

namespace DocComment

variable {ν : Type}

/-! ## Fields of records that are made of others -/

namespace Record

variable {κ α : Type} [DecidableEq κ]

/-- Of fields that are set one after the other the last of its name is found, and behind them what
was there before. -/
lemma get?_update (record fields : List (κ × α)) (name : κ) :
    get? (update record fields) name = (get? (ofFields fields) name).or (get? record name) := by
  induction fields using List.reverseRecOn with
  | nil => rfl
  | append_singleton rest field ih =>
      simp only [ofFields, update, List.foldl_append, List.foldl_cons, List.foldl_nil, get?_set]
        at ih ⊢
      split
      · rfl
      · exact ih

lemma get?_ofFields_erase (fields : List (κ × α)) (name other : κ) :
    get? (ofFields (erase fields name)) other =
      if other = name then none else get? (ofFields fields) other := by
  induction fields using List.reverseRecOn with
  | nil => simp [erase, ofFields, update]
  | append_singleton rest field ih =>
      simp only [erase, ofFields, update, List.filter_append, List.foldl_append, List.foldl_cons,
        List.foldl_nil, get?_set] at ih ⊢
      by_cases erased : field.1 = name
      · simp only [erased, List.filter_cons, bne_self_eq_false, Bool.false_eq_true, if_false,
          List.filter_nil, List.foldl_nil, ih]
        split <;> rfl
      · have kept : (field.1 != name) = true := by simpa using erased
        simp only [List.filter_cons, kept, if_true, List.filter_nil, List.foldl_cons,
          List.foldl_nil, get?_set, ih]
        by_cases same : other = field.1
        · simp [same, erased]
        · simp [same]

lemma get?_setIfAbsent (record : List (κ × α)) (name other : κ) (value : α) :
    get? (setIfAbsent record name value) other =
      if other = name then some ((get? record name).getD value) else get? record other := by
  rw [setIfAbsent]
  split
  · rename_i present
    obtain ⟨old, found⟩ := Option.isSome_iff_exists.mp present
    split
    · next same => rw [same, found, Option.getD_some]
    · rfl
  · rename_i absent
    rw [get?_set, Option.not_isSome_iff_eq_none.mp absent, Option.getD_none]

lemma get?_foldl_setIfAbsent (record : List (κ × α)) (names : List κ) (value : α) (other : κ) :
    get? (names.foldl (fun record name => setIfAbsent record name value) record) other =
      if other ∈ names then some ((get? record other).getD value) else get? record other := by
  induction names generalizing record with
  | nil => simp
  | cons name rest ih =>
      rw [List.foldl_cons, ih, get?_setIfAbsent]
      by_cases same : other = name
      · simp [same]
      · simp [same]

end Record

/-! ## Replies -/

namespace Reply

/-- The text that a reply consumes and the fields that it contributes, if it is such a pair. -/
def pair? : Reply → Option (Text × Record)
  | .failed _ => none
  | .value given =>
    match Response.ofValue given with
    | .consumed text fields => some (text, fields)
    | .declined | .malformed _ => none

/-- How many characters a reply consumes. -/
def consumedLength (reply : Reply) : Nat := (reply.pair?.map (·.1.length)).getD 0

/-- What a reply contributes to a field. -/
def contribution? (reply : Reply) (name : String) : Option Value :=
  reply.pair?.bind fun pair => Record.get? (Record.ofFields pair.2) name

/-- The value that a reply contributes for the errors. -/
def contributedErrors? (reply : Reply) : Option Value :=
  reply.pair?.bind fun pair => Record.get? pair.2 "errors"

/-- The errors that a reply adds: the failure of the parser, or those that it contributes. -/
def errors (parser : String) : Reply → List Value
  | .failed message => [.text (parser ++ ": " ++ message).toList]
  | .value given => ((Reply.value given).contributedErrors?.bind Value.items?).getD []

end Reply

namespace Progress

/-- What a reply makes of the remaining text and of a record: it takes away what it consumes, its
contribution to a field replaces what was there, and its errors follow those that were there. -/
structure Absorbs (parser : String) (remaining : Text) (record : Record) (reply : Reply)
    (next : Progress) : Prop where
  remaining : next.remaining = remaining.drop reply.consumedLength
  field : ∀ name, name ≠ "errors" →
    Record.get? next.record name = (reply.contribution? name).or (Record.get? record name)
  errors : Record.get? next.record "errors" =
    if reply.errors parser = [] then Record.get? record "errors"
    else some (.list (errorsOf record ++ reply.errors parser))

/-- The errors among fields that are accepted are the items of what stands under that name. -/
lemma eq_items_of_contributedErrors {fields : Record} {errors : List Value}
    (accepted : contributedErrors fields = .ok errors) :
    errors = ((Record.get? fields "errors").bind Value.items?).getD [] := by
  unfold contributedErrors at accepted
  split at accepted
  · next absent =>
      cases accepted
      rw [absent]
      rfl
  · next value present =>
      rw [present, Option.bind_some]
      split at accepted
      · split at accepted
        · next items found =>
            cases accepted
            rw [found]
            rfl
        · cases accepted
      · next silent =>
          cases accepted
          cases value <;> simp_all [Value.isTruthy, Value.items?]

lemma absorbs_contribution {parser : String} {remaining : Text} {record result fields : Record}
    {text : Text} (contributed : contribute record fields = .ok result) :
    Absorbs parser remaining record (.consuming text fields)
      ⟨remaining.drop text.length, result⟩ := by
  obtain ⟨errors, accepted, made⟩ := bind_eq_ok_iff.mp contributed
  cases made
  have isErrors : (Reply.consuming text fields).errors parser = errors :=
    (eq_items_of_contributedErrors accepted).symm
  have merged : ∀ name, Record.get? (Record.update record (Record.erase fields "errors")) name =
      (if name = "errors" then none else Record.get? (Record.ofFields fields) name).or
        (Record.get? record name) := by
    intro name
    rw [Record.get?_update, Record.get?_ofFields_erase]
  refine ⟨rfl, fun name other => ?_, ?_⟩
  · have here := merged name
    rw [if_neg other] at here
    split
    · exact here
    · rw [addErrors, Record.get?_set_of_ne other]
      exact here
  · have here := merged "errors"
    rw [if_pos rfl, Option.none_or] at here
    rw [isErrors]
    cases errors with
    | nil => exact here
    | cons first rest =>
        rw [if_neg (List.cons_ne_nil first rest), List.isEmpty_cons, if_neg Bool.false_ne_true,
          addErrors, Record.get?_set_self, errorsOf, here, errorsOf]

/-- **A reply changes the account by what it consumes and contributes.** -/
lemma absorbs_of_eq_ok {source : Text} {parser : String} {remaining : Text} {record : Record}
    {reply : Reply} {next : Progress}
    (absorbed : (absorb source parser remaining record reply : Report ν Progress).outcome =
      .ok next) :
    Absorbs parser remaining record reply next := by
  cases reply with
  | failed message =>
      cases absorbed
      refine ⟨rfl, fun name other => ?_, ?_⟩
      · exact Record.get?_set_of_ne other record _
      · exact Record.get?_set_self record "errors" _
  | value value =>
      rw [absorb] at absorbed
      cases response : Response.ofValue value with
      | declined =>
          simp only [response, Report.outcome_pure, Except.ok.injEq] at absorbed
          subst absorbed
          have noPair : (Reply.value value).pair? = none := by rw [Reply.pair?, response]
          refine ⟨?_, fun name _ => ?_, ?_⟩
          · rw [Reply.consumedLength, noPair]
            rfl
          · rw [Reply.contribution?, noPair]
            rfl
          · rw [if_pos (by rw [Reply.errors, Reply.contributedErrors?, noPair]; rfl)]
      | malformed reply => simp [response] at absorbed
      | consumed text fields =>
          simp only [response, Report.outcome_ofExcept] at absorbed
          obtain ⟨result, contributed, made⟩ := bind_eq_ok_iff.mp absorbed
          cases made
          -- A value that is taken in has the part of a pair, whatever kind of value it is.
          have asPair : (Reply.value value).pair? = (Reply.consuming text fields).pair? := by
            rw [Reply.pair?, response]
            rfl
          have absorbs : Absorbs parser remaining record (.consuming text fields)
              ⟨remaining.drop text.length, result⟩ := absorbs_contribution contributed
          refine ⟨?_, ?_, ?_⟩
          · rw [Reply.consumedLength, asPair]
            exact absorbs.remaining
          · intro name other
            rw [Reply.contribution?, asPair]
            exact absorbs.field name other
          · rw [Reply.errors, Reply.contributedErrors?, asPair]
            exact absorbs.errors

end Progress

/-! ## Calls in a row -/

/-- A call of a parser: what it is given of the text, and the record of what was contributed so
far. -/
structure Call where
  parser : TagParser
  remaining : Text
  record : Record

namespace Call

/-- What a call comes to: the reply of the parser, or the failure of one of its edits. -/
def reply (call : Call) : Reply :=
  let (edits, reply) := call.parser.run call.remaining call.record
  Progress.effectiveReply reply (call.record.handOut edits).2

/-- The edits of the parser reach its own copy of the record at most. -/
def KeepsRecord (call : Call) : Prop :=
  (call.record.handOut (call.parser.run call.remaining call.record).1).1 = call.record

end Call

/-- How many characters calls consume together. -/
def consumedBy (calls : List Call) : Nat :=
  calls.foldl (fun consumed call => consumed + call.reply.consumedLength) 0

/-- What the last of the calls that contribute to a field contributes. -/
def lastContribution? (calls : List Call) (name : String) : Option Value :=
  calls.reverse.findSome? (·.reply.contribution? name)

/-- The errors that calls add, in their order. -/
def gatheredErrors (calls : List Call) : List Value :=
  calls.flatMap fun call => call.reply.errors call.parser.name

section Account

variable (calls : List Call) (call : Call)

lemma consumedBy_concat : consumedBy (calls ++ [call]) =
    consumedBy calls + call.reply.consumedLength := by
  simp [consumedBy]

lemma lastContribution?_concat (name : String) : lastContribution? (calls ++ [call]) name =
    (call.reply.contribution? name).or (lastContribution? calls name) := by
  rw [lastContribution?, List.reverse_append, List.reverse_singleton, List.singleton_append,
    List.findSome?_cons]
  cases call.reply.contribution? name <;> rfl

variable {calls call}

lemma consumedBy_concat_of_silent (silent : call.reply.pair? = none) :
    consumedBy (calls ++ [call]) = consumedBy calls := by
  rw [consumedBy_concat, Reply.consumedLength, silent]
  rfl

lemma lastContribution?_concat_of_silent (silent : call.reply.pair? = none) (name : String) :
    lastContribution? (calls ++ [call]) name = lastContribution? calls name := by
  rw [lastContribution?_concat, Reply.contribution?, silent]
  rfl

variable (calls call)

lemma gatheredErrors_concat : gatheredErrors (calls ++ [call]) =
    gatheredErrors calls ++ call.reply.errors call.parser.name := by
  simp [gatheredErrors]

end Account

/-- A record that holds what calls contributed and the errors that they added. -/
structure Accumulates (calls : List Call) (record : Record) : Prop where
  field : ∀ name, name ≠ "errors" → Record.get? record name = lastContribution? calls name
  errors : Record.get? record "errors" =
    if gatheredErrors calls = [] then none else some (.list (gatheredErrors calls))

lemma Accumulates.errorsOf_eq {calls : List Call} {record : Record}
    (accumulates : Accumulates calls record) :
    Progress.errorsOf record = gatheredErrors calls := by
  rw [Progress.errorsOf, accumulates.errors]
  split
  · next errors found =>
      split at found
      · cases found
      · cases found
        rfl
  · next noList =>
      split at noList
      · next none => exact none.symm
      · exact (noList _ rfl).elim

/-- What calls on a text lead to: the rest of the text behind what they consume together, and, if
each keeps the record, what they accumulate. -/
structure Progress.After (source : Text) (calls : List Call) (progress : Progress) : Prop where
  remaining : progress.remaining = source.drop (consumedBy calls)
  record : (∀ call ∈ calls, call.KeepsRecord) → Accumulates calls progress.record

namespace Progress

variable {source : Text} {calls : List Call} {progress next : Progress}

lemma After.start : After source [] ⟨source, []⟩ := ⟨rfl, fun _ => ⟨fun _ _ => rfl, rfl⟩⟩

/-- One more call leads on from where the calls before it led to. -/
lemma After.step (after : After source calls progress) {index : Nat} {parser : TagParser}
    (called : (call source index parser progress : Report ν Progress).outcome = .ok next) :
    After source (calls ++ [⟨parser, progress.remaining, progress.record⟩]) next := by
  let made : Call := ⟨parser, progress.remaining, progress.record⟩
  have absorbs : Absorbs parser.name progress.remaining
      (progress.record.handOut (parser.run progress.remaining progress.record).1).1 made.reply
      next := absorbs_of_eq_ok called
  refine ⟨?_, fun keep => ?_⟩
  · rw [absorbs.remaining, consumedBy_concat, ← List.drop_drop, ← after.remaining]
  · obtain ⟨keepBefore, keepsLast⟩ := List.forall_mem_append.mp keep
    have kept : (progress.record.handOut (parser.run progress.remaining progress.record).1).1 =
        progress.record := keepsLast made (List.mem_singleton_self made)
    have before := after.record keepBefore
    rw [kept] at absorbs
    refine ⟨fun name other => ?_, ?_⟩
    · rw [absorbs.field name other, before.field name other, lastContribution?_concat]
    · rw [absorbs.errors, before.errorsOf_eq, gatheredErrors_concat, before.errors]
      by_cases silent : made.reply.errors parser.name = []
      · rw [if_pos silent, silent, List.append_nil]
      · rw [if_neg silent, if_neg (List.append_ne_nil_of_right_ne_nil _ silent)]

end Progress

/-! ## The calls of a run -/

/-- The calls that a report notes, of parsers by their places in a row. -/
def Report.calls {α : Type} (parsers : List TagParser) (report : Report ν α) : List Call :=
  report.notes.filterMap fun note =>
    match note with
    | .called index remaining record => parsers[index]?.map (⟨·, remaining, record⟩)
    | _ => none

section Bind

variable {α β : Type} {report : Report ν α} (parsers : List TagParser) (next : α → Report ν β)

lemma Report.notes_bind_of_ok {a : α} (ok : report.outcome = .ok a) :
    (report >>= next).notes = report.notes ++ (next a).notes := by
  show (andThen report next).notes = _
  rw [andThen, ok]

lemma Report.notes_bind_of_error {fault : Fault} (error : report.outcome = .error fault) :
    (report >>= next).notes = report.notes := by
  show (andThen report next).notes = _
  rw [andThen, error]

lemma Report.calls_bind_of_ok {a : α} (ok : report.outcome = .ok a) :
    (report >>= next).calls parsers = report.calls parsers ++ (next a).calls parsers := by
  rw [calls, notes_bind_of_ok next ok, List.filterMap_append]
  rfl

lemma Report.calls_bind_of_error {fault : Fault} (error : report.outcome = .error fault) :
    (report >>= next).calls parsers = report.calls parsers := by
  rw [calls, notes_bind_of_error next error]
  rfl

end Bind

namespace Progress

variable {source : Text} {progress : Progress} {parsers : List TagParser}

lemma calls_absorb (parsers : List TagParser) (parser : String) (remaining : Text)
    (record : Record) (reply : Reply) :
    (absorb source parser remaining record reply : Report ν Progress).calls parsers = [] := by
  cases reply with
  | failed message => rfl
  | value value =>
      rw [absorb]
      cases Response.ofValue value <;> rfl

lemma calls_call {index : Nat} {parser : TagParser} (here : parsers[index]? = some parser) :
    (call source index parser progress : Report ν Progress).calls parsers =
      [⟨parser, progress.remaining, progress.record⟩] := by
  have noted : (Report.noting [.called index progress.remaining progress.record] () :
      Report ν Unit).calls parsers = [⟨parser, progress.remaining, progress.record⟩] := by
    simp [Report.calls, Report.noting, here]
  refine (Report.calls_bind_of_ok parsers _ rfl).trans ?_
  rw [noted, calls_absorb, List.append_nil]

lemma calls_callAll_of_ok {index : Nat} {parser : TagParser} {rest : List TagParser}
    {next : Progress} (here : parsers[index]? = some parser)
    (called : (call source index parser progress : Report ν Progress).outcome = .ok next) :
    (callAll source index (parser :: rest) progress : Report ν Progress).calls parsers =
      ⟨parser, progress.remaining, progress.record⟩ ::
        (callAll source (index + 1) rest next : Report ν Progress).calls parsers := by
  rw [callAll, Report.calls_bind_of_ok _ _ called, calls_call here, List.singleton_append]

lemma calls_callAll_of_error {index : Nat} {parser : TagParser} {rest : List TagParser}
    {fault : Fault} (here : parsers[index]? = some parser)
    (called : (call source index parser progress : Report ν Progress).outcome = .error fault) :
    (callAll source index (parser :: rest) progress : Report ν Progress).calls parsers =
      [⟨parser, progress.remaining, progress.record⟩] := by
  rw [callAll, Report.calls_bind_of_error _ _ called, calls_call here]

/-- A row from an index on begins with the item at that index, and goes on with the row from the
next index on. -/
lemma getElem?_of_drop_eq_cons {α : Type} {items rest : List α} {index : Nat} {item : α}
    (atIndex : items.drop index = item :: rest) :
    items[index]? = some item ∧ items.drop (index + 1) = rest := by
  constructor
  · rw [← List.head?_drop, atIndex, List.head?_cons]
  · rw [← List.tail_drop, atIndex, List.tail_cons]

/-- **The account is kept along a run.**  A run that comes to a result calls its parsers in order,
each where the calls before it led to, and the result is where all of them lead to. -/
lemma after_callAll {before : List Call} (after : progress.After source before)
    {index : Nat} {rest : List TagParser} (atIndex : parsers.drop index = rest)
    {result : Progress}
    (ran : (callAll source index rest progress : Report ν Progress).outcome = .ok result) :
    let made := (callAll source index rest progress : Report ν Progress).calls parsers
    made.map (·.parser) = rest ∧ result.After source (before ++ made) ∧
      ∀ earlier call later, made = earlier ++ call :: later →
        After source (before ++ earlier) ⟨call.remaining, call.record⟩ := by
  induction rest generalizing index progress before with
  | nil =>
      cases ran
      have noCalls : (callAll source index [] result : Report ν Progress).calls parsers = [] := rfl
      refine ⟨rfl, by rwa [noCalls, List.append_nil], fun earlier call later split => ?_⟩
      rw [noCalls] at split
      cases earlier <;> cases split
  | cons parser rest ih =>
      obtain ⟨here, atNext⟩ := getElem?_of_drop_eq_cons atIndex
      rw [callAll, Report.outcome_bind, bind_eq_ok_iff] at ran
      obtain ⟨next, called, ran⟩ := ran
      obtain ⟨inOrder, leads, given⟩ := ih (after.step called) atNext ran
      rw [calls_callAll_of_ok here called]
      rw [List.append_assoc, List.singleton_append] at leads
      refine ⟨by rw [List.map_cons, inOrder], leads, fun earlier call later split => ?_⟩
      cases earlier with
      | nil =>
          cases split
          rwa [List.append_nil]
      | cons first earlier =>
          obtain ⟨rfl, splitRest⟩ := List.cons_eq_cons.mp split
          simpa only [List.append_assoc, List.singleton_append] using
            given earlier call later splitRest

end Progress

/-! ## The run over the text of a tag -/

section Tag

variable (rest : Text) (parsers : List TagParser)

lemma outcome_parseTag_marked :
    (parseTag ('@' :: rest) parsers : Report ν (Option Record)).outcome =
      (Progress.callAll ('@' :: rest) 0 parsers ⟨'@' :: rest, []⟩ :
        Report ν Progress).outcome.map fun progress => some (completeRecord progress.record) := by
  rw [parseTag, Report.outcome_bind]
  cases (Progress.callAll ('@' :: rest) 0 parsers ⟨'@' :: rest, []⟩ :
    Report ν Progress).outcome <;> rfl

lemma calls_parseTag_marked :
    (parseTag ('@' :: rest) parsers : Report ν (Option Record)).calls parsers =
      (Progress.callAll ('@' :: rest) 0 parsers ⟨'@' :: rest, []⟩ :
        Report ν Progress).calls parsers := by
  rw [parseTag]
  cases outcome : (Progress.callAll ('@' :: rest) 0 parsers ⟨'@' :: rest, []⟩ :
      Report ν Progress).outcome with
  | error fault => exact Report.calls_bind_of_error parsers _ outcome
  | ok progress =>
      rw [Report.calls_bind_of_ok parsers _ outcome]
      exact List.append_nil _

end Tag

/-! ## The record that a run comes to -/

/-- A record that holds what calls contributed to a tag: `optional` as a flag, empty texts where
nothing was contributed to a field of that kind, and all errors. -/
structure Concludes (calls : List Call) (record : Record) : Prop where
  field : ∀ name, name ≠ "errors" → name ≠ "optional" →
    Record.get? record name = (lastContribution? calls name).or
      (if name ∈ textFields then some (.text []) else none)
  optional : Record.get? record "optional" =
    some (.bool ((lastContribution? calls "optional").elim false Value.isTruthy))
  errors : Record.get? record "errors" = some (.list (gatheredErrors calls))

/-- A text is empty if nothing was contributed for it. -/
lemma Concludes.get?_text {calls : List Call} {record : Record} (concludes : Concludes calls record)
    {name : String} (isText : name ∈ textFields) :
    Record.get? record name = (lastContribution? calls name).or (some (.text [])) := by
  have other : name ≠ "errors" ∧ name ≠ "optional" := by
    rw [← not_or]
    rintro (rfl | rfl) <;> revert isText <;> decide
  rw [concludes.field name other.1 other.2, if_pos isText]

lemma get?_completeRecord (record : Record) (name : String) :
    Record.get? (completeRecord record) name =
      if name = "errors" then some ((Record.get? record "errors").getD (.list []))
      else if name = "optional" then
        some (.bool (Record.getD record "optional" .null).isTruthy)
      else (Record.get? record name).or (if name ∈ textFields then some (.text []) else none) := by
  have unfolded : completeRecord record =
      Record.setIfAbsent (textFields.foldl (fun record name => Record.setIfAbsent record name
        (.text [])) (Record.set record "optional"
          (.bool (Record.getD record "optional" .null).isTruthy))) "errors" (.list []) := rfl
  have noText : "errors" ∉ textFields ∧ "optional" ∉ textFields := by decide
  simp only [unfolded, Record.get?_setIfAbsent, Record.get?_foldl_setIfAbsent, Record.get?_set,
    noText.1, if_false]
  split
  · rfl
  · split
    · next isText =>
        have other : name ≠ "optional" := fun same => noText.2 (same ▸ isText)
        rw [if_neg other, if_neg other]
        cases Record.get? record name <;> rfl
    · rw [Option.or_none]

lemma Accumulates.concludes {calls : List Call} {record : Record}
    (accumulates : Accumulates calls record) : Concludes calls (completeRecord record) where
  field name notErrors notOptional := by
    rw [get?_completeRecord, if_neg notErrors, if_neg notOptional,
      accumulates.field name notErrors]
  optional := by
    rw [get?_completeRecord, if_neg (by decide), if_pos rfl, Record.getD,
      accumulates.field "optional" (by decide)]
    cases lastContribution? calls "optional" <;> rfl
  errors := by
    rw [get?_completeRecord, if_pos rfl, accumulates.errors]
    split
    · next silent => rw [silent, Option.getD_none]
    · rfl

/-- **Parsers run in turn.**  A run over the text of a tag that comes to a result calls each parser
once and in order, with the text behind what the parsers before it consumed together.  If no parser
changes the record at home, each is given the record of what those before it contributed, and the
result holds for each field the last contribution to it, and all errors in the order of the
parsers.  A parser that fails or does not apply changes neither the text nor any other field than
the errors. -/
theorem parsers_run_in_turn (rest : Text) (parsers : List TagParser) {result : Option Record}
    (ran : (parseTag ('@' :: rest) parsers : Report ν (Option Record)).outcome = .ok result) :
    let source := '@' :: rest
    let calls := (parseTag source parsers : Report ν (Option Record)).calls parsers
    calls.map (·.parser) = parsers ∧
    (∀ earlier call later, calls = earlier ++ call :: later →
      call.remaining = source.drop (consumedBy earlier)) ∧
    (∀ earlier call next later, calls = earlier ++ call :: next :: later →
      call.reply.pair? = none → next.remaining = call.remaining) ∧
    ((∀ call ∈ calls, call.KeepsRecord) →
      (∀ earlier call later, calls = earlier ++ call :: later → Accumulates earlier call.record) ∧
      (∀ earlier call next later, calls = earlier ++ call :: next :: later →
        call.reply.pair? = none → ∀ name, name ≠ "errors" →
          Record.get? next.record name = Record.get? call.record name) ∧
      ∃ record, result = some record ∧ Concludes calls record) := by
  intro source calls
  rw [parseTag, Report.outcome_bind, bind_eq_ok_iff] at ran
  obtain ⟨progress, run, completed⟩ := ran
  cases completed
  have sameCalls : calls = (Progress.callAll source 0 parsers ⟨source, []⟩ :
      Report ν Progress).calls parsers := by
    show (_ >>= _ : Report ν (Option Record)).calls parsers = _
    rw [Report.calls_bind_of_ok parsers _ run]
    exact List.append_nil _
  obtain ⟨inOrder, leads, given⟩ := Progress.after_callAll .start List.drop_zero run
  rw [← sameCalls] at inOrder leads given
  have following : ∀ {earlier call next later}, calls = earlier ++ call :: next :: later →
      calls = (earlier ++ [call]) ++ next :: later := by
    intro earlier call next later split
    rw [split, List.append_assoc, List.singleton_append]
  have remaining : ∀ earlier call later, calls = earlier ++ call :: later →
      call.remaining = source.drop (consumedBy earlier) :=
    fun earlier call later split => (given earlier call later split).remaining
  refine ⟨inOrder, remaining, fun earlier call next later split silent => ?_, fun keep => ?_⟩
  · rw [remaining _ next later (following split), remaining earlier call _ split,
      consumedBy_concat_of_silent silent]
  · have accumulated : ∀ earlier call later, calls = earlier ++ call :: later →
        Accumulates earlier call.record := by
      intro earlier call later split
      refine (given earlier call later split).record fun other found => keep other ?_
      rw [split]
      exact List.mem_append_left _ found
    refine ⟨accumulated, fun earlier call next later split silent name other => ?_,
      _, rfl, (leads.record keep).concludes⟩
    rw [(accumulated _ next later (following split)).field name other,
      (accumulated earlier call _ split).field name other,
      lastContribution?_concat_of_silent silent]

/-- A parser that reads the keyword, one that fails, one that sets a field of its copy and resets
the errors, one that does not apply, and one that consumes more than there is and contributes
again. -/
def mixedParsers : List TagParser :=
  [Builtin.keyword,
    Script.toParser ⟨"fails", [], .fails "no"⟩,
    Script.toParser ⟨"resets", [⟨[], .put (.ofString "tag") .null⟩],
      .consumes (.characters 2) [("name", .ofString "b"), ("errors", .list [])] none⟩,
    Script.toParser ⟨"idle", [], .declines⟩,
    Script.toParser ⟨"last", [], .consumes (.text "longer".toList)
      [("name", .ofString "c"), ("optional", .int 1), ("errors", .list [.ofString "late"])] none⟩]

theorem mixed_parsers_run_in_turn :
    let calls := (parseTag "@a bc".toList mixedParsers : Report Nat (Option Record)).calls
      mixedParsers
    calls.map (·.parser) = mixedParsers ∧
    calls.map (·.remaining) =
      ["@a bc".toList, " bc".toList, " bc".toList, "c".toList, "c".toList] ∧
    (∀ call ∈ calls, call.KeepsRecord) ∧
    ∃ record, (parseTag "@a bc".toList mixedParsers : Report Nat (Option Record)).outcome =
        .ok (some record) ∧
      Concludes calls record ∧
      Record.get? record "name" = some (.ofString "c") ∧
      Record.get? record "errors" = some (.list [.ofString "fails: no", .ofString "late"]) := by
  intro calls
  have ran : (parseTag "@a bc".toList mixedParsers : Report Nat (Option Record)).outcome =
      .ok (some [("tag", .ofString "a"),
        ("errors", .list [.ofString "fails: no", .ofString "late"]),
        ("name", .ofString "c"), ("optional", .bool true), ("type", .text []),
        ("description", .text [])]) := rfl
  obtain ⟨inOrder, -, -, account⟩ := parsers_run_in_turn "a bc".toList mixedParsers ran
  have keep : ∀ call ∈ calls, call.KeepsRecord := by
    intro call made
    have isParser : call.parser ∈ mixedParsers := inOrder ▸ List.mem_map_of_mem made
    simp only [mixedParsers, List.mem_cons, List.not_mem_nil, or_false] at isParser
    rcases isParser with known | known | known | known | known <;>
      rw [Call.KeepsRecord, known] <;> rfl
  obtain ⟨-, -, record, same, concludes⟩ := account keep
  cases same
  exact ⟨inOrder, rfl, keep, _, ran, concludes, rfl, rfl⟩

end DocComment
