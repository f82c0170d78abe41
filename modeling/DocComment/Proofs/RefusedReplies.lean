import DocComment.Proofs.DocumentFaults

/-!
# Which replies are refused

A parser should reply that it does not apply, or with a pair of the text that it consumes and the
fields that it contributes.  Any other value is malformed (`Value.IsMalformed`), and a run that
comes to one should refuse it: the parser that gave it is the last one that is called, and the run
ends in a fault that names it.  A failure of a parser, on the other hand, is recorded, and the run
goes on.  Both are what `Report.StopsAt` says of a run, for a kind of values, and `Report.Refuses`
says besides that the fault is a refusal.

A run stops at the malformed values that count as true.  A malformed value that does not, like zero
or an empty text, is taken for a reply that the parser does not apply; and one that the message of a
refusal cannot show is not refused.  So a run refuses malformed values as it should exactly if it
comes to none of these two kinds (`malformed_replies_are_refused_iff`).

A failure that is recorded stays among the errors: later errors come behind it, and whatever edits a
parser makes to its copy, there is nothing to be changed in a text (`Handout.keptInCells_records`).
-/

namespace DocComment

variable {ν : Type}

/-! ## Malformed replies -/

/-- A pair of a text and a record. -/
def Value.IsPair (value : Value) : Prop :=
  ∃ text fields, value = .tuple [.text text, .record fields]

/-- A value that neither stands for a parser that does not apply nor is a pair. -/
def Value.IsMalformed (value : Value) : Prop := value ≠ .null ∧ ¬ value.IsPair

/-- Values that are malformed and count as true. -/
def Value.IsRefused (value : Value) : Prop := value.IsMalformed ∧ value.isTruthy = true

/-- Values that are malformed but do not count as true. -/
def Value.IsPassedOver (value : Value) : Prop := value.IsMalformed ∧ value.isTruthy = false

/-- Values that are malformed and count as true, but for which a message has no room. -/
def Value.IsUntold (room : Nat) (value : Value) : Prop :=
  value.IsRefused ∧ value.isShowable room = false

/-- Of the malformed values those that count as true are taken for malformed. -/
lemma Response.ofValue_eq_malformed_iff {value other : Value} :
    ofValue value = .malformed other ↔ value = other ∧ value.IsRefused := by
  unfold ofValue
  split
  · next truthy =>
      have present : value ≠ .null := by
        rintro rfl
        cases truthy
      split
      · next text fields =>
          have pair : (Value.tuple [.text text, .record fields]).IsPair := ⟨text, fields, rfl⟩
          simp [Value.IsRefused, Value.IsMalformed, pair]
      · next noPair =>
          have malformed : value.IsMalformed := ⟨present, fun ⟨_, _, pair⟩ => noPair _ _ pair⟩
          simp [Value.IsRefused, malformed, truthy]
  · next falsy => simp [Value.IsRefused, falsy]

/-- The errors that a reply contributes are a list. -/
def Reply.ListsErrors (reply : Reply) : Prop :=
  ∀ errors, reply.contributedErrors? = some errors → ∃ items, errors = .list items

/-- A reply that lists its errors is faulty only by being malformed. -/
lemma Reply.ListsErrors.fault?_eq_some_iff {reply : Reply} (lists : reply.ListsErrors)
    (parser : String) {fault : Fault} :
    reply.fault? parser = some fault ↔
      ∃ value, reply = .value value ∧ value.IsRefused ∧ fault = .malformedReply parser value := by
  cases reply with
  | failed message => simp [fault?]
  | value given =>
      have refused_iff : given.IsRefused ↔ Response.ofValue given = .malformed given := by
        simp [Response.ofValue_eq_malformed_iff]
      simp only [fault?, Reply.value.injEq, exists_eq_left', refused_iff]
      cases response : Response.ofValue given with
      | declined => simp
      | malformed other =>
          obtain ⟨rfl, -⟩ := Response.ofValue_eq_malformed_iff.mp response
          simpa using eq_comm
      | consumed text fields =>
          cases accepted : Progress.contributedErrors fields with
          | ok errors => simp [accepted]
          | error other =>
              obtain ⟨value, contributed, -, noItems, -⟩ :=
                contributedErrors_eq_error_iff.mp accepted
              have inReply : (Reply.value given).contributedErrors? = some value := by
                rw [contributedErrors?, pair?, response]
                exact contributed
              obtain ⟨items, rfl⟩ := lists value inReply
              cases noItems

/-! ## Recorded failures -/

namespace Progress

/-- A message stands among the errors of a record. -/
def Records (message : Text) (record : Record) : Prop := .text message ∈ errorsOf record

lemma records_iff {message : Text} {record : Record} :
    Records message record ↔
      ∃ items, Record.get? record "errors" = some (.list items) ∧ .text message ∈ items := by
  unfold Records errorsOf
  split
  · next items present => simp [present]
  · next noList => simpa using fun items present => (noList items present).elim

end Progress

/-- Which index a key stands for does not depend on what is said of one outside. -/
lemma Value.indexIn_eq_ok {size index : Nat} {outside : String} {key : Value}
    (indexed : indexIn size outside key = .ok index) (other : String) :
    indexIn size other key = .ok index := by
  unfold indexIn at indexed ⊢
  cases number : key.asInt? with
  | none => simp [number] at indexed
  | some n =>
      simp only [number] at indexed ⊢
      generalize (if n < 0 then n + (size : Int) else n) = shifted at indexed ⊢
      split at indexed
      · next within => rwa [if_pos within]
      · cases indexed

/-- A change inside an item of a list leaves the texts in the list, since nothing can be changed in
a text. -/
lemma Value.text_mem_of_changedAt_item {items : List Value} {message : Text}
    (found : .text message ∈ items) {key value : Value} {path : List Value} {change : Change}
    (inside : changedAt change path (((Value.list items).part key).toOption.getD .null) =
      .ok value) :
    ∃ written, ((Value.list items).withPart key value).toOption.getD (.list items) =
      .list written ∧ .text message ∈ written := by
  cases indexed : indexIn items.length "list assignment index out of range" key with
  | error failure =>
      refine ⟨items, ?_, found⟩
      simp only [withPart, indexed]
      rfl
  | ok index =>
      have item : ((Value.list items).part key).toOption.getD .null = items[index]?.getD .null := by
        simp only [part, indexIn_eq_ok indexed]
        rfl
      refine ⟨items.set index value, ?_, ?_⟩
      · simp only [withPart, indexed]
        rfl
      · obtain ⟨place, here⟩ := List.mem_iff_getElem?.mp found
        have elsewhere : index ≠ place := by
          rintro rfl
          have scalar : (Value.text message).IsScalar := .inr ⟨message, rfl⟩
          obtain ⟨failure, failed⟩ := scalar.exists_changedAt_eq_error change path
          rw [item, here, Option.getD_some, failed] at inside
          cases inside
        exact List.mem_iff_getElem?.mpr ⟨place, by rwa [List.getElem?_set_ne elsewhere]⟩

/-- **No edit takes a message away** from the errors of the record at home. -/
lemma Handout.keptInCells_records (message : Text) :
    KeptInCells (Progress.Records message) := by
  intro home cell path change result recorded changed
  obtain ⟨value, inside, made⟩ := bind_eq_ok_iff.mp changed
  cases made
  cases cell with
  | own value => exact recorded
  | shared name place =>
      rw [Progress.records_iff] at recorded ⊢
      by_cases isErrors : name = "errors"
      · subst isErrors
        obtain ⟨items, present, found⟩ := recorded
        have holder : Record.getD home "errors" .null = .list items := by
          rw [Record.getD, present, Option.getD_some]
        rw [read, holder] at inside
        obtain ⟨written, isList, kept⟩ := Value.text_mem_of_changedAt_item found inside
        refine ⟨written, ?_, kept⟩
        rw [write, holder, isList, Record.get?_set_self]
      · have others : Record.get? (write home value (.shared name place)).1 "errors" =
            Record.get? home "errors" := Record.get?_set_of_ne (Ne.symm isErrors) home _
        rwa [others]

namespace Progress

variable {source : Text} {parsers : List TagParser} {progress : Progress}

lemma Absorbs.errorsOf_eq {parser : String} {remaining : Text} {record : Record} {reply : Reply}
    {next : Progress} (absorbs : Absorbs parser remaining record reply next) :
    errorsOf next.record = errorsOf record ++ reply.errors parser := by
  rw [errorsOf, absorbs.errors]
  by_cases silent : reply.errors parser = []
  · rw [if_pos silent, silent, List.append_nil, errorsOf]
  · rw [if_neg silent]

/-- A call keeps the messages that are there, and adds that of its failure. -/
lemma records_call {index : Nat} {parser : TagParser} {next : Progress}
    (called : (call source index parser progress : Report ν Progress).outcome = .ok next) :
    (∀ message, Records message progress.record → Records message next.record) ∧
      ∀ failure, (Call.mk parser progress.remaining progress.record).reply = .failed failure →
        Records (parser.name ++ ": " ++ failure).toList next.record := by
  let made : Call := ⟨parser, progress.remaining, progress.record⟩
  have absorbs : Absorbs parser.name progress.remaining
      (progress.record.handOut (parser.run progress.remaining progress.record).1).1 made.reply
      next := absorbs_of_eq_ok called
  constructor
  · intro message recorded
    rw [Records, absorbs.errorsOf_eq]
    exact List.mem_append_left _ (Handout.kept_handOut (Handout.keptInCells_records message)
      recorded (parser.run progress.remaining progress.record).1)
  · intro failure failed
    rw [Records, absorbs.errorsOf_eq, failed]
    exact List.mem_append_right _ (List.mem_singleton_self _)

/-- **A run records every failure**: it keeps the messages that are there, and adds that of every
call that fails. -/
lemma records_callAll {index : Nat} {rest : List TagParser} (atIndex : parsers.drop index = rest)
    {result : Progress}
    (ran : (callAll source index rest progress : Report ν Progress).outcome = .ok result) :
    (∀ message, Records message progress.record → Records message result.record) ∧
      ∀ made ∈ (callAll source index rest progress : Report ν Progress).calls parsers,
        ∀ failure, made.reply = .failed failure →
          Records (made.parser.name ++ ": " ++ failure).toList result.record := by
  induction rest generalizing index progress with
  | nil =>
      cases ran
      have noCalls : (callAll source index [] result : Report ν Progress).calls parsers = [] := rfl
      exact ⟨fun _ recorded => recorded, by simp [noCalls]⟩
  | cons parser rest ih =>
      obtain ⟨here, atNext⟩ := getElem?_of_drop_eq_cons atIndex
      rw [callAll, Report.outcome_bind, bind_eq_ok_iff] at ran
      obtain ⟨next, called, ran⟩ := ran
      obtain ⟨keepsFirst, recordsFirst⟩ := records_call called
      obtain ⟨keepsRest, recordsRest⟩ := ih atNext ran
      refine ⟨fun message recorded => keepsRest message (keepsFirst message recorded), ?_⟩
      rw [calls_callAll_of_ok here called, List.forall_mem_cons]
      exact ⟨fun failure failed => keepsRest _ (recordsFirst failure failed), recordsRest⟩

end Progress

lemma records_completeRecord {message : Text} {record : Record} :
    Progress.Records message (completeRecord record) ↔ Progress.Records message record := by
  rw [Progress.records_iff, Progress.records_iff, get?_completeRecord, if_pos rfl]
  cases Record.get? record "errors" with
  | none => simp
  | some errors => simp

/-! ## Runs that refuse replies of a kind -/

/-- The parser that is called returns a value of a kind. -/
def Call.Returns (kind : Value → Prop) (call : Call) : Prop :=
  ∃ value, call.reply = .value value ∧ kind value

/-- A run stops at the replies of a kind, and at no others.  If a parser that is called returns a
value of the kind, the first such parser is the last one that is called, and the fault names it and
its value.  If none does, each parser is called in its turn, the run comes to a record, and every
failure of a parser stands among its errors. -/
structure Report.StopsAt (kind : Value → Prop) (parsers : List TagParser)
    (report : Report ν (Option Record)) : Prop where
  stopped : (∃ call ∈ report.calls parsers, call.Returns kind) →
    ∃ earlier last value, report.calls parsers = earlier ++ [last] ∧
      (earlier ++ [last]).map (·.parser) <+: parsers ∧ (∀ call ∈ earlier, ¬ call.Returns kind) ∧
      last.reply = .value value ∧ kind value ∧
      report.outcome = .error (.malformedReply last.parser.name value)
  accepted : (¬ ∃ call ∈ report.calls parsers, call.Returns kind) →
    (report.calls parsers).map (·.parser) = parsers ∧
      ∃ record, report.outcome = .ok (some record) ∧
        ∀ call ∈ report.calls parsers, ∀ failure, call.reply = .failed failure →
          Progress.Records (call.parser.name ++ ": " ++ failure).toList record

/-- The replies of a kind are refused, and no others. -/
structure Report.Refuses (room : Nat) (kind : Value → Prop) (parsers : List TagParser)
    (report : Report ν (Option Record)) : Prop extends report.StopsAt kind parsers where
  refusal : ∀ fault, report.outcome = .error fault → fault.category room = .invalidInput

lemma Report.StopsAt.of_same_returns {kind other : Value → Prop} {parsers : List TagParser}
    {report : Report ν (Option Record)} (stops : report.StopsAt kind parsers)
    (same : ∀ call ∈ report.calls parsers, ∀ value, call.reply = .value value →
      (kind value ↔ other value)) :
    report.StopsAt other parsers := by
  have returns_iff : ∀ call ∈ report.calls parsers, call.Returns kind ↔ call.Returns other := by
    intro call made
    exact exists_congr fun value => and_congr_right (same call made value)
  constructor
  · rintro ⟨call, made, returns⟩
    obtain ⟨earlier, last, value, calls, inOrder, first, reply, ofKind, ended⟩ :=
      stops.stopped ⟨call, made, (returns_iff call made).mpr returns⟩
    refine ⟨earlier, last, value, calls, inOrder, fun before isEarlier => ?_, reply, ?_, ended⟩
    · rw [← returns_iff before (calls ▸ List.mem_append_left _ isEarlier)]
      exact first before isEarlier
    · exact (same last (by simp [calls]) value reply).mp ofKind
  · intro none
    refine stops.accepted fun ⟨call, made, returns⟩ => none ⟨call, made, ?_⟩
    exact (returns_iff call made).mp returns

section Runs

variable (rest : Text) (parsers : List TagParser)

/-- **A run stops at the malformed values that count as true.** -/
lemma stopsAt_parseTag
    (lists : ∀ call ∈ (parseTag ('@' :: rest) parsers : Report ν (Option Record)).calls parsers,
      call.reply.ListsErrors) :
    (parseTag ('@' :: rest) parsers : Report ν (Option Record)).StopsAt Value.IsRefused
      parsers := by
  -- Errors are lists here, so of the faults of a reply there is only that of a malformed one.
  have faulty_iff : ∀ call ∈
      (parseTag ('@' :: rest) parsers : Report ν (Option Record)).calls parsers, ∀ fault,
        call.reply.fault? call.parser.name = some fault ↔
          ∃ value, call.reply = .value value ∧ value.IsRefused ∧
            fault = .malformedReply call.parser.name value :=
    fun call made fault => (lists call made).fault?_eq_some_iff call.parser.name
  rw [calls_parseTag_marked] at faulty_iff
  constructor
  · rintro ⟨call, made, value, reply, refused⟩
    rw [calls_parseTag_marked] at made ⊢
    have ended := (Progress.outcome_callAll_eq_error_iff (ν := ν) List.drop_zero).mpr
      ⟨call, made, (faulty_iff call made _).mpr ⟨value, reply, refused, rfl⟩⟩
    obtain ⟨earlier, last, calls, inOrder, sound, lastFaulty⟩ :=
      (Progress.faults_callAll (ν := ν) ('@' :: rest) List.drop_zero ⟨'@' :: rest, []⟩).2 _ ended
    rw [calls] at faulty_iff
    obtain ⟨given, lastReply, lastRefused, same⟩ :=
      (faulty_iff last (by simp) _).mp lastFaulty
    refine ⟨earlier, last, given, calls, inOrder, ?_, lastReply, lastRefused, ?_⟩
    · rintro before isEarlier ⟨early, earlyReply, earlyRefused⟩
      have faulty := (faulty_iff before (List.mem_append_left _ isEarlier) _).mpr
        ⟨early, earlyReply, earlyRefused, rfl⟩
      rw [sound before isEarlier] at faulty
      cases faulty
    · rw [outcome_parseTag_marked, ended, same]
      rfl
  · intro none
    rw [calls_parseTag_marked] at none ⊢
    cases ran : (Progress.callAll ('@' :: rest) 0 parsers ⟨'@' :: rest, []⟩ :
        Report ν Progress).outcome with
    | error fault =>
        obtain ⟨call, made, faulty⟩ :=
          (Progress.outcome_callAll_eq_error_iff List.drop_zero).mp ran
        obtain ⟨value, reply, refused, -⟩ := (faulty_iff call made _).mp faulty
        exact (none ⟨call, made, value, reply, refused⟩).elim
    | ok progress =>
        obtain ⟨inOrder, -, -⟩ := Progress.after_callAll .start List.drop_zero ran
        obtain ⟨-, records⟩ := Progress.records_callAll List.drop_zero ran
        refine ⟨inOrder, completeRecord progress.record, ?_, fun call made failure failed => ?_⟩
        · rw [outcome_parseTag_marked, ran]
          rfl
        · exact records_completeRecord.mpr (records call made failure failed)

end Runs

namespace Report.StopsAt

variable {kind : Value → Prop} {parsers : List TagParser} {report : Report ν (Option Record)}

/-- A report that stops at the malformed values that count as true stops at all malformed values
exactly if no parser that is called returns one of the others. -/
lemma isMalformed_iff (stops : report.StopsAt Value.IsRefused parsers) :
    report.StopsAt Value.IsMalformed parsers ↔
      ∀ call ∈ report.calls parsers, ¬ call.Returns Value.IsPassedOver := by
  constructor
  · rintro strict call made ⟨value, reply, malformed, falsy⟩
    obtain ⟨earlier, last, bad, calls, -, first, lastReply, -, ended⟩ :=
      strict.stopped ⟨call, made, value, reply, malformed⟩
    have some : ∃ call ∈ report.calls parsers, call.Returns Value.IsRefused := by
      by_contra none
      obtain ⟨-, record, ran, -⟩ := stops.accepted none
      rw [ended] at ran
      cases ran
    -- Both accounts of the run end with its last call, so the value there counts as true.
    obtain ⟨before, other, given, sameCalls, -, -, otherReply, refused, -⟩ := stops.stopped some
    obtain ⟨rfl, sameLast⟩ := List.append_inj' (calls.symm.trans sameCalls) rfl
    cases sameLast
    rw [calls, List.mem_append, List.mem_singleton] at made
    rcases made with isEarlier | rfl
    · exact first call isEarlier ⟨value, reply, malformed⟩
    · rw [reply] at otherReply
      cases otherReply
      rw [refused.2] at falsy
      cases falsy
  · intro none
    refine stops.of_same_returns fun call made value reply => ⟨And.left, fun malformed => ?_⟩
    refine ⟨malformed, ?_⟩
    by_contra falsy
    exact none call made ⟨value, reply, malformed, Bool.eq_false_iff.mpr falsy⟩

/-- A report that stops at the values of a kind refuses them exactly if each of them that is
returned can be shown. -/
lemma refuses_iff (room : Nat) (stops : report.StopsAt kind parsers) :
    report.Refuses room kind parsers ↔ ∀ call ∈ report.calls parsers,
      ¬ call.Returns fun value => kind value ∧ value.isShowable room = false := by
  constructor
  · rintro refuses call made ⟨value, reply, ofKind, unshown⟩
    obtain ⟨earlier, last, given, calls, -, first, lastReply, -, ended⟩ :=
      stops.stopped ⟨call, made, value, reply, ofKind⟩
    rw [calls, List.mem_append, List.mem_singleton] at made
    rcases made with isEarlier | rfl
    · exact first call isEarlier ⟨value, reply, ofKind⟩
    · obtain rfl := Reply.value.inj (reply.symm.trans lastReply)
      have refused := refuses.refusal _ ended
      simp [Fault.category, unshown] at refused
  · intro shown
    refine ⟨stops, fun fault ended => ?_⟩
    by_cases some : ∃ call ∈ report.calls parsers, call.Returns kind
    · obtain ⟨earlier, last, value, calls, -, -, reply, ofKind, same⟩ := stops.stopped some
      obtain rfl := Except.error.inj (ended.symm.trans same)
      have isLast : last ∈ report.calls parsers := by simp [calls]
      rw [Fault.category, if_pos]
      by_contra unshown
      exact shown last isLast ⟨value, reply, ofKind, Bool.eq_false_iff.mpr unshown⟩
    · obtain ⟨-, record, ran, -⟩ := stops.accepted some
      rw [ran] at ended
      cases ended

end Report.StopsAt

/-- **Which malformed replies are refused.**  Over the text of a tag let parsers run that contribute
their errors, if any, as lists.  The first parser that is called and returns a malformed value which
counts as true is the last one that is called, and the fault names it; if there is none, the run
comes to a record in which every failure of a parser is recorded.  That fault is a refusal if the
value can be shown.  So all malformed values are refused exactly if no parser that is called returns
one which does not count as true, or one which cannot be shown. -/
theorem malformed_replies_are_refused_iff (room : Nat) (rest : Text) (parsers : List TagParser)
    (lists : ∀ call ∈ (parseTag ('@' :: rest) parsers : Report ν (Option Record)).calls parsers,
      call.reply.ListsErrors) :
    let run : Report ν (Option Record) := parseTag ('@' :: rest) parsers
    run.StopsAt Value.IsRefused parsers ∧
      (run.Refuses room Value.IsRefused parsers ↔
        ∀ call ∈ run.calls parsers, ¬ call.Returns (Value.IsUntold room)) ∧
      (run.Refuses room Value.IsMalformed parsers ↔ ∀ call ∈ run.calls parsers,
        ¬ call.Returns Value.IsPassedOver ∧ ¬ call.Returns (Value.IsUntold room)) := by
  intro run
  have stops : run.StopsAt Value.IsRefused parsers := stopsAt_parseTag rest parsers lists
  refine ⟨stops, stops.refuses_iff room, ⟨fun refuses call made => ?_, fun none => ?_⟩⟩
  · have passedOver := stops.isMalformed_iff.mp refuses.toStopsAt call made
    have shown := (refuses.toStopsAt.refuses_iff room).mp refuses call made
    refine ⟨passedOver, fun ⟨value, reply, refused, unshown⟩ => ?_⟩
    exact shown ⟨value, reply, refused.1, unshown⟩
  · have strict := stops.isMalformed_iff.mpr fun call made => (none call made).1
    refine (strict.refuses_iff room).mpr fun call made ⟨value, reply, malformed, unshown⟩ => ?_
    have truthy : value.isTruthy = true := by
      by_contra falsy
      exact (none call made).1 ⟨value, reply, malformed, Bool.eq_false_iff.mpr falsy⟩
    exact (none call made).2 ⟨value, reply, ⟨malformed, truthy⟩, unshown⟩

/-- The keyword is read, a parser fails, one returns a text alone, and one would apply. -/
def aloneParsers : List TagParser :=
  [Builtin.keyword, Script.toParser ⟨"fails", [], .fails "no"⟩,
    Script.toParser ⟨"alone", [], .gives (.tuple [.ofString "b"])⟩, Builtin.description]

theorem text_alone_is_refused :
    let run : Report Nat (Option Record) := parseTag "@a b".toList aloneParsers
    (∀ call ∈ run.calls aloneParsers, call.reply.ListsErrors) ∧
      run.Refuses Value.usualRoom Value.IsMalformed aloneParsers ∧
      (run.calls aloneParsers).map (·.parser.name) = ["parse_tag", "fails", "alone"] ∧
      run.outcome = .error (.malformedReply "alone" (.tuple [.ofString "b"])) := by
  intro run
  have replies : ∀ call ∈ run.calls aloneParsers, call.reply ∈
      [.consuming "@a".toList [("tag", .ofString "a")], .failed "no",
        .value (.tuple [.ofString "b"])] := fun call made => by
    have listed : (run.calls aloneParsers).map (·.reply) =
        [.consuming "@a".toList [("tag", .ofString "a")], .failed "no",
          .value (.tuple [.ofString "b"])] := rfl
    exact listed ▸ List.mem_map_of_mem made
  have lists : ∀ call ∈ run.calls aloneParsers, call.reply.ListsErrors := by
    intro call made errors contributed
    have known := replies call made
    simp only [List.mem_cons, List.not_mem_nil, or_false] at known
    rcases known with known | known | known <;> rw [known] at contributed <;> cases contributed
  obtain ⟨-, -, strict_iff⟩ :=
    malformed_replies_are_refused_iff Value.usualRoom "a b".toList aloneParsers lists
  refine ⟨lists, strict_iff.mpr fun call made => ?_, rfl, rfl⟩
  have known := replies call made
  simp only [List.mem_cons, List.not_mem_nil, or_false] at known
  constructor
  · rintro ⟨value, reply, malformed, falsy⟩
    rcases known with known | known | known <;> rw [known] at reply <;> cases reply <;> cases falsy
  · rintro ⟨value, reply, refused, unshown⟩
    rcases known with known | known | known <;> rw [known] at reply <;> cases reply <;>
      cases unshown

/-- A parser that returns zero. -/
def returningZero : TagParser := Script.toParser ⟨"zero", [], .gives (.int 0)⟩

theorem zero_is_passed_over :
    let run : Report Nat (Option Record) := parseTag "@a".toList [returningZero]
    (∀ call ∈ run.calls [returningZero], call.reply.ListsErrors) ∧
      ¬ run.StopsAt Value.IsMalformed [returningZero] := by
  intro run
  have calls : run.calls [returningZero] = [⟨returningZero, "@a".toList, []⟩] := rfl
  constructor
  · rw [calls]
    rintro call made errors contributed
    rw [List.mem_singleton.mp made] at contributed
    cases contributed
  · intro stops
    have returns : ∃ call ∈ run.calls [returningZero], call.Returns Value.IsMalformed :=
      ⟨_, List.mem_singleton_self _, .int 0, rfl, nofun, nofun⟩
    obtain ⟨_, _, _, -, -, -, -, -, ended⟩ := stops.stopped returns
    cases ended

end DocComment
