import DocComment.Proofs.ParserRuns

/-!
# What ends a document

Reading a document ends where a tag cannot be taken in.  A reply that is malformed is refused, if
the message of the refusal can show it; and there are replies that are taken in and prove unfit only
when they are used: errors that cannot be gone through, and names that cannot be split at dots when
names nest.  Nothing is refused then, and the fault is one of the operation that fails (`Strays`).

Each function has the fault of the first of its parts that has one: a run over the text of a tag has
that of a reply (`outcome_parseTag_eq_error_iff`), adding passages that of a passage
(`outcome_addPassages_eq_error_iff`), and so a document (`outcome_parse_eq_error_iff`).  Whether a
passage has a fault does not depend on the tags in front of it (`Passage.fault?`), so a document
ends in a refusal, or not at all, exactly if the first of its passages that cannot be added does not
stray (`only_refusals_end_document_iff`).
-/

namespace DocComment

open Text

variable {ν : Type}

/-! ## Faults of a run -/

/-- The fault of a reply that cannot be taken in: one that is malformed, or that contributes errors
that are not there one by one. -/
def Reply.fault? (parser : String) : Reply → Option Fault
  | .failed _ => none
  | .value given =>
    match Response.ofValue given with
    | .declined => none
    | .malformed reply => some (.malformedReply parser reply)
    | .consumed _ fields =>
      match Progress.contributedErrors fields with
      | .ok _ => none
      | .error fault => some fault

namespace Progress

variable {source : Text} {parsers : List TagParser}

lemma outcome_absorb_eq_error_iff {parser : String} {remaining : Text} {record : Record}
    {reply : Reply} {fault : Fault} :
    (absorb source parser remaining record reply : Report ν Progress).outcome = .error fault ↔
      reply.fault? parser = some fault := by
  cases reply with
  | failed message => simp [absorb, Reply.fault?]
  | value given =>
      rw [absorb, Reply.fault?]
      cases Response.ofValue given with
      | declined => simp
      | malformed reply => simp
      | consumed text fields =>
          simp only [Report.outcome_ofExcept, contribute]
          cases contributedErrors fields with
          | ok errors => simp [bind, Except.bind, pure, Except.pure]
          | error other => simp [bind, Except.bind]

/-- The replies of a run, by its outcome.  Where a run comes to a result, no reply is faulty.  Where
it ends in a fault, its parsers are called in order up to the first whose reply is faulty. -/
lemma faults_callAll (source : Text) {index : Nat} {rest : List TagParser}
    (atIndex : parsers.drop index = rest) (progress : Progress) :
    let run : Report ν Progress := callAll source index rest progress
    (∀ result, run.outcome = .ok result →
      ∀ made ∈ run.calls parsers, made.reply.fault? made.parser.name = none) ∧
    ∀ fault, run.outcome = .error fault →
      ∃ earlier last, run.calls parsers = earlier ++ [last] ∧
        (earlier ++ [last]).map (·.parser) <+: rest ∧
        (∀ made ∈ earlier, made.reply.fault? made.parser.name = none) ∧
        last.reply.fault? last.parser.name = some fault := by
  intro run
  induction rest generalizing index progress with
  | nil =>
      have noCalls : run.calls parsers = [] := rfl
      exact ⟨fun _ _ => by simp [noCalls], fun _ ended => by cases ended⟩
  | cons parser rest ih =>
      obtain ⟨here, atNext⟩ := getElem?_of_drop_eq_cons atIndex
      let first : Call := ⟨parser, progress.remaining, progress.record⟩
      -- Either the first call has a fault, which ends the run, or the rest of the run decides.
      have first_iff : ∀ fault, (call source index parser progress : Report ν Progress).outcome =
          .error fault ↔ first.reply.fault? parser.name = some fault :=
        fun fault => outcome_absorb_eq_error_iff
      have split : run.outcome =
          (call source index parser progress : Report ν Progress).outcome.bind fun next =>
            (callAll source (index + 1) rest next : Report ν Progress).outcome :=
        Report.outcome_bind _ _
      cases called : (call source index parser progress : Report ν Progress).outcome with
      | error other =>
          rw [called] at split
          rw [split]
          refine ⟨nofun, fun fault ended => ?_⟩
          cases ended
          exact ⟨[], first, calls_callAll_of_error here called, by simp [first], by simp,
            (first_iff other).mp called⟩
      | ok next =>
          have sound : first.reply.fault? parser.name = none := by
            rw [Option.eq_none_iff_forall_ne_some]
            intro fault faulty
            rw [(first_iff fault).mpr faulty] at called
            cases called
          have calls : run.calls parsers = first ::
              (callAll source (index + 1) rest next : Report ν Progress).calls parsers :=
            calls_callAll_of_ok here called
          obtain ⟨onResult, onFault⟩ := ih atNext next
          rw [called] at split
          rw [split, calls]
          refine ⟨fun result ran => List.forall_mem_cons.mpr ⟨sound, onResult result ran⟩,
            fun fault ended => ?_⟩
          obtain ⟨earlier, last, later, inOrder, before, faulty⟩ := onFault fault ended
          refine ⟨first :: earlier, last, by rw [later, List.cons_append], ?_,
            List.forall_mem_cons.mpr ⟨sound, before⟩, faulty⟩
          exact List.cons_prefix_cons.mpr ⟨rfl, inOrder⟩

lemma outcome_callAll_eq_error_iff {index : Nat} {rest : List TagParser}
    (atIndex : parsers.drop index = rest) {progress : Progress} {fault : Fault} :
    (callAll source index rest progress : Report ν Progress).outcome = .error fault ↔
      ∃ made ∈ (callAll source index rest progress : Report ν Progress).calls parsers,
        made.reply.fault? made.parser.name = some fault := by
  obtain ⟨onResult, onFault⟩ := faults_callAll (ν := ν) source atIndex progress
  constructor
  · intro ended
    obtain ⟨earlier, last, calls, -, -, faulty⟩ := onFault fault ended
    exact ⟨last, by simp [calls], faulty⟩
  · rintro ⟨made, isMade, faulty⟩
    cases outcome : (callAll source index rest progress : Report ν Progress).outcome with
    | ok result =>
        rw [onResult result outcome made isMade] at faulty
        cases faulty
    | error other =>
        obtain ⟨earlier, last, calls, -, before, lastFaulty⟩ := onFault other outcome
        rw [calls, List.mem_append, List.mem_singleton] at isMade
        rcases isMade with isEarlier | rfl
        · rw [before made isEarlier] at faulty
          cases faulty
        · exact congrArg Except.error (Option.some.inj (lastFaulty.symm.trans faulty))

end Progress

/-! ## The kinds of fault of a reply -/

/-- Errors are contributed that cannot be gone through. -/
def Reply.HasStrayErrors (reply : Reply) : Prop :=
  ∃ value, reply.contributedErrors? = some value ∧ value.isTruthy = true ∧ value.items? = none

/-- A malformed reply that its refusal cannot show: the message is not made, and so nothing is
refused. -/
def Reply.IsUntold (room : Nat) (reply : Reply) : Prop :=
  ∃ value other, reply = .value value ∧ Response.ofValue value = .malformed other ∧
    other.isShowable room = false

lemma contributedErrors_eq_error_iff {fields : Record} {fault : Fault} :
    Progress.contributedErrors fields = .error fault ↔
      ∃ value, Record.get? fields "errors" = some value ∧ value.isTruthy = true ∧
        value.items? = none ∧ fault = .notIterable value := by
  unfold Progress.contributedErrors
  cases Record.get? fields "errors" with
  | none => simp
  | some value =>
      cases truth : value.isTruthy with
      | false => simp [truth]
      | true =>
          cases items : value.items? with
          | none =>
              simp only [truth, items, if_true, Except.error.injEq, Option.some.injEq,
                exists_eq_left', true_and]
              exact eq_comm
          | some found => simp [truth, items]

/-- A reply is faulty if it is malformed, which is refused where it can be shown, or if its errors
are stray. -/
lemma Reply.hasStrayErrors_or_isUntold_iff {room : Nat} {parser : String} {reply : Reply} :
    reply.HasStrayErrors ∨ reply.IsUntold room ↔
      ∃ fault, reply.fault? parser = some fault ∧ fault.category room ≠ .invalidInput := by
  cases reply with
  | failed message => simp [HasStrayErrors, IsUntold, contributedErrors?, pair?, fault?]
  | value given =>
      simp only [HasStrayErrors, IsUntold, contributedErrors?, pair?, fault?, Reply.value.injEq,
        exists_and_left, exists_eq_left']
      cases response : Response.ofValue given with
      | declined => simp
      | malformed reply => cases shown : reply.isShowable room <;> simp [Fault.category, shown]
      | consumed text fields =>
          simp only [Option.bind_some, reduceCtorEq, false_and, exists_false, or_false]
          constructor
          · rintro ⟨value, contributed, counts, noItems⟩
            have faulty := contributedErrors_eq_error_iff.mpr
              ⟨value, contributed, counts, noItems, rfl⟩
            exact ⟨.notIterable value, by rw [faulty], by simp [Fault.category]⟩
          · rintro ⟨fault, faulty, -⟩
            cases accepted : Progress.contributedErrors fields with
            | ok errors => simp [accepted] at faulty
            | error other =>
                obtain ⟨value, contributed, counts, noItems, -⟩ :=
                  contributedErrors_eq_error_iff.mp accepted
                exact ⟨value, contributed, counts, noItems⟩

/-- A run over the text of a tag ends in a fault exactly if the reply of one of its calls has that
fault. -/
lemma outcome_parseTag_eq_error_iff {source : Text} {parsers : List TagParser} {fault : Fault} :
    (parseTag source parsers : Report ν (Option Record)).outcome = .error fault ↔
      ∃ made ∈ (parseTag source parsers : Report ν (Option Record)).calls parsers,
        made.reply.fault? made.parser.name = some fault := by
  rw [parseTag.eq_def]
  split
  · next rest =>
      show (parseTag ('@' :: rest) parsers : Report ν (Option Record)).outcome = _ ↔
        ∃ made ∈ (parseTag ('@' :: rest) parsers : Report ν (Option Record)).calls parsers, _
      rw [calls_parseTag_marked, ← Progress.outcome_callAll_eq_error_iff List.drop_zero,
        outcome_parseTag_marked]
      cases (Progress.callAll ('@' :: rest) 0 parsers ⟨'@' :: rest, []⟩ :
        Report ν Progress).outcome <;> simp [Except.map]
  · have noCalls : (pure none : Report ν (Option Record)).calls parsers = [] := rfl
    simp [noCalls]

/-! ## Faults of passages -/

/-- A value in which dots can be looked for, and that can be split at them if there are any. -/
def Value.IsSplittable : Value → Prop
  | .text _ => True
  | .list items | .tuple items => .text ['.'] ∉ items
  | .record fields => Record.get? fields "." = none
  | _ => False

lemma Value.text_equals_iff {characters : Text} {value : Value} :
    (Value.text characters).equals value = true ↔ value = .text characters := by
  cases value with
  | text other => rw [Value.equals_text, beq_iff_eq, Value.text.injEq, eq_comm]
  | _ => simp [Value.equals, Value.asInt?]

/-- Looking for the parts of a name ends in a fault, which is no refusal, exactly if the name cannot
be split. -/
lemma not_isSplittable_iff {room : Nat} {name : Value} :
    ¬ name.IsSplittable ↔
      ∃ fault, dottedParts? name = .error fault ∧ fault.category room ≠ .invalidInput := by
  have among : ∀ items : List Value,
      .text ['.'] ∈ items ↔ items.any (Value.equals (.text ['.'])) = true := by
    intro items
    simp [List.any_eq_true, Value.text_equals_iff]
  cases name with
  | text characters => simp [Value.IsSplittable, dottedParts?]
  | list items | tuple items =>
      rw [Value.IsSplittable, not_not, among, dottedParts?]
      cases items.any (Value.equals (.text ['.'])) <;> simp [Fault.category]
  | record fields =>
      rw [Value.IsSplittable, dottedParts?]
      cases Record.get? fields "." <;> simp [Fault.category]
  | _ => simp [Value.IsSplittable, dottedParts?, Fault.category]

section Passages

variable (options : Options)

/-- The fault of a passage whose tag cannot be added, whatever tags are there. -/
def Passage.fault? (passage : Passage ν) : Option Fault :=
  match (addPassage options [] passage).outcome with
  | .error fault => some fault
  | .ok _ => none

variable {options}

lemma addTag_eq_error_iff {dottedNames : Bool} {tags : List (TagNode ν)} {node : TagNode ν}
    {fault : Fault} : addTag dottedNames tags node = .error fault ↔
      dottedNames = true ∧ dottedParts? node.name = .error fault := by
  cases dottedNames with
  | false => simp [addTag]
  | true =>
      rw [addTag, if_pos rfl]
      cases dottedParts? node.name with
      | error other => simp [bind, Except.bind]
      | ok parts => cases parts <;> simp [bind, Except.bind, pure, Except.pure]

lemma outcome_addPassage_eq_error_iff (tags : List (TagNode ν)) {passage : Passage ν}
    {fault : Fault} : (addPassage options tags passage).outcome = .error fault ↔
      writtenTag? options.trim options.parsers passage = .error fault ∨
        ∃ node, writtenTag? options.trim options.parsers passage = .ok (some node) ∧
          options.dottedNames = true ∧ dottedParts? node.name = .error fault := by
  rw [outcome_addPassage]
  cases writtenTag? options.trim options.parsers passage with
  | error other => simp [Except.bind]
  | ok written =>
      cases written with
      | none => simp [Except.bind]
      | some node => simp [Except.bind, addTag_eq_error_iff]

lemma outcome_addPassage_eq_error_iff_fault? {tags : List (TagNode ν)} {passage : Passage ν}
    {fault : Fault} :
    (addPassage options tags passage).outcome = .error fault ↔
      passage.fault? options = some fault := by
  have same : (addPassage options tags passage).outcome = .error fault ↔
      (addPassage options [] passage).outcome = .error fault := by
    rw [outcome_addPassage_eq_error_iff, outcome_addPassage_eq_error_iff]
  rw [same, Passage.fault?]
  cases (addPassage options [] passage).outcome <;> simp

lemma Passage.fault?_eq_none_iff {passage : Passage ν} :
    passage.fault? options = none ↔ ∃ tags, (addPassage options [] passage).outcome = .ok tags := by
  rw [Passage.fault?]
  cases (addPassage options [] passage).outcome <;> simp

lemma Passage.fault?_eq_none_of_ok {tags grown : List (TagNode ν)} {passage : Passage ν}
    (added : (addPassage options tags passage).outcome = .ok grown) :
    passage.fault? options = none := by
  rw [Option.eq_none_iff_forall_ne_some]
  intro fault faulty
  rw [outcome_addPassage_eq_error_iff_fault?.mpr faulty] at added
  cases added

/-- Adding passages ends in the fault of the first of them that has one. -/
lemma outcome_addPassages_eq_error_iff (tags : List (TagNode ν)) {passages : List (Passage ν)}
    {fault : Fault} :
    (addPassages options tags passages).outcome = .error fault ↔
      passages.findSome? (Passage.fault? options) = some fault := by
  induction passages generalizing tags with
  | nil => simp [addPassages]
  | cons passage rest ih =>
      rw [addPassages, Report.outcome_bind, List.findSome?_cons]
      cases added : (addPassage options tags passage).outcome with
      | error other =>
          rw [outcome_addPassage_eq_error_iff_fault?.mp added]
          simp [Except.bind]
      | ok grown =>
          rw [Passage.fault?_eq_none_of_ok added]
          exact ih grown

end Passages

/-! ## Faults of documents -/

/-- The passages of a finding that begin with a header. -/
def Finding.passages (trimmed : Bool) : Finding → List (Passage Nat)
  | .comment lines => tagPassages trimmed lines
  | .nothing | .abandoned _ _ => []

/-- The passages that begin with a header in the comments of a document, in their order. -/
def documentPassages (options : Options) (source : Text) : List (Passage Nat) :=
  (Scan.start.findings (!options.trim) (pieces '\n' source)).flatMap
    (Finding.passages options.trim)

lemma Finding.outcome_eq_error_iff {options : Options} {finding : Finding} {fault : Fault} :
    (finding.outcome options).outcome = .error fault ↔
      (finding.passages options.trim).findSome? (Passage.fault? options) = some fault := by
  cases finding with
  | nothing => simp [Finding.outcome, Finding.passages]
  | abandoned opened given => simp [Finding.outcome, Finding.passages]
  | comment lines =>
      rw [Finding.outcome, outcome_parseBlock, Finding.passages,
        ← outcome_addPassages_eq_error_iff []]
      cases (addPassages options [] (tagPassages options.trim lines)).outcome <;> simp [Except.map]

lemma outcome_gather_eq_error_iff {options : Options} {findings : List Finding} {fault : Fault} :
    (gather (findings.map (Finding.outcome options))).outcome = .error fault ↔
      (findings.flatMap (Finding.passages options.trim)).findSome? (Passage.fault? options) =
        some fault := by
  induction findings with
  | nil => simp [gather]
  | cons finding rest ih =>
      rw [List.map_cons, gather, Report.outcome_bind, List.flatMap_cons, List.findSome?_append,
        Option.or_eq_some_iff, ← ih, ← Finding.outcome_eq_error_iff]
      cases outcome : (finding.outcome options).outcome with
      | error other =>
          have faulty := Finding.outcome_eq_error_iff.mp outcome
          simp [Except.bind, faulty]
      | ok found =>
          have sound : (finding.passages options.trim).findSome? (Passage.fault? options) =
              none := by
            rw [Option.eq_none_iff_forall_ne_some]
            intro other faulty
            rw [Finding.outcome_eq_error_iff.mpr faulty] at outcome
            cases outcome
          simp only [Except.bind, Report.outcome_map, sound, reduceCtorEq, true_and, false_or]
          cases (gather (rest.map (Finding.outcome options))).outcome <;> simp [Except.map]

/-- **A document ends in the fault of the first of its passages that has one.** -/
lemma outcome_parse_eq_error_iff {options : Options} {source : Text} {fault : Fault} :
    (parse options source).outcome = .error fault ↔
      (documentPassages options source).findSome? (Passage.fault? options) = some fault :=
  outcome_gather_eq_error_iff

/-- The tag of a passage cannot be taken in, and nothing is refused by that: a parser contributes
errors to it that cannot be gone through, or returns a malformed value that cannot be shown, or its
name is to be split and cannot. -/
inductive Strays (room : Nat) (options : Options) (passage : Passage ν) : Prop
  | reply {made : Call}
      (called : made ∈ (parseTag (sourceOf options.trim passage.lines) options.parsers :
        Report ν (Option Record)).calls options.parsers)
      (stray : made.reply.HasStrayErrors ∨ made.reply.IsUntold room)
  | name {node : TagNode ν} (nests : options.dottedNames = true)
      (written : writtenTag? options.trim options.parsers passage = .ok (some node))
      (stray : ¬ node.name.IsSplittable)

lemma strays_iff {room : Nat} {options : Options} {passage : Passage ν} :
    Strays room options passage ↔
      ∃ fault, passage.fault? options = some fault ∧ fault.category room ≠ .invalidInput := by
  have faulty_iff : ∀ fault, passage.fault? options = some fault ↔
      writtenTag? options.trim options.parsers passage = .error fault ∨
        ∃ node, writtenTag? options.trim options.parsers passage = .ok (some node) ∧
          options.dottedNames = true ∧ dottedParts? node.name = .error fault :=
    fun fault => outcome_addPassage_eq_error_iff_fault?.symm.trans
      (outcome_addPassage_eq_error_iff [])
  have unwritten_iff : ∀ fault,
      writtenTag? options.trim options.parsers passage = .error fault ↔
        ∃ made ∈ (parseTag (sourceOf options.trim passage.lines) options.parsers :
          Report ν (Option Record)).calls options.parsers,
          made.reply.fault? made.parser.name = some fault := by
    intro fault
    rw [← outcome_parseTag_eq_error_iff, writtenTag?]
    cases (parseTag (sourceOf options.trim passage.lines) options.parsers :
      Report ν (Option Record)).outcome <;> simp [Except.map]
  constructor
  · rintro (⟨called, stray⟩ | ⟨nests, written, stray⟩)
    · obtain ⟨fault, faulty, noRefusal⟩ := Reply.hasStrayErrors_or_isUntold_iff.mp stray
      exact ⟨fault, (faulty_iff fault).mpr (.inl ((unwritten_iff fault).mpr ⟨_, called, faulty⟩)),
        noRefusal⟩
    · obtain ⟨fault, faulty, noRefusal⟩ := not_isSplittable_iff.mp stray
      exact ⟨fault, (faulty_iff fault).mpr (.inr ⟨_, written, nests, faulty⟩), noRefusal⟩
  · rintro ⟨fault, faulty, noRefusal⟩
    rcases (faulty_iff fault).mp faulty with unwritten | ⟨node, written, nests, unsplit⟩
    · obtain ⟨made, called, reply⟩ := (unwritten_iff fault).mp unwritten
      exact .reply called
        (Reply.hasStrayErrors_or_isUntold_iff.mpr ⟨fault, reply, noRefusal⟩)
    · exact .name nests written (not_isSplittable_iff.mpr ⟨fault, unsplit, noRefusal⟩)

/-- Options with one parser, a script that contributes a number where errors are due. -/
def countingErrors : Options :=
  ⟨true, false, [Script.toParser ⟨"count", [], .consumes .all [("errors", .int 1)] none⟩]⟩

end DocComment
