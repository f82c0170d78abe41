import DocComment.Proofs.Handouts
import DocComment.Proofs.ParserRuns

/-!
# Parsers and the record they are handed

A parser may change the record that it is handed.  As long as its edits are shallow, they stay in
its copy (`Handout.run_of_shallow`), and a call comes to what it would come to if the parser had
replied the same, or failed the same, without any edits (`Progress.call_replaced`).

So a run does not change when such a parser takes the place of one that edits
(`Progress.callAll_replaced`): neither its outcome nor what it hands to any parser
(`shallow_edits_leave_run_alone`).
-/

namespace DocComment

variable {ν : Type}

/-! ## Calls without edits -/

/-- Replies with which the name of the parser is told: failures and malformed replies. -/
def Reply.TellsName : Reply → Prop
  | .failed _ => True
  | .value given => ∃ malformed, Response.ofValue given = .malformed malformed

namespace Call

/-- The edits that the parser makes in a call. -/
def edits (call : Call) : List Edit :=
  (Handout.ofRecord call.record).made (call.parser.run call.remaining call.record).1

lemma keepsRecord_of_shallow {call : Call} (shallow : ∀ edit ∈ call.edits, edit.IsShallow) :
    call.KeepsRecord :=
  Handout.run_of_shallow shallow

/-- Another parser answers a call in the same way, with the same value or the same failure, and
makes no edits.  It has the same name, where the name is told. -/
structure AnsweredBy (call : Call) (other : TagParser) : Prop where
  run : other.run call.remaining call.record = ([], call.reply)
  name : call.reply.TellsName → other.name = call.parser.name

end Call

/-! ## Runs with another parser -/

/-- What follows a report counts only for the result that the report has. -/
lemma Report.bind_congr {α β : Type} {report : Report ν α} {next other : α → Report ν β}
    (same : ∀ a, report.outcome = .ok a → next a = other a) :
    report >>= next = report >>= other := by
  show andThen report next = andThen report other
  rw [andThen, andThen]
  split
  · rfl
  · next a found => rw [same a found]

lemma Report.notes_subset_bind {α β : Type} (report : Report ν α) (next : α → Report ν β) :
    report.notes ⊆ (report >>= next).notes := by
  cases outcome : report.outcome with
  | error fault => exact (notes_bind_of_error next outcome).symm ▸ List.Subset.refl _
  | ok a => exact (notes_bind_of_ok next outcome).symm ▸ List.subset_append_left _ _

namespace Progress

variable {source : Text} {parser other : TagParser}

/-- What becomes of a reply depends on the name of the parser only where the name is told. -/
lemma absorb_renamed {name otherName : String} {remaining : Text} {record : Record} {reply : Reply}
    (same : reply.TellsName → otherName = name) :
    (absorb source otherName remaining record reply : Report ν Progress) =
      absorb source name remaining record reply := by
  cases reply with
  | failed message => rw [same trivial]
  | value given =>
      rw [absorb, absorb]
      cases response : Response.ofValue given with
      | declined | consumed text fields => rfl
      | malformed value => rw [same ⟨value, response⟩]

/-- A call comes to the same with a parser that answers it without edits, if the edits that are made
in it are shallow. -/
lemma call_replaced (index : Nat) {text : Text} {record : Record}
    (shallow : ∀ edit ∈ (Call.mk parser text record).edits, edit.IsShallow)
    (answered : (Call.mk parser text record).AnsweredBy other) :
    (call source index other ⟨text, record⟩ : Report ν Progress) =
      call source index parser ⟨text, record⟩ := by
  have kept : (record.handOut (parser.run text record).1).1 = record :=
    Call.keepsRecord_of_shallow shallow
  have reply : other.run text record = ([], effectiveReply (parser.run text record).2
      (record.handOut (parser.run text record).1).2) := answered.run
  simp only [call, reply, kept, Record.handOut_nil]
  refine Report.bind_congr fun _ _ => ?_
  exact absorb_renamed answered.name

lemma called_mem_notes_call (index : Nat) (progress : Progress) :
    .called index progress.remaining progress.record ∈
      (call source index parser progress : Report ν Progress).notes :=
  Report.notes_subset_bind _ _ (List.mem_singleton_self _)

/-- **A run stays the same if the parser at one place is replaced** by one that answers the call
there without edits, provided the edits that are made in that call are shallow. -/
lemma callAll_replaced {before after : List TagParser} {index place : Nat}
    (atPlace : place = index + before.length) {progress : Progress}
    (here : ∀ text record, .called place text record ∈
      (callAll source index (before ++ parser :: after) progress : Report ν Progress).notes →
        (∀ edit ∈ (Call.mk parser text record).edits, edit.IsShallow) ∧
          (Call.mk parser text record).AnsweredBy other) :
    (callAll source index (before ++ other :: after) progress : Report ν Progress) =
      callAll source index (before ++ parser :: after) progress := by
  induction before generalizing index progress with
  | nil =>
      obtain ⟨shallow, answered⟩ := here progress.remaining progress.record <| by
        rw [List.nil_append, callAll, atPlace]
        exact Report.notes_subset_bind _ _ (called_mem_notes_call index progress)
      show call source index other progress >>= _ = call source index parser progress >>= _
      rw [call_replaced index shallow answered]
  | cons first before ih =>
      refine Report.bind_congr fun next called =>
        ih ?_ fun text record handed => here text record ?_
      · rw [atPlace, List.length_cons]
        omega
      · show _ ∈ (call source index first progress >>= _ : Report ν Progress).notes
        rw [Report.notes_bind_of_ok _ called]
        exact List.mem_append_right _ handed

end Progress

/-- **Shallow edits leave a run alone.**  In a row of parsers one is replaced by another that
answers the call at its place with the same value or the same failure, and makes no edits.  If the
edits that the first one makes there are changes to the record itself or to lists and records
directly under its names, the two runs come to the same report: they have the same outcome, and
every parser of the row is called with the same text and the same record.  What an edit puts
somewhere is taken for a value of its own, which shares no part with the record at home. -/
theorem shallow_edits_leave_run_alone (source : Text) (before after : List TagParser)
    (parser other : TagParser)
    (replaced : ∀ text record, .called before.length text record ∈
      (parseTag source (before ++ parser :: after) : Report ν (Option Record)).notes →
        (∀ edit ∈ (Call.mk parser text record).edits, edit.IsShallow) ∧
          (Call.mk parser text record).AnsweredBy other) :
    (parseTag source (before ++ other :: after) : Report ν (Option Record)) =
      parseTag source (before ++ parser :: after) := by
  rw [parseTag.eq_def, parseTag.eq_def]
  split
  · next rest =>
      rw [Progress.callAll_replaced (Nat.zero_add _).symm]
      intro text record handed
      exact replaced text record (Report.notes_subset_bind _ _ handed)
  · rfl

/-- A parser that contributes a text, a list and a record. -/
def contributing : TagParser :=
  Script.toParser ⟨"contributing", [], .consumes (.characters 1)
    [("name", .ofString "n"), ("tags", .list [.ofString "first"]),
      ("more", .record [("k", .ofString "v")])] none⟩

/-- A parser that declines, after edits of every shallow kind to its copy and one edit that
fails. -/
def editing : TagParser :=
  Script.toParser ⟨"editing",
    [⟨[], .put (.ofString "name") (.ofString "other")⟩,
      ⟨[.ofString "tags"], .append (.ofString "second")⟩,
      ⟨[.ofString "more"], .put (.ofString "k") .null⟩,
      ⟨[.ofString "tags"], .remove (.int 0)⟩,
      ⟨[], .remove (.ofString "more")⟩,
      ⟨[.ofString "more", .ofString "k"], .append .null⟩], .declines⟩

/-- A parser that fails as the last edit of `editing` does. -/
def failingAtOnce : TagParser := Script.toParser ⟨"editing", [], .fails "'more'"⟩

theorem failed_editing_leaves_run_alone :
    (∀ text record, .called 1 text record ∈
      (parseTag "@x".toList [contributing, editing, Builtin.description] :
        Report Nat (Option Record)).notes →
        (∀ edit ∈ (Call.mk editing text record).edits, edit.IsShallow) ∧
          (Call.mk editing text record).AnsweredBy failingAtOnce) ∧
      (parseTag "@x".toList [contributing, failingAtOnce, Builtin.description] :
          Report Nat (Option Record)) =
        parseTag "@x".toList [contributing, editing, Builtin.description] := by
  have replaced : ∀ text record, .called 1 text record ∈
      (parseTag "@x".toList [contributing, editing, Builtin.description] :
        Report Nat (Option Record)).notes →
        (∀ edit ∈ (Call.mk editing text record).edits, edit.IsShallow) ∧
          (Call.mk editing text record).AnsweredBy failingAtOnce := by
    intro text record handed
    have notes : (parseTag "@x".toList [contributing, editing, Builtin.description] :
        Report Nat (Option Record)).notes =
          [.called 0 "@x".toList [],
            .called 1 "x".toList [("name", .ofString "n"), ("tags", .list [.ofString "first"]),
              ("more", .record [("k", .ofString "v")])],
            .rejected "editing" "@x".toList "'more'",
            .called 2 "x".toList [("name", .ofString "n"), ("tags", .list [.ofString "first"]),
              ("more", .record [("k", .ofString "v")]),
              ("errors", .list [.ofString "editing: 'more'"])]] := rfl
    simp only [notes, List.mem_cons, Note.called.injEq, List.not_mem_nil, reduceCtorEq,
      Nat.reduceEqDiff, false_and, true_and, or_false, false_or] at handed
    obtain ⟨rfl, rfl⟩ := handed
    exact ⟨by decide, rfl, fun _ => rfl⟩
  exact ⟨replaced, shallow_edits_leave_run_alone "@x".toList [contributing] [Builtin.description]
    editing failingAtOnce replaced⟩

end DocComment
