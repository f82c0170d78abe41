import DocComment.Proofs.Outcomes
import DocComment.Tag.Handout

/-!
# What edits of a handed out record reach

A parser edits a copy of the record at home.  The lists and records that stand directly under a name
were copied with it, so an edit of the record itself or of one of them is *shallow*: it stays in the
copy, and the record at home remains what it was (`run_of_shallow`).  What an edit puts is a value
of the parser's own, so no part of the record at home gets a second place from which a later edit
could reach it.

Other edits reach the record at home in one way only, by a change inside a cell that is shared.  So
what every such change keeps is kept whatever edits are made (`kept_handOut`).  And nothing can be
changed inside a text (`Value.IsScalar.exists_changedAt_eq_error`): a shared text stays as it is.
-/

namespace DocComment

/-! ## Values that cannot be changed -/

/-- A value that has nothing in it to be changed. -/
def Value.IsScalar (value : Value) : Prop := value = .null ∨ ∃ content, value = .text content

namespace Value.IsScalar

variable {value : Value}

lemma exists_changed_eq_error (scalar : value.IsScalar) (change : Change) :
    ∃ failure, value.changed change = .error failure := by
  rcases scalar with rfl | ⟨content, rfl⟩ <;> cases change with
  | append new => exact ⟨_, rfl⟩
  | put key new => exact ⟨_, rfl⟩
  | remove key => cases found : key.asInt? <;> simp [changed, withoutPart, found]

lemma part (scalar : value.IsScalar) {key inner : Value} (found : value.part key = .ok inner) :
    inner.IsScalar := by
  rcases scalar with rfl | ⟨content, rfl⟩
  · simp [Value.part] at found
  · cases number : key.asInt? with
    | none => simp [Value.part, number] at found
    | some n =>
        simp only [Value.part, number] at found
        obtain ⟨index, -, made⟩ := bind_eq_ok_iff.mp found
        cases made
        exact .inr ⟨_, rfl⟩

lemma exists_changedAt_eq_error (scalar : value.IsScalar) (change : Change) (path : List Value) :
    ∃ failure, Value.changedAt change path value = .error failure := by
  induction path generalizing value with
  | nil => exact scalar.exists_changed_eq_error change
  | cons key path ih =>
      cases found : value.part key with
      | error failure => exact ⟨failure, by rw [changedAt, found]; rfl⟩
      | ok inner =>
          obtain ⟨failure, failed⟩ := ih (scalar.part found)
          refine ⟨failure, ?_⟩
          rw [changedAt, found]
          show (Value.changedAt change path inner).bind _ = _
          rw [failed]
          rfl

end Value.IsScalar

/-! ## Shallow edits -/

/-- A change to a record itself, or to a list or record that stands directly under a name of it. -/
def Edit.IsShallow (edit : Edit) : Prop := edit.path.length ≤ 1

instance : DecidablePred Edit.IsShallow := fun edit => Nat.decLe edit.path.length 1

namespace Handout

/-- The edits that are made in turn: those before the first that fails. -/
def made (handout : Handout) : List Edit → List Edit
  | [] => []
  | next :: rest =>
    match handout.edit next with
    | .ok changed => next :: changed.made rest
    | .error _ => []

lemma home_of_edit {handout changed : Handout} {next : Edit} (shallow : next.IsShallow)
    (edited : handout.edit next = .ok changed) : changed.home = handout.home := by
  obtain ⟨path, change⟩ := next
  match path, shallow with
  | [], _ =>
      obtain ⟨copy, -, made⟩ := bind_eq_ok_iff.mp edited
      cases made
      rfl
  | [name], _ =>
      obtain ⟨entry, -, inside⟩ := bind_eq_ok_iff.mp edited
      obtain ⟨inner, -, made⟩ := bind_eq_ok_iff.mp inside
      cases made
      rfl

/-- **Shallow edits leave the record at home as it is**, whether or not one that fails ends them. -/
lemma run_of_shallow {handout : Handout} {edits : List Edit}
    (shallow : ∀ edit ∈ handout.made edits, edit.IsShallow) :
    (handout.run edits).1 = handout.home := by
  induction edits generalizing handout with
  | nil => rfl
  | cons next rest ih =>
      rw [made] at shallow
      rw [run]
      cases edited : handout.edit next with
      | error failure => rfl
      | ok changed =>
          simp only [edited, List.forall_mem_cons] at shallow ⊢
          rw [ih shallow.2, home_of_edit shallow.1 edited]

-- A list two levels down is not copied, so an edit that is not shallow may reach it at home.
example : (Record.handOut [("x", .list [.list []])]
    [⟨[.ofString "x", .int 0], .append (.int 1)⟩]).1 = [("x", .list [.list [.int 1]])] := rfl

/-! ## All edits -/

/-- Every change inside a cell that succeeds keeps a property of the record at home. -/
def KeptInCells (property : Record → Prop) : Prop :=
  ∀ {home : Record} {cell : Cell} {path : List Value} {change : Change} {result : Record × Cell},
    property home → changeCell home cell path change = .ok result → property result.1

section Kept

variable {property : Record → Prop} (kept : KeptInCells property)

include kept

lemma kept_changeBelow {home : Record} (holds : property home) {entry : Entry} {key : Value}
    {path : List Value} {change : Change} {result : Record × Entry}
    (changed : changeBelow home entry key path change = .ok result) : property result.1 := by
  cases entry with
  | value value =>
      obtain ⟨inner, -, made⟩ := bind_eq_ok_iff.mp changed
      cases made
      exact holds
  | list cells =>
      obtain ⟨index, -, inside⟩ := bind_eq_ok_iff.mp changed
      obtain ⟨cell, inCell, made⟩ := bind_eq_ok_iff.mp inside
      cases made
      exact kept holds inCell
  | record cells =>
      obtain ⟨entry, -, inside⟩ := bind_eq_ok_iff.mp changed
      obtain ⟨cell, inCell, made⟩ := bind_eq_ok_iff.mp inside
      cases made
      exact kept holds inCell

lemma kept_edit {handout changed : Handout} (holds : property handout.home) {next : Edit}
    (edited : handout.edit next = .ok changed) : property changed.home := by
  obtain ⟨path, change⟩ := next
  match path with
  | [] | [_] =>
      rw [home_of_edit (by simp [Edit.IsShallow]) edited]
      exact holds
  | first :: key :: path =>
      obtain ⟨entry, -, inside⟩ := bind_eq_ok_iff.mp edited
      obtain ⟨result, below, made⟩ := bind_eq_ok_iff.mp inside
      cases made
      exact kept_changeBelow kept holds below

lemma kept_run {handout : Handout} (holds : property handout.home) (edits : List Edit) :
    property (handout.run edits).1 := by
  induction edits generalizing handout with
  | nil => exact holds
  | cons next rest ih =>
      rw [run]
      cases edited : handout.edit next with
      | error failure => exact holds
      | ok changed => exact ih (kept_edit kept holds edited)

/-- **What changes inside cells keep is kept whatever edits a parser makes to its copy.** -/
lemma kept_handOut {home : Record} (holds : property home) (edits : List Edit) :
    property (home.handOut edits).1 :=
  kept_run kept holds edits

end Kept

end Handout

end DocComment
