import DocComment.Fault
import Mathlib.Tactic.Lemma

/-!
# Outcomes

An outcome is a result or a fault.  A step on the way from one outcome to another has a result only
if the steps before it have one (`map_eq_ok_iff`, `bind_eq_ok_iff`).  Several outcomes are collected
to the list of what they result in, unless one of them is a fault (`collect`).
-/

namespace DocComment

section Outcome

variable {ε α β : Type} {outcome : Except ε α}

lemma map_eq_ok_iff {change : α → β} {result : β} :
    outcome.map change = .ok result ↔ ∃ a, outcome = .ok a ∧ change a = result := by
  cases outcome <;> simp [Except.map]

lemma bind_eq_ok_iff {next : α → Except ε β} {result : β} :
    outcome.bind next = .ok result ↔ ∃ a, outcome = .ok a ∧ next a = .ok result := by
  cases outcome <;> simp [Except.bind]

end Outcome

/-! ## Collecting results -/

/-- The results of outcomes each of which may have none, unless one is a fault. -/
def collect {α : Type} : List (Except Fault (Option α)) → Except Fault (List α)
  | [] => .ok []
  | outcome :: rest => outcome.bind fun found => (collect rest).map (found.toList ++ ·)

section Collect

variable {α β : Type} {outcome : Except Fault (Option α)}
  {outcomes : List (Except Fault (Option α))} {results : List α}

lemma collect_cons_eq_ok_iff :
    collect (outcome :: outcomes) = .ok results ↔
      ∃ found others, outcome = .ok found ∧ collect outcomes = .ok others ∧
        results = found.toList ++ others := by
  rw [collect, bind_eq_ok_iff]
  constructor
  · rintro ⟨found, here, joined⟩
    obtain ⟨others, later, rfl⟩ := map_eq_ok_iff.mp joined
    exact ⟨found, others, here, later, rfl⟩
  · rintro ⟨found, others, here, later, rfl⟩
    exact ⟨found, here, map_eq_ok_iff.mpr ⟨others, later, rfl⟩⟩

lemma mem_of_mem_collect (collected : collect outcomes = .ok results) {result : α}
    (found : result ∈ results) : .ok (some result) ∈ outcomes := by
  induction outcomes generalizing results with
  | nil =>
      cases collected
      simp at found
  | cons outcome rest ih =>
      obtain ⟨first, others, here, later, rfl⟩ := collect_cons_eq_ok_iff.mp collected
      rcases List.mem_append.mp found with isFirst | isLater
      · obtain rfl := Option.mem_toList.mp isFirst
        exact here ▸ List.mem_cons_self
      · exact List.mem_cons_of_mem _ (ih later isLater)

/-- Each outcome that is collected has a result or none, and its result is among the others. -/
lemma exists_of_collect_eq_ok (collected : collect outcomes = .ok results)
    (among : outcome ∈ outcomes) :
    ∃ found, outcome = .ok found ∧ ∀ a ∈ found, a ∈ results := by
  induction outcomes generalizing results with
  | nil => cases among
  | cons first rest ih =>
      obtain ⟨found, others, here, later, rfl⟩ := collect_cons_eq_ok_iff.mp collected
      rcases List.mem_cons.mp among with rfl | isLater
      · exact ⟨found, here, fun a isFound => List.mem_append_left _ (Option.mem_toList.mpr isFound)⟩
      · obtain ⟨result, isResult, kept⟩ := ih later isLater
        exact ⟨result, isResult, fun a isFound => List.mem_append_right _ (kept a isFound)⟩

/-- If no outcome is a fault, all is collected, and has what every result has. -/
lemma exists_collect {property : α → Prop}
    (each : ∀ outcome ∈ outcomes, ∃ found, outcome = .ok found ∧ ∀ a ∈ found, property a) :
    ∃ results, collect outcomes = .ok results ∧ ∀ result ∈ results, property result := by
  induction outcomes with
  | nil => exact ⟨[], rfl, by simp⟩
  | cons outcome rest ih =>
      obtain ⟨first, later⟩ := List.forall_mem_cons.mp each
      obtain ⟨found, here, hasFirst⟩ := first
      obtain ⟨others, collected, hasOthers⟩ := ih later
      refine ⟨_, collect_cons_eq_ok_iff.mpr ⟨found, others, here, collected, rfl⟩, ?_⟩
      exact List.forall_mem_append.mpr
        ⟨fun result isFirst => hasFirst result (Option.mem_toList.mp isFirst), hasOthers⟩

lemma collect_append (outcomes more : List (Except Fault (Option α))) :
    collect (outcomes ++ more) =
      (collect outcomes).bind fun results => (collect more).map (results ++ ·) := by
  induction outcomes with
  | nil => cases h : collect more <;> simp [collect, h, Except.bind, Except.map]
  | cons outcome rest ih =>
      rw [List.cons_append, collect, collect, ih]
      cases outcome with
      | error fault => rfl
      | ok found =>
          cases collect rest with
          | error fault => rfl
          | ok results => cases collect more <;> simp [Except.bind, Except.map]

lemma collect_map (change : α → β) (outcomes : List (Except Fault (Option α))) :
    collect (outcomes.map (Except.map (Option.map change))) =
      (collect outcomes).map (List.map change) := by
  induction outcomes with
  | nil => rfl
  | cons outcome rest ih =>
      rw [List.map_cons, collect, collect, ih]
      cases outcome with
      | error fault => rfl
      | ok found =>
          cases collect rest with
          | error fault => rfl
          | ok results => cases found <;> simp [Except.bind, Except.map]

end Collect

end DocComment
