import DocComment.Schema.Violation

/-!
# Checking documents

Which rules a document breaks is settled by its shape (`violations`).  Two things are left to
whoever checks it: how deeply nested a document may be before checking it comes to no end, and which
violation is reported of several at one distance from the root.  A `Checker` settles both, and
whatever is said of checking is said of every checker.
-/

namespace DocComment.Schema

open DocComment

/-- A way to check documents.  Of several violations it reports one that is nearest to the root. -/
structure Checker where
  /-- Whether checking gets through a document. -/
  reaches : Json → Bool
  /-- The violation to report of several: the first one found and the others. -/
  pick : Violation → List Violation → Violation
  pick_mem (first : Violation) (others : List Violation) : pick first others ∈ first :: others
  length_path_pick_le (first : Violation) (others : List Violation) :
    ∀ violation ∈ first :: others, (pick first others).path.length ≤ violation.path.length

/-- The violation that is reported of a document, if there is any. -/
def Checker.validate (checker : Checker) (document : Json) : Option Violation :=
  match violations .blocks document with
  | [] => none
  | first :: others => some (checker.pick first others)

/-! ## The last of the nearest -/

/-- The order of steps: indexes as numbers, names by their characters. -/
def Step.less : Step → Step → Bool
  | .index i, .index j => i < j
  | .field a, .field b => a < b
  | .index _, .field _ => true
  | .field _, .index _ => false

/-- The alphabetical order of paths. -/
def pathLess : List Step → List Step → Bool
  | [], [] => false
  | [], _ :: _ => true
  | _ :: _, [] => false
  | a :: as, b :: bs => a.less b || (a == b && pathLess as bs)

/-- Whether a violation goes before one that was found earlier: it is nearer to the root, or as near
and its path comes later, or it is at the same place and its value is not even of the right kind. -/
def Violation.outranks (a b : Violation) : Bool :=
  if a.path.length != b.path.length then a.path.length < b.path.length
  else if a.path != b.path then pathLess b.path a.path
  else b.ofKind && !a.ofKind

/-- The violation that no other of several goes before. -/
def Violation.best (first : Violation) (others : List Violation) : Violation :=
  others.foldl (fun best next => if next.outranks best then next else best) first

theorem Violation.best_mem (first : Violation) (others : List Violation) :
    best first others ∈ first :: others := by
  induction others generalizing first with
  | nil => exact List.mem_cons_self
  | cons next rest ih =>
    rw [best, List.foldl_cons]
    by_cases outranks : next.outranks first = true
    · rw [if_pos outranks]
      exact List.mem_cons_of_mem _ (ih next)
    · rw [if_neg outranks]
      rcases List.mem_cons.mp (ih first) with same | isOther
      · exact List.mem_cons.mpr (.inl same)
      · exact List.mem_cons_of_mem _ (List.mem_cons_of_mem _ isOther)

theorem Violation.length_path_le_of_outranks {a b : Violation} (outranks : a.outranks b = true) :
    a.path.length ≤ b.path.length := by
  rw [Violation.outranks] at outranks
  split at outranks
  · exact Nat.le_of_lt (of_decide_eq_true outranks)
  · next same => exact Nat.le_of_eq (by rwa [bne_iff_ne, Decidable.not_not] at same)

theorem Violation.length_path_le_of_not_outranks {a b : Violation}
    (outranks : ¬ a.outranks b = true) : b.path.length ≤ a.path.length := by
  rw [Violation.outranks] at outranks
  split at outranks
  · exact Nat.le_of_not_lt (mt decide_eq_true outranks)
  · next same => exact Nat.le_of_eq (by rwa [bne_iff_ne, Decidable.not_not, eq_comm] at same)

theorem Violation.length_path_best_le (first : Violation) (others : List Violation) :
    ∀ violation ∈ first :: others, (best first others).path.length ≤ violation.path.length := by
  induction others generalizing first with
  | nil =>
    intro violation found
    rw [List.mem_singleton.mp found]
    exact Nat.le_refl _
  | cons next rest ih =>
    rw [best, List.foldl_cons, List.forall_mem_cons, List.forall_mem_cons]
    by_cases outranks : next.outranks first = true
    · rw [if_pos outranks]
      obtain ⟨least, leastOfRest⟩ := List.forall_mem_cons.mp (ih next)
      exact ⟨Nat.le_trans least (length_path_le_of_outranks outranks), least, leastOfRest⟩
    · rw [if_neg outranks]
      obtain ⟨least, leastOfRest⟩ := List.forall_mem_cons.mp (ih first)
      exact ⟨least, Nat.le_trans least (length_path_le_of_not_outranks outranks), leastOfRest⟩

/-- The checker that gets through documents of so many levels and reports the last violation of
those that are nearest to the root. -/
def Checker.ofLevels (levels : Nat) : Checker where
  reaches document := document.levels ≤ levels
  pick := Violation.best
  pick_mem := Violation.best_mem
  length_path_pick_le := Violation.length_path_best_le

@[simp] theorem Checker.reaches_ofLevels (levels : Nat) (document : Json) :
    (ofLevels levels).reaches document = decide (document.levels ≤ levels) := rfl

/-- The checker that is used where no other is given.  What is said of checkers does not depend on
its number of levels. -/
def Checker.standard : Checker := .ofLevels 700

/-! ## Verdicts -/

/-- What checking a document comes to. -/
inductive Verdict where
  | conforming
  | violated (violation : Violation)
  /-- The document is nested too deeply for checking to get through it. -/
  | tooDeep

/-- Checks a document. -/
def judge (document : Json) (checker : Checker := .standard) : Verdict :=
  if checker.reaches document then
    match checker.validate document with
    | none => .conforming
    | some violation => .violated violation
  else .tooDeep

end DocComment.Schema
