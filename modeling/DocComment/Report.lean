import DocComment.Fault

/-!
# Reports

A report is the outcome of an operation together with what is worth noting about the way to it.
The notes are kept where the operation ends in a fault, and no later step adds to them.  Statements
about results speak of `outcome` alone, for which the equations below suffice.
-/

namespace DocComment

/-- What is noted on the way; `ν` numbers lines. -/
inductive Note (ν : Type) where
  /-- The parser at this index was called with what remained and what had been collected. -/
  | called (index : Nat) (remaining : Text) (record : Record)
  /-- A parser failed on a tag. -/
  | rejected (parser : String) (source : Text) (message : String)
  /-- A comment had neither a description nor tags. -/
  | emptyComment (line : ν)
  /-- The text of a tag did not begin with `@`. -/
  | skippedTag (line : ν) (source : Text)
  /-- A comment was opened at one line and given up at another. -/
  | abandonedComment (opened given : ν)
deriving Repr

/-- An outcome and the notes on the way to it. -/
structure Report (ν α : Type) where
  notes : List (Note ν)
  outcome : Except Fault α

namespace Report

variable {ν α β : Type}

/-- A step that succeeds and notes something. -/
def noting (notes : List (Note ν)) (a : α) : Report ν α := ⟨notes, .ok a⟩

/-- A step that ends in a fault and notes something. -/
def failing (notes : List (Note ν)) (fault : Fault) : Report ν α := ⟨notes, .error fault⟩

/-- A step that fails or succeeds without noting anything. -/
def ofExcept (outcome : Except Fault α) : Report ν α := ⟨[], outcome⟩

/-- Goes on from a report that succeeded. -/
def andThen (report : Report ν α) (next : α → Report ν β) : Report ν β :=
  match report.outcome with
  | .error fault => ⟨report.notes, .error fault⟩
  | .ok a => ⟨report.notes ++ (next a).notes, (next a).outcome⟩

/-- Changes the result of a report that succeeded. -/
def map (f : α → β) (report : Report ν α) : Report ν β :=
  ⟨report.notes, report.outcome.map f⟩

instance : Monad (Report ν) where
  pure a := noting [] a
  bind := andThen
  map := map

@[simp] theorem outcome_pure (a : α) : (pure a : Report ν α).outcome = .ok a := rfl

@[simp] theorem outcome_noting (notes : List (Note ν)) (a : α) :
    (noting notes a).outcome = .ok a := rfl

@[simp] theorem outcome_failing (notes : List (Note ν)) (fault : Fault) :
    (failing notes fault : Report ν α).outcome = .error fault := rfl

@[simp] theorem outcome_ofExcept (outcome : Except Fault α) :
    (ofExcept outcome : Report ν α).outcome = outcome := rfl

@[simp] theorem outcome_bind (report : Report ν α) (next : α → Report ν β) :
    (report >>= next).outcome = report.outcome.bind fun a => (next a).outcome := by
  show (andThen report next).outcome = _
  unfold andThen
  cases report.outcome <;> rfl

@[simp] theorem outcome_map (f : α → β) (report : Report ν α) :
    (f <$> report).outcome = report.outcome.map f := rfl

end Report

end DocComment
