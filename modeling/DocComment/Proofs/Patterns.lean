import DocComment.Proofs.Trimming

/-!
# Patterns and how they are matched

A pattern says what the characters of a text have to be, one after the other.  `Pattern.result?`
matches it by trying: a run takes as many characters as it can, and gives them back one by one as
long as what comes after it does not match (`longest?`).

Two facts make the trying predictable.  A run takes the longest of the parts that it may take
(`longest?_spec`).  And where what comes after it still matches once more is taken, nothing is ever
given back (`longest?_of_absorbs`).
-/

namespace DocComment

open Text

/-! ## Patterns -/

/-- What the characters of a line have to be, from a place on. -/
inductive Pattern where
  /-- Anything. -/
  | done
  /-- Nothing, or one newline. -/
  | ending
  /-- A character of a class. -/
  | one (accepts : Char → Bool) (next : Pattern)
  /-- Characters of a class, as many as possible. -/
  | run (accepts : Char → Bool) (next : Pattern)
  /-- Characters of a class, as many as possible, which are kept. -/
  | kept (accepts : Char → Bool) (next : Pattern)
  /-- The one or else the other. -/
  | either (first second : Pattern)

/-- What a pattern keeps of a line that matches, and what is behind the match. -/
structure Match where
  kept : Option Text
  rest : Text
deriving DecidableEq, Repr

/-- Takes characters of a class from the front of a text: as many as there are, or else the most
that are followed by something that matches. -/
def longest? {α : Type} (accepts : Char → Bool) (next : Text → Option α) :
    Text → Option (Text × α)
  | [] => (next []).map ([], ·)
  | c :: rest =>
    (if accepts c then
      (longest? accepts next rest).map fun (taken, found) => (c :: taken, found)
    else none).or ((next (c :: rest)).map ([], ·))

/-- Matches the front of a text. -/
def Pattern.result? : Pattern → Text → Option Match
  | .done, text => some ⟨none, text⟩
  | .ending, text => if text = [] ∨ text = ['\n'] then some ⟨none, text⟩ else none
  | .one _ _, [] => none
  | .one accepts next, c :: rest => if accepts c then next.result? rest else none
  | .run accepts next, text => (longest? accepts next.result? text).map (·.2)
  | .kept accepts next, text =>
    (longest? accepts next.result? text).map fun (taken, found) => { found with kept := some taken }
  | .either first second, text => (first.result? text).or (second.result? text)

namespace Pattern

/-- These characters and then more. -/
def mark (marker : Text) (next : Pattern) : Pattern :=
  marker.foldr (fun c next => .one (· == c) next) next

end Pattern

/-! ## Runs -/

section Runs

variable {α : Type} {accepts : Char → Bool} {next : Text → Option α}

/-- Some first characters of a text may be taken: they are all of the class, and what comes after
them matches. -/
def MayTake (accepts : Char → Bool) (next : Text → Option α) (text taken : Text) : Prop :=
  ∃ rest, text = taken ++ rest ∧ (∀ c ∈ taken, accepts c = true) ∧ (next rest).isSome = true

/-- A text is the longest of those for which something holds. -/
def IsLongest (Holds : Text → Prop) (text : Text) : Prop :=
  Holds text ∧ ∀ other, Holds other → other.length ≤ text.length

lemma mayTake_nil_iff {text : Text} : MayTake accepts next text [] ↔ (next text).isSome = true := by
  constructor
  · rintro ⟨rest, rfl, -, isSome⟩
    exact isSome
  · exact fun isSome => ⟨text, rfl, by simp, isSome⟩

lemma not_mayTake_cons_of_nil {d : Char} {taken : Text} :
    ¬ MayTake accepts next [] (d :: taken) := by
  rintro ⟨rest, split, -⟩
  cases split

lemma mayTake_cons_iff {c d : Char} {rest taken : Text} :
    MayTake accepts next (c :: rest) (d :: taken) ↔
      d = c ∧ accepts c = true ∧ MayTake accepts next rest taken := by
  constructor
  · rintro ⟨left, split, each, isSome⟩
    obtain ⟨rfl, rfl⟩ := List.cons.inj split
    obtain ⟨first, others⟩ := List.forall_mem_cons.mp each
    exact ⟨rfl, first, left, rfl, others, isSome⟩
  · rintro ⟨rfl, first, left, rfl, others, isSome⟩
    exact ⟨left, rfl, List.forall_mem_cons.mpr ⟨first, others⟩, isSome⟩

lemma not_mayTake_of_longest?_eq_none {text : Text} (none : longest? accepts next text = none)
    (taken : Text) : ¬ MayTake accepts next text taken := by
  induction text generalizing taken with
  | nil =>
      rw [longest?, Option.map_eq_none_iff] at none
      cases taken with
      | nil => simp [mayTake_nil_iff, none]
      | cons d taken => exact not_mayTake_cons_of_nil
  | cons c rest ih =>
      rw [longest?, Option.or_eq_none_iff, Option.map_eq_none_iff] at none
      obtain ⟨noneAfter, noneHere⟩ := none
      cases taken with
      | nil => simp [mayTake_nil_iff, noneHere]
      | cons d taken =>
          rw [mayTake_cons_iff]
          rintro ⟨-, accepted, below⟩
          rw [if_pos accepted, Option.map_eq_none_iff] at noneAfter
          exact ih noneAfter taken below

/-- **A run takes the most that it may take.** -/
lemma longest?_spec {text taken : Text} {found : α}
    (longest : longest? accepts next text = some (taken, found)) :
    IsLongest (MayTake accepts next text) taken := by
  induction text generalizing taken with
  | nil =>
      rw [longest?, Option.map_eq_some_iff] at longest
      obtain ⟨_, isFound, same⟩ := longest
      cases same
      refine ⟨mayTake_nil_iff.mpr (by rw [isFound]; rfl), fun other mayTake => ?_⟩
      cases other with
      | nil => rfl
      | cons d other => exact absurd mayTake not_mayTake_cons_of_nil
  | cons c rest ih =>
      rw [longest?, Option.or_eq_some_iff] at longest
      rcases longest with more | ⟨noMore, here⟩
      · split at more
        · next accepted =>
            obtain ⟨⟨inner, _⟩, isInner, same⟩ := Option.map_eq_some_iff.mp more
            cases same
            obtain ⟨mayTake, longest⟩ := ih isInner
            refine ⟨mayTake_cons_iff.mpr ⟨rfl, accepted, mayTake⟩, fun other mayTake => ?_⟩
            cases other with
            | nil => exact Nat.zero_le _
            | cons d other =>
                exact Nat.succ_le_succ (longest other (mayTake_cons_iff.mp mayTake).2.2)
        · cases more
      · obtain ⟨_, isFound, same⟩ := Option.map_eq_some_iff.mp here
        cases same
        refine ⟨mayTake_nil_iff.mpr (by rw [isFound]; rfl), fun other mayTake => ?_⟩
        cases other with
        | nil => rfl
        | cons d other =>
            obtain ⟨-, accepted, below⟩ := mayTake_cons_iff.mp mayTake
            rw [if_pos accepted, Option.map_eq_none_iff] at noMore
            exact absurd below (not_mayTake_of_longest?_eq_none noMore other)

lemma isSome_longest?_iff {text : Text} :
    (longest? accepts next text).isSome = true ↔ ∃ taken, MayTake accepts next text taken := by
  constructor
  · intro isSome
    obtain ⟨⟨taken, found⟩, longest⟩ := Option.isSome_iff_exists.mp isSome
    exact ⟨taken, (longest?_spec longest).1⟩
  · rintro ⟨taken, mayTake⟩
    rw [← Option.ne_none_iff_isSome]
    exact fun none => not_mayTake_of_longest?_eq_none none taken mayTake

lemma eq_of_isLongest {text first second : Text}
    (one : IsLongest (MayTake accepts next text) first)
    (other : IsLongest (MayTake accepts next text) second) : first = second := by
  obtain ⟨mayTake, most⟩ := one
  obtain ⟨mayTake', most'⟩ := other
  have sameLength := Nat.le_antisymm (most' first mayTake) (most second mayTake')
  obtain ⟨_, split, -⟩ := mayTake
  obtain ⟨_, split', -⟩ := mayTake'
  exact List.append_inj_left (split.symm.trans split') sameLength

/-- A run gives nothing back if what comes after it still matches once more is taken. -/
lemma longest?_of_absorbs (absorbs : ∀ c rest, accepts c = true →
      (next (c :: rest)).isSome = true → (next rest).isSome = true) (text : Text) :
    longest? accepts next text =
      (next (text.dropWhile accepts)).map (text.takeWhile accepts, ·) := by
  induction text with
  | nil => rfl
  | cons c rest ih =>
      cases accepted : accepts c with
      | false => simp [longest?, accepted]
      | true =>
          rw [longest?, if_pos accepted, List.dropWhile_cons_of_pos accepted,
            List.takeWhile_cons_of_pos accepted]
          cases behind : next (rest.dropWhile accepts) with
          | some found => simp [ih, behind]
          | none =>
              have nothing : longest? accepts next rest = none := by rw [ih, behind]; rfl
              have noneHere : next (c :: rest) = none := by
                rw [← Option.not_isSome_iff_eq_none]
                intro isSome
                exact not_mayTake_of_longest?_eq_none nothing []
                  (mayTake_nil_iff.mpr (absorbs c rest accepted isSome))
              simp [nothing, noneHere]

end Runs

/-! ## What is kept, and markers -/

/-- A class that is kept keeps the longest of what it may take. -/
lemma exists_result?_kept_iff {accepts : Char → Bool} {next : Pattern} {text taken : Text} :
    (∃ rest, (Pattern.kept accepts next).result? text = some ⟨some taken, rest⟩) ↔
      IsLongest (MayTake accepts next.result? text) taken := by
  rw [Pattern.result?]
  cases longest : longest? accepts next.result? text with
  | none =>
      have nothing := not_mayTake_of_longest?_eq_none longest taken
      simp [IsLongest, nothing]
  | some found =>
      have most := longest?_spec longest
      constructor
      · rintro ⟨rest, same⟩
        cases same
        exact most
      · intro isLongest
        exact ⟨found.2.rest, by rw [eq_of_isLongest isLongest most]; rfl⟩

namespace Pattern

lemma result?_kept_done (accepts : Char → Bool) (text : Text) :
    (Pattern.kept accepts .done).result? text =
      some ⟨some (text.takeWhile accepts), text.dropWhile accepts⟩ := by
  rw [result?, longest?_of_absorbs fun _ _ _ _ => by simp [result?]]
  rfl

lemma result?_one_cons (accepts : Char → Bool) (next : Pattern) (c : Char) (rest : Text) :
    (Pattern.one accepts next).result? (c :: rest) =
      if accepts c then next.result? rest else none := rfl

lemma result?_mark {marker text : Text} {next : Pattern} {found : Match} :
    (mark marker next).result? text = some found ↔
      ∃ rest, text = marker ++ rest ∧ next.result? rest = some found := by
  induction marker generalizing text with
  | nil => simp [mark]
  | cons c marker ih =>
      rw [show mark (c :: marker) next = .one (· == c) (mark marker next) from rfl]
      cases text with
      | nil => simp [result?]
      | cons d text =>
          rw [result?]
          by_cases same : d = c
          · subst same
            simp [ih]
          · simp [same, beq_eq_false_iff_ne.mpr same]

end Pattern

end DocComment
