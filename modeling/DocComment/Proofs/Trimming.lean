import DocComment.Proofs.LineKinds
import DocComment.Proofs.Pieces
import Mathlib.Data.List.Induction

/-!
# What trimming keeps

Every list splits into a middle part and two ends such that a class holds all of the ends and
neither the first nor the last item of the middle (`exists_core`).  For the blanks of a text the
middle part is the trimmed text (`trim_surround`), so blanks at the ends of a text do not matter to
trimming, and neither do empty lines around others (`trim_joinLines_surround`).
-/

namespace DocComment.Text

/-! ## Middle and ends -/

section Core

variable {α : Type}

/-- Neither the first nor the last item of a list is in a class. -/
structure Tight (inClass : α → Bool) (items : List α) : Prop where
  first : ∀ item ∈ items.head?, inClass item = false
  last : ∀ item ∈ items.getLast?, inClass item = false

lemma not_of_mem_head?_dropWhile {inClass : α → Bool} {items : List α} {item : α}
    (first : item ∈ (items.dropWhile inClass).head?) : inClass item = false := by
  have stopped := List.head?_dropWhile_not inClass items
  rw [Option.mem_def] at first
  simpa only [first] using stopped

/-- Every list has a tight middle between two ends of items in the class. -/
lemma exists_core (inClass : α → Bool) (items : List α) :
    ∃ before core after, items = before ++ core ++ after ∧ (∀ item ∈ before, inClass item = true) ∧
      (∀ item ∈ after, inClass item = true) ∧ Tight inClass core := by
  let kept := items.dropWhile inClass
  let core := (kept.reverse.dropWhile inClass).reverse
  let after := (kept.reverse.takeWhile inClass).reverse
  have split : kept = core ++ after := by
    rw [← List.reverse_append, List.takeWhile_append_dropWhile, List.reverse_reverse]
  have tight : Tight inClass core := by
    refine ⟨fun item first => ?_, fun item last => ?_⟩
    · -- The first item of the middle is the first that was not dropped.
      have firstKept : item ∈ kept.head? := by
        rw [split, List.head?_append, Option.mem_def.mp first]
        rfl
      exact not_of_mem_head?_dropWhile firstKept
    · rw [List.getLast?_reverse] at last
      exact not_of_mem_head?_dropWhile last
  refine ⟨items.takeWhile inClass, core, after, ?_, ?_, ?_, tight⟩
  · rw [List.append_assoc, ← split, List.takeWhile_append_dropWhile]
  · exact fun item found => List.mem_takeWhile_imp found
  · exact fun item found => List.mem_takeWhile_imp (List.mem_reverse.mp found)

end Core

/-! ## Blanks -/

section Blank

variable {before core after : Text}

lemma takeWhile_append_trimStart (text : Text) :
    text.takeWhile isBlank ++ trimStart text = text :=
  List.takeWhile_append_dropWhile

lemma trimEnd_append_of_blanks (blankAfter : ∀ c ∈ after, isBlank c = true) (text : Text) :
    trimEnd (text ++ after) = trimEnd text := by
  have blankReverse : ∀ c ∈ after.reverse, isBlank c = true :=
    fun c found => blankAfter c (List.mem_reverse.mp found)
  rw [trimEnd, trimEnd, List.reverse_append, List.dropWhile_append_of_pos blankReverse]

/-- Trimming takes the ends of blanks away from a tight middle. -/
lemma trim_surround (blankBefore : ∀ c ∈ before, isBlank c = true)
    (blankAfter : ∀ c ∈ after, isBlank c = true) (tight : Tight isBlank core) :
    trim (before ++ core ++ after) = core := by
  have start : trimStart (before ++ core ++ after) = trimStart (core ++ after) := by
    rw [trimStart, List.append_assoc, List.dropWhile_append_of_pos blankBefore, trimStart]
  cases core with
  | nil => rw [trim, start, List.nil_append, trimStart_eq_nil_of_blanks blankAfter, trimEnd_nil]
  | cons c rest =>
      have visible : isBlank c = false := tight.first c rfl
      rw [trim, start, List.cons_append, trimStart_cons_of_not_blank visible, ← List.cons_append,
        trimEnd_append_of_blanks blankAfter]
      obtain ⟨others, final, shown⟩ := List.eq_nil_or_concat (c :: rest) |>.resolve_left (by simp)
      have visibleLast : isBlank final = false :=
        tight.last final (by rw [shown, List.concat_eq_append]; simp)
      rw [shown, List.concat_eq_append, trimEnd, List.reverse_append, List.reverse_singleton,
        List.singleton_append, List.dropWhile_cons_of_neg (by simp [visibleLast])]
      simp

/-- A text is its trimmed text between two ends of blanks. -/
lemma exists_eq_append_trim_append (text : Text) :
    ∃ before after, text = before ++ trim text ++ after ∧ (∀ c ∈ before, isBlank c = true) ∧
      (∀ c ∈ after, isBlank c = true) ∧ Tight isBlank (trim text) := by
  obtain ⟨before, core, after, split, blankBefore, blankAfter, tight⟩ := exists_core isBlank text
  have trimmed : trim text = core := by rw [split, trim_surround blankBefore blankAfter tight]
  exact ⟨before, after, by rw [trimmed]; exact split, blankBefore, blankAfter, trimmed ▸ tight⟩

lemma tight_trim (text : Text) : Tight isBlank (trim text) := by
  obtain ⟨-, -, -, -, -, tight⟩ := exists_eq_append_trim_append text
  exact tight

lemma trim_subset (text : Text) : trim text ⊆ text := by
  obtain ⟨before, after, split, -⟩ := exists_eq_append_trim_append text
  intro c found
  rw [split]
  simp [found]

lemma trim_of_tight (tight : Tight isBlank core) : trim core = core := by
  have nothing : ∀ c ∈ ([] : Text), isBlank c = true := nofun
  simpa using trim_surround nothing nothing tight

@[simp] lemma trim_trim (text : Text) : trim (trim text) = trim text :=
  trim_of_tight (tight_trim text)

@[simp] lemma map_trim_map_trim (texts : List Text) :
    (texts.map trim).map trim = texts.map trim := by
  rw [List.map_map]
  exact List.map_congr_left fun text _ => trim_trim text

/-- Blanks around a text do not matter to trimming. -/
lemma trim_append_append (blankBefore : ∀ c ∈ before, isBlank c = true)
    (blankAfter : ∀ c ∈ after, isBlank c = true) (text : Text) :
    trim (before ++ text ++ after) = trim text := by
  obtain ⟨first, last, split, blankFirst, blankLast, tight⟩ := exists_eq_append_trim_append text
  have regrouped : before ++ text ++ after =
      (before ++ first) ++ trim text ++ (last ++ after) := by
    calc before ++ text ++ after
        = before ++ (first ++ trim text ++ last) ++ after := by rw [← split]
      _ = (before ++ first) ++ trim text ++ (last ++ after) := by simp only [List.append_assoc]
  rw [regrouped]
  exact trim_surround (List.forall_mem_append.mpr ⟨blankBefore, blankFirst⟩)
    (List.forall_mem_append.mpr ⟨blankLast, blankAfter⟩) tight

@[simp] lemma trim_trimStart (text : Text) : trim (trimStart text) = trim text := by
  have split := takeWhile_append_trimStart text
  have blanks : ∀ c ∈ text.takeWhile isBlank, isBlank c = true :=
    fun c found => List.mem_takeWhile_imp found
  have nothing : ∀ c ∈ ([] : Text), isBlank c = true := nofun
  have trimmed := trim_append_append blanks nothing (trimStart text)
  rw [List.append_nil, split] at trimmed
  exact trimmed.symm

end Blank

/-! ## The first characters of a trimmed text -/

/-- Trimming the end of a text takes its first character only if nothing else is left. -/
lemma trimEnd_cons (c : Char) (text : Text) :
    trimEnd (c :: text) =
      if (trimEnd text).isEmpty && isBlank c then [] else c :: trimEnd text := by
  rw [trimEnd, trimEnd, List.reverse_cons, List.dropWhile_append]
  cases dropped : text.reverse.dropWhile isBlank with
  | nil => cases blank : isBlank c <;> simp [blank]
  | cons last before => simp

lemma trimEnd_cons_of_not_blank {c : Char} (visible : isBlank c = false) (text : Text) :
    trimEnd (c :: text) = c :: trimEnd text := by
  simp [trimEnd_cons, visible]

@[simp] lemma trim_trimEnd (text : Text) : trim (trimEnd text) = trim text := by
  obtain ⟨blanks, split, allBlank⟩ := exists_eq_trimEnd_append text
  have nothing : ∀ c ∈ ([] : Text), isBlank c = true := nofun
  have trimmed := trim_append_append nothing allBlank (trimEnd text)
  rw [List.nil_append, ← split] at trimmed
  exact trimmed.symm

/-- What a text shows begins with a character that is not blank. -/
lemma not_blank_of_trimStart_eq_cons {text rest : Text} {c : Char}
    (shown : trimStart text = c :: rest) : isBlank c = false :=
  not_of_mem_head?_dropWhile (by rw [← trimStart, shown]; rfl)

/-- What a trimmed text shows is what the text shows, without the blanks at its end. -/
lemma trimStart_trim (text : Text) : trimStart (trim text) = trimEnd (trimStart text) := by
  rw [trim]
  cases shown : trimStart text with
  | nil => rfl
  | cons c rest =>
      have visible := not_blank_of_trimStart_eq_cons shown
      rw [trimEnd_cons_of_not_blank visible, trimStart_cons_of_not_blank visible]

/-- If the end of a text is trimmed, the text begins with what is left. -/
lemma exists_eq_append_of_trimEnd_eq {text front rest : Text}
    (left : trimEnd text = front ++ rest) : ∃ more, text = front ++ more := by
  obtain ⟨blanks, split, -⟩ := exists_eq_trimEnd_append text
  exact ⟨rest ++ blanks, by rw [split, left, List.append_assoc]⟩

/-! ## Empty lines -/

section EmptyLines

variable {before core after : List Text}

lemma head?_joinLines {line : Text} (shown : line ≠ []) (rest : List Text) :
    (joinLines (line :: rest)).head? = line.head? := by
  obtain ⟨c, more, rfl⟩ := List.exists_cons_of_ne_nil shown
  cases rest <;> rfl

lemma joinLines_concat (line : Text) (before : List Text) (last : Text) :
    joinLines (line :: before ++ [last]) = joinLines (line :: before) ++ '\n' :: last := by
  induction before generalizing line with
  | nil => rfl
  | cons next rest ih =>
      rw [List.cons_append, List.cons_append, joinLines_cons_cons, joinLines_cons_cons,
        ← List.cons_append, ih, List.append_assoc, List.cons_append]

/-- Empty lines in front of others put newlines in front of them. -/
lemma exists_joinLines_append_left (emptyBefore : ∀ line ∈ before, line = [])
    (notEmpty : core ≠ []) :
    ∃ newlines, joinLines (before ++ core) = newlines ++ joinLines core ∧
      ∀ c ∈ newlines, isBlank c = true := by
  induction before with
  | nil => exact ⟨[], rfl, nofun⟩
  | cons line rest ih =>
      obtain ⟨rfl, others⟩ := List.forall_mem_cons.mp emptyBefore
      obtain ⟨newlines, joined, blank⟩ := ih others
      obtain ⟨next, more, split⟩ :=
        List.exists_cons_of_ne_nil (List.append_ne_nil_of_right_ne_nil rest notEmpty)
      refine ⟨'\n' :: newlines, ?_, List.forall_mem_cons.mpr ⟨by decide, blank⟩⟩
      rw [List.cons_append, List.cons_append, ← joined, split, joinLines_cons_cons,
        List.nil_append]

lemma exists_joinLines_append_right (emptyAfter : ∀ line ∈ after, line = [])
    (notEmpty : core ≠ []) :
    ∃ newlines, joinLines (core ++ after) = joinLines core ++ newlines ∧
      ∀ c ∈ newlines, isBlank c = true := by
  induction after using List.reverseRecOn with
  | nil => exact ⟨[], by simp, nofun⟩
  | append_singleton rest line ih =>
      obtain ⟨others, isEmpty⟩ := List.forall_mem_append.mp emptyAfter
      obtain rfl := isEmpty line (List.mem_singleton_self line)
      obtain ⟨newlines, joined, blank⟩ := ih others
      obtain ⟨first, more, split⟩ :=
        List.exists_cons_of_ne_nil (List.append_ne_nil_of_left_ne_nil notEmpty rest)
      refine ⟨newlines ++ ['\n'], ?_,
        List.forall_mem_append.mpr ⟨blank, List.forall_mem_singleton.mpr (by decide)⟩⟩
      rw [← List.append_assoc, split, joinLines_concat, ← split, joined, List.append_assoc]

/-- Empty lines around others do not matter to trimming. -/
lemma trim_joinLines_surround (emptyBefore : ∀ line ∈ before, line = [])
    (emptyAfter : ∀ line ∈ after, line = []) (notEmpty : core ≠ []) :
    trim (joinLines (before ++ core ++ after)) = trim (joinLines core) := by
  obtain ⟨behind, joinedRight, blankBehind⟩ := exists_joinLines_append_right emptyAfter
    (List.append_ne_nil_of_right_ne_nil before notEmpty)
  obtain ⟨front, joinedLeft, blankFront⟩ := exists_joinLines_append_left emptyBefore notEmpty
  rw [joinedRight, joinedLeft]
  exact trim_append_append blankFront blankBehind _

/-- Trimmed lines of which the first and the last are not empty join to a trimmed text. -/
lemma trim_joinLines_of_tight (tight : Tight List.isEmpty core)
    (trimmed : ∀ line ∈ core, trim line = line) : trim (joinLines core) = joinLines core := by
  cases core with
  | nil => rfl
  | cons first rest =>
      have shown : first ≠ [] := by simpa using tight.first first rfl
      refine trim_of_tight ⟨fun c starts => ?_, fun c ends => ?_⟩
      · rw [head?_joinLines shown, ← trimmed first List.mem_cons_self] at starts
        exact (tight_trim first).first c starts
      · rcases List.eq_nil_or_concat rest with rfl | ⟨middle, last, rfl⟩
        · rw [joinLines_singleton, ← trimmed first List.mem_cons_self] at ends
          exact (tight_trim first).last c ends
        · rw [List.concat_eq_append, ← List.cons_append] at tight trimmed ends
          have isLast : last ∈ (first :: middle ++ [last]).getLast? := by
            rw [List.getLast?_append]
            rfl
          obtain ⟨d, more, rfl⟩ := List.exists_cons_of_ne_nil
            (by simpa using tight.last last isLast : last ≠ [])
          rw [joinLines_concat, List.getLast?_append, List.getLast?_cons_cons,
            List.getLast?_cons, Option.some_or, ← List.getLast?_cons,
            ← trimmed (d :: more) (List.mem_of_getLast? isLast)] at ends
          exact (tight_trim (d :: more)).last c ends

end EmptyLines

end DocComment.Text
