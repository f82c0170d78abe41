import DocComment.Proofs.Wrapping
import Mathlib.Data.List.Forall2

/-!
# Line ends do not matter to trimming

Where texts are trimmed, a line matters only through what is left of it once it is trimmed itself.
Two lines with the same rest are of kinds that are `LineKind.Alike`: only what stands on an interior
line may differ, by blanks at its ends.  A scan that takes one of the two ends up where the scan
that takes the other does, up to such blanks in the comment that is open (`Scan.Alike.step`), and so
along every run two documents whose lines are trimmed to the same lines come to the same
(`parseLines_congr`).

A carriage return before each newline is a blank at the end of a line (`map_trim_pieces_returned`),
so it does not change what a document comes to (`line_ends_do_not_matter`).
-/

namespace DocComment

open Text

/-! ## The kind of a trimmed line -/

lemma oneLineText?_of_not_marked {line : Text}
    (unmarked : ∀ rest, trimStart line ≠ ['/', '*', '*'] ++ rest) : oneLineText? line = none := by
  unfold oneLineText?
  split
  · next rest shown => exact (unmarked rest shown).elim
  · rfl

/-- What a whole comment on one line says is not changed by blanks around it. -/
lemma oneLineText?_trim (line : Text) : oneLineText? (trim line) = oneLineText? line := by
  by_cases marked : ∃ rest, trimStart line = ['/', '*', '*'] ++ rest
  · obtain ⟨rest, shown⟩ := marked
    have slash : isBlank '/' = false := by decide
    have star : isBlank '*' = false := by decide
    have trimmed : trimStart (trim line) = ['/', '*', '*'] ++ trimEnd rest := by
      rw [trimStart_trim, shown]
      simp only [List.cons_append, List.nil_append, trimEnd_cons_of_not_blank slash,
        trimEnd_cons_of_not_blank star]
    have body : trimEnd (trimStart (trimEnd rest)) = trimEnd (trimStart rest) := trim_trimEnd rest
    simp only [oneLineText?, shown, trimmed, List.cons_append, List.nil_append, body]
  · have unmarked : ∀ rest, trimStart line ≠ ['/', '*', '*'] ++ rest := not_exists.mp marked
    rw [oneLineText?_of_not_marked unmarked, oneLineText?_of_not_marked fun rest shown => ?_]
    rw [trimStart_trim] at shown
    obtain ⟨more, shows⟩ := exists_eq_append_of_trimEnd_eq shown
    exact unmarked more shows

/-- What stands on an interior line is changed by blanks around the line only at its ends. -/
lemma map_trim_interiorText?_trim (keepPadding : Bool) (line : Text) :
    (interiorText? keepPadding (trim line)).map trim =
      (interiorText? keepPadding line).map trim := by
  have shows := trimStart_trim line
  cases shown : trimStart line with
  | nil => simp [interiorText?, shown, shows]
  | cons first rest =>
      have visible : isBlank first = false := not_blank_of_trimStart_eq_cons shown
      rw [shown, trimEnd_cons_of_not_blank visible] at shows
      by_cases marker : first = '*'
      · subst marker
        cases rest with
        | nil => simp [interiorText?, shown, shows]
        | cons c content =>
            cases blank : isBlank c with
            | false =>
                rw [trimEnd_cons_of_not_blank blank] at shows
                simp [interiorText?, shown, shows, blank]
            | true =>
                have kept : ∀ text, trim (if keepPadding then text else trimStart text) =
                    trim text := by
                  intro text
                  cases keepPadding
                  · exact trim_trimStart text
                  · rfl
                rw [trimEnd_cons, blank, Bool.and_true] at shows
                cases left : trimEnd content with
                | nil =>
                    have nothing : trim content = [] := by rw [← trim_trimEnd, left, trim_nil]
                    simp [interiorText?, shown, shows, blank, left, kept, nothing]
                | cons d more =>
                    have same : trim content = trim (d :: more) := by rw [← left, trim_trimEnd]
                    simp [interiorText?, shown, shows, blank, left, kept, same]
      · simp [interiorText?, shown, shows, marker]

/-- Two kinds of line are alike if they differ only in blanks around the content of an interior
line. -/
inductive LineKind.Alike : LineKind → LineKind → Prop
  | oneLine (text : Text) : Alike (.oneLine text) (.oneLine text)
  | opening : Alike .opening .opening
  | interior {text other : Text} (same : trim text = trim other) :
      Alike (.interior text) (.interior other)
  | closing : Alike .closing .closing
  | other : Alike .other .other

lemma kinds_alike (keepPadding : Bool) {line other : Text} (same : trim line = trim other) :
    (LineKind.of keepPadding line).Alike (LineKind.of keepPadding other) := by
  have oneLine : oneLineText? line = oneLineText? other := by
    rw [← oneLineText?_trim, same, oneLineText?_trim]
  have opening : isOpening line = isOpening other := by rw [isOpening, isOpening, same]
  have closing : isClosing line = isClosing other := by rw [isClosing, isClosing, same]
  have interior : (interiorText? keepPadding line).map trim =
      (interiorText? keepPadding other).map trim := by
    rw [← map_trim_interiorText?_trim, same, map_trim_interiorText?_trim]
  rw [LineKind.of, LineKind.of, oneLine, opening, closing]
  cases oneLineText? other with
  | some text => exact .oneLine text
  | none =>
      cases isOpening other with
      | true => exact .opening
      | false =>
          cases ofLine : interiorText? keepPadding line <;>
            cases ofOther : interiorText? keepPadding other <;>
            simp only [ofLine, ofOther, Option.map_none, Option.map_some, Option.some.injEq,
              reduceCtorEq] at interior
          · cases isClosing other
            · exact .other
            · exact .closing
          · exact .interior interior

/-! ## Scans of lines that are trimmed to the same -/

/-- Two sequences of lines agree in their numbers and, up to blanks at the ends, in their texts. -/
def SameTrimmed (lines others : List (Line Nat)) : Prop :=
  lines.map (Line.trimIf true) = others.map (Line.trimIf true)

/-- Two open comments have the same opening line and the same contents up to blanks. -/
structure Pending.Alike (pending other : Pending) : Prop where
  opened : pending.opened = other.opened
  interior : SameTrimmed pending.interior other.interior

/-- Two scans are at the same number, and in comments that are alike if they are in any. -/
structure Scan.Alike (scan other : Scan) : Prop where
  next : scan.next = other.next
  pending : Option.Rel Pending.Alike scan.pending other.pending

/-- Two findings are alike if they differ only in blanks around the lines of a comment. -/
inductive Finding.Alike : Finding → Finding → Prop
  | nothing : Alike .nothing .nothing
  | comment {lines others : List (Line Nat)} (same : SameTrimmed lines others) :
      Alike (.comment lines) (.comment others)
  | abandoned (opened given : Nat) : Alike (.abandoned opened given) (.abandoned opened given)

/-- Comments that are alike stay so when they are closed. -/
lemma Pending.Alike.close {pending other : Pending} (alike : pending.Alike other) (closed : Nat) :
    SameTrimmed (pending.close closed) (other.close closed) := by
  have interior := alike.interior
  rw [SameTrimmed] at interior ⊢
  simp only [Pending.close, List.map_append, List.map_cons, List.map_reverse, alike.opened,
    interior]

/-- Scans that are alike stay so over lines that are trimmed to the same, and find the same. -/
lemma Scan.Alike.step {scan other : Scan} (alike : scan.Alike other) (keepPadding : Bool)
    {line otherLine : Text} (same : trim line = trim otherLine) :
    (scan.step keepPadding line).1.Alike (other.step keepPadding otherLine).1 ∧
      (scan.step keepPadding line).2.Alike (other.step keepPadding otherLine).2 := by
  obtain ⟨next, pending⟩ := scan
  obtain ⟨otherNext, otherPending⟩ := other
  obtain ⟨rfl, pendings⟩ := alike
  have kinds := kinds_alike keepPadding same
  unfold Scan.step
  generalize LineKind.of keepPadding line = kind at kinds
  generalize LineKind.of keepPadding otherLine = otherKind at kinds
  cases kinds with
  | oneLine text => exact ⟨⟨rfl, pendings⟩, .comment rfl⟩
  | opening => exact ⟨⟨rfl, .some ⟨rfl, rfl⟩⟩, .nothing⟩
  | interior same =>
      cases pendings with
      | none => exact ⟨⟨rfl, .none⟩, .nothing⟩
      | some comments =>
          refine ⟨⟨rfl, .some ⟨comments.opened, ?_⟩⟩, .nothing⟩
          have interior := comments.interior
          rw [SameTrimmed] at interior ⊢
          simp only [List.map_cons, interior, Line.trimIf, same, if_true]
  | closing =>
      cases pendings with
      | none => exact ⟨⟨rfl, .none⟩, .nothing⟩
      | some comments => exact ⟨⟨rfl, .none⟩, .comment (comments.close next)⟩
  | other =>
      cases pendings with
      | none => exact ⟨⟨rfl, .none⟩, .nothing⟩
      | some comments =>
          simp only [comments.opened]
          exact ⟨⟨rfl, .none⟩, .abandoned _ next⟩

section Run

variable {options : Options}

lemma Finding.Alike.outcome (trims : options.trim = true) {finding other : Finding}
    (alike : finding.Alike other) : finding.outcome options = other.outcome options := by
  cases alike with
  | nothing => rfl
  | comment same => exact parseBlock_congr options (trims ▸ same)
  | abandoned opened given => rfl

lemma outcomesFrom_congr (trims : options.trim = true) {scan other : Scan}
    (alike : scan.Alike other) {lines others : List Text}
    (same : lines.map trim = others.map trim) :
    outcomesFrom options scan lines = outcomesFrom options other others := by
  induction lines generalizing scan other others with
  | nil =>
      obtain rfl := List.map_eq_nil_iff.mp same.symm
      rfl
  | cons line rest ih =>
      obtain ⟨otherLine, otherRest, rfl, sameLine, sameRest⟩ := List.map_eq_cons_iff.mp same.symm
      obtain ⟨scans, findings⟩ := alike.step (!options.trim) sameLine.symm
      have first := findings.outcome trims
      have others := ih scans sameRest.symm
      rw [outcomesFrom, outcomesFrom] at others ⊢
      rw [Scan.findings, Scan.findings, List.map_cons, List.map_cons, first, others]

/-- Documents whose lines are trimmed to the same come to the same. -/
lemma parseLines_congr (trims : options.trim = true) {lines others : List Text}
    (same : lines.map trim = others.map trim) :
    parseLines options lines = parseLines options others := by
  have start : Scan.start.Alike Scan.start := ⟨rfl, .none⟩
  rw [parseLines, parseLines, outcomes, outcomes, outcomesFrom_congr trims start same]

end Run

/-! ## Carriage returns -/

/-- The text with a carriage return before every newline. -/
def Text.returned (text : Text) : Text :=
  text.flatMap fun c => if c = '\n' then ['\r', '\n'] else [c]

lemma returned_cons_of_ne {c : Char} (notNewline : c ≠ '\n') (text : Text) :
    returned (c :: text) = c :: returned text := by
  simp [returned, notNewline]

lemma returned_cons_newline (text : Text) :
    returned ('\n' :: text) = '\r' :: '\n' :: returned text := by
  simp [returned]

/-- A line as it stands in a text, and with a carriage return at its end or without. -/
def ReturnedLine (line other : Text) : Prop := other = line ∨ other = line ++ ['\r']

lemma ReturnedLine.trim_eq {line other : Text} (returned : ReturnedLine line other) :
    trim line = trim other := by
  rcases returned with rfl | rfl
  · rfl
  · have blankReturn : ∀ c ∈ ['\r'], isBlank c = true :=
      List.forall_mem_singleton.mpr (by decide)
    have nothing : ∀ c ∈ ([] : Text), isBlank c = true := nofun
    exact (trim_append_append nothing blankReturn line).symm

/-- Carriage returns before the newlines of a text stand at the ends of its lines. -/
lemma pieces_returned (text : Text) :
    List.Forall₂ ReturnedLine (pieces '\n' text) (pieces '\n' (returned text)) := by
  induction text with
  | nil => exact .cons (.inl rfl) .nil
  | cons c rest ih =>
      by_cases newline : c = '\n'
      · subst newline
        have returnFirst : '\r' :: '\n' :: returned rest = ['\r'] ++ '\n' :: returned rest := rfl
        have alone : pieces '\n' ['\r'] = [['\r']] := by decide
        rw [returned_cons_newline, pieces_cons_sep, returnFirst, pieces_append_sep, alone]
        exact .cons (.inr rfl) ih
      · obtain ⟨line, lines, found, extended⟩ := pieces_cons_of_ne newline rest
        obtain ⟨other, others, foundReturned, extendedReturned⟩ :=
          pieces_cons_of_ne newline (returned rest)
        rw [found, foundReturned] at ih
        rw [returned_cons_of_ne newline, extended, extendedReturned]
        cases ih with
        | cons first following =>
            refine .cons ?_ following
            rcases first with rfl | rfl
            · exact .inl rfl
            · exact .inr rfl

lemma map_trim_pieces_returned (text : Text) :
    (pieces '\n' text).map trim = (pieces '\n' (returned text)).map trim := by
  have same : List.Forall₂ (fun line other => trim line = trim other)
      (pieces '\n' text) (pieces '\n' (returned text)) :=
    (pieces_returned text).imp fun _ _ => ReturnedLine.trim_eq
  rwa [← List.forall₂_eq_eq_eq, List.forall₂_map_left_iff, List.forall₂_map_right_iff]

lemma parse_returned {options : Options} (trims : options.trim = true) (source : Text) :
    parse options (returned source) = parse options source := by
  rw [parse, parse, parseLines_congr trims (map_trim_pieces_returned source)]

/-- **Line ends do not matter to trimming.**  With any options that have texts trimmed, a document
comes to the same with a carriage return before each of its newlines as without: to the same blocks
with the same numbers or to the same fault, with the same notes on the way. -/
theorem line_ends_do_not_matter (given : OptionsInput)
    (trims : ∀ options, given.read = .ok options → options.trim = true) (source : Text) :
    parseValue (.text (returned source)) given = parseValue (.text source) given := by
  rw [parseValue, parseValue]
  cases read : given.read with
  | error fault => rfl
  | ok options =>
      have same := parse_returned (trims options read) source
      show Report.andThen _ (fun options => parse options (returned source)) =
        Report.andThen _ fun options => parse options source
      simp only [Report.andThen, Report.ofExcept, same]

/-- Options that have texts trimmed and names nested. -/
def nestingSettings : Settings := ⟨.bool true, .bool true, Builtin.parsers⟩

/-- A document with lines that end in a carriage return and others that do not, with a marker that
has nothing behind it, and with a comment on one line. -/
def mixedLineEnds : Text :=
  "/**\r\n *\n * Adds\rup.\n * @a p\r\n *\r\n * @a p.q\n */\r\r\n/** @b r */\n *".toList

theorem mixed_line_ends_do_not_matter :
    (∀ options, (OptionsInput.settings nestingSettings).read = .ok options →
      options.trim = true) ∧
    parseValue (.text (returned mixedLineEnds)) (.settings nestingSettings) =
      parseValue (.text mixedLineEnds) (.settings nestingSettings) ∧
    ((parseValue (.text mixedLineEnds) (.settings nestingSettings)).outcome.map
      (List.map (·.source))).toOption =
        some ["Adds\rup.\n@a p\n\n@a p.q".toList, "@b r".toList] := by
  have trims : ∀ options, (OptionsInput.settings nestingSettings).read = .ok options →
      options.trim = true := by
    rintro options ⟨⟩
    rfl
  exact ⟨trims, line_ends_do_not_matter (.settings nestingSettings) trims mixedLineEnds,
    by decide +kernel⟩

end DocComment
