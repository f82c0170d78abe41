import DocComment.Proofs.ReadRuns
import DocComment.Proofs.Recognition

/-!
# A file against its text

A text in memory is cut between its newlines, a file is cut behind each of them.  So a file has no
line behind a newline at its end where the text in memory has one more, empty line, and a line of a
file still has its newline.  Neither makes a difference: the lines of a file without their newlines
are those that a stream delivers (`map_dropNewline_cutLines`), and a reader that is fed with them
one at a time comes to what reading the text at once comes to
(`file_agrees_with_text`).
-/

namespace DocComment

open Text

/-! ## Lines with their newlines -/

namespace Text

/-- The lines of a text, each with the newline that ends it.  What stands behind the last newline
is a line only if it is not empty. -/
def cutLines : Text → List Text
  | [] => []
  | c :: rest =>
    if c = '\n' then ['\n'] :: cutLines rest
    else match cutLines rest with
      | [] => [[c]]
      | line :: lines => (c :: line) :: lines

lemma dropNewline_cons_of_ne {c : Char} (notNewline : c ≠ '\n') (line : Text) :
    dropNewline (c :: line) = c :: dropNewline line := by
  by_cases ends : ['\n'] <:+ line
  · obtain ⟨front, rfl⟩ := ends
    rw [← List.cons_append, dropNewline, dropNewline, dropEnding?_append, dropEnding?_append]
    rfl
  · have endsNot : ¬ ['\n'] <:+ c :: line := by
      rw [List.suffix_cons_iff]
      simp [ends, Ne.symm notNewline]
    simp [dropNewline, dropEnding?, ends, endsNot]

lemma deliveredLines_cons_newline (text : Text) :
    deliveredLines ('\n' :: text) = [] :: deliveredLines text := by
  have shown := pieces_ne_nil '\n' text
  rw [deliveredLines, deliveredLines, pieces_cons_sep, List.getLast?_cons_of_ne_nil shown,
    List.dropLast_cons_of_ne_nil shown]
  split <;> rfl

lemma deliveredLines_cons_of_ne {c : Char} (notNewline : c ≠ '\n') (text : Text) :
    deliveredLines (c :: text) =
      match deliveredLines text with
      | [] => [[c]]
      | line :: lines => (c :: line) :: lines := by
  obtain ⟨piece, rest, found, extended⟩ := pieces_cons_of_ne notNewline text
  rw [deliveredLines, deliveredLines, found, extended]
  cases rest with
  | nil => cases piece <;> rfl
  | cons next others =>
      rw [List.getLast?_cons_cons, List.getLast?_cons_cons]
      split <;> simp_all

/-- The lines of a file are those that a stream delivers, each with its newline. -/
lemma map_dropNewline_cutLines (text : Text) :
    (cutLines text).map dropNewline = deliveredLines text := by
  induction text with
  | nil => rfl
  | cons c rest ih =>
      by_cases newline : c = '\n'
      · subst newline
        rw [deliveredLines_cons_newline, cutLines, if_pos rfl, List.map_cons, ih]
        rfl
      · rw [deliveredLines_cons_of_ne newline, ← ih, cutLines, if_neg newline]
        cases cutLines rest with
        | nil => simp [dropNewline_cons_of_ne newline]; rfl
        | cons line lines => simp [dropNewline_cons_of_ne newline]

/-- An empty line is a line, but there is none behind the last newline. -/
example : cutLines (unifyLineEnds "*/\r\n\r\n".toList) = ["*/\n".toList, "\n".toList] := by
  decide

end Text

/-! ## A reader that is fed with lines -/

/-- What a stream of lines comes to: all its blocks, or the fault that ended it. -/
def Harvest.outcome (harvest : Harvest) : Except Fault (List (Block Nat)) :=
  match harvest.stop with
  | some (_, fault) => .error fault
  | none => .ok (harvest.blocks.map (·.2))

/-- Lines that are fed one at a time come to what is gathered from the reports on them. -/
lemma outcome_harvestFrom (reader : Extractor) (taken : Nat) (raw : List Text) :
    (harvestFrom reader taken (raw.map .text)).outcome =
      (gather (reader.reports (raw.map dropNewline))).outcome := by
  induction raw generalizing reader taken with
  | nil => rfl
  | cons line rest ih =>
      have others := ih (reader.feed (dropNewline line)).1 (taken + 1)
      simp only [List.map_cons, Extractor.reports, gather, Report.outcome_bind, Report.outcome_map,
        ← others, harvestFrom, streamLine]
      cases outcome : (reader.feed (dropNewline line)).2.outcome with
      | error fault => rfl
      | ok found =>
          simp only [Except.bind, Harvest.outcome]
          cases (harvestFrom (reader.feed (dropNewline line)).1 (taken + 1)
            (rest.map .text)).stop with
          | some stopped => rfl
          | none => simp [Except.map, Function.comp_def]

/-- A text that is fed line by line comes to what it comes to at once. -/
lemma outcome_harvest_cutLines (given : OptionsInput) (text : Text) :
    (harvest given ((cutLines text).map .text)).outcome =
      (parseValue (.text text) given).outcome := by
  rw [harvest, parseValue, Report.outcome_bind, Report.outcome_ofExcept]
  cases given.read with
  | error fault => rfl
  | ok options =>
      show (harvestFrom (.start options) 0 ((cutLines text).map .text)).outcome =
        (parse options text).outcome
      rw [outcome_harvestFrom, map_dropNewline_cutLines, Extractor.reports_eq_outcomesFrom,
        ← outcome_parseLines_deliveredLines]
      rfl

/-! ## Files -/

/-- The fault in the options or in the text that is behind the fault of a file, if one is. -/
def FileFault.textFault? : FileFault → Option Fault
  | .options cause => some cause
  | .stream (.fault cause) => some cause
  | .stream (.encoding _) => none
  | .refused _ => none

/-- **A file agrees with its text.**  A file that holds the octets of a text comes to what the text
comes to in memory once its line ends are unified, with any options: to the same blocks or to the
same fault.  So does the text if its lines are fed to a reader one at a time, each with the newline
that ends it. -/
theorem file_agrees_with_text (given : OptionsInput) (text : Text) :
    let inMemory := (parseValue (.text (unifyLineEnds text)) given).outcome
    (parseFile (.octets (Utf8.encode text)) given).outcome.mapError FileFault.textFault? =
        inMemory.mapError some ∧
      (harvest given ((cutLines (unifyLineEnds text)).map .text)).outcome = inMemory := by
  intro inMemory
  refine ⟨?_, outcome_harvest_cutLines given (unifyLineEnds text)⟩
  simp only [inMemory, parseValue, parseFile, FileState.read, Report.outcome_bind,
    Report.outcome_ofExcept]
  cases given.read with
  | error fault => rfl
  | ok options =>
      simp only [outcome_parseStream_encode, Except.bind]
      cases (parse options (unifyLineEnds text)).outcome <;> rfl

end DocComment
