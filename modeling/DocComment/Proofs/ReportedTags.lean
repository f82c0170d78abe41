import DocComment.Proofs.HeadersAndTags
import DocComment.Proofs.TagSpelling

/-!
# The tags that the standard parsers report

The standard parsers write a tag for every header that begins with its `@`, and none for a header
that is indented (`exists_writtenTag?_of_header`).  The tag has the number of the header for its
line, and the keyword is what stands behind the `@`, whatever the later parsers make of the rest of
the text.  So what the tags of a comment report of themselves can be read off its lines
(`exists_writtenTags_of_lines`), whether these are trimmed or not, and what the tags of a document
report can be read off what a scan of it finds (`exists_blocks_recorded`).

Blanks around a line do not matter to whether it is a header, or to its keyword (`isHeader_trim`,
`keywordOf_trim`).
-/

namespace DocComment

open Text

/-! ## Headers and their keywords -/

/-- The keyword of a header: what stands behind its `@` up to the next blank. -/
def keywordOf (text : Text) : Text := ((trimStart text).drop 1).takeWhile (!isBlank ·)

lemma not_blank_of_isWord {c : Char} (word : isWord c = true) : isBlank c = false := by
  have apart : ∀ range ∈ wordRanges, ∀ blank ∈ blankRanges,
      range.2 < blank.1 ∨ blank.2 < range.1 := by
    decide +kernel
  rw [Bool.eq_false_iff]
  intro isBlankToo
  obtain ⟨range, isRange, low, high⟩ := inRanges_iff.mp word
  obtain ⟨blank, isBlankRange, lowBlank, highBlank⟩ := inRanges_iff.mp isBlankToo
  rcases apart range isRange blank isBlankRange with before | behind <;> omega

lemma isHeader_iff {text : Text} :
    isHeader text = true ↔ ∃ c rest, trimStart text = ['@', c] ++ rest ∧ isWord c = true := by
  unfold isHeader
  split
  · next c rest shown =>
      constructor
      · exact fun word => ⟨c, rest, shown, word⟩
      · rintro ⟨d, others, again, word⟩
        cases shown.symm.trans again
        exact word
  · next other =>
      refine ⟨nofun, ?_⟩
      rintro ⟨c, rest, shown, -⟩
      exact (other c rest shown).elim

lemma isHeader_trim (text : Text) : isHeader (trim text) = isHeader text := by
  rw [Bool.eq_iff_iff, isHeader_iff, isHeader_iff, trimStart_trim]
  constructor
  · rintro ⟨c, rest, shown, word⟩
    obtain ⟨more, shows⟩ := exists_eq_append_of_trimEnd_eq shown
    exact ⟨c, more, shows, word⟩
  · rintro ⟨c, rest, shown, word⟩
    have marker : isBlank '@' = false := by decide
    refine ⟨c, trimEnd rest, ?_, word⟩
    rw [shown, List.cons_append, List.singleton_append, trimEnd_cons_of_not_blank marker,
      trimEnd_cons_of_not_blank (not_blank_of_isWord word)]
    rfl

lemma keywordOf_trim (text : Text) : keywordOf (trim text) = keywordOf text := by
  rw [keywordOf, keywordOf, trimStart_trim]
  cases shown : trimStart text with
  | nil => rfl
  | cons c rest =>
      obtain ⟨blanks, split, allBlank⟩ := exists_eq_trimEnd_append rest
      have ends : EndsPart blanks := by
        cases blanks with
        | nil => exact .inl rfl
        | cons d more => exact .inr (allBlank d List.mem_cons_self)
      rw [trimEnd_cons_of_not_blank (not_blank_of_trimStart_eq_cons shown), List.drop_one,
        List.drop_one, List.tail_cons, List.tail_cons]
      conv_rhs => rw [split]
      rw [takeWhile_append_of_endsPart _ ends]

/-! ## The tags of a comment -/

section Comment

variable {ν : Type}

/-- What a tag reports of itself: its line and its keyword. -/
def TagNode.report (node : TagNode ν) : ν × Value := (node.line, node.tag)

/-- What the tag of a line reports, if the line is a header that begins with its `@`. -/
def recordedHeader? (line : Line ν) : Option (ν × Value) :=
  if isHeader line.text && line.text.head? == some '@' then
    some (line.number, .text (keywordOf line.text))
  else none

lemma trim_text_of_mem {trimmed : Bool} {lines : List (Line ν)} {line : Line ν}
    (found : line ∈ lines.map (Line.trimIf trimmed)) :
    trimmed = true → trim line.text = line.text := by
  rintro rfl
  obtain ⟨origin, -, rfl⟩ := List.mem_map.mp found
  exact trim_trim origin.text

/-- The text of a passage begins with its header, and goes on with a line of its own. -/
lemma exists_sourceOf {trimmed : Bool} {header : Text} (shown : header ≠ [])
    (fits : trimmed = true → trim header = header) (more : List Text) :
    ∃ kept, sourceOf trimmed (header :: more) = header ++ kept ∧ EndsPart kept := by
  cases trimmed with
  | true =>
      obtain ⟨kept, source, ends⟩ :=
        exists_sourceOf_true (fits rfl ▸ tight_trim header) shown more
      refine ⟨kept, source, ends.imp_right ?_⟩
      rintro ⟨others, rfl⟩
      rfl
  | false =>
      cases more with
      | nil => exact ⟨[], (List.append_nil header).symm, .inl rfl⟩
      | cons next rest => exact ⟨_, joinLines_cons_cons header next rest, .inr rfl⟩

/-- The standard parsers read a text that goes on with a keyword behind its `@` as a tag of this
keyword. -/
lemma exists_parsed_keyword {source : Text} (named : source.takeWhile (!isBlank ·) ≠ [])
    (number : ν) :
    ∃ record, (parseTag ('@' :: source) Builtin.parsers : Report ν (Option Record)).outcome =
        .ok (some record) ∧
      (TagNode.ofRecord record number ('@' :: source)).tag =
        .text (source.takeWhile (!isBlank ·)) := by
  obtain ⟨record, _, _, _, _, parsed, run⟩ := exists_standardRun ν source
  refine ⟨record, parsed, ?_⟩
  show Record.getD _ "tag" Value.null = _
  rw [Record.getD, get?_withoutPlace record (by decide), run.get?_tag named]
  rfl

/-- A header that begins with its `@` writes a tag with its number and its keyword; one that is
indented writes none. -/
lemma exists_writtenTag?_of_header {trimmed : Bool} {header : Line ν}
    (isHeaderLine : isHeader header.text = true)
    (fits : trimmed = true → trim header.text = header.text) (more : List Text) :
    ∃ written, writtenTag? trimmed Builtin.parsers ⟨header.text :: more, header.number⟩ =
        .ok written ∧
      (∀ node ∈ written, node.tags = []) ∧ written.map TagNode.report = recordedHeader? header := by
  obtain ⟨text, number⟩ := header
  have shown : text ≠ [] := ne_nil_of_isHeader isHeaderLine
  obtain ⟨kept, source, ends⟩ := exists_sourceOf shown fits more
  by_cases marked : text.head? = some '@'
  · have noBlank : ∀ c ∈ text.head?, isBlank c = false := by
      rw [marked]
      rintro c ⟨⟩
      decide
    obtain ⟨c, rest, rfl, word⟩ := exists_eq_cons_of_isHeader isHeaderLine noBlank
    have visible := not_blank_of_isWord word
    -- The lines below the header start with a line end, so they add nothing to its keyword.
    have taken : (c :: rest ++ kept).takeWhile (!isBlank ·) = (c :: rest).takeWhile (!isBlank ·) :=
      takeWhile_append_of_endsPart _ ends
    have named : (c :: rest ++ kept).takeWhile (!isBlank ·) ≠ [] := by simp [visible]
    obtain ⟨record, parsed, tag⟩ := exists_parsed_keyword named number
    have recorded : recordedHeader? (Line.mk ('@' :: c :: rest) number) =
        some (number, .text ((c :: rest).takeWhile (!isBlank ·))) :=
      if_pos (by simpa using isHeaderLine)
    refine ⟨some (.ofRecord record number ('@' :: (c :: rest ++ kept))), ?_, ?_, ?_⟩
    · rw [writtenTag?, source]
      exact map_eq_ok_iff.mpr ⟨_, parsed, rfl⟩
    · rintro node ⟨⟩
      rfl
    · rw [recorded, ← taken, ← tag]
      rfl
  · have silent : (sourceOf trimmed (text :: more)).head? ≠ some '@' := by
      rw [source, List.head?_append_of_ne_nil _ shown]
      exact marked
    have unrecorded : recordedHeader? (Line.mk text number) = none := by
      simp [recordedHeader?, marked]
    exact ⟨none, (writtenTag?_eq_ok_none_iff _).mpr silent, by simp, unrecorded.symm⟩

/-- The standard parsers write the tags of lines in a row: one for each header that begins with its
`@`. -/
lemma exists_writtenTags_of_lines {trimmed : Bool} (lines : List (Line ν))
    (fits : trimmed = true → ∀ line ∈ lines, trim line.text = line.text) :
    ∃ nodes, writtenTags trimmed Builtin.parsers (passages lines).2 = .ok nodes ∧
      (∀ node ∈ nodes, node.tags = []) ∧
      nodes.map TagNode.report = lines.filterMap recordedHeader? := by
  induction lines with
  | nil => exact ⟨[], rfl, nofun, rfl⟩
  | cons line rest ih =>
      obtain ⟨others, later, bareOthers, reported⟩ :=
        ih fun trims other found => fits trims other (List.mem_cons_of_mem line found)
      rw [passages_cons]
      cases header : isHeader line.text with
      | true =>
          obtain ⟨written, first, bare, report⟩ := exists_writtenTag?_of_header header
            (fun trims => fits trims line List.mem_cons_self) (passages rest).1
          refine ⟨written.toList ++ others,
            collect_cons_eq_ok_iff.mpr ⟨written, others, first, later, rfl⟩, ?_, ?_⟩
          · exact List.forall_mem_append.mpr
              ⟨fun node found => bare node (Option.mem_toList.mp found), bareOthers⟩
          · rw [List.map_append, reported, List.filterMap_cons, ← report]
            cases written <;> rfl
      | false =>
          have none : recordedHeader? line = none := by simp [recordedHeader?, header]
          exact ⟨others, later, bareOthers, by rw [reported, List.filterMap_cons, none]⟩

end Comment

/-! ## The tags of a document -/

/-- What the tags in blocks report, block by block. -/
def reportedTags (blocks : List (Block Nat)) : List (Nat × Value) :=
  blocks.flatMap fun block => (tagsWithin block.tags).map TagNode.report

/-- What the tags of a finding report. -/
def Finding.recorded (trimmed : Bool) : Finding → List (Nat × Value)
  | .comment lines => (lines.map (Line.trimIf trimmed)).filterMap recordedHeader?
  | _ => []

/-- A finding comes to a block with tags for its recorded headers, or to none if there are none. -/
lemma exists_outcome_finding (trimmed : Bool) (finding : Finding) :
    ∃ found, (finding.outcome ⟨trimmed, false, Builtin.parsers⟩).outcome = .ok found ∧
      reportedTags found.toList = finding.recorded trimmed := by
  cases finding with
  | nothing => exact ⟨none, rfl, rfl⟩
  | abandoned opened given => exact ⟨none, rfl, rfl⟩
  | comment lines =>
      obtain ⟨nodes, written, bare, reported⟩ := exists_writtenTags_of_lines
        (lines.map (Line.trimIf trimmed)) fun trims line found => trim_text_of_mem found trims
      have made : (parseBlock ⟨trimmed, false, Builtin.parsers⟩ lines).outcome =
          .ok (blockWith trimmed lines nodes) := by
        rw [outcome_parseBlock, outcome_addPassages_of_not_dottedNames _ rfl]
        show Except.map _ (Except.map _ (writtenTags trimmed Builtin.parsers _)) = _
        rw [tagPassages, written]
        rfl
      refine ⟨_, made, ?_⟩
      rw [Finding.recorded, ← reported]
      rcases blockWith_cases trimmed lines with ⟨noPassages, none⟩ | ⟨shell, makes⟩
      · have empty : writtenTags trimmed Builtin.parsers (tagPassages trimmed lines) = .ok nodes :=
          written
        rw [noPassages] at empty
        cases empty
        rw [none]
        rfl
      · rw [makes]
        simp [reportedTags, tagsWithin_of_bare bare]

/-- A document is read to the blocks of its findings, whose tags report the recorded headers. -/
lemma exists_blocks_recorded (trimmed : Bool) (lines : List Text) :
    ∃ blocks, (parseLines ⟨trimmed, false, Builtin.parsers⟩ lines).outcome = .ok blocks ∧
      reportedTags blocks =
        (Scan.start.findings (!trimmed) lines).flatMap (Finding.recorded trimmed) := by
  rw [parseLines, outcome_gather_eq_collect, outcomes, outcomesFrom]
  induction Scan.start.findings (!trimmed) lines with
  | nil => exact ⟨[], rfl, rfl⟩
  | cons finding rest ih =>
      obtain ⟨others, later, reported⟩ := ih
      obtain ⟨found, first, report⟩ := exists_outcome_finding trimmed finding
      refine ⟨found.toList ++ others,
        collect_cons_eq_ok_iff.mpr ⟨found, others, first, later, rfl⟩, ?_⟩
      rw [reportedTags] at report reported ⊢
      rw [List.flatMap_append, report, reported, List.flatMap_cons]

end DocComment
