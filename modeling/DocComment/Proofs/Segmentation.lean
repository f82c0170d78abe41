import DocComment.Proofs.HollowBlocks
import DocComment.Proofs.TrimmedSource

/-!
# Nothing is lost between the tags

The source of a block, its description and the sources of its tags are joined and trimmed each for
itself.  Where texts are trimmed, trimming takes empty lines at the ends away and nothing else
(`exists_core_of_sourceOf`), so what a joined text shows are the lines that were joined, without the
empty ones (`shownLines_sourceOf`).  The passages of a comment keep its lines in order, and so the
lines that the source of a block shows are those that the description and the sources of the tags
show, one after the other.

A line of the comment is in the description up to the first header, and from there on in the tag of
the last header: the source of a tag begins with its header, and neither the rest of it nor the
description has any other (`segmentation_conserves_text`).
-/

namespace DocComment

open Text

variable {ν : Type}

/-! ## What a text shows -/

/-- The lines of a text that are not blank. -/
def shownLines (text : Text) : List Text :=
  (pieces '\n' text).filter fun line => !line.all isBlank

/-- A line by itself, without blanks at its ends. -/
structure IsTrimmedLine (line : Text) : Prop where
  trimmed : trim line = line
  oneLine : '\n' ∉ line

lemma IsTrimmedLine.all_isBlank {line : Text} (isLine : IsTrimmedLine line) :
    line.all isBlank = line.isEmpty := by
  cases line with
  | nil => rfl
  | cons c rest =>
      have visible : isBlank c = false := (isLine.trimmed ▸ tight_trim (c :: rest)).first c rfl
      simp [visible]

/-- Empty lines join to nothing but blanks. -/
lemma sourceOf_of_empty {lines : List Text} (empty : ∀ line ∈ lines, line = []) :
    sourceOf true lines = [] := by
  cases lines with
  | nil => rfl
  | cons first rest =>
      obtain ⟨rfl, others⟩ := List.forall_mem_cons.mp empty
      have nothing : ∀ line ∈ ([] : List Text), line = [] := nofun
      exact trim_joinLines_surround nothing others (List.cons_ne_nil [] [])

section Joined

variable {lines : List Text} (areLines : ∀ line ∈ lines, IsTrimmedLine line)

include areLines

/-- Trimming lines that are joined takes the empty lines at their ends away. -/
lemma exists_core_of_sourceOf :
    ∃ before core after, lines = before ++ core ++ after ∧ (∀ line ∈ before, line = []) ∧
      (∀ line ∈ after, line = []) ∧
      pieces '\n' (sourceOf true lines) = if core = [] then [[]] else core := by
  have same : lines.map trim = lines :=
    (List.map_congr_left fun line isLine => (areLines line isLine).trimmed).trans
      (List.map_id lines)
  obtain ⟨before, core, after, split, emptyBefore, emptyAfter, cut⟩ :=
    exists_core_of_texts fun line isLine => (areLines line isLine).oneLine
  rw [same] at split cut
  refine ⟨before, core, after, split, emptyBefore, emptyAfter, ?_⟩
  split_ifs with noCore
  · subst noCore
    have empty : ∀ line ∈ lines, line = [] := by
      rw [split, List.append_nil]
      exact List.forall_mem_append.mpr ⟨emptyBefore, emptyAfter⟩
    rw [sourceOf_of_empty empty, pieces_nil]
  · exact cut noCore

lemma shownLines_sourceOf :
    shownLines (sourceOf true lines) = lines.filter fun line => !line.isEmpty := by
  obtain ⟨before, core, after, split, emptyBefore, emptyAfter, cut⟩ :=
    exists_core_of_sourceOf areLines
  have silent : ∀ others : List Text, (∀ line ∈ others, line = []) →
      (others.filter fun line => !line.isEmpty) = [] := by
    intro others empty
    exact List.filter_eq_nil_iff.mpr fun line isLine => by simp [empty line isLine]
  calc shownLines (sourceOf true lines)
      = core.filter fun line => !line.all isBlank := by
        rw [shownLines, cut]
        split_ifs with noCore
        · rw [noCore]
          rfl
        · rfl
    _ = core.filter fun line => !line.isEmpty :=
        List.filter_congr fun line isLine => by
          rw [(areLines line (by simp [split, isLine])).all_isBlank]
    _ = lines.filter fun line => !line.isEmpty := by
        rw [split, List.filter_append, List.filter_append, silent before emptyBefore,
          silent after emptyAfter, List.nil_append, List.append_nil]

/-- Every line of what lines join to is one of them, or empty. -/
lemma mem_of_mem_pieces_sourceOf {line : Text} (found : line ∈ pieces '\n' (sourceOf true lines)) :
    line ∈ lines ∨ line = [] := by
  obtain ⟨before, core, after, split, -, -, cut⟩ := exists_core_of_sourceOf areLines
  rw [cut] at found
  split_ifs at found
  · exact .inr (List.mem_singleton.mp found)
  · exact .inl (split ▸ List.mem_append_left after (List.mem_append_right before found))

omit areLines in
/-- What lines join to begins with their first line, if it is not empty. -/
lemma exists_pieces_sourceOf_cons {first : Text} {more : List Text}
    (areLines : ∀ line ∈ first :: more, IsTrimmedLine line) (shown : first ≠ []) :
    ∃ rest, pieces '\n' (sourceOf true (first :: more)) = first :: rest ∧ rest ⊆ more := by
  obtain ⟨before, core, after, split, emptyBefore, emptyAfter, cut⟩ :=
    exists_core_of_sourceOf areLines
  have noBefore : before = [] := by
    cases before with
    | nil => rfl
    | cons line others =>
        cases split
        exact (shown (emptyBefore first List.mem_cons_self)).elim
  subst noBefore
  cases core with
  | nil =>
      refine (shown (emptyAfter first ?_)).elim
      rw [List.nil_append, List.nil_append] at split
      exact split ▸ List.mem_cons_self
  | cons line rest =>
      cases split
      exact ⟨rest, cut.trans (if_neg (List.cons_ne_nil _ _)), List.subset_append_left rest after⟩

end Joined

/-! ## Headers in passages -/

lemma isHeader_of_mem_fst_passages {lines : List (Line ν)} {text : Text}
    (found : text ∈ (passages lines).1) : isHeader text = false := by
  rw [fst_passages] at found
  obtain ⟨line, isBefore, rfl⟩ := List.mem_map.mp found
  simpa using List.mem_takeWhile_imp isBefore

lemma isHeader_of_mem_tail {lines : List (Line ν)} {passage : Passage ν}
    (found : passage ∈ (passages lines).2) {text : Text} (isLater : text ∈ passage.lines.tail) :
    isHeader text = false := by
  induction lines with
  | nil => cases found
  | cons line rest ih =>
      rw [passages_cons] at found
      split at found
      · rcases List.mem_cons.mp found with rfl | later
        · exact isHeader_of_mem_fst_passages isLater
        · exact ih later
      · exact ih found

/-- A line begins with `@` and a word character. -/
def BeginsTag (line : Text) : Prop := ∃ c rest, line = '@' :: c :: rest ∧ isWord c = true

/-- The first line of a text begins a tag, and no other line does, not even an indented one. -/
def IsTagText (text : Text) : Prop :=
  ∃ header rest, pieces '\n' text = header :: rest ∧ BeginsTag header ∧
    ∀ line ∈ rest, isHeader line = false

/-! ## The lines of a comment -/

section Comment

variable {lines : List (Line ν)} (oneLineEach : ∀ line ∈ lines, '\n' ∉ line.text)

include oneLineEach

lemma isTrimmedLine_of_mem {text : Text}
    (found : text ∈ (lines.map (Line.trimIf true)).map (·.text)) : IsTrimmedLine text := by
  rw [List.map_map] at found
  obtain ⟨line, isLine, rfl⟩ := List.mem_map.mp found
  exact ⟨trim_trim line.text, fun newline => oneLineEach line isLine (trim_subset _ newline)⟩

lemma isTrimmedLine_of_mem_intro {text : Text}
    (found : text ∈ (passages (lines.map (Line.trimIf true))).1) : IsTrimmedLine text :=
  isTrimmedLine_of_mem oneLineEach (flatten_passages _ ▸ List.mem_append_left _ found)

lemma isTrimmedLine_of_mem_passage {passage : Passage ν} (among : passage ∈ tagPassages true lines)
    {text : Text} (found : text ∈ passage.lines) : IsTrimmedLine text :=
  isTrimmedLine_of_mem oneLineEach (flatten_passages _ ▸
    List.mem_append_right _ (List.mem_flatMap.mpr ⟨passage, among, found⟩))

lemma isTagText_sourceOf {passage : Passage ν} (found : passage ∈ tagPassages true lines) :
    IsTagText (sourceOf true passage.lines) := by
  obtain ⟨line, isHeaderLine, more, rfl⟩ := exists_header_of_mem_passages found
  obtain ⟨-, begins⟩ := mem_headers_trimmed_iff.mp isHeaderLine
  obtain ⟨rest, cut, among⟩ := exists_pieces_sourceOf_cons
    (fun text => isTrimmedLine_of_mem_passage oneLineEach found)
    (ne_nil_of_isHeader (List.mem_filter.mp isHeaderLine).2)
  exact ⟨line.text, rest, cut, begins,
    fun later isLater => isHeader_of_mem_tail found (among isLater)⟩

/-- Where texts are trimmed, a comment shows what its intro and the texts of its passages show. -/
lemma shownLines_comment :
    shownLines (sourceOf true ((lines.map (Line.trimIf true)).map (·.text))) =
      shownLines (sourceOf true (passages (lines.map (Line.trimIf true))).1) ++
        (tagPassages true lines).flatMap fun passage =>
          shownLines (sourceOf true passage.lines) := by
  have inPassages : ((tagPassages true lines).flatMap fun passage =>
      shownLines (sourceOf true passage.lines)) =
        (tagPassages true lines).flatMap fun passage =>
          passage.lines.filter fun line => !line.isEmpty :=
    List.flatMap_congr fun passage among =>
      shownLines_sourceOf fun text => isTrimmedLine_of_mem_passage oneLineEach among
  rw [inPassages, shownLines_sourceOf fun text => isTrimmedLine_of_mem oneLineEach,
    shownLines_sourceOf fun text => isTrimmedLine_of_mem_intro oneLineEach, ← flatten_passages,
    List.filter_append, List.filter_flatMap]
  rfl

end Comment

/-! ## Blocks -/

/-- How a block is cut up: its source shows the lines that its description shows and those that the
texts of its tags show, one after the other.  The description has no header, and each tag has one,
on its first line. -/
structure Block.IsSegmented (block : Block ν) : Prop where
  conserved : shownLines block.source =
    shownLines block.description ++ block.tags.flatMap fun tag => shownLines tag.source
  description : ∀ line ∈ pieces '\n' block.description, isHeader line = false
  tags : ∀ tag ∈ block.tags, IsTagText tag.source

/-- Where texts are trimmed and names do not nest, the tags of a block have the texts of the
passages. -/
lemma map_source_of_parseBlock {options : Options} (trimmed : options.trim = true)
    (plain : options.dottedNames = false) {lines : List (Line ν)} {block : Block ν}
    (made : (parseBlock options lines).outcome = .ok (some block)) :
    block.tags.map (·.source) =
      (tagPassages true lines).map fun passage => sourceOf true passage.lines := by
  have written := tags_of_parseBlock plain made
  rw [trimmed] at written
  have origins := congrArg (List.map Prod.snd)
    (map_writtenTags (fun passage => head?_sourceOf_true) written)
  rwa [List.map_map, List.map_map] at origins

lemma isSegmented_of_parseBlock {options : Options} (trimmed : options.trim = true)
    (plain : options.dottedNames = false) {lines : List (Line ν)}
    (oneLineEach : ∀ line ∈ lines, '\n' ∉ line.text) {block : Block ν}
    (made : (parseBlock options lines).outcome = .ok (some block)) : block.IsSegmented := by
  obtain ⟨description, -, -⟩ := of_parseBlock_eq_some made
  have source := source_of_parseBlock made
  rw [trimmed] at description source
  have sources := map_source_of_parseBlock trimmed plain made
  have inTags : (block.tags.flatMap fun tag => shownLines tag.source) =
      (tagPassages true lines).flatMap fun passage =>
        shownLines (sourceOf true passage.lines) := by
    calc (block.tags.flatMap fun tag => shownLines tag.source)
        = (block.tags.map (·.source)).flatMap shownLines := by rw [List.flatMap_map]
      _ = _ := by rw [sources, List.flatMap_map]
  refine ⟨?_, fun line found => ?_, fun tag isTag => ?_⟩
  · rw [source, description, inTags, shownLines_comment oneLineEach]
  · rw [description] at found
    rcases mem_of_mem_pieces_sourceOf (fun text => isTrimmedLine_of_mem_intro oneLineEach) found
      with isIntro | rfl
    · exact isHeader_of_mem_fst_passages isIntro
    · rfl
  · have isSource : tag.source ∈ block.tags.map (·.source) := List.mem_map_of_mem isTag
    rw [sources] at isSource
    obtain ⟨passage, among, same⟩ := List.mem_map.mp isSource
    exact same ▸ isTagText_sourceOf oneLineEach among

/-- **Segmentation conserves text.**  Where texts are trimmed and names do not nest, every block of
a document is segmented, whatever parsers read its tags. -/
theorem segmentation_conserves_text (options : Options) (trimmed : options.trim = true)
    (plain : options.dottedNames = false) (source : Text) {blocks : List (Block Nat)}
    (parsed : (parse options source).outcome = .ok blocks) :
    ∀ block ∈ blocks, block.IsSegmented := by
  intro block found
  obtain ⟨comment, finding, made⟩ := exists_comment_of_mem_parseLines parsed found
  exact isSegmented_of_parseBlock trimmed plain (not_mem_newline_of_comment finding) made

/-- A document with empty lines, with headers in a row, with lines that only look like headers, and
with a comment on one line. -/
def mixedDocument : Text :=
  ("/**\n *\n * Adds @b and\n * @-x, too.\n *\n *   @a p\n *\n * more @c\n * @ d\n * @e\n" ++
    " * @f q\n *\n */\n/** @g r */").toList

theorem mixed_document_is_conserved :
    (Options.mk true false Builtin.parsers).trim = true ∧
    (Options.mk true false Builtin.parsers).dottedNames = false ∧
    ∃ blocks, (parse ⟨true, false, Builtin.parsers⟩ mixedDocument).outcome = .ok blocks ∧
      blocks.map (fun block => (block.description, block.tags.map (·.source))) =
        [("Adds @b and\n@-x, too.".toList,
            ["@a p\n\nmore @c\n@ d".toList, "@e".toList, "@f q".toList]),
          ([], ["@g r".toList])] ∧
      ∀ block ∈ blocks, block.IsSegmented := by
  have evaluated : ((parse ⟨true, false, Builtin.parsers⟩ mixedDocument).outcome.map
      (List.map fun block => (block.description, block.tags.map (·.source)))).toOption =
        some [("Adds @b and\n@-x, too.".toList,
            ["@a p\n\nmore @c\n@ d".toList, "@e".toList, "@f q".toList]),
          ([], ["@g r".toList])] := by
    decide +kernel
  cases parsed : (parse ⟨true, false, Builtin.parsers⟩ mixedDocument).outcome with
  | error fault =>
      rw [parsed] at evaluated
      cases evaluated
  | ok blocks =>
      rw [parsed] at evaluated
      exact ⟨rfl, rfl, blocks, rfl, Option.some.inj evaluated,
        segmentation_conserves_text ⟨true, false, Builtin.parsers⟩ rfl rfl mixedDocument parsed⟩

end DocComment
