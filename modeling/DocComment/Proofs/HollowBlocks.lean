import DocComment.Proofs.Recognition
import DocComment.Proofs.TagHeaders

/-!
# Blocks that say nothing

A comment makes a block when it has a description or a header.  Whether a header also comes to a tag
is decided later: where texts are not trimmed, the text of an indented header does not begin with
`@` and is skipped.  So a comment may make a block with neither a description nor tags, and it does
exactly if texts are not trimmed, nothing stands before the first header and every header is
indented (`hollow_blocks_iff`).
-/

namespace DocComment

open Text

variable {ν : Type} {options : Options}

/-- Neither a description nor tags. -/
def Block.IsHollow (block : Block ν) : Prop := block.description = [] ∧ block.tags = []

/-- The comment has headers and nothing before them, and all of them are indented. -/
structure OnlyIndentedHeaders (lines : List (Line ν)) : Prop where
  silent : joinLines ((lines.takeWhile fun line => !isHeader line.text).map (·.text)) = []
  indented : ∀ line ∈ lines, isHeader line.text = true → ∃ c ∈ line.text.head?, isBlank c = true

/-! ## Tags that are added stay -/

lemma attach_ne_nil (node : TagNode ν) (path : List Text) (tags : List (TagNode ν)) :
    attach node path tags ≠ [] := by
  cases path with
  | nil => simp
  | cons part path =>
      rcases attach_cons_cases node part path tags with
        ⟨before, parent, after, -, -, -, attached⟩ | ⟨-, attached⟩ <;> simp [attached]

lemma ne_nil_of_addTag {dottedNames : Bool} {tags grown : List (TagNode ν)} {node : TagNode ν}
    (added : addTag dottedNames tags node = .ok grown) : grown ≠ [] := by
  rw [addTag] at added
  split at added
  · obtain ⟨parts, -, placed⟩ := bind_eq_ok_iff.mp added
    cases parts with
    | none =>
        cases placed
        simp
    | some parts =>
        cases placed
        exact attach_ne_nil _ _ _
  · cases added
    simp

lemma eq_nil_iff_of_addPassages {passages : List (Passage ν)} {tags grown : List (TagNode ν)}
    (added : (addPassages options tags passages).outcome = .ok grown) :
    grown = [] ↔ tags = [] ∧
      ∀ passage ∈ passages, (sourceOf options.trim passage.lines).head? ≠ some '@' := by
  induction passages generalizing tags with
  | nil =>
      cases added
      simp
  | cons passage rest ih =>
      rw [addPassages, Report.outcome_bind] at added
      obtain ⟨next, first, later⟩ := bind_eq_ok_iff.mp added
      rw [outcome_addPassage] at first
      obtain ⟨written, writes, placed⟩ := bind_eq_ok_iff.mp first
      rw [ih later, List.forall_mem_cons, ← writtenTag?_eq_ok_none_iff options.parsers, writes]
      cases written with
      | none =>
          cases placed
          simp
      | some node => simp [ne_nil_of_addTag placed]

/-! ## Hollow blocks -/

/-- The description is made of the lines before the first header. -/
lemma fst_passages (lines : List (Line ν)) :
    (passages lines).1 = (lines.takeWhile fun line => !isHeader line.text).map (·.text) := by
  induction lines with
  | nil => rfl
  | cons line rest ih =>
      rw [passages_cons, List.takeWhile_cons]
      split <;> simp_all

/-- Where texts are not trimmed, the text of a passage begins as its header does, and a header that
does not begin with `@` is indented. -/
lemma forall_passages_skipped_iff (lines : List (Line ν)) :
    (∀ passage ∈ (passages lines).2, (sourceOf false passage.lines).head? ≠ some '@') ↔
      ∀ line ∈ headers lines, ∃ c ∈ line.text.head?, isBlank c = true := by
  have begins : ∀ passage ∈ (passages lines).2,
      (sourceOf false passage.lines).head? = passage.lines.head?.bind List.head? := by
    intro passage found
    obtain ⟨line, isHeaderLine, more, rfl⟩ := exists_header_of_mem_passages found
    have shown := ne_nil_of_isHeader (List.mem_filter.mp isHeaderLine).2
    exact head?_sourceOf_false shown more
  have indented_iff : ∀ line ∈ headers lines,
      line.text.head? ≠ some '@' ↔ ∃ c ∈ line.text.head?, isBlank c = true := by
    intro line isHeaderLine
    have header := (List.mem_filter.mp isHeaderLine).2
    constructor
    · intro unmarked
      by_contra notIndented
      have noBlank : ∀ c ∈ line.text.head?, isBlank c = false := by simpa using notIndented
      obtain ⟨c, rest, same, -⟩ := exists_eq_cons_of_isHeader header noBlank
      exact unmarked (by rw [same]; rfl)
    · rintro ⟨c, first, blank⟩ marked
      cases first.symm.trans marked
      revert blank
      decide
  calc (∀ passage ∈ (passages lines).2, (sourceOf false passage.lines).head? ≠ some '@')
      ↔ ∀ heading ∈ (passages lines).2.map fun passage => (passage.number, passage.lines.head?),
          heading.2.bind List.head? ≠ some '@' := by
        rw [List.forall_mem_map]
        exact forall₂_congr fun passage found => by rw [begins passage found]
    _ ↔ ∀ line ∈ headers lines, line.text.head? ≠ some '@' := by
        rw [headings_passages, List.forall_mem_map]
        rfl
    _ ↔ _ := forall₂_congr indented_iff

/-- A block has the description of its comment and the tags that its passages come to, and there is
one or the other to make a block of. -/
lemma of_parseBlock_eq_some {lines : List (Line ν)} {block : Block ν}
    (parsed : (parseBlock options lines).outcome = .ok (some block)) :
    block.description =
        sourceOf options.trim (passages (lines.map (Line.trimIf options.trim))).1 ∧
      (addPassages options [] (tagPassages options.trim lines)).outcome = .ok block.tags ∧
      (block.description = [] → tagPassages options.trim lines ≠ []) := by
  rw [outcome_parseBlock] at parsed
  obtain ⟨tags, added, made⟩ := map_eq_ok_iff.mp parsed
  rw [blockWith, Option.bind_eq_some_iff] at made
  obtain ⟨first, -, made⟩ := made
  split at made
  · cases made
  · next loud =>
      cases made
      refine ⟨rfl, added, fun silent noPassages => loud ?_⟩
      rw [Bool.and_eq_true, List.isEmpty_iff, List.isEmpty_iff]
      exact ⟨silent, noPassages⟩

/-- A block is hollow exactly if its texts are not trimmed and its comment has indented headers and
nothing else to say.  Trimming takes the indentation away, and then every header comes to a tag. -/
lemma isHollow_iff_of_parseBlock {lines : List (Line ν)} {block : Block ν}
    (parsed : (parseBlock options lines).outcome = .ok (some block)) :
    block.IsHollow ↔ options.trim = false ∧ OnlyIndentedHeaders lines := by
  obtain ⟨description, added, hasPassages⟩ := of_parseBlock_eq_some parsed
  rw [Block.IsHollow, eq_nil_iff_of_addPassages added]
  cases trims : options.trim with
  | true =>
      rw [trims] at hasPassages
      simp only [true_and, reduceCtorEq, false_and, iff_false, not_and]
      intro silent skipped
      obtain ⟨passage, found⟩ := List.exists_mem_of_ne_nil _ (hasPassages silent)
      exact skipped passage found (head?_sourceOf_true found)
  | false =>
      have untrimmed : lines.map (Line.trimIf false) = lines := List.map_id lines
      rw [trims, untrimmed, fst_passages] at description
      rw [tagPassages, untrimmed, forall_passages_skipped_iff]
      simp only [true_and]
      constructor
      · rintro ⟨silent, indented⟩
        exact ⟨description.symm.trans silent, fun line isLine header =>
          indented line (List.mem_filter.mpr ⟨isLine, header⟩)⟩
      · rintro ⟨silent, indented⟩
        exact ⟨description.trans silent, fun line isHeaderLine =>
          indented line (List.mem_filter.mp isHeaderLine).1 (List.mem_filter.mp isHeaderLine).2⟩

/-! ## Every way to a block -/

/-- A block comes out of a document, in one of the ways of reading one. -/
inductive Emitted (options : Options) (block : Block Nat) : Prop
  /-- It is among the blocks of a text. -/
  | text {source : Value} {input : OptionsInput} {blocks : List (Block Nat)}
      (accepted : input.read = .ok options)
      (parsed : (parseValue source input).outcome = .ok blocks) (among : block ∈ blocks)
  /-- A stream of lines yields it, whether or not a later line ends the stream with a fault. -/
  | stream {lines : List Value} {input : OptionsInput} {taken : Nat}
      (accepted : input.read = .ok options) (among : (taken, block) ∈ (harvest input lines).blocks)
  /-- It is among the blocks of a file. -/
  | file {state : FileState} {input : OptionsInput} {blocks : List (Block Nat)}
      (accepted : input.read = .ok options)
      (parsed : (parseFile state input).outcome = .ok blocks) (among : block ∈ blocks)
  /-- A reader comes to it at one of the lines that it is fed. -/
  | reader {lines : List Text} {report : Report Nat (Option (Block Nat))}
      (reported : report ∈ (Extractor.start options).reports lines)
      (found : report.outcome = .ok (some block))

section Emitted

variable {block : Block Nat}

lemma exists_of_mem_harvestFrom {reader : Extractor} {taken number : Nat} {lines : List Value}
    (among : (number, block) ∈ (harvestFrom reader taken lines).blocks) :
    ∃ comment, (parseBlock reader.options comment).outcome = .ok (some block) := by
  induction lines generalizing reader taken with
  | nil => cases among
  | cons line rest ih =>
      rw [harvestFrom] at among
      cases text : streamLine line with
      | error fault => simp [text] at among
      | ok line =>
          simp only [text] at among
          cases outcome : (reader.feed line).2.outcome with
          | error fault => simp [outcome] at among
          | ok found =>
              simp only [outcome, List.mem_append, List.mem_map, Option.mem_toList] at among
              rcases among with ⟨here, isFound, same⟩ | later
              · cases same
                rw [Option.mem_def.mp isFound] at outcome
                obtain ⟨comment, -, made⟩ := Finding.exists_comment_of_outcome outcome
                exact ⟨comment, made⟩
              · have yielded := ih later
                exact yielded

lemma exists_of_mem_parseLines {lines : List Text} {blocks : List (Block Nat)}
    (parsed : (parseLines options lines).outcome = .ok blocks) (among : block ∈ blocks) :
    ∃ comment, (parseBlock options comment).outcome = .ok (some block) := by
  obtain ⟨comment, -, made⟩ := exists_comment_of_mem_parseLines parsed among
  exact ⟨comment, made⟩

/-- Every block that comes out of a document is what some comment comes to. -/
lemma Emitted.exists_comment (emitted : Emitted options block) :
    ∃ comment, (parseBlock options comment).outcome = .ok (some block) := by
  cases emitted with
  | @text source input blocks accepted parsed among =>
      cases source with
      | text characters =>
          rw [parseValue, accepted] at parsed
          exact exists_of_mem_parseLines parsed among
      | _ => cases parsed
  | stream accepted among =>
      rw [harvest, accepted] at among
      exact exists_of_mem_harvestFrom among
  | @file state input blocks accepted parsed among =>
      rw [parseFile, accepted] at parsed
      cases octets : state.read with
      | error reason => simp [octets] at parsed
      | ok octets =>
          simp only [octets, parseStream, parseDelivery] at parsed
          split at parsed <;> cases parsed
          next read => exact exists_of_mem_parseLines read among
  | reader reported found =>
      rw [Extractor.reports_eq_outcomesFrom] at reported
      obtain ⟨finding, -, rfl⟩ := List.mem_map.mp reported
      obtain ⟨comment, -, made⟩ := Finding.exists_comment_of_outcome found
      exact ⟨comment, made⟩

end Emitted

/-- **A block is hollow exactly if its headers are indented and not trimmed.**  What a comment comes
to has a description or tags, unless texts are not trimmed, nothing is said before the first header
and every header is indented; then it has neither.  Every block that comes out of a document is what
a comment comes to, so this decides which of them are hollow, and none is where texts are
trimmed. -/
theorem hollow_blocks_iff (options : Options) :
    (∀ (lines : List (Line ν)) (block : Block ν),
      (parseBlock options lines).outcome = .ok (some block) →
        (block.IsHollow ↔ options.trim = false ∧ OnlyIndentedHeaders lines)) ∧
    ∀ block : Block Nat, Emitted options block →
      ∃ lines, (parseBlock options lines).outcome = .ok (some block) ∧
        (block.IsHollow ↔ options.trim = false ∧ OnlyIndentedHeaders lines) := by
  refine ⟨fun lines block parsed => isHollow_iff_of_parseBlock parsed, fun block emitted => ?_⟩
  obtain ⟨comment, made⟩ := emitted.exists_comment
  exact ⟨comment, made, isHollow_iff_of_parseBlock made⟩

/-- Options that leave texts untrimmed. -/
def untrimmedOptions : Options := ⟨false, false, Builtin.parsers⟩

/-- The lines of a comment with nothing but a header at the margin. -/
def headerAtMargin : List (Line Nat) := [⟨[], 0⟩, ⟨"@a".toList, 1⟩, ⟨[], 2⟩]

theorem header_at_margin_is_not_hollow :
    ∃ block, (parseBlock untrimmedOptions headerAtMargin).outcome = .ok (some block) ∧
      ¬ block.IsHollow := by
  obtain ⟨block, parsed⟩ :
      ∃ block, (parseBlock untrimmedOptions headerAtMargin).outcome = .ok (some block) := ⟨_, rfl⟩
  refine ⟨block, parsed, fun hollow => ?_⟩
  obtain ⟨each, -⟩ := hollow_blocks_iff (ν := Nat) untrimmedOptions
  obtain ⟨-, indentedHeaders⟩ := (each headerAtMargin block parsed).mp hollow
  obtain ⟨c, first, blank⟩ :=
    indentedHeaders.indented ⟨"@a".toList, 1⟩ (by simp [headerAtMargin]) (by decide)
  cases first
  revert blank
  decide

/-- A comment with nothing but a header that is indented. -/
def indentedHeader : Text := "/**\n *   @param x\n */".toList

theorem indented_header_emits_hollow_block :
    (parse untrimmedOptions indentedHeader).outcome =
        .ok [⟨0, [], "\n  @param x\n".toList, []⟩] ∧
      ¬ ∀ block : Block Nat, Emitted untrimmedOptions block → ¬ block.IsHollow := by
  have parsed : (parse untrimmedOptions indentedHeader).outcome =
      .ok [⟨0, [], "\n  @param x\n".toList, []⟩] := by rfl
  refine ⟨parsed, fun noneHollow => ?_⟩
  have accepted : (OptionsInput.settings ⟨.bool false, .bool false, Builtin.parsers⟩).read =
      .ok untrimmedOptions := rfl
  have read : (parseValue (.text indentedHeader)
      (.settings ⟨.bool false, .bool false, Builtin.parsers⟩)).outcome =
        .ok [⟨0, [], "\n  @param x\n".toList, []⟩] := parsed
  exact noneHollow _ (.text accepted read (List.mem_singleton_self _)) ⟨rfl, rfl⟩

end DocComment
