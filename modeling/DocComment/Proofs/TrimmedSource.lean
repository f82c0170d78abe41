import DocComment.Proofs.Renumbering
import DocComment.Proofs.Wrapping

/-!
# The source of a block reads back

Where texts are trimmed, the source of a block holds the lines of its comment without their markers,
without blanks at their ends and without the empty lines at the top and at the bottom.  Wrapped in a
comment again it is read to the same block at other numbers (`trimmed_source_reads_back`).

Both comments, the one that was read and the one that is made of the source, repeat the lines of the
source between empty lines, and empty lines around a comment change nothing of what it says: at the
top they belong to the description, at the bottom to the last passage, and both are trimmed
(`Echoes.cons_empty`, `Echoes.concat_empty`).
-/

namespace DocComment

open Text

/-! ## Repeating in steps -/

section Trans

variable {ν μ κ : Type}

lemma forall₂_trans {α β γ : Type} {first : α → β → Prop} {second : β → γ → Prop}
    {both : α → γ → Prop} (step : ∀ a b c, first a b → second b c → both a c) {as : List α}
    {bs : List β} {cs : List γ} (fromFirst : List.Forall₂ first as bs)
    (toSecond : List.Forall₂ second bs cs) : List.Forall₂ both as cs := by
  induction fromFirst generalizing cs with
  | nil =>
      cases toSecond
      exact .nil
  | cons here rest ih =>
      cases toSecond with
      | cons next others => exact .cons (step _ _ _ here next) (ih others)

lemma Passage.Echoes.trans {trimmed : Bool} {first : ν → μ} {second : μ → κ} {passage : Passage ν}
    {echo : Passage μ} {again : Passage κ} (echoes : passage.Echoes trimmed first echo)
    (echoesAgain : echo.Echoes trimmed second again) :
    passage.Echoes trimmed (second ∘ first) again where
  number := by rw [echoesAgain.number, echoes.number, Function.comp_apply]
  source := echoesAgain.source.trans echoes.source

lemma Echoes.trans {trimmed : Bool} {ofBlock ofTags : ν → μ} {blockAgain tagsAgain : μ → κ}
    {lines : List (Line ν)} {echo : List (Line μ)} {again : List (Line κ)}
    (echoes : Echoes trimmed ofBlock ofTags lines echo)
    (echoesAgain : Echoes trimmed blockAgain tagsAgain echo again) :
    Echoes trimmed (blockAgain ∘ ofBlock) (tagsAgain ∘ ofTags) lines again where
  first := by
    have number : echo.head?.map (fun line => blockAgain line.number) =
        (echo.head?.map (·.number)).map blockAgain := by rw [Option.map_map]; rfl
    rw [echoesAgain.first, number, echoes.first, Option.map_map]
    rfl
  description := echoesAgain.description.trans echoes.description
  source := echoesAgain.source.trans echoes.source
  passages := forall₂_trans (fun _ _ _ first second => first.trans second) echoes.passages
    echoesAgain.passages

lemma Echoes.refl (trimmed : Bool) (lines : List (Line ν)) : Echoes trimmed id id lines lines where
  first := rfl
  description := rfl
  source := rfl
  passages := List.forall₂_same.mpr fun _ _ => ⟨rfl, rfl⟩

mutual

lemma TagNode.renumbered_renumbered (first : ν → μ) (second : μ → κ) : ∀ node : TagNode ν,
    (node.renumbered first).renumbered second = node.renumbered (second ∘ first)
  | .written fields line source tags => by
      simp [TagNode.renumbered, renumberedAll_renumberedAll first second tags]
  | .implied tag name line tags => by
      simp [TagNode.renumbered, renumberedAll_renumberedAll first second tags]

lemma renumberedAll_renumberedAll (first : ν → μ) (second : μ → κ) : ∀ tags : List (TagNode ν),
    renumberedAll second (renumberedAll first tags) = renumberedAll (second ∘ first) tags
  | [] => by simp
  | node :: rest => by
      simp [TagNode.renumbered_renumbered first second node,
        renumberedAll_renumberedAll first second rest]

end

end Trans

/-! ## Empty lines around a comment -/

section EmptyLines

variable {ν : Type}

lemma sourceOf_cons_empty (lines : List Text) :
    sourceOf true ([] :: lines) = sourceOf true lines := by
  have empty : ∀ line ∈ [([] : Text)], line = [] := by simp
  have nothing : ∀ line ∈ ([] : List Text), line = [] := nofun
  cases lines with
  | nil => rfl
  | cons line rest =>
      have same := trim_joinLines_surround empty nothing (List.cons_ne_nil line rest)
      rwa [List.append_nil] at same

lemma sourceOf_concat_empty (lines : List Text) :
    sourceOf true (lines ++ [[]]) = sourceOf true lines := by
  have empty : ∀ line ∈ [([] : Text)], line = [] := by simp
  have nothing : ∀ line ∈ ([] : List Text), line = [] := nofun
  cases lines with
  | nil => rfl
  | cons line rest =>
      exact trim_joinLines_surround nothing empty (List.cons_ne_nil line rest)

/-- A line with nothing on it. -/
def Line.empty (number : ν) : Line ν := ⟨[], number⟩

lemma Line.eq_empty {line : Line ν} (isEmpty : line.text = []) : line = .empty line.number := by
  rw [Line.empty, ← isEmpty]

/-- An empty line behind others belongs to the last passage, or to the description if there is
no passage. -/
lemma passages_concat_empty (lines : List (Line ν)) (number : ν) :
    (∃ before last, (passages lines).2 = before ++ [last] ∧
      passages (lines ++ [.empty number]) =
        ((passages lines).1, before ++ [⟨last.lines ++ [[]], last.number⟩])) ∨
    ((passages lines).2 = [] ∧
      passages (lines ++ [.empty number]) = ((passages lines).1 ++ [[]], [])) := by
  induction lines with
  | nil => exact .inr ⟨rfl, rfl⟩
  | cons line rest ih =>
      rw [List.cons_append, passages_cons, passages_cons]
      by_cases header : isHeader line.text = true
      · simp only [if_pos header]
        rcases ih with ⟨before, last, found, grown⟩ | ⟨noneFound, grown⟩
        · exact .inl ⟨⟨line.text :: (passages rest).1, line.number⟩ :: before, last,
            by rw [found, List.cons_append], by rw [grown, List.cons_append]⟩
        · exact .inl ⟨[], ⟨line.text :: (passages rest).1, line.number⟩,
            by rw [noneFound, List.nil_append], by rw [grown, List.nil_append, List.cons_append]⟩
      · simp only [if_neg header]
        rcases ih with ⟨before, last, found, grown⟩ | ⟨noneFound, grown⟩
        · exact .inl ⟨before, last, found, by rw [grown]⟩
        · exact .inr ⟨noneFound, by rw [grown, List.cons_append]⟩

/-- A comment is repeated with an empty line on top, whose number the block then has. -/
lemma Echoes.cons_empty {lines : List (Line ν)} (notEmpty : lines ≠ []) (number : ν) :
    Echoes true (fun _ => number) id lines (.empty number :: lines) where
  first := by
    obtain ⟨line, rest, rfl⟩ := List.exists_cons_of_ne_nil notEmpty
    rfl
  description := sourceOf_cons_empty _
  source := sourceOf_cons_empty _
  passages := List.forall₂_same.mpr fun _ _ => ⟨rfl, rfl⟩

/-- A comment is repeated with an empty line at the bottom. -/
lemma Echoes.concat_empty {lines : List (Line ν)} (notEmpty : lines ≠ []) (number : ν) :
    Echoes true id id lines (lines ++ [.empty number]) := by
  have kept : (lines ++ [Line.empty number]).map (Line.trimIf true) =
      lines.map (Line.trimIf true) ++ [.empty number] := List.map_append
  have first : (lines ++ [Line.empty number]).head?.map (·.number) =
      lines.head?.map fun line => id line.number := by
    obtain ⟨line, rest, rfl⟩ := List.exists_cons_of_ne_nil notEmpty
    rfl
  have texts : (lines.map (Line.trimIf true) ++ [Line.empty number]).map (·.text) =
      (lines.map (Line.trimIf true)).map (·.text) ++ [[]] := List.map_append
  have source : sourceOf true
      (((lines ++ [Line.empty number]).map (Line.trimIf true)).map (·.text)) =
        sourceOf true ((lines.map (Line.trimIf true)).map (·.text)) := by
    rw [kept, texts, sourceOf_concat_empty]
  have same : ∀ passage : Passage ν, passage.Echoes true id passage := fun _ => ⟨rfl, rfl⟩
  rcases passages_concat_empty (lines.map (Line.trimIf true)) number with
    ⟨before, last, found, grown⟩ | ⟨noneFound, grown⟩
  · refine ⟨first, by rw [kept, grown], source, ?_⟩
    rw [tagPassages, tagPassages, kept, found, grown]
    have longer : last.Echoes true id ⟨last.lines ++ [[]], last.number⟩ :=
      ⟨rfl, sourceOf_concat_empty last.lines⟩
    exact List.rel_append (List.forall₂_same.mpr fun passage _ => same passage)
      (.cons longer .nil)
  · refine ⟨first, by rw [kept, grown, sourceOf_concat_empty], source, ?_⟩
    rw [tagPassages, tagPassages, kept, noneFound, grown]
    exact .nil

/-- A comment is repeated with empty lines around it. -/
lemma exists_echoes_surround {before lines after : List (Line ν)}
    (emptyBefore : ∀ line ∈ before, line.text = []) (emptyAfter : ∀ line ∈ after, line.text = [])
    (notEmpty : lines ≠ []) :
    ∃ ofBlock, Echoes true ofBlock id lines (before ++ lines ++ after) := by
  have below : ∃ ofBlock, Echoes true ofBlock id lines (lines ++ after) := by
    induction after using List.reverseRecOn with
    | nil => exact ⟨id, by rw [List.append_nil]; exact .refl true lines⟩
    | append_singleton rest line ih =>
        obtain ⟨others, isEmpty⟩ := List.forall_mem_append.mp emptyAfter
        obtain ⟨ofBlock, echoes⟩ := ih others
        rw [Line.eq_empty (isEmpty line (List.mem_singleton_self line)), ← List.append_assoc]
        exact ⟨_, echoes.trans (.concat_empty (List.append_ne_nil_of_left_ne_nil notEmpty rest) _)⟩
  rw [List.append_assoc]
  induction before with
  | nil => exact below
  | cons line rest ih =>
      obtain ⟨isEmpty, others⟩ := List.forall_mem_cons.mp emptyBefore
      obtain ⟨ofBlock, echoes⟩ := ih others
      have someLines : rest ++ (lines ++ after) ≠ [] :=
        List.append_ne_nil_of_right_ne_nil rest (List.append_ne_nil_of_left_ne_nil notEmpty after)
      rw [Line.eq_empty isEmpty, List.cons_append]
      exact ⟨_, echoes.trans (.cons_empty someLines _)⟩

end EmptyLines

/-! ## The lines of a source -/

lemma numbered_eq_renumbered (start : Nat) (texts : List Text) (offset : Nat) :
    numbered (start + offset) texts =
      (numbered start texts).map (Line.renumbered (· + offset)) := by
  induction texts generalizing start with
  | nil => rfl
  | cons text rest ih =>
      have next : start + offset + 1 = start + 1 + offset := by omega
      rw [numbered_cons, numbered_cons, next, ih, List.map_cons]
      rfl

lemma text_of_mem_numbered {start : Nat} {texts : List Text} {line : Line Nat}
    (found : line ∈ numbered start texts) : line.text ∈ texts := by
  have text : line.text ∈ (numbered start texts).map (·.text) := List.mem_map_of_mem found
  rwa [map_text_numbered] at text

/-- Numbered lines with empty ones around them repeat the lines between these. -/
lemma exists_echoes_numbered {before core after : List Text}
    (emptyBefore : ∀ text ∈ before, text = []) (emptyAfter : ∀ text ∈ after, text = [])
    (notEmpty : core ≠ []) (start : Nat) :
    ∃ ofBlock, Echoes true ofBlock (· + (start + before.length)) (numbered 0 core)
      (numbered start (before ++ core ++ after)) := by
  have renumbered := Echoes.of_renumbered true (· + (start + before.length)) (numbered 0 core)
  rw [← numbered_eq_renumbered, Nat.zero_add] at renumbered
  have someLines : numbered (start + before.length) core ≠ [] := by
    obtain ⟨text, rest, rfl⟩ := List.exists_cons_of_ne_nil notEmpty
    exact List.cons_ne_nil _ _
  have emptyTop : ∀ line ∈ numbered start before, line.text = [] :=
    fun line found => emptyBefore _ (text_of_mem_numbered found)
  have emptyBottom : ∀ line ∈ numbered (start + (before ++ core).length) after, line.text = [] :=
    fun line found => emptyAfter _ (text_of_mem_numbered found)
  obtain ⟨ofBlock, surrounded⟩ := exists_echoes_surround emptyTop emptyBottom someLines
  rw [numbered_append, numbered_append]
  exact ⟨_, renumbered.trans surrounded⟩

/-! ## Blocks and their sources -/

section Blocks

variable {ν : Type} {options : Options}

lemma source_of_parseBlock {lines : List (Line ν)} {block : Block ν}
    (made : (parseBlock options lines).outcome = .ok (some block)) :
    block.source = sourceOf options.trim ((lines.map (Line.trimIf options.trim)).map (·.text)) := by
  rw [outcome_parseBlock] at made
  obtain ⟨tags, -, makes⟩ := map_eq_ok_iff.mp made
  rw [blockWith, Option.bind_eq_some_iff] at makes
  obtain ⟨first, -, loud⟩ := makes
  split at loud
  · cases loud
  · cases loud
    rfl

lemma outcome_parseBlock_of_empty (trimmed : options.trim = true) {lines : List (Line ν)}
    (empty : ∀ line ∈ lines, line.text = []) : (parseBlock options lines).outcome = .ok none := by
  cases lines with
  | nil => rfl
  | cons first rest =>
      obtain ⟨isEmpty, others⟩ := List.forall_mem_cons.mp empty
      have nothing : ∀ line ∈ ([] : List (Line ν)), line.text = [] := nofun
      obtain ⟨ofBlock, echoes⟩ := exists_echoes_surround nothing others (List.cons_ne_nil first [])
      have silent : (parseBlock options [first]).outcome = .ok none := by
        rw [Line.eq_empty isEmpty]
        simp [parseBlock, trimmed, Line.empty, Line.trimIf, passages_cons, isHeader, sourceOf]
      have repeated := outcome_parseBlock_of_echoes options (trimmed ▸ echoes)
      rw [silent] at repeated
      exact repeated

variable {start : Nat} {texts : List Text} {block : Block Nat}

/-- Where texts are trimmed, the texts of a comment may be trimmed before. -/
lemma parseBlock_numbered_map_trim (trimmed : options.trim = true) (start : Nat)
    (texts : List Text) :
    parseBlock options (numbered start (texts.map trim)) =
      parseBlock options (numbered start texts) := by
  apply parseBlock_congr
  rw [trimmed, map_trimIf_numbered, map_trimIf_numbered, map_trim_map_trim]

/-- Trimmed texts split into a part that begins and ends with texts that are not empty, and empty
texts around it; the source of the comment is what the part joins to. -/
lemma exists_core_of_texts (oneLineEach : ∀ text ∈ texts, '\n' ∉ text) :
    ∃ before core after, texts.map trim = before ++ core ++ after ∧
      (∀ text ∈ before, text = []) ∧ (∀ text ∈ after, text = []) ∧
      (core ≠ [] → pieces '\n' (trim (joinLines (texts.map trim))) = core) := by
  obtain ⟨before, core, after, split, emptyBefore, emptyAfter, tight⟩ :=
    exists_core List.isEmpty (texts.map trim)
  simp only [List.isEmpty_iff] at emptyBefore emptyAfter
  refine ⟨before, core, after, split, emptyBefore, emptyAfter, fun notEmpty => ?_⟩
  have fromText : ∀ line ∈ core, ∃ text ∈ texts, trim text = line := by
    intro line found
    have inTexts : line ∈ texts.map trim := by
      rw [split]
      simp [found]
    exact List.mem_map.mp inTexts
  have trimmedCore : ∀ line ∈ core, trim line = line := by
    intro line found
    obtain ⟨text, -, rfl⟩ := fromText line found
    exact trim_trim text
  have coreOnLines : ∀ line ∈ core, '\n' ∉ line := by
    intro line found newline
    obtain ⟨text, isText, rfl⟩ := fromText line found
    exact oneLineEach text isText (trim_subset text newline)
  rw [split, trim_joinLines_surround emptyBefore emptyAfter notEmpty,
    trim_joinLines_of_tight tight trimmedCore, pieces_joinLines notEmpty coreOnLines]

/-- A block is made by the lines of its source alone, up to numbers. -/
lemma exists_base_of_parseBlock (trimmed : options.trim = true)
    (oneLineEach : ∀ text ∈ texts, '\n' ∉ text)
    (made : (parseBlock options (numbered start texts)).outcome = .ok (some block)) :
    ∃ base ofBlock offset,
      (parseBlock options (numbered 0 (pieces '\n' block.source))).outcome = .ok (some base) ∧
        block = base.renumberedApart ofBlock (· + offset) := by
  obtain ⟨before, core, after, split, emptyBefore, emptyAfter, sourceLines⟩ :=
    exists_core_of_texts oneLineEach
  rw [← parseBlock_numbered_map_trim trimmed] at made
  have source : block.source = trim (joinLines (texts.map trim)) := by
    rw [source_of_parseBlock made, trimmed, map_trimIf_numbered, map_text_numbered,
      map_trim_map_trim]
    rfl
  rw [split] at made
  have notEmpty : core ≠ [] := by
    rintro rfl
    have allEmpty : ∀ line ∈ numbered start (before ++ [] ++ after), line.text = [] := by
      intro line found
      have isText := text_of_mem_numbered found
      rw [List.append_nil] at isText
      exact (List.mem_append.mp isText).elim (emptyBefore _) (emptyAfter _)
    rw [outcome_parseBlock_of_empty trimmed allEmpty] at made
    cases made
  obtain ⟨ofBlock, echoes⟩ := exists_echoes_numbered emptyBefore emptyAfter notEmpty start
  rw [outcome_parseBlock_of_echoes options (trimmed ▸ echoes)] at made
  obtain ⟨found, parsed, renumbered⟩ := map_eq_ok_iff.mp made
  obtain ⟨base, rfl, same⟩ := Option.map_eq_some_iff.mp renumbered
  rw [source, sourceLines notEmpty]
  exact ⟨base, ofBlock, _, parsed, same.symm⟩

/-- Lines that make a block make it, too, if they are wrapped in a comment. -/
lemma exists_parse_wrapped (trimmed : options.trim = true) {contents : List Text}
    (notEmpty : contents ≠ []) (oneLineEach : ∀ content ∈ contents, '\n' ∉ content)
    (made : (parseBlock options (numbered 0 contents)).outcome = .ok (some block)) :
    ∃ ofBlock, (parse options (wrapped contents)).outcome =
      .ok [block.renumberedApart ofBlock (· + 1)] := by
  have empty : ∀ text ∈ [([] : Text)], text = [] := by simp
  obtain ⟨ofBlock, echoes⟩ := exists_echoes_numbered empty empty notEmpty 0
  have repeated := outcome_parseBlock_of_echoes options (trimmed ▸ echoes)
  rw [made] at repeated
  refine ⟨ofBlock, ?_⟩
  rw [parse, pieces_wrapped oneLineEach, parseLines_wrappedLines, Report.outcome_map]
  exact congrArg (Except.map Option.toList) repeated

end Blocks

/-! ## Reading back -/

/-- **The trimmed source of a block reads back.**  Where texts are trimmed, the lines of the source
of each block of a document, wrapped in a comment, are read to one block, with the same description,
the same source and the same tags at numbers that all differ by the same offset. -/
theorem trimmed_source_reads_back (options : Options) (trimmed : options.trim = true)
    (source : Text) {blocks : List (Block Nat)}
    (parsed : (parse options source).outcome = .ok blocks) {block : Block Nat}
    (found : block ∈ blocks) :
    ∃ again, (parse options (wrapped (pieces '\n' block.source))).outcome = .ok [again] ∧
      again.description = block.description ∧ again.source = block.source ∧
      ∃ offset : Int, renumberedAll (fun number : Nat => (number : Int) + offset) again.tags =
        renumberedAll (fun number : Nat => (number : Int)) block.tags := by
  obtain ⟨comment, finding, made⟩ := exists_comment_of_mem_parseLines parsed found
  obtain ⟨start, texts, rfl, sources⟩ := exists_numbered_of_comment_mem_findings finding
  have oneLineEach : ∀ text ∈ texts, '\n' ∉ text := by
    intro text isText
    rcases sources text isText with rfl | ⟨line, isLine, contributes⟩
    · exact List.not_mem_nil
    · exact contributes.not_mem_newline (not_mem_of_mem_pieces isLine)
  obtain ⟨base, ofBlock, offset, parsedBase, rfl⟩ :=
    exists_base_of_parseBlock trimmed oneLineEach made
  obtain ⟨ofAgain, parsedAgain⟩ := exists_parse_wrapped trimmed (pieces_ne_nil '\n' _)
    (fun line isLine => not_mem_of_mem_pieces isLine) parsedBase
  refine ⟨_, parsedAgain, rfl, rfl, (offset : Int) - 1, ?_⟩
  have distance : ∀ number : Nat,
      ((number + 1 : Nat) : Int) + (offset - 1) = ((number + offset : Nat) : Int) := by
    intro number
    omega
  simp only [Block.renumberedApart, renumberedAll_renumberedAll, Function.comp_def, distance]

/-- A document with blanks and empty lines around what its comment says, and with names that nest
under a parent that is not written. -/
def paddedDocument : Text :=
  "/**\n *\n *   Adds.\n * @a p.q  \n *\n *  more\n * @a p.r\n *\n */\n/** @a s.t */".toList

theorem padded_sources_read_back :
    (Options.mk true true Builtin.parsers).trim = true ∧
    ∃ blocks, (parse ⟨true, true, Builtin.parsers⟩ paddedDocument).outcome = .ok blocks ∧
      blocks.map (·.source) = ["Adds.\n@a p.q\n\nmore\n@a p.r".toList, "@a s.t".toList] ∧
      ∀ block ∈ blocks, ∃ again,
        (parse ⟨true, true, Builtin.parsers⟩ (wrapped (pieces '\n' block.source))).outcome =
          .ok [again] ∧
        again.description = block.description ∧ again.source = block.source ∧
        ∃ offset : Int, renumberedAll (fun number : Nat => (number : Int) + offset) again.tags =
          renumberedAll (fun number : Nat => (number : Int)) block.tags := by
  have evaluated : ((parse ⟨true, true, Builtin.parsers⟩ paddedDocument).outcome.map
      (List.map (·.source))).toOption =
        some ["Adds.\n@a p.q\n\nmore\n@a p.r".toList, "@a s.t".toList] := by
    decide +kernel
  cases parsed : (parse ⟨true, true, Builtin.parsers⟩ paddedDocument).outcome with
  | error fault =>
      rw [parsed] at evaluated
      cases evaluated
  | ok blocks =>
      rw [parsed] at evaluated
      refine ⟨rfl, blocks, rfl, Option.some.inj evaluated, fun block found => ?_⟩
      exact trimmed_source_reads_back ⟨true, true, Builtin.parsers⟩ rfl paddedDocument parsed found

end DocComment
