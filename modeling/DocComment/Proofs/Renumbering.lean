import DocComment.Proofs.WrittenTags
import Mathlib.Data.List.Forall2

/-!
# Renumbering the lines of a comment

No decision on the way from the lines of a comment to its block depends on how the lines are
numbered: neither where passages begin, nor what parsers make of a text, nor where a tag is nested.
So a comment that repeats another at other numbers (`Echoes`) comes to the same block at other
numbers (`outcome_parseBlock_of_echoes`).

A comment is repeated at other numbers by renumbering its lines (`Echoes.of_renumbered`).  It is
repeated, too, where the texts of its passages stay the same although their lines do not, and for
that case the number of the block and those of the tags change in different ways.
-/

namespace DocComment

open Text

variable {ν μ : Type}

/-! ## Lines, tags and blocks at other numbers -/

/-- The line at another number. -/
def Line.renumbered (renumber : ν → μ) (line : Line ν) : Line μ :=
  ⟨line.text, renumber line.number⟩

mutual

/-- The tag and all tags nested under it at other numbers. -/
def TagNode.renumbered (renumber : ν → μ) : TagNode ν → TagNode μ
  | .written fields line source tags =>
    .written fields (renumber line) source (renumberedAll renumber tags)
  | .implied tag name line tags =>
    .implied tag name (renumber line) (renumberedAll renumber tags)

/-- The tags of a forest at other numbers. -/
def renumberedAll (renumber : ν → μ) : List (TagNode ν) → List (TagNode μ)
  | [] => []
  | node :: rest => node.renumbered renumber :: renumberedAll renumber rest

end

/-- The block and all its tags at other numbers. -/
def Block.renumbered (renumber : ν → μ) (block : Block ν) : Block μ :=
  ⟨renumber block.line, block.description, block.source, renumberedAll renumber block.tags⟩

/-- The block at other numbers, its own found in another way than those of its tags. -/
def Block.renumberedApart (ofBlock ofTags : ν → μ) (block : Block ν) : Block μ :=
  ⟨ofBlock block.line, block.description, block.source, renumberedAll ofTags block.tags⟩

section Tags

variable (renumber : ν → μ)

@[simp] lemma renumberedAll_nil : renumberedAll renumber [] = [] := by
  simp [renumberedAll]

@[simp] lemma renumberedAll_cons (node : TagNode ν) (rest : List (TagNode ν)) :
    renumberedAll renumber (node :: rest) =
      node.renumbered renumber :: renumberedAll renumber rest := by
  simp [renumberedAll]

lemma renumberedAll_eq_map (tags : List (TagNode ν)) :
    renumberedAll renumber tags = tags.map (TagNode.renumbered renumber) := by
  induction tags with
  | nil => simp
  | cons node rest ih => simp [ih]

namespace TagNode

@[simp] lemma tag_renumbered (node : TagNode ν) : (node.renumbered renumber).tag = node.tag := by
  cases node <;> simp [renumbered, TagNode.tag]

@[simp] lemma name_renumbered (node : TagNode ν) :
    (node.renumbered renumber).name = node.name := by
  cases node <;> simp [renumbered, TagNode.name]

@[simp] lemma line_renumbered (node : TagNode ν) :
    (node.renumbered renumber).line = renumber node.line := by
  cases node <;> simp [renumbered, TagNode.line]

@[simp] lemma tags_renumbered (node : TagNode ν) :
    (node.renumbered renumber).tags = renumberedAll renumber node.tags := by
  cases node <;> simp [renumbered, TagNode.tags]

@[simp] lemma withTags_renumbered (node : TagNode ν) (tags : List (TagNode ν)) :
    (node.renumbered renumber).withTags (renumberedAll renumber tags) =
      (node.withTags tags).renumbered renumber := by
  cases node <;> simp [renumbered, withTags]

@[simp] lemma withName_renumbered (node : TagNode ν) (name : Text) :
    (node.renumbered renumber).withName name = (node.withName name).renumbered renumber := by
  cases node <;> simp [renumbered, withName]

@[simp] lemma isCalled_renumbered (node : TagNode ν) (tag : Value) (part : Text) :
    (node.renumbered renumber).isCalled tag part = node.isCalled tag part := by
  simp [isCalled]

lemma renumbered_ofRecord (record : Record) (line : ν) (source : Text) :
    (ofRecord record line source).renumbered renumber =
      ofRecord record (renumber line) source := by
  simp [ofRecord, renumbered]

end TagNode

end Tags

/-! ## Nesting at other numbers -/

lemma updateLast?_map {α β : Type} {into : α → β} {has : α → Bool} {hasInto : β → Bool}
    {change : α → α} {changeInto : β → β} (sameItems : ∀ item, hasInto (into item) = has item)
    (sameChange : ∀ item, changeInto (into item) = into (change item)) (items : List α) :
    updateLast? hasInto changeInto (items.map into) =
      (updateLast? has change items).map (List.map into) := by
  induction items with
  | nil => rfl
  | cons item rest ih =>
      simp only [List.map_cons, updateLast?, ih, sameItems, sameChange]
      cases updateLast? has change rest with
      | some changed => rfl
      | none => cases has item <;> rfl

lemma attach_renumbered (renumber : ν → μ) (node : TagNode ν) (path : List Text)
    (tags : List (TagNode ν)) :
    attach (node.renumbered renumber) path (renumberedAll renumber tags) =
      renumberedAll renumber (attach node path tags) := by
  induction path generalizing tags with
  | nil =>
      simp only [attach_nil, renumberedAll_eq_map, List.map_append, List.map_cons, List.map_nil]
  | cons part path ih =>
      have sameChange : ∀ parent : TagNode ν,
          (parent.renumbered renumber).withTags
              (attach (node.renumbered renumber) path (parent.renumbered renumber).tags) =
            (parent.withTags (attach node path parent.tags)).renumbered renumber := by
        intro parent
        rw [TagNode.tags_renumbered, ih, TagNode.withTags_renumbered]
      have empty := ih []
      rw [renumberedAll_nil] at empty
      simp only [attach, TagNode.tag_renumbered, TagNode.line_renumbered]
      rw [renumberedAll_eq_map renumber tags,
        updateLast?_map (TagNode.isCalled_renumbered renumber · node.tag part) sameChange]
      cases updateLast? (TagNode.isCalled node.tag part)
          (fun parent => parent.withTags (attach node path parent.tags)) tags with
      | some changed => simp [renumberedAll_eq_map]
      | none => simp [empty, renumberedAll_eq_map, TagNode.renumbered]

lemma addTag_renumbered (renumber : ν → μ) (dottedNames : Bool) (tags : List (TagNode ν))
    (node : TagNode ν) :
    addTag dottedNames (renumberedAll renumber tags) (node.renumbered renumber) =
      (addTag dottedNames tags node).map (renumberedAll renumber) := by
  have behind : renumberedAll renumber tags ++ [node.renumbered renumber] =
      renumberedAll renumber (tags ++ [node]) := by simp [renumberedAll_eq_map]
  cases dottedNames with
  | false => simp [addTag, behind, Except.map]
  | true =>
      simp only [addTag, if_true, TagNode.name_renumbered]
      cases dottedParts? node.name with
      | error fault => rfl
      | ok parts =>
          cases parts with
          | none => exact congrArg Except.ok behind
          | some parts =>
              have placed := attach_renumbered renumber
                (node.withName (parts.getLast?.getD [])) parts.dropLast tags
              rw [← TagNode.withName_renumbered] at placed
              exact congrArg Except.ok placed

/-! ## What parsers make of a text -/

lemma Progress.outcome_absorb_eq (source : Text) (parser : String) (remaining : Text)
    (record : Record) (reply : Reply) :
    (absorb source parser remaining record reply : Report ν Progress).outcome =
      (absorb source parser remaining record reply : Report μ Progress).outcome := by
  cases reply with
  | failed message => rfl
  | value value =>
      simp only [absorb]
      cases Response.ofValue value <;> rfl

lemma Progress.outcome_callAll_eq (ν μ : Type) (source : Text) (parsers : List TagParser)
    (index : Nat) (progress : Progress) :
    (callAll source index parsers progress : Report ν Progress).outcome =
      (callAll source index parsers progress : Report μ Progress).outcome := by
  induction parsers generalizing index progress with
  | nil => rfl
  | cons parser rest ih =>
      have called : (call source index parser progress : Report ν Progress).outcome =
          (call source index parser progress : Report μ Progress).outcome := by
        simp only [call, Report.outcome_bind, Report.outcome_noting, Except.bind]
        exact outcome_absorb_eq source parser.name progress.remaining _ _
      simp only [callAll, Report.outcome_bind, called, ih]

/-- What a text comes to does not depend on how lines are numbered. -/
lemma outcome_parseTag_eq (ν μ : Type) (source : Text) (parsers : List TagParser) :
    (parseTag source parsers : Report ν (Option Record)).outcome =
      (parseTag source parsers : Report μ (Option Record)).outcome := by
  unfold parseTag
  split
  · simp only [Report.outcome_bind]
    rw [Progress.outcome_callAll_eq ν μ]
    rfl
  · rfl

/-! ## Passages and comments that repeat others -/

/-- A passage has the text of another, at another number. -/
structure Passage.Echoes (trimmed : Bool) (renumber : ν → μ) (passage : Passage ν)
    (echo : Passage μ) : Prop where
  number : echo.number = renumber passage.number
  source : sourceOf trimmed echo.lines = sourceOf trimmed passage.lines

/-- A comment has the description, the source and the passages of another, at other numbers. -/
structure Echoes (trimmed : Bool) (ofBlock ofTags : ν → μ) (lines : List (Line ν))
    (echo : List (Line μ)) : Prop where
  first : echo.head?.map (·.number) = lines.head?.map fun line => ofBlock line.number
  description : sourceOf trimmed (passages (echo.map (Line.trimIf trimmed))).1 =
    sourceOf trimmed (passages (lines.map (Line.trimIf trimmed))).1
  source : sourceOf trimmed ((echo.map (Line.trimIf trimmed)).map (·.text)) =
    sourceOf trimmed ((lines.map (Line.trimIf trimmed)).map (·.text))
  passages : List.Forall₂ (Passage.Echoes trimmed ofTags) (tagPassages trimmed lines)
    (tagPassages trimmed echo)

section Echo

variable {trimmed : Bool} {ofBlock ofTags : ν → μ} {lines : List (Line ν)} {echo : List (Line μ)}

/-- A passage writes the tag that another with its text writes. -/
lemma Passage.Echoes.writtenTag?_eq {passage : Passage ν} {echo : Passage μ}
    (echoes : passage.Echoes trimmed ofTags echo) (parsers : List TagParser) :
    writtenTag? trimmed parsers echo =
      (writtenTag? trimmed parsers passage).map (Option.map (TagNode.renumbered ofTags)) := by
  simp only [writtenTag?, echoes.number, echoes.source]
  rw [outcome_parseTag_eq μ ν]
  cases (parseTag (sourceOf trimmed passage.lines) parsers : Report ν (Option Record)).outcome with
  | error fault => rfl
  | ok result =>
      cases result with
      | none => rfl
      | some record =>
          exact congrArg (Except.ok ∘ some) (TagNode.renumbered_ofRecord _ _ _ _).symm

/-- Passages with the texts of others add the tags that those add. -/
lemma outcome_addPassages_of_echoes (options : Options) {passages : List (Passage ν)}
    {echoed : List (Passage μ)}
    (echoes : List.Forall₂ (Passage.Echoes options.trim ofTags) passages echoed)
    (tags : List (TagNode ν)) :
    (addPassages options (renumberedAll ofTags tags) echoed).outcome =
      (addPassages options tags passages).outcome.map (renumberedAll ofTags) := by
  induction echoes generalizing tags with
  | nil => rfl
  | @cons passage echo rest echoedRest first others ih =>
      have added : (addPassage options (renumberedAll ofTags tags) echo).outcome =
          (addPassage options tags passage).outcome.map (renumberedAll ofTags) := by
        rw [outcome_addPassage, outcome_addPassage, first.writtenTag?_eq]
        cases writtenTag? options.trim options.parsers passage with
        | error fault => rfl
        | ok written =>
            cases written with
            | none => rfl
            | some node => exact addTag_renumbered ofTags options.dottedNames tags node
      rw [addPassages, addPassages, Report.outcome_bind, Report.outcome_bind, added]
      cases (addPassage options tags passage).outcome with
      | error fault => rfl
      | ok more => exact ih more

lemma Echoes.blockWith_eq (echoes : Echoes trimmed ofBlock ofTags lines echo)
    (tags : List (TagNode ν)) :
    blockWith trimmed echo (renumberedAll ofTags tags) =
      (blockWith trimmed lines tags).map (Block.renumberedApart ofBlock ofTags) := by
  have silent : (tagPassages trimmed echo).isEmpty = (tagPassages trimmed lines).isEmpty := by
    rw [Bool.eq_iff_iff, List.isEmpty_iff_length_eq_zero, List.isEmpty_iff_length_eq_zero,
      echoes.passages.length_eq]
  rw [tagPassages, tagPassages] at silent
  have first := echoes.first
  simp only [blockWith, echoes.description, echoes.source, silent]
  cases here : lines.head? with
  | none =>
      rw [here, Option.map_none, Option.map_eq_none_iff] at first
      rw [first]
      rfl
  | some line =>
      rw [here, Option.map_some, Option.map_eq_some_iff] at first
      obtain ⟨echoLine, isFirst, number⟩ := first
      rw [isFirst, Option.bind_some, Option.bind_some, number]
      split <;> rfl

/-- **Repeating a comment at other numbers repeats its block.**  A comment with the description,
the source and the passages of another comes to the block that the other comes to, at other
numbers, or to the same fault. -/
lemma outcome_parseBlock_of_echoes (options : Options)
    (echoes : Echoes options.trim ofBlock ofTags lines echo) :
    (parseBlock options echo).outcome =
      (parseBlock options lines).outcome.map
        (Option.map (Block.renumberedApart ofBlock ofTags)) := by
  have added := outcome_addPassages_of_echoes options echoes.passages []
  rw [renumberedAll_nil] at added
  rw [outcome_parseBlock, outcome_parseBlock, added]
  cases (addPassages options [] (tagPassages options.trim lines)).outcome with
  | error fault => rfl
  | ok tags => exact congrArg Except.ok (echoes.blockWith_eq tags)

end Echo

/-! ## Renumbering repeats -/

lemma passages_renumbered (renumber : ν → μ) (lines : List (Line ν)) :
    passages (lines.map (Line.renumbered renumber)) =
      ((passages lines).1,
        (passages lines).2.map fun passage => ⟨passage.lines, renumber passage.number⟩) := by
  induction lines with
  | nil => rfl
  | cons line rest ih =>
      rw [List.map_cons, passages_cons, passages_cons, ih]
      by_cases header : isHeader line.text = true
      · simp [Line.renumbered, header]
      · simp [Line.renumbered, header]

lemma trimIf_renumbered (renumber : ν → μ) (trimmed : Bool) (line : Line ν) :
    (line.renumbered renumber).trimIf trimmed = (line.trimIf trimmed).renumbered renumber := by
  cases trimmed <;> rfl

lemma Echoes.of_renumbered (trimmed : Bool) (renumber : ν → μ) (lines : List (Line ν)) :
    Echoes trimmed renumber renumber lines (lines.map (Line.renumbered renumber)) := by
  have kept : (lines.map (Line.renumbered renumber)).map (Line.trimIf trimmed) =
      (lines.map (Line.trimIf trimmed)).map (Line.renumbered renumber) := by
    simp only [List.map_map, Function.comp_def, trimIf_renumbered]
  refine ⟨?_, ?_, ?_, ?_⟩
  · rw [List.head?_map, Option.map_map]
    rfl
  · rw [kept, passages_renumbered]
  · rw [kept, List.map_map]
    rfl
  · rw [tagPassages, tagPassages, kept, passages_renumbered, List.forall₂_map_right_iff]
    exact List.forall₂_same.mpr fun passage _ => ⟨rfl, rfl⟩

lemma outcome_parseBlock_renumbered (options : Options) (renumber : ν → μ)
    (lines : List (Line ν)) :
    (parseBlock options (lines.map (Line.renumbered renumber))).outcome =
      (parseBlock options lines).outcome.map (Option.map (Block.renumbered renumber)) :=
  outcome_parseBlock_of_echoes options (.of_renumbered options.trim renumber lines)

end DocComment
