import DocComment.Proofs.Flattening
import DocComment.Proofs.TreeShape
import DocComment.Proofs.TypedParsers
import DocComment.Tag.Script

/-!
# Documents whose tags are nested

A document can be read with nesting whenever it can be read without, provided the tags have texts
for keywords and names; the standard parsers see to that for every document.  Two things are said
about what is read: flattening brings back what is read without nesting
(`flattening_undoes_nesting`), and the tags of every block have the shape of nested tags
(`nested_documents_are_shaped`).
-/

namespace DocComment

/-- A document whose tags are named can be read both ways, and with nesting each block has its tags
nested one by one, which are ready to be nested and stand on lines that ascend. -/
lemma NamesTags.exists_blocks {options : Options} {source : Text}
    (named : NamesTags options source ∨ options.parsers = Builtin.parsers) :
    ∃ blocks, (parse { options with dottedNames := false } source).outcome = .ok blocks ∧
      (parse { options with dottedNames := true } source).outcome =
        .ok (blocks.map Block.nested) ∧
      ∀ block ∈ blocks, (∀ node ∈ block.tags, Nestable node) ∧
        block.tags.Pairwise (·.line < ·.line) := by
  have named : NamesTags options source := by
    rcases named with named | standard
    · exact named
    · exact namesTags_of_isTyped (standard ▸ Builtin.isTyped_parsers) source
  obtain ⟨blocks, parsed, isNamed⟩ := named
  refine ⟨blocks, parsed, outcome_parseLines_of_dottedNames options parsed isNamed, ?_⟩
  intro block found
  exact nestable_of_mem_parseLines rfl parsed found (isNamed block found)

/-- **Flattening undoes nesting.**  A document whose tags are named, and every document that the
standard parsers read, is read with nesting as without, but for the places of the tags: dropping the
tags without a text, spelling out the names along each path and listing the tags by their lines
gives exactly the blocks that are read without nesting. -/
theorem flattening_undoes_nesting (options : Options) (source : Text)
    (named : NamesTags options source ∨ options.parsers = Builtin.parsers) :
    ∃ plain nested,
      (parse { options with dottedNames := false } source).outcome = .ok plain ∧
      (parse { options with dottedNames := true } source).outcome = .ok nested ∧
      nested.map Block.flattened = plain := by
  obtain ⟨plain, parsed, nested, tags⟩ := NamesTags.exists_blocks named
  refine ⟨plain, plain.map Block.nested, parsed, nested, ?_⟩
  have undone : ∀ block ∈ plain, block.nested.flattened = block := by
    intro block found
    obtain ⟨nestable, ascending⟩ := tags block found
    simp only [Block.nested, Block.flattened, flattened_foldl_nest nestable ascending]
  rw [List.map_map]
  exact (List.map_congr_left undone).trans (List.map_id plain)

/-- Options with one parser, a script that takes the whole text of a tag for its name. -/
def wholeNames : Options where
  trim := true
  dottedNames := true
  parsers :=
    [Script.toParser ⟨"whole", [], .consumes .all [("tag", .ofString "whole")] (some "name")⟩]

/-- A comment with a tag in front of its parent, the parent, and a tag behind it. -/
def parentBetween : Text := "/**\n * @x.y.z\n * @x\n * @x.y\n */".toList

/-- The script names the tags of every document. -/
lemma namesTags_wholeNames (source : Text) : NamesTags wholeNames source := by
  refine namesTags_of_isTyped (fun parser found => ?_) source
  rw [List.mem_singleton.mp found]
  intro text record
  have typed : TypedFields [("tag", .ofString "whole"), ("name", .text text)] :=
    .cons (.ofText (by simp [textFields]) _) (.cons (.ofText (by simp [textFields]) _) .nil)
  exact .consuming typed text

theorem flattening_undoes_nesting_around_parent :
    NamesTags wholeNames parentBetween ∧
      ∃ plain nested,
        (parse { wholeNames with dottedNames := false } parentBetween).outcome = .ok plain ∧
        (parse { wholeNames with dottedNames := true } parentBetween).outcome = .ok nested ∧
        nested.map Block.flattened = plain :=
  ⟨namesTags_wholeNames parentBetween,
    flattening_undoes_nesting wholeNames parentBetween (.inl (namesTags_wholeNames _))⟩

/-- **The shape of nested tags.**  In every block of a document whose tags are named, and of every
document that the standard parsers read, the tags at the top and the tags below each tag have the
shape of siblings. -/
theorem nested_documents_are_shaped (options : Options) (source : Text)
    (named : NamesTags options source ∨ options.parsers = Builtin.parsers) :
    ∃ blocks, (parse { options with dottedNames := true } source).outcome = .ok blocks ∧
      ∀ block ∈ blocks, Everywhere ShapedSiblings block.tags := by
  obtain ⟨plain, -, nested, tags⟩ := NamesTags.exists_blocks named
  refine ⟨plain.map Block.nested, nested, fun block found => ?_⟩
  obtain ⟨source, isPlain, rfl⟩ := List.mem_map.mp found
  obtain ⟨nestable, ascending⟩ := tags source isPlain
  exact everywhere_foldl_nest nestable ascending everywhere_nil (by simp)

theorem nested_around_parent_is_shaped :
    NamesTags wholeNames parentBetween ∧
      ∃ blocks,
        (parse { wholeNames with dottedNames := true } parentBetween).outcome = .ok blocks ∧
        ∀ block ∈ blocks, Everywhere ShapedSiblings block.tags :=
  ⟨namesTags_wholeNames parentBetween,
    nested_documents_are_shaped wholeNames parentBetween (.inl (namesTags_wholeNames _))⟩

end DocComment
