import DocComment.Proofs.CheckedBlocks
import DocComment.Proofs.JsonRoundTrip
import DocComment.Proofs.StandardTags

/-!
# Blocks that are read back

The blocks that the standard parsers read can be printed and read back (`legible_blocks`).  Two
things are needed for that.  What the parsers leave in a tag are texts, flags and messages
(`TagNode.IsSimple`), and nesting keeps it so.  And the numbers of lines have few enough digits,
because no line has a greater number than the document has lines.
-/

namespace DocComment

open CommandLine Schema Text

/-! ## Values that are legible -/

lemma legible_text (content : Text) : Json.Legible (.ofValue (.text content)) := by
  rw [Json.ofValue]
  exact .text content

lemma legible_ofNat {n : Nat} (short : (Decimal.numeral n).length ≤ integerDigitLimit) :
    Json.Legible (.ofValue (.ofNat n)) := by
  rw [Value.ofNat, Json.ofValue]
  exact .int short

lemma legible_list {items : List Value} (each : ∀ item ∈ items, Json.Legible (.ofValue item)) :
    Json.Legible (.ofValue (.list items)) := by
  rw [Json.ofValue, ofValues_eq_map]
  exact .array (List.forall_mem_map.mpr each)

lemma legible_record {fields : Record} (distinct : (fields.map (·.1)).Nodup)
    (each : ∀ name value, (name, value) ∈ fields → Json.Legible (.ofValue value)) :
    Json.Legible (.ofValue (.record fields)) := by
  rw [Json.ofValue, ofFields_eq_map]
  refine .object ?_ ?_ ?_
  · exact List.forall_mem_map.mpr fun field _ => ⟨field.1.toList, rfl⟩
  · rw [List.map_map]
    have names : (fields.map (·.1)).map CodePoint.listOf =
        fields.map ((·.1) ∘ fun field => (CodePoint.listOf field.1, Json.ofValue field.2)) := by
      rw [List.map_map]
      rfl
    rw [← names]
    exact List.Pairwise.map CodePoint.listOf (fun _ _ ne => mt listOf_injective ne) distinct
  · exact List.forall_mem_map.mpr fun field found => each field.1 field.2 found

lemma Value.IsSimple.legible {value : Value} (simple : value.IsSimple) :
    Json.Legible (.ofValue value) := by
  cases simple with
  | text content => exact legible_text content
  | flag raised =>
      rw [Json.ofValue]
      exact .bool raised
  | messages messages =>
      exact legible_list (List.forall_mem_map.mpr fun content _ => legible_text content)

/-! ## Tags that can be printed -/

/-- So few lines that each has a number of no more digits than are converted. -/
def Numberable (lines : Nat) : Prop :=
  ∀ number < lines, (Decimal.numeral number).length ≤ integerDigitLimit

namespace TagNode

/-- What the parsers left in a tag is simple; there is nothing where no parser was called. -/
def IsSimple {ν : Type} : TagNode ν → Prop
  | .written fields _ _ _ => ∀ name value, (name, value) ∈ fields → value.IsSimple
  | .implied _ _ _ _ => True

/-- A tag is complete, what the parsers left in it is simple, and its line is one of the first. -/
structure IsPrintable (lines : Nat) (node : TagNode Nat) : Prop where
  complete : node.IsComplete
  simple : node.IsSimple
  line : node.line < lines

lemma keptByNesting_isPrintable (lines : Nat) : KeptByNesting (IsPrintable lines) where
  withTags {node} printable tags := by
    refine ⟨printable.complete.withTags tags, ?_, ?_⟩
    · cases node <;> exact printable.simple
    · rw [line_withTags]
      exact printable.line
  withName {node} printable name := by
    refine ⟨printable.complete.withName name, ?_, ?_⟩
    · cases node with
      | written fields line source tags =>
          intro other value found
          rcases Record.mem_set found with ⟨-, rfl⟩ | old
          · exact .text name
          · exact printable.simple other value old
      | implied tag old line tags => exact trivial
    · rw [line_withName]
      exact printable.line
  implied printable _ _ := ⟨printable.complete.isNamed.textKeyword, trivial, printable.line⟩

lemma IsComplete.nodup_names {node : TagNode Nat} (complete : node.IsComplete) :
    (node.allFields.map (·.1)).Nodup := by
  cases node with
  | written fields line source tags =>
      obtain ⟨record, elsewhere⟩ := complete
      rw [allFields, List.map_append]
      refine List.nodup_append.mpr ⟨record.distinct, show placeFields.Nodup by decide, ?_⟩
      intro own isOwn place isPlace same
      obtain ⟨field, isField, rfl⟩ := List.mem_map.mp isOwn
      exact elsewhere field isField (same ▸ isPlace)
  | implied tag name line tags =>
      show ["tag", "type", "name", "description", "optional", "line", "source", "tags",
        "errors"].Nodup
      decide

lemma IsPrintable.legible {lines : Nat} {node : TagNode Nat}
    (printable : node.IsPrintable lines) (few : Numberable lines)
    (nested : ∀ child ∈ node.tags, Json.Legible (.ofValue (child.toValue Value.ofNat))) :
    Json.Legible (.ofValue (node.toValue Value.ofNat)) := by
  have line := legible_ofNat (few _ printable.line)
  have tags : Json.Legible (.ofValue (.list (toValues Value.ofNat node.tags))) := by
    refine legible_list fun value found => ?_
    rw [toValues_eq_map] at found
    obtain ⟨child, isChild, rfl⟩ := List.mem_map.mp found
    exact nested child isChild
  rw [toValue_eq]
  refine legible_record printable.complete.nodup_names fun name value found => ?_
  cases node with
  | written fields number source below =>
      rcases List.mem_append.mp found with own | place
      · exact (printable.simple name value own).legible
      · simp only [List.mem_cons, Prod.mk.injEq, List.not_mem_nil, or_false] at place
        rcases place with ⟨-, rfl⟩ | ⟨-, rfl⟩ | ⟨-, rfl⟩
        · exact line
        · exact legible_text source
        · exact tags
  | implied tag part number below =>
      obtain ⟨keyword, rfl⟩ := printable.complete
      simp only [allFields, List.mem_cons, Prod.mk.injEq, List.not_mem_nil, or_false] at found
      rcases found with ⟨-, rfl⟩ | ⟨-, rfl⟩ | ⟨-, rfl⟩ | ⟨-, rfl⟩ | ⟨-, rfl⟩ | ⟨-, rfl⟩ | ⟨-, rfl⟩ |
        ⟨-, rfl⟩ | ⟨-, rfl⟩
      · exact legible_text keyword
      · exact legible_text []
      · exact legible_text part
      · exact legible_text []
      · exact (Value.IsSimple.flag false).legible
      · exact line
      · exact legible_text []
      · exact tags
      · exact (Value.IsSimple.messages []).legible

end TagNode

/-- A forest whose tags can all be printed, at every depth. -/
abbrev PrintableForest (lines : Nat) (tags : List (TagNode Nat)) : Prop :=
  Everywhere (fun siblings => ∀ node ∈ siblings, node.IsPrintable lines) tags

lemma legible_tags {lines : Nat} (few : Numberable lines)
    {tags : List (TagNode Nat)} (printable : PrintableForest lines tags) :
    ∀ node ∈ tags, Json.Legible (.ofValue (node.toValue Value.ofNat)) := by
  induction printable with
  | intro here below ih => exact fun node isTag => (here node isTag).legible few (ih node isTag)

/-! ## Blocks that can be printed -/

/-- A block stands on one of the first lines, and its tags can be printed. -/
structure Block.IsPrintable (lines : Nat) (block : Block Nat) : Prop where
  line : block.line < lines
  tags : PrintableForest lines block.tags

lemma PrintableForest.complete {lines : Nat} {tags : List (TagNode Nat)}
    (printable : PrintableForest lines tags) : CompleteForest tags := by
  induction printable with
  | intro here below ih => exact .intro (fun node isTag => (here node isTag).complete) ih

/-- **Printable blocks are legible.** -/
lemma legible_blocks {lines : Nat} (few : Numberable lines)
    {blocks : List (Block Nat)} (printable : ∀ block ∈ blocks, block.IsPrintable lines) :
    Json.Legible (.ofValue (blocksValue blocks)) := by
  refine legible_list (List.forall_mem_map.mpr fun block isBlock => ?_)
  have sound := printable block isBlock
  have tags : Json.Legible (.ofValue (.list (TagNode.toValues Value.ofNat block.tags))) := by
    refine legible_list fun value found => ?_
    rw [TagNode.toValues_eq_map] at found
    obtain ⟨node, isTag, rfl⟩ := List.mem_map.mp found
    exact legible_tags few sound.tags node isTag
  refine legible_record (show ["line", "description", "source", "tags"].Nodup by decide) ?_
  intro name value found
  simp only [List.mem_cons, Prod.mk.injEq, List.not_mem_nil, or_false] at found
  rcases found with ⟨-, rfl⟩ | ⟨-, rfl⟩ | ⟨-, rfl⟩ | ⟨-, rfl⟩
  · exact legible_ofNat (few _ sound.line)
  · exact legible_text block.description
  · exact legible_text block.source
  · exact tags

/-! ## Documents that the standard parsers read -/

lemma isPrintable_of_writtenTag? {trimmed : Bool} {passage : Passage Nat} {node : TagNode Nat}
    (written : writtenTag? trimmed Builtin.parsers passage = .ok (some node)) {lines : Nat}
    (number : passage.number < lines) : node.IsPrintable lines := by
  obtain ⟨record, rest, rfl, parsed, -⟩ := exists_of_writtenTag?_eq_some written
  obtain ⟨_, _, _, _, _, sameParsed, run⟩ := exists_standardRun Nat rest
  obtain rfl : record = _ := by simpa using parsed.symm.trans sameParsed
  have complete : CompleteRecord record := by
    obtain ⟨result, typedParsed, complete⟩ :=
      exists_parseTag_of_isTyped Nat Builtin.isTyped_parsers ('@' :: rest)
    exact complete record (Except.ok.inj (typedParsed.symm.trans parsed))
  refine ⟨TagNode.isComplete_ofRecord complete _ _, fun name value own => ?_, number⟩
  exact run.isSimple complete (List.mem_filter.mp own).1

lemma exists_line_of_parseBlock {options : Options} {comment : List (Line Nat)}
    {block : Block Nat} (made : (parseBlock options comment).outcome = .ok (some block)) :
    ∃ first ∈ comment, block.line = first.number := by
  rw [outcome_parseBlock] at made
  obtain ⟨tags, -, makes⟩ := map_eq_ok_iff.mp made
  obtain ⟨first, isFirst, shown⟩ := Option.bind_eq_some_iff.mp makes
  refine ⟨first, List.mem_of_mem_head? isFirst, ?_⟩
  split at shown
  · cases shown
  · exact Option.some.inj shown ▸ rfl

/-- A comment comes to a block that can be printed, if names do not nest. -/
lemma isPrintable_of_parseBlock {trim : Bool} {comment : List (Line Nat)} {block : Block Nat}
    (made : (parseBlock ⟨trim, false, Builtin.parsers⟩ comment).outcome = .ok (some block))
    {lines : Nat} (numbers : ∀ entry ∈ comment, entry.number < lines) :
    block.line < lines ∧ ∀ node ∈ block.tags, node.IsPrintable lines := by
  have written := tags_of_parseBlock rfl made
  constructor
  · obtain ⟨first, isFirst, line⟩ := exists_line_of_parseBlock made
    exact line ▸ numbers first isFirst
  · intro node isTag
    obtain ⟨passage, isPassage, tagOf⟩ := List.mem_map.mp (mem_of_mem_collect written isTag)
    have number : passage.number ∈ comment.map (·.number) :=
      (numbers_tagPassages_sublist trim comment).subset (List.mem_map_of_mem isPassage)
    obtain ⟨entry, isEntry, same⟩ := List.mem_map.mp number
    exact isPrintable_of_writtenTag? tagOf (same ▸ numbers entry isEntry)

/-- **The standard parsers read every document to blocks that can be printed.** -/
lemma exists_printable_blocks (trim dottedNames : Bool) (source : Text) :
    ∃ blocks, (parse ⟨trim, dottedNames, Builtin.parsers⟩ source).outcome = .ok blocks ∧
      ∀ block ∈ blocks, block.IsPrintable (pieces '\n' source).length := by
  obtain ⟨plain, parsed, complete, bare⟩ := exists_complete_blocks ⟨trim, false, Builtin.parsers⟩
    Builtin.isTyped_parsers (pieces '\n' source)
  -- Nesting only arranges the tags that are read without it.
  have bare := bare rfl
  have each : ∀ block ∈ plain, block.line < (pieces '\n' source).length ∧
      ∀ node ∈ block.tags, node.IsPrintable (pieces '\n' source).length := by
    intro block found
    obtain ⟨comment, finding, made⟩ := exists_comment_of_mem_parseLines parsed found
    exact isPrintable_of_parseBlock made (number_lt_of_comment_mem_findings finding)
  cases dottedNames with
  | false =>
      refine ⟨plain, parsed, fun block found => ⟨(each block found).1, ?_⟩⟩
      refine .intro (each block found).2 fun node isTag => ?_
      rw [bare block found node isTag]
      exact .intro (by simp) (by simp)
  | true =>
      have named : ∀ block ∈ plain, ∀ node ∈ block.tags, node.IsNamed :=
        fun block found node isTag => ((each block found).2 node isTag).complete.isNamed
      refine ⟨plain.map Block.nested,
        outcome_parseLines_of_dottedNames ⟨trim, true, Builtin.parsers⟩ parsed named, ?_⟩
      refine List.forall_mem_map.mpr fun block found => ⟨(each block found).1, ?_⟩
      exact everywhere_of_forall_within _ ((TagNode.keptByNesting_isPrintable _).foldl_nest
        (each block found).2 (bare block found) (by simp))

end DocComment
