import DocComment.CommandLine.Request
import DocComment.Proofs.Conformance
import DocComment.Proofs.TreeShape
import DocComment.Proofs.TypedParsers

/-!
# Checking the blocks that are read

The blocks that typed parsers read conform to the shape of block lists, nested or not
(`conforms_blocks`), so checking never finds a violation in them (`foundSound_of_complete`).  It may
still come to no verdict, because nothing limits how deep tags nest.
-/

namespace DocComment

open Schema

/-! ## The fields of a tag -/

namespace TagNode

/-- The record that a tag is given out as. -/
def allFields : TagNode Nat → Record
  | .written fields line source tags =>
    fields ++ [("line", .ofNat line), ("source", .text source),
      ("tags", .list (toValues Value.ofNat tags))]
  | .implied tag name line tags =>
    [("tag", tag), ("type", .text []), ("name", .text name), ("description", .text []),
      ("optional", .bool false), ("line", .ofNat line), ("source", .text []),
      ("tags", .list (toValues Value.ofNat tags)), ("errors", .list [])]

lemma toValue_eq (node : TagNode Nat) : node.toValue Value.ofNat = .record node.allFields := by
  cases node <;> simp [toValue, allFields]

lemma field?_eq (node : TagNode Nat) (name : String) :
    node.field? name = Record.get? node.allFields name := by
  rw [field?, toValue_eq]

lemma toValues_eq_map (tags : List (TagNode Nat)) :
    toValues Value.ofNat tags = tags.map (toValue Value.ofNat) := by
  induction tags with
  | nil => simp [toValues]
  | cons node rest ih => simp [toValues, ih]

end TagNode

/-- What a tag holds in a field of a given shape. -/
inductive TagField (node : TagNode Nat) : Shape → Value → Prop
  | text (content : Text) : TagField node .text (.text content)
  | flag (raised : Bool) : TagField node .flag (.bool raised)
  | lineNumber : TagField node .lineNumber (.ofNat node.line)
  | messages (messages : List Text) : TagField node .messages (.list (messages.map .text))
  | tags : TagField node .tags (.list (TagNode.toValues Value.ofNat node.tags))

/-- The fields that the shape of a tag knows are those that the parsers decide and those that the
place of the tag decides. -/
lemma cases_of_tag_field {name : String} {inner : Shape}
    (known : Record.get? Shape.tag.fields name = some inner) :
    (name ∈ textFields ∧ inner = .text) ∨ (name = "optional" ∧ inner = .flag) ∨
      (name = "errors" ∧ inner = .messages) ∨ (name = "line" ∧ inner = .lineNumber) ∨
        (name = "source" ∧ inner = .text) ∨ (name = "tags" ∧ inner = .tags) := by
  have found := Record.mem_of_get? known
  simp only [Shape.fields, List.mem_cons, Prod.mk.injEq, List.not_mem_nil, or_false] at found
  simp only [textFields, List.mem_cons, List.not_mem_nil, or_false]
  grind

namespace TagNode.IsComplete

variable {node : TagNode Nat}

/-- Every field of a complete tag that its shape knows is of the shape that it should be. -/
lemma tagField (complete : node.IsComplete) {name : String} {value : Value} {inner : Shape}
    (found : (name, value) ∈ node.allFields)
    (known : Record.get? Shape.tag.fields name = some inner) : TagField node inner value := by
  cases node with
  | written fields line source tags =>
      obtain ⟨record, elsewhere⟩ := complete
      rcases List.mem_append.mp found with own | place
      · have notPlace := elsewhere _ own
        rcases cases_of_tag_field known with ⟨isText, rfl⟩ | ⟨rfl, rfl⟩ | ⟨rfl, rfl⟩ | ⟨rfl, rfl⟩ |
          ⟨rfl, rfl⟩ | ⟨rfl, rfl⟩
        · obtain ⟨content, rfl⟩ := (record.typed name value own).text isText
          exact .text content
        · obtain ⟨raised, rfl⟩ := record.flag value own
          exact .flag raised
        · obtain ⟨messages, rfl⟩ := (record.typed "errors" value own).messages rfl
          exact .messages messages
        · simp [placeFields] at notPlace
        · simp [placeFields] at notPlace
        · simp [placeFields] at notPlace
      · simp only [List.mem_cons, Prod.mk.injEq, List.not_mem_nil, or_false] at place
        rcases place with ⟨rfl, rfl⟩ | ⟨rfl, rfl⟩ | ⟨rfl, rfl⟩ <;> cases known
        · exact .lineNumber
        · exact .text source
        · exact .tags
  | implied tag name line tags =>
      obtain ⟨keyword, rfl⟩ := complete
      simp only [allFields, List.mem_cons, Prod.mk.injEq, List.not_mem_nil, or_false] at found
      rcases found with ⟨rfl, rfl⟩ | ⟨rfl, rfl⟩ | ⟨rfl, rfl⟩ | ⟨rfl, rfl⟩ | ⟨rfl, rfl⟩ |
        ⟨rfl, rfl⟩ | ⟨rfl, rfl⟩ | ⟨rfl, rfl⟩ | ⟨rfl, rfl⟩ <;> cases known
      · exact .text keyword
      · exact .text []
      · exact .text name
      · exact .text []
      · exact .flag false
      · exact .lineNumber
      · exact .text []
      · exact .tags
      · exact .messages []

lemma present (complete : node.IsComplete) :
    ∀ field ∈ Shape.tag.fields, (Record.get? node.allFields field.1).isSome = true := by
  cases node with
  | written fields line source tags =>
      have split : ∀ name, name ∈ "optional" :: "errors" :: textFields ∨ name ∈ placeFields →
          (Record.get? (allFields (.written fields line source tags)) name).isSome = true := by
        intro name known
        rw [allFields, Record.get?_append, Option.isSome_or]
        rcases known with decided | place
        · rw [complete.1.present name decided, Bool.true_or]
        · simp only [placeFields, List.mem_cons, List.not_mem_nil, or_false] at place
          rcases place with rfl | rfl | rfl <;> simp [Record.get?_cons]
      intro field required
      refine split field.1 ?_
      revert field
      decide
  | implied tag name line tags =>
      intro field required
      simp only [Shape.fields, List.mem_cons, List.not_mem_nil, or_false] at required
      rcases required with rfl | rfl | rfl | rfl | rfl | rfl | rfl | rfl | rfl <;> rfl

end TagNode.IsComplete

/-! ## Blocks that conform -/

/-- A forest whose tags are all complete, at every depth. -/
abbrev CompleteForest (tags : List (TagNode Nat)) : Prop :=
  Everywhere (fun siblings => ∀ node ∈ siblings, node.IsComplete) tags

lemma conforms_tags {tags : List (TagNode Nat)} (complete : CompleteForest tags) :
    ∀ node ∈ tags, Conforms .tag (node.toValue Value.ofNat) := by
  induction complete with
  | @intro tags here below ih =>
      intro node found
      rw [TagNode.toValue_eq]
      refine .record rfl (here node found).present (fun name value inner isField known => ?_) nofun
      cases (here node found).tagField isField known with
      | text content => exact .text content
      | flag raised => exact .flag raised
      | lineNumber => exact .lineNumber node.line
      | messages messages =>
          refine .list rfl fun value isMessage => ?_
          obtain ⟨content, -, rfl⟩ := List.mem_map.mp isMessage
          exact .text content
      | tags =>
          refine .list rfl fun value isNested => ?_
          rw [TagNode.toValues_eq_map] at isNested
          obtain ⟨child, isChild, rfl⟩ := List.mem_map.mp isNested
          exact ih node found child isChild

/-- Blocks with complete tags conform to the shape of block lists. -/
lemma conforms_blocks {blocks : List (Block Nat)}
    (complete : ∀ block ∈ blocks, CompleteForest block.tags) :
    Conforms .blocks (CommandLine.blocksValue blocks) := by
  refine .list rfl fun value found => ?_
  obtain ⟨block, isBlock, rfl⟩ := List.mem_map.mp found
  refine .record rfl (by simp [Shape.fields, Record.get?_cons]) ?_
    (by simp [Shape.fields, Record.get?_cons])
  intro name value inner isField known
  simp only [List.mem_cons, Prod.mk.injEq, List.not_mem_nil, or_false] at isField
  rcases isField with ⟨rfl, rfl⟩ | ⟨rfl, rfl⟩ | ⟨rfl, rfl⟩ | ⟨rfl, rfl⟩ <;> cases known
  · exact .lineNumber block.line
  · exact .text block.description
  · exact .text block.source
  · refine .list rfl ?_
    rw [TagNode.toValues_eq_map]
    exact List.forall_mem_map.mpr (conforms_tags (complete block isBlock))

/-! ## Blocks that typed parsers read -/

namespace TagNode.IsComplete

variable {ν : Type} {node : TagNode ν}

lemma withTags (complete : node.IsComplete) (tags : List (TagNode ν)) :
    (node.withTags tags).IsComplete := by
  cases node <;> exact complete

lemma withName (complete : node.IsComplete) (name : Text) : (node.withName name).IsComplete := by
  cases node with
  | written fields line source tags =>
      obtain ⟨record, elsewhere⟩ := complete
      have isText : "name" ∈ textFields := by simp [textFields]
      have typed := record.toTypedRecord.set (.ofText isText name)
      refine ⟨⟨typed, fun value found => ?_, fun other known => ?_⟩, fun field found => ?_⟩
      · rcases Record.mem_set found with ⟨same, -⟩ | old
        · simp at same
        · exact record.flag value old
      · exact Record.isSome_get?_set (.inr (record.present other known)) _
      · rcases Record.mem_set found with ⟨same, -⟩ | old
        · rw [same]
          simp [placeFields]
        · exact elsewhere field old
  | implied tag old line tags => exact complete

lemma keptByNesting : KeptByNesting (TagNode.IsComplete (ν := ν)) where
  withTags complete := complete.withTags
  withName complete := complete.withName
  implied complete _ _ := complete.isNamed.textKeyword

end TagNode.IsComplete

/-- **Typed parsers read every document**, to blocks whose tags are complete at every depth; without
nesting nothing stands below a tag. -/
lemma exists_complete_blocks (options : Options)
    (isTyped : ∀ parser ∈ options.parsers, parser.IsTyped) (lines : List Text) :
    ∃ blocks, (parseLines options lines).outcome = .ok blocks ∧
      (∀ block ∈ blocks, CompleteForest block.tags) ∧
      (options.dottedNames = false → ∀ block ∈ blocks, ∀ node ∈ block.tags, node.tags = []) := by
  obtain ⟨blocks, parsed, complete⟩ :=
    exists_parseLines_of_isTyped { options with dottedNames := false } rfl isTyped lines
  have named := fun block found node isTag => (complete block found node isTag).isNamed
  have bare : ∀ block ∈ blocks, ∀ node ∈ block.tags, node.tags = [] := by
    intro block found node isTag
    have nestable := (nestable_of_mem_parseLines rfl parsed found (named block found)).1
    exact (nestable node isTag).bare
  obtain ⟨trimmed, dottedNames, parsers⟩ := options
  cases dottedNames with
  | false =>
      refine ⟨blocks, parsed, fun block found => ?_, fun _ => bare⟩
      refine .intro (complete block found) fun node isTag => ?_
      rw [bare block found node isTag]
      exact .intro (by simp) (by simp)
  | true =>
      refine ⟨blocks.map Block.nested,
        outcome_parseLines_of_dottedNames ⟨trimmed, true, parsers⟩ parsed named, ?_, nofun⟩
      intro block found
      obtain ⟨plain, isPlain, rfl⟩ := List.mem_map.mp found
      exact everywhere_of_forall_within _
        (TagNode.IsComplete.keptByNesting.foldl_nest (complete plain isPlain) (bare plain isPlain)
          (by simp))

/-! ## What checking comes to -/

/-- Nothing is wrong with blocks: they conform to their shape, and no rule is broken in them.  So a
checker accepts them if it gets through them, and comes to no verdict if it does not. -/
structure FoundSound (blocks : List (Block Nat)) : Prop where
  conforms : Conforms .blocks (CommandLine.blocksValue blocks)
  unbroken : violations .blocks (.ofValue (CommandLine.blocksValue blocks)) = []
  judged : ∀ checker : Checker,
    judge (.ofValue (CommandLine.blocksValue blocks)) checker =
      if checker.reaches (.ofValue (CommandLine.blocksValue blocks)) then .conforming else .tooDeep

lemma foundSound_of_complete {blocks : List (Block Nat)}
    (complete : ∀ block ∈ blocks, CompleteForest block.tags) : FoundSound blocks := by
  have conforms := conforms_blocks complete
  have unbroken := violations_eq_nil conforms
  refine ⟨conforms, unbroken, fun checker => ?_⟩
  rw [judge, Checker.validate_eq_none_iff.mpr unbroken]

end DocComment
