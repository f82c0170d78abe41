import DocComment.Proofs.CheckedBlocks
import DocComment.Proofs.StandardTags
import Mathlib.Data.List.Basic

/-!
# The failures that are told

The search for failures goes through the tags of a forest in their order, each before the tags
nested under it, and tells of every tag with errors once (`listFailures_toValues`).  A tag with
errors has no name when the standard parsers have read it, so nesting leaves it at the top and
behind all that was there, and what nesting does to other tags does not touch it
(`recordedFailures_nest`).  So the failures in blocks are the same with nesting as without
(`blockFailures_eq`, `blockFailures_nested`).
-/

namespace DocComment

open CommandLine Text

/-! ## Failures in a forest -/

namespace TagNode

/-- What is told of a tag with errors: its line, its keyword and its errors. -/
def failure (node : TagNode Nat) : Value :=
  .record [("line", .ofNat node.line), ("tag", node.tag),
    ("errors", (node.field? "errors").getD .null)]

/-- Whether errors are recorded in a tag. -/
def hasErrors (node : TagNode Nat) : Bool := ((node.field? "errors").getD .null).isTruthy

/-- What is told of a tag by itself, which is nothing if it has no errors. -/
def failures (node : TagNode Nat) : List Value := if node.hasErrors then [node.failure] else []

lemma get?_allFields_withTags (node : TagNode Nat) (tags : List (TagNode Nat)) {name : String}
    (other : name ≠ "tags") :
    Record.get? (node.withTags tags).allFields name = Record.get? node.allFields name := by
  cases node with
  | written fields line source old =>
      simp only [withTags, allFields, Record.get?_append, Record.get?_cons, if_neg other]
  | implied tag part line old =>
      simp only [withTags, allFields, Record.get?_cons, if_neg other]

lemma failures_withTags (node : TagNode Nat) (tags : List (TagNode Nat)) :
    (node.withTags tags).failures = node.failures := by
  have errors : (node.withTags tags).field? "errors" = node.field? "errors" := by
    rw [field?_eq, field?_eq, get?_allFields_withTags node tags (by decide)]
  have fails : (node.withTags tags).hasErrors = node.hasErrors := by
    rw [hasErrors, hasErrors, errors]
  have told : (node.withTags tags).failure = node.failure := by
    rw [failure, failure, errors, line_withTags, tag_withTags]
  rw [failures, failures, fails, told]

lemma failures_implied (tag : Value) (name : Text) (line : Nat) (tags : List (TagNode Nat)) :
    (TagNode.implied tag name line tags).failures = [] := rfl

lemma hasErrors_withName (node : TagNode Nat) (name : Text) :
    (node.withName name).hasErrors = node.hasErrors := by
  cases node with
  | written fields line source tags =>
      have errors : Record.get? (Record.set fields "name" (.text name)) "errors" =
        Record.get? fields "errors" := Record.get?_set_of_ne (by decide) fields _
      simp only [withName, hasErrors, field?_eq, allFields, Record.get?_append, errors]
  | implied tag old line tags => rfl

end TagNode

/-- What is told of the tags of a forest, in their order. -/
def recordedFailures (tags : List (TagNode Nat)) : List Value :=
  (tagsWithin tags).flatMap TagNode.failures

/-- The search tells of a complete tag exactly if it has errors. -/
lemma failureEntry_allFields {node : TagNode Nat} (complete : node.IsComplete) :
    failureEntry node.allFields = node.failures := by
  have line : Record.getD node.allFields "line" .null = .ofNat node.line := by
    obtain ⟨value, shown⟩ := Option.isSome_iff_exists.mp
      (complete.present ("line", .lineNumber) (by simp [Schema.Shape.fields]))
    have known : Record.get? Schema.Shape.tag.fields "line" = some .lineNumber := rfl
    rw [Record.getD, shown]
    cases complete.tagField (Record.mem_of_get? shown) known with
    | lineNumber => rfl
  have tag : Record.getD node.allFields "tag" .null = node.tag := by
    cases node with
    | written fields line source tags =>
        obtain ⟨value, shown⟩ := Option.isSome_iff_exists.mp
          (complete.1.present "tag" (by simp [textFields]))
        simp only [TagNode.allFields, TagNode.tag, Record.getD, Record.get?_append, shown]
        rfl
    | implied tag name line tags => rfl
  rw [failureEntry, line, tag, TagNode.failures, TagNode.hasErrors, TagNode.failure,
    TagNode.field?_eq]
  cases Record.get? node.allFields "errors" <;> rfl

lemma nestedFailures_eq {fields : Record} {value : Value}
    (nested : Record.get? fields "tags" = some value) :
    nestedFailures fields = branchFailures value := by
  induction fields with
  | nil => cases nested
  | cons field rest ih =>
      obtain ⟨name, other⟩ := field
      rw [Record.get?_cons] at nested
      rw [nestedFailures]
      by_cases here : name = "tags"
      · rw [if_pos here.symm, Option.some.injEq] at nested
        rw [if_pos here, ← nested]
      · rw [if_neg (Ne.symm here)] at nested
        rw [if_neg here, ih nested]

/-- **The search tells of every tag with errors**, in the order of the tags. -/
lemma listFailures_toValues {tags : List (TagNode Nat)} (complete : CompleteForest tags) :
    listFailures (TagNode.toValues Value.ofNat tags) = .ok (recordedFailures tags) := by
  induction complete with
  | @intro tags here below ih =>
      have each : ∀ node ∈ tags, tagFailures (node.toValue Value.ofNat) =
          .ok (node.failures ++ recordedFailures node.tags) := by
        intro node isTag
        have nested : Record.get? node.allFields "tags" =
            some (.list (TagNode.toValues Value.ofNat node.tags)) := by
          obtain ⟨value, shown⟩ := Option.isSome_iff_exists.mp
            ((here node isTag).present ("tags", .tags) (by simp [Schema.Shape.fields]))
          have known : Record.get? Schema.Shape.tag.fields "tags" = some .tags := rfl
          cases (here node isTag).tagField (Record.mem_of_get? shown) known with
          | tags => exact shown
        rw [TagNode.toValue_eq, tagFailures, nestedFailures_eq nested, branchFailures,
          ih node isTag, failureEntry_allFields (here node isTag)]
        rfl
      clear here below ih
      induction tags with
      | nil => rfl
      | cons node rest inner =>
          obtain ⟨first, others⟩ := List.forall_mem_cons.mp each
          rw [TagNode.toValues, listFailures, first, inner others]
          simp [recordedFailures, bind, Except.bind, pure, Except.pure]

/-! ## Nesting and failures -/

/-- Attaching a tag without errors changes nothing of what is told. -/
lemma recordedFailures_attach {node : TagNode Nat} (bare : node.tags = [])
    (sound : node.failures = []) (path : List Text) (tags : List (TagNode Nat)) :
    recordedFailures (attach node path tags) = recordedFailures tags := by
  induction path generalizing tags with
  | nil => simp [recordedFailures, bare, sound]
  | cons part path ih =>
      rcases attach_cons_cases node part path tags with
        ⟨before, parent, after, rfl, -, -, attached⟩ | ⟨-, attached⟩
      · have below := ih parent.tags
        simp only [recordedFailures] at below ⊢
        simp only [attached, tagsWithin_append, tagsWithin_cons, List.flatMap_append,
          List.flatMap_cons, TagNode.tags_withTags, TagNode.failures_withTags, below]
      · have below := ih []
        simp only [recordedFailures] at below ⊢
        simp [attached, TagNode.tags, TagNode.failures_implied, below]

/-- A tag that has errors has no name. -/
def TagNode.FailsUnnamed (node : TagNode Nat) : Prop :=
  node.hasErrors = true → node.name = .text []

/-- A tag is told of behind all that were there, if it has errors. -/
lemma recordedFailures_nest {node : TagNode Nat} (bare : node.tags = [])
    (unnamed : node.FailsUnnamed) (tags : List (TagNode Nat)) :
    recordedFailures (nest tags node) = recordedFailures tags ++ node.failures := by
  rw [nest]
  by_cases errors : node.hasErrors = true
  · have noName := unnamed errors
    rw [TagNode.nameText_of_name noName, pieces_nil, List.dropLast_singleton, attach_nil,
      List.getLast?_singleton, Option.getD_some, TagNode.withName_of_name noName]
    simp [recordedFailures, bare]
  · have sound : node.failures = [] := if_neg errors
    rw [sound, List.append_nil, recordedFailures_attach (by simpa using bare)]
    rw [TagNode.failures, TagNode.hasErrors_withName, if_neg errors]

lemma recordedFailures_foldl_nest {nodes : List (TagNode Nat)}
    (bare : ∀ node ∈ nodes, node.tags = []) (unnamed : ∀ node ∈ nodes, node.FailsUnnamed)
    (tags : List (TagNode Nat)) :
    recordedFailures (nodes.foldl nest tags) =
      recordedFailures tags ++ nodes.flatMap TagNode.failures := by
  induction nodes generalizing tags with
  | nil => simp
  | cons node rest ih =>
      obtain ⟨bareNode, bareRest⟩ := List.forall_mem_cons.mp bare
      obtain ⟨unnamedNode, unnamedRest⟩ := List.forall_mem_cons.mp unnamed
      rw [List.foldl_cons, ih bareRest unnamedRest, recordedFailures_nest bareNode unnamedNode,
        List.flatMap_cons, List.append_assoc]

lemma recordedFailures_of_bare {tags : List (TagNode Nat)} (bare : ∀ node ∈ tags, node.tags = []) :
    recordedFailures tags = tags.flatMap TagNode.failures := by
  induction tags with
  | nil => rfl
  | cons node rest ih =>
      obtain ⟨bareNode, bareRest⟩ := List.forall_mem_cons.mp bare
      have others := ih bareRest
      simp only [recordedFailures] at others ⊢
      simp [bareNode, others]

/-! ## Documents that the standard parsers read -/

/-- A tag that the standard parsers read has no name if it has errors. -/
lemma failsUnnamed_of_writtenTag? {trimmed : Bool} {passage : Passage Nat} {node : TagNode Nat}
    (written : writtenTag? trimmed Builtin.parsers passage = .ok (some node)) :
    node.FailsUnnamed := by
  obtain ⟨record, rest, rfl, parsed, -⟩ := exists_of_writtenTag?_eq_some written
  obtain ⟨_, _, _, _, _, sameParsed, run⟩ := exists_standardRun Nat rest
  obtain rfl : record = _ := by simpa using parsed.symm.trans sameParsed
  intro errors
  have failing : Record.get? record "errors" ≠ some (.list []) := by
    intro none
    have shown : (TagNode.ofRecord record passage.number ('@' :: rest)).field? "errors" =
        some (.list []) := by
      rw [TagNode.field?_eq, TagNode.ofRecord, TagNode.allFields, Record.get?_append,
        get?_withoutPlace record (by decide), none]
      rfl
    simp [TagNode.hasErrors, shown, Value.isTruthy] at errors
  show Record.getD _ "name" Value.null = _
  rw [Record.getD, get?_withoutPlace record (by decide), run.name_of_errors failing]
  rfl

/-- The tags with errors in blocks that are not nested, in their order. -/
def failingTags (blocks : List (Block Nat)) : List (TagNode Nat) :=
  blocks.flatMap fun block => block.tags.filter (·.hasErrors)

lemma map_failure_filter (tags : List (TagNode Nat)) :
    (tags.filter (·.hasErrors)).map TagNode.failure = tags.flatMap TagNode.failures := by
  induction tags with
  | nil => rfl
  | cons node rest ih =>
      rw [List.filter_cons, List.flatMap_cons, ← ih, TagNode.failures]
      split <;> rfl

lemma blockFailures_eq {blocks : List (Block Nat)}
    (complete : ∀ block ∈ blocks, CompleteForest block.tags) :
    blockFailures blocks = .ok (blocks.flatMap fun block => recordedFailures block.tags) := by
  have each : blocks.mapM (fun block => listFailures (TagNode.toValues Value.ofNat block.tags)) =
      .ok (blocks.map fun block => recordedFailures block.tags) := by
    induction blocks with
    | nil => rfl
    | cons block rest ih =>
        obtain ⟨first, others⟩ := List.forall_mem_cons.mp complete
        rw [List.mapM_cons, listFailures_toValues first, ih others]
        rfl
  rw [blockFailures, each, List.flatMap_def]
  rfl

/-- No tag of a document that the standard parsers read, and that is not nested, has both errors and
a name. -/
lemma failsUnnamed_of_mem_parseLines {trim : Bool} {lines : List Text} {blocks : List (Block Nat)}
    (parsed : (parseLines ⟨trim, false, Builtin.parsers⟩ lines).outcome = .ok blocks) :
    ∀ block ∈ blocks, ∀ node ∈ block.tags, node.FailsUnnamed := by
  intro block found node isTag
  obtain ⟨comment, -, made⟩ := exists_comment_of_mem_parseLines parsed found
  have written := tags_of_parseBlock rfl made
  obtain ⟨passage, -, tagOf⟩ := List.mem_map.mp (mem_of_mem_collect written isTag)
  exact failsUnnamed_of_writtenTag? tagOf

lemma eq_nested_of_parseLines {trim : Bool} {lines : List Text} {plain folded : List (Block Nat)}
    (parsed : (parseLines ⟨trim, false, Builtin.parsers⟩ lines).outcome = .ok plain)
    (complete : ∀ block ∈ plain, CompleteForest block.tags)
    (parsedFolded : (parseLines ⟨trim, true, Builtin.parsers⟩ lines).outcome = .ok folded) :
    folded = plain.map Block.nested := by
  have named : ∀ block ∈ plain, ∀ node ∈ block.tags, node.IsNamed := by
    intro block found node isTag
    cases complete block found with
    | intro here below => exact (here node isTag).isNamed
  have same := outcome_parseLines_of_dottedNames ⟨trim, false, Builtin.parsers⟩ parsed named
  exact Except.ok.inj (parsedFolded.symm.trans same)

/-- A document as the standard parsers read it, with nesting and without: what is found either way
is complete, and what is told of it are the tags with errors that are found without nesting. -/
structure ReadBothWays (trim : Bool) (source : Text) (found : Bool → List (Block Nat)) : Prop where
  parsed : ∀ dottedNames, (parse ⟨trim, dottedNames, Builtin.parsers⟩ source).outcome =
    .ok (found dottedNames)
  complete : ∀ dottedNames, ∀ block ∈ found dottedNames, CompleteForest block.tags
  failures : ∀ dottedNames, blockFailures (found dottedNames) =
    .ok ((failingTags (found false)).map TagNode.failure)

/-- **The failures in a document are the same with nesting as without.** -/
lemma exists_readBothWays (trim : Bool) (source : Text) :
    ∃ found, ReadBothWays trim source found := by
  obtain ⟨plain, parsed, complete, bare⟩ := exists_complete_blocks
    ⟨trim, false, Builtin.parsers⟩ Builtin.isTyped_parsers (pieces '\n' source)
  obtain ⟨folded, parsedFolded, completeFolded, -⟩ := exists_complete_blocks
    ⟨trim, true, Builtin.parsers⟩ Builtin.isTyped_parsers (pieces '\n' source)
  have bare := bare rfl
  have unnamed := failsUnnamed_of_mem_parseLines parsed
  have nested := eq_nested_of_parseLines parsed complete parsedFolded
  have listed : (failingTags plain).map TagNode.failure =
      plain.flatMap fun block => block.tags.flatMap TagNode.failures := by
    rw [failingTags, List.map_flatMap]
    exact List.flatMap_congr fun block _ => map_failure_filter block.tags
  have plainFailures : blockFailures plain = .ok ((failingTags plain).map TagNode.failure) := by
    rw [blockFailures_eq complete, listed]
    refine congrArg Except.ok (List.flatMap_congr fun block found => ?_)
    exact recordedFailures_of_bare (bare block found)
  have foldedFailures : blockFailures folded = .ok ((failingTags plain).map TagNode.failure) := by
    rw [blockFailures_eq completeFolded, listed, nested, List.flatMap_map]
    refine congrArg Except.ok (List.flatMap_congr fun block found => ?_)
    rw [Block.nested, recordedFailures_foldl_nest (bare block found) (unnamed block found)]
    rfl
  exact ⟨fun dottedNames => if dottedNames then folded else plain,
    Bool.forall_bool.mpr ⟨parsed, parsedFolded⟩, Bool.forall_bool.mpr ⟨complete, completeFolded⟩,
    Bool.forall_bool.mpr ⟨plainFailures, foldedFailures⟩⟩

end DocComment
