import DocComment.Document
import DocComment.Proofs.FoundComments
import DocComment.Proofs.Nesting
import DocComment.Proofs.Outcomes
import DocComment.Proofs.Pieces

/-!
# The tags that documents write

Each passage of a comment writes a tag or none, whatever else stands in the comment and whether
names nest or not (`writtenTags`).  Without nesting these tags are the tags of the block
(`tags_of_parseBlock`), and with nesting they are nested one after the other, provided their names
are texts (`outcome_parseBlock_of_dottedNames`).  So a document that is read with names that nest
has the blocks that it has without, with their tags nested (`outcome_parseLines_of_dottedNames`).

The tags of one comment are written on lines with increasing numbers, because the lines of every
comment that a scan brings to light are numbered upwards (`ascending_of_comment_mem_findings`).
-/

namespace DocComment

open Text

variable {ν : Type}

/-! ## What passages write -/

/-- The tag that a passage writes, if it writes one. -/
def writtenTag? (trimmed : Bool) (parsers : List TagParser) (passage : Passage ν) :
    Except Fault (Option (TagNode ν)) :=
  let source := sourceOf trimmed passage.lines
  (parseTag source parsers : Report ν (Option Record)).outcome.map fun written =>
    written.map fun record => .ofRecord record passage.number source

/-- The tags that passages write, one after the other. -/
def writtenTags (trimmed : Bool) (parsers : List TagParser) (passages : List (Passage ν)) :
    Except Fault (List (TagNode ν)) :=
  collect (passages.map (writtenTag? trimmed parsers))

/-- The passages of a comment that begin with a header. -/
def tagPassages (trimmed : Bool) (lines : List (Line ν)) : List (Passage ν) :=
  (passages (lines.map (Line.trimIf trimmed))).2

/-- The block that a comment makes with these tags, if it makes one. -/
def blockWith (trimmed : Bool) (lines : List (Line ν)) (tags : List (TagNode ν)) :
    Option (Block ν) :=
  let kept := lines.map (Line.trimIf trimmed)
  let description := sourceOf trimmed (passages kept).1
  lines.head?.bind fun first =>
    if description.isEmpty && (passages kept).2.isEmpty then none
    else some ⟨first.number, description, sourceOf trimmed (kept.map (·.text)), tags⟩

section Passages

variable {trimmed : Bool} {parsers : List TagParser} {passage : Passage ν}
  {passages : List (Passage ν)} {nodes : List (TagNode ν)}

/-- A written tag has the number and the text of its passage, which begins with `@`, and nothing
nested. -/
lemma exists_of_writtenTag?_eq_some {node : TagNode ν}
    (written : writtenTag? trimmed parsers passage = .ok (some node)) :
    ∃ record rest, node = .ofRecord record passage.number ('@' :: rest) ∧
      (parseTag ('@' :: rest) parsers : Report ν (Option Record)).outcome = .ok (some record) ∧
      sourceOf trimmed passage.lines = '@' :: rest := by
  obtain ⟨result, parsed, made⟩ := map_eq_ok_iff.mp written
  obtain ⟨record, rfl, rfl⟩ := Option.map_eq_some_iff.mp made
  cases source : sourceOf trimmed passage.lines with
  | nil =>
      rw [source] at parsed
      cases parsed
  | cons c rest =>
      rw [source] at parsed
      by_cases marked : c = '@'
      · subst marked
        exact ⟨record, rest, rfl, parsed, rfl⟩
      · simp [parseTag, marked] at parsed

lemma get?_withoutPlace (record : Record) {name : String} (other : name ∉ TagNode.placeFields) :
    Record.get? (record.filter fun field => !TagNode.placeFields.contains field.1) name =
      Record.get? record name := by
  rw [Record.get?_filter fun name => !TagNode.placeFields.contains name]
  simp [other]

lemma lines_writtenTags_sublist (written : writtenTags trimmed parsers passages = .ok nodes) :
    (nodes.map (·.line)).Sublist (passages.map (·.number)) := by
  induction passages generalizing nodes with
  | nil =>
      cases written
      exact .slnil
  | cons passage rest ih =>
      obtain ⟨tag, others, first, later, rfl⟩ := collect_cons_eq_ok_iff.mp written
      cases tag with
      | none => exact (ih later).cons passage.number
      | some node =>
          obtain ⟨record, text, rfl, -⟩ := exists_of_writtenTag?_eq_some first
          exact (ih later).cons_cons passage.number

end Passages

lemma numbers_passages_sublist (lines : List (Line ν)) :
    ((passages lines).2.map (·.number)).Sublist (lines.map (·.number)) := by
  induction lines with
  | nil => exact .slnil
  | cons line rest ih =>
      rw [passages_cons]
      split
      · exact ih.cons_cons line.number
      · exact ih.cons line.number

lemma numbers_tagPassages_sublist (trimmed : Bool) (lines : List (Line ν)) :
    ((tagPassages trimmed lines).map (·.number)).Sublist (lines.map (·.number)) := by
  have kept : (lines.map (Line.trimIf trimmed)).map (·.number) = lines.map (·.number) := by
    cases trimmed <;> simp [Line.trimIf, Function.comp_def]
  rw [← kept]
  exact numbers_passages_sublist _

/-! ## Tags in their places -/

/-- A tag with texts for its keyword and its name. -/
structure TagNode.IsNamed (node : TagNode ν) : Prop where
  textName : ∃ name, node.name = .text name
  textKeyword : ∃ keyword, node.tag = .text keyword

lemma TagNode.IsNamed.nestable {node : TagNode ν} (named : node.IsNamed) {trimmed : Bool}
    {parsers : List TagParser} {passage : Passage ν}
    (written : writtenTag? trimmed parsers passage = .ok (some node)) : Nestable node := by
  obtain ⟨record, rest, rfl, -⟩ := exists_of_writtenTag?_eq_some written
  exact ⟨rfl, named.textName, named.textKeyword, List.cons_ne_nil _ _, rfl⟩

lemma addTag_of_dottedNames {node : TagNode ν} (textName : ∃ name, node.name = .text name)
    (tags : List (TagNode ν)) : addTag true tags node = .ok (nest tags node) := by
  obtain ⟨name, named⟩ := textName
  rw [nest, TagNode.nameText_of_name named]
  by_cases dots : '.' ∈ name
  · simp [addTag, dottedParts?, named, dots]
    rfl
  · rw [pieces_of_not_mem dots]
    simp [addTag, dottedParts?, named, dots, TagNode.withName_of_name]
    rfl

/-- The tags after a passage: the tag that it writes is added, if it writes one. -/
lemma outcome_addPassage (options : Options) (tags : List (TagNode ν)) (passage : Passage ν) :
    (addPassage options tags passage).outcome =
      (writtenTag? options.trim options.parsers passage).bind fun written =>
        match written with
        | none => .ok tags
        | some node => addTag options.dottedNames tags node := by
  rw [addPassage, Report.outcome_bind, writtenTag?]
  cases (parseTag (sourceOf options.trim passage.lines) options.parsers :
    Report ν (Option Record)).outcome with
  | error fault => rfl
  | ok result => cases result <;> rfl

/-- Without nesting, the written tags follow the tags that are there. -/
lemma outcome_addPassages_of_not_dottedNames (options : Options)
    (plain : options.dottedNames = false) (tags : List (TagNode ν)) (passages : List (Passage ν)) :
    (addPassages options tags passages).outcome =
      (writtenTags options.trim options.parsers passages).map (tags ++ ·) := by
  induction passages generalizing tags with
  | nil => simp [addPassages, writtenTags, collect, Except.map]
  | cons passage rest ih =>
      rw [addPassages, Report.outcome_bind, outcome_addPassage, plain]
      simp only [writtenTags, List.map_cons, collect] at ih ⊢
      cases writtenTag? options.trim options.parsers passage with
      | error fault => rfl
      | ok written =>
          cases written <;> simp only [Except.bind, addTag, ih, if_false, Bool.false_eq_true] <;>
            cases collect (rest.map (writtenTag? options.trim options.parsers)) <;>
              simp [Except.map]

/-- With nesting, the written tags are nested one after the other. -/
lemma outcome_addPassages_of_dottedNames (options : Options) (nesting : options.dottedNames = true)
    {passages : List (Passage ν)} {nodes : List (TagNode ν)}
    (written : writtenTags options.trim options.parsers passages = .ok nodes)
    (named : ∀ node ∈ nodes, node.IsNamed) (tags : List (TagNode ν)) :
    (addPassages options tags passages).outcome = .ok (nodes.foldl nest tags) := by
  induction passages generalizing nodes tags with
  | nil =>
      cases written
      rfl
  | cons passage rest ih =>
      obtain ⟨tag, others, first, later, rfl⟩ := collect_cons_eq_ok_iff.mp written
      have namedOthers := (List.forall_mem_append.mp named).2
      rw [addPassages, Report.outcome_bind, outcome_addPassage, first, nesting]
      cases tag with
      | none => exact ih later namedOthers tags
      | some node =>
          have textName := (named node (by simp)).textName
          simpa [Except.bind, addTag_of_dottedNames textName] using
            ih later namedOthers (nest tags node)

/-! ## Blocks with and without nesting -/

/-- The block with its tags nested one after the other. -/
def Block.nested (block : Block ν) : Block ν :=
  { block with tags := block.tags.foldl nest [] }

/-- Whether a comment makes a block does not depend on the tags, and the tags of a block are those
that it is made with. -/
lemma blockWith_cases (trimmed : Bool) (lines : List (Line ν)) :
    (tagPassages trimmed lines = [] ∧ ∀ tags, blockWith trimmed lines tags = none) ∨
      ∃ block : Block ν, ∀ tags,
        blockWith trimmed lines tags = some { block with tags := tags } := by
  cases lines with
  | nil => exact .inl ⟨rfl, fun _ => rfl⟩
  | cons first rest =>
      simp only [blockWith, tagPassages, List.head?_cons, Option.bind_some]
      split
      · rename_i silent
        rw [Bool.and_eq_true, List.isEmpty_iff, List.isEmpty_iff] at silent
        exact .inl ⟨silent.2, fun _ => rfl⟩
      · exact .inr ⟨⟨first.number, _, _, []⟩, fun _ => rfl⟩

/-- A comment comes to the block that it makes with the tags of its passages. -/
lemma outcome_parseBlock (options : Options) (lines : List (Line ν)) :
    (parseBlock options lines).outcome =
      (addPassages options [] (tagPassages options.trim lines)).outcome.map
        (blockWith options.trim lines) := by
  cases lines with
  | nil => rfl
  | cons first rest =>
      simp only [parseBlock]
      split
      · rename_i silent
        rw [Bool.and_eq_true, List.isEmpty_iff, List.isEmpty_iff] at silent
        have noPassages : tagPassages options.trim (first :: rest) = [] := silent.2
        rw [noPassages]
        simp only [addPassages, blockWith, silent, Report.outcome_noting, Report.outcome_pure,
          Except.map]
        rfl
      · rename_i loud
        rw [Report.outcome_bind, tagPassages]
        cases (addPassages options [] (passages ((first :: rest).map
          (Line.trimIf options.trim))).2).outcome with
        | error fault => rfl
        | ok tags => exact congrArg Except.ok (if_neg loud).symm

/-- Without nesting, the tags of a block are those that the passages write. -/
lemma tags_of_parseBlock {options : Options} (plain : options.dottedNames = false)
    {lines : List (Line ν)} {block : Block ν}
    (parsed : (parseBlock options lines).outcome = .ok (some block)) :
    writtenTags options.trim options.parsers (tagPassages options.trim lines) = .ok block.tags := by
  rw [outcome_parseBlock, outcome_addPassages_of_not_dottedNames options plain] at parsed
  obtain ⟨tags, added, made⟩ := map_eq_ok_iff.mp parsed
  obtain ⟨nodes, written, rfl⟩ := map_eq_ok_iff.mp added
  rcases blockWith_cases options.trim lines with ⟨-, none⟩ | ⟨shell, makes⟩
  · rw [none] at made
    cases made
  · rw [makes] at made
    cases made
    simpa using written

/-- A comment whose tags have texts for names comes to the same block with nesting as without, but
for the places of its tags. -/
lemma outcome_parseBlock_of_dottedNames (options : Options) {lines : List (Line ν)}
    {found : Option (Block ν)}
    (parsed : (parseBlock { options with dottedNames := false } lines).outcome = .ok found)
    (named : ∀ block ∈ found, ∀ node ∈ block.tags, node.IsNamed) :
    (parseBlock { options with dottedNames := true } lines).outcome =
      .ok (found.map Block.nested) := by
  rw [outcome_parseBlock,
    outcome_addPassages_of_not_dottedNames { options with dottedNames := false } rfl] at parsed
  obtain ⟨tags, added, made⟩ := map_eq_ok_iff.mp parsed
  obtain ⟨nodes, written, rfl⟩ := map_eq_ok_iff.mp added
  simp only [List.nil_append] at made written
  rw [outcome_parseBlock]
  rcases blockWith_cases options.trim lines with ⟨noPassages, none⟩ | ⟨shell, makes⟩
  · rw [none] at made
    subst made
    rw [noPassages]
    simp [addPassages, Except.map, none]
  · rw [makes] at made
    subst made
    have added : (addPassages { options with dottedNames := true } []
        (tagPassages options.trim lines)).outcome = .ok (nodes.foldl nest []) :=
      outcome_addPassages_of_dottedNames { options with dottedNames := true } rfl written
        (named _ rfl) []
    rw [added]
    simp [Except.map, makes, Block.nested]

/-! ## Documents with and without nesting -/

lemma outcome_gather_eq_collect (reports : List (Report Nat (Option (Block Nat)))) :
    (gather reports).outcome = collect (reports.map (·.outcome)) := by
  induction reports with
  | nil => rfl
  | cons report rest ih => rw [gather, Report.outcome_bind, List.map_cons, collect, ← ih]; rfl

lemma Finding.outcome_of_dottedNames (options : Options) {finding : Finding}
    {found : Option (Block Nat)}
    (plain : (finding.outcome { options with dottedNames := false }).outcome = .ok found)
    (named : ∀ block ∈ found, ∀ node ∈ block.tags, node.IsNamed) :
    (finding.outcome { options with dottedNames := true }).outcome =
      .ok (found.map Block.nested) := by
  cases finding with
  | nothing =>
      cases plain
      rfl
  | abandoned opened given =>
      cases plain
      rfl
  | comment lines => exact outcome_parseBlock_of_dottedNames options plain named

lemma outcome_gather_of_dottedNames (options : Options) {findings : List Finding}
    {blocks : List (Block Nat)}
    (gathered : (gather (findings.map
      (Finding.outcome { options with dottedNames := false }))).outcome = .ok blocks)
    (named : ∀ block ∈ blocks, ∀ node ∈ block.tags, node.IsNamed) :
    (gather (findings.map (Finding.outcome { options with dottedNames := true }))).outcome =
      .ok (blocks.map Block.nested) := by
  rw [outcome_gather_eq_collect] at gathered ⊢
  induction findings generalizing blocks with
  | nil =>
      cases gathered
      rfl
  | cons finding rest ih =>
      obtain ⟨found, others, first, later, rfl⟩ := collect_cons_eq_ok_iff.mp gathered
      obtain ⟨namedFirst, namedOthers⟩ := List.forall_mem_append.mp named
      have nestedFirst := finding.outcome_of_dottedNames options first
        fun block isFound => namedFirst block (Option.mem_toList.mpr isFound)
      refine collect_cons_eq_ok_iff.mpr ⟨_, _, nestedFirst, ih later namedOthers, ?_⟩
      cases found <;> simp

/-- **Nesting only moves tags.**  A document that can be read without nesting, to tags with texts
for names, comes to the same blocks with nesting, with the tags of each nested one by one. -/
lemma outcome_parseLines_of_dottedNames (options : Options) {lines : List Text}
    {blocks : List (Block Nat)}
    (parsed : (parseLines { options with dottedNames := false } lines).outcome = .ok blocks)
    (named : ∀ block ∈ blocks, ∀ node ∈ block.tags, node.IsNamed) :
    (parseLines { options with dottedNames := true } lines).outcome =
      .ok (blocks.map Block.nested) :=
  outcome_gather_of_dottedNames options parsed named

/-- A document can be read without nesting, to tags with texts for keywords and names. -/
def NamesTags (options : Options) (source : Text) : Prop :=
  ∃ blocks, (parse { options with dottedNames := false } source).outcome = .ok blocks ∧
    ∀ block ∈ blocks, ∀ node ∈ block.tags, node.IsNamed

/-! ## Blocks and the comments behind them -/

/-- Only a comment comes to a block. -/
lemma Finding.exists_comment_of_outcome {options : Options} {finding : Finding} {block : Block Nat}
    (made : (finding.outcome options).outcome = .ok (some block)) :
    ∃ comment, finding = .comment comment ∧
      (parseBlock options comment).outcome = .ok (some block) := by
  cases finding with
  | nothing => cases made
  | comment comment => exact ⟨comment, rfl, made⟩
  | abandoned opened given => cases made

/-- Every block of a document is what a comment comes to that a scan of the document finds. -/
lemma exists_comment_of_mem_parseLines {options : Options} {lines : List Text}
    {blocks : List (Block Nat)}
    (parsed : (parseLines options lines).outcome = .ok blocks) {block : Block Nat}
    (found : block ∈ blocks) :
    ∃ comment, .comment comment ∈ Scan.start.findings (!options.trim) lines ∧
      (parseBlock options comment).outcome = .ok (some block) := by
  have collected := (outcome_gather_eq_collect _).symm.trans parsed
  obtain ⟨report, reported, outcome⟩ := List.mem_map.mp (mem_of_mem_collect collected found)
  obtain ⟨finding, isFinding, rfl⟩ := List.mem_map.mp reported
  obtain ⟨comment, rfl, made⟩ := Finding.exists_comment_of_outcome outcome
  exact ⟨comment, isFinding, made⟩

/-- The tags of a block that is read without nesting are ready to be nested if they have texts for
keywords and names, and they stand on lines that ascend. -/
lemma nestable_of_mem_parseLines {options : Options} (plain : options.dottedNames = false)
    {lines : List Text} {blocks : List (Block Nat)}
    (parsed : (parseLines options lines).outcome = .ok blocks) {block : Block Nat}
    (found : block ∈ blocks) (named : ∀ node ∈ block.tags, node.IsNamed) :
    (∀ node ∈ block.tags, Nestable node) ∧ block.tags.Pairwise (·.line < ·.line) := by
  obtain ⟨comment, finding, made⟩ := exists_comment_of_mem_parseLines parsed found
  have ascending := ascending_of_comment_mem_findings finding
  have written := tags_of_parseBlock plain made
  constructor
  · intro node isTag
    obtain ⟨passage, -, tagOf⟩ := List.mem_map.mp (mem_of_mem_collect written isTag)
    exact (named node isTag).nestable tagOf
  · have numbers : (comment.map (·.number)).Pairwise (· < ·) := List.pairwise_map.mpr ascending
    have inOrder := (lines_writtenTags_sublist written).trans
      (numbers_tagPassages_sublist options.trim comment)
    exact List.pairwise_map.mp (numbers.sublist inOrder)

end DocComment
