import DocComment.Proofs.LiveHeaders
import DocComment.Proofs.NestedDocuments

/-!
# Headers and tags correspond

Where texts are trimmed, each live header of a document has one tag with a text, and each such tag
is that of one header (`headers_and_tags_correspond`).  The way there has three parts.

* A document has a block for each comment that its lines complete, unless that comment is silent,
  and the line that completes it tells the block (`mem_blocks_iff`).
* The passages of a comment write tags that have its headers for first lines.  Nesting them by their
  names implies further tags, but these have no text, and those that have one keep their lines and
  texts (`origins_placed_perm`, `NamesTags.exists_tags`).
* So headers and tags have the same labels, made of the block, the number of the line and the line
  itself.  No two headers share a label and no two tags do (`NamesTags.nodup_tagLabels`), which
  makes the correspondence one to one (`exists_bijective_of_labels`).
-/

namespace DocComment

open Text

/-! ## Blocks and the lines that complete them -/

section Blocks

/-- The blocks of a document, each with the number of lines taken when it is complete. -/
def numberedBlocks (options : Options) (lines : List Text) : List (Nat × Block Nat) :=
  blocksOfReports 0 ((Extractor.start options).reports lines)

variable {options : Options} {lines : List Text}

lemma getElem?_findings (keepPadding : Bool) (scan : Scan) (lines : List Text) (k : Nat) :
    (scan.findings keepPadding lines)[k]? = lines[k]?.map fun line =>
      ((scan.after keepPadding (lines.take k)).step keepPadding line).2 := by
  induction lines generalizing scan k with
  | nil => simp [Scan.findings]
  | cons line rest ih =>
      cases k with
      | zero => rfl
      | succ k => exact ih (scan.step keepPadding line).1 k

/-- A scan finds a comment at the line that completes it. -/
lemma getElem?_findings_eq_comment_iff {keepPadding : Bool} {k : Nat} {comment : List (Line Nat)} :
    (Scan.start.findings keepPadding lines)[k]? = some (.comment comment) ↔
      Completes keepPadding lines k comment := by
  rw [getElem?_findings, Option.map_eq_some_iff]
  constructor
  · rintro ⟨line, here, finding⟩
    have within : k < lines.length := (List.getElem?_eq_some_iff.mp here).1
    have tracks := tracks_after keepPadding lines within.le
    exact (tracks.finding_eq_comment_iff here comment).mp finding
  · intro completes
    obtain ⟨line, here⟩ : ∃ line, lines[k]? = some line := by
      cases completes with
      | oneLine here => exact ⟨_, here⟩
      | closing here => exact ⟨_, here⟩
    have within : k < lines.length := (List.getElem?_eq_some_iff.mp here).1
    have tracks := tracks_after keepPadding lines within.le
    exact ⟨line, here, (tracks.finding_eq_comment_iff here comment).mpr completes⟩

lemma Completes.mem_findings {keepPadding : Bool} {k : Nat} {comment : List (Line Nat)}
    (completes : Completes keepPadding lines k comment) :
    .comment comment ∈ Scan.start.findings keepPadding lines :=
  List.mem_of_getElem? (getElem?_findings_eq_comment_iff.mpr completes)

lemma counted_block_eq_some_iff {report : Report Nat (Option (Block Nat))} {counted : Nat}
    {entry : Nat × Block Nat} :
    (match report.outcome with
      | .ok (some block) => some (counted, block)
      | _ => none) = some entry ↔
      entry.1 = counted ∧ report.outcome = .ok (some entry.2) := by
  obtain ⟨number, block⟩ := entry
  split
  · next other outcome => simp [outcome, eq_comm]
  · next noBlock =>
      simp only [reduceCtorEq, false_iff, not_and]
      exact fun _ outcome => noBlock block outcome

lemma mem_blocksOfReports_iff {taken number : Nat} {block : Block Nat}
    {reports : List (Report Nat (Option (Block Nat)))} :
    (number, block) ∈ blocksOfReports taken reports ↔
      ∃ k report, reports[k]? = some report ∧ report.outcome = .ok (some block) ∧
        number = taken + 1 + k := by
  rw [blocksOfReports, List.mem_filterMap]
  constructor
  · rintro ⟨⟨report, counted⟩, found, made⟩
    obtain ⟨behind, here⟩ := List.mk_mem_zipIdx_iff_le_and_getElem?_sub.mp found
    obtain ⟨rfl, outcome⟩ := counted_block_eq_some_iff.mp made
    exact ⟨number - (taken + 1), report, here, outcome, by omega⟩
  · rintro ⟨k, report, here, outcome, rfl⟩
    refine ⟨(report, taken + 1 + k), ?_, counted_block_eq_some_iff.mpr ⟨rfl, outcome⟩⟩
    exact List.mk_mem_zipIdx_iff_le_and_getElem?_sub.mpr ⟨by omega, by simpa using here⟩

/-- The blocks of a document are those of the comments that its lines complete. -/
lemma mem_blocks_iff {taken : Nat} {block : Block Nat} :
    (taken, block) ∈ numberedBlocks options lines ↔
      ∃ k comment, taken = k + 1 ∧ Completes (!options.trim) lines k comment ∧
        (parseBlock options comment).outcome = .ok (some block) := by
  have reported : ∀ k : Nat, ((Extractor.start options).reports lines)[k]? =
      (Scan.start.findings (!options.trim) lines)[k]?.map (Finding.outcome options) := by
    intro k
    rw [Extractor.reports_eq_outcomesFrom, outcomesFrom, List.getElem?_map]
    rfl
  rw [numberedBlocks, mem_blocksOfReports_iff]
  constructor
  · rintro ⟨k, report, here, made, number⟩
    rw [reported, Option.map_eq_some_iff] at here
    obtain ⟨finding, found, rfl⟩ := here
    obtain ⟨comment, rfl, made⟩ := Finding.exists_comment_of_outcome made
    exact ⟨k, comment, by omega, getElem?_findings_eq_comment_iff.mp found, made⟩
  · rintro ⟨k, comment, rfl, completes, made⟩
    refine ⟨k, parseBlock options comment, ?_, made, by omega⟩
    rw [reported, getElem?_findings_eq_comment_iff.mpr completes]
    rfl

lemma pairwise_numberedBlocks (options : Options) (lines : List Text) :
    (numberedBlocks options lines).Pairwise (·.1 < ·.1) := by
  have counted : (((Extractor.start options).reports lines).zipIdx (0 + 1)).Pairwise
      (·.2 < ·.2) := by
    rw [← List.pairwise_map (f := Prod.snd) (R := (· < ·)), List.zipIdx_map_snd]
    exact List.pairwise_lt_range'
  refine counted.filterMap _ fun first second less block made block' made' => ?_
  rw [(counted_block_eq_some_iff.mp made).1, (counted_block_eq_some_iff.mp made').1]
  exact less

lemma eq_blocks_of_parseLines {blocks : List (Block Nat)}
    (parsed : (parseLines options lines).outcome = .ok blocks) :
    blocks = (numberedBlocks options lines).map (·.2) := by
  rw [numberedBlocks, Extractor.reports_eq_outcomesFrom]
  have gathered := (outcome_gather 0 (outcomes options lines)).symm.trans parsed
  split at gathered
  · cases gathered
  · cases gathered
    rfl

end Blocks

/-! ## The tags of a comment, wherever they are placed -/

/-- Tags placed as the options say: nested by their names, or in a row. -/
def placed {ν : Type} (dottedNames : Bool) (nodes : List (TagNode ν)) : List (TagNode ν) :=
  if dottedNames then nodes.foldl nest [] else nodes

section Placed

variable {ν : Type} {options : Options}

/-- A comment whose tags can be nested comes to the block with its tags placed. -/
lemma outcome_parseBlock_of_nestable {lines : List (Line ν)} {nodes : List (TagNode ν)}
    (written : writtenTags options.trim options.parsers (tagPassages options.trim lines) =
      .ok nodes)
    (nestable : ∀ node ∈ nodes, Nestable node) :
    (parseBlock options lines).outcome =
      .ok (blockWith options.trim lines (placed options.dottedNames nodes)) := by
  rw [outcome_parseBlock]
  cases nests : options.dottedNames with
  | false =>
      rw [outcome_addPassages_of_not_dottedNames options nests, written]
      rfl
  | true =>
      have named : ∀ node ∈ nodes, node.IsNamed :=
        fun node found => ⟨(nestable node found).textName, (nestable node found).textKeyword⟩
      rw [outcome_addPassages_of_dottedNames options nests written named]
      rfl

/-- The tags of a forest with a text. -/
def tagsWithText (tags : List (TagNode ν)) : List (TagNode ν) :=
  (tagsWithin tags).filter (·.hasSource)

mutual

/-- Taking a tag apart keeps the lines and the texts of the tags in it. -/
lemma TagNode.origins_unnested : ∀ (path : List Text) (node : TagNode ν),
    (node.unnested path).map TagNode.origin = node.withDescendants.map TagNode.origin
  | path, .written fields line source tags => by
      rw [TagNode.unnested, TagNode.withDescendants, List.map_cons, List.map_cons,
        origins_unnestedAll _ tags, TagNode.origin, TagNode.line_withName,
        TagNode.source_withName]
      rfl
  | path, .implied tag name line tags => by
      rw [TagNode.unnested, TagNode.withDescendants, List.map_cons, List.map_cons,
        origins_unnestedAll _ tags]
      rfl

lemma origins_unnestedAll : ∀ (path : List Text) (tags : List (TagNode ν)),
    (unnestedAll path tags).map TagNode.origin = (tagsWithin tags).map TagNode.origin
  | path, [] => by simp
  | path, node :: rest => by
      rw [unnestedAll, tagsWithin, List.map_append, List.map_append,
        TagNode.origins_unnested path node, origins_unnestedAll path rest]

end

lemma tagsWithin_of_bare {nodes : List (TagNode ν)} (bare : ∀ node ∈ nodes, node.tags = []) :
    tagsWithin nodes = nodes := by
  induction nodes with
  | nil => simp
  | cons node rest ih =>
      obtain ⟨first, others⟩ := List.forall_mem_cons.mp bare
      rw [tagsWithin_cons, first, ih others]
      simp

/-- However tags are placed, what has a text then are these tags, with their lines and texts. -/
lemma origins_placed_perm (dottedNames : Bool) {nodes : List (TagNode ν)}
    (nestable : ∀ node ∈ nodes, Nestable node) :
    ((tagsWithText (placed dottedNames nodes)).map TagNode.origin).Perm
      (nodes.map TagNode.origin) := by
  cases dottedNames with
  | false =>
      have kept : ∀ node ∈ nodes, node.hasSource = true := fun node found => by
        simpa [TagNode.hasSource] using (nestable node found).hasSource
      have bare := tagsWithin_of_bare fun node found => (nestable node found).bare
      rw [tagsWithText, placed, if_neg Bool.false_ne_true, bare, List.filter_eq_self.mpr kept]
  | true =>
      -- What is spelled out differs from what is nested in names and places, not in origins.
      have textOf : (fun node : TagNode ν => node.hasSource) =
          (fun origin : ν × Text => !origin.2.isEmpty) ∘ TagNode.origin := rfl
      have spelled := (spelledOut_foldl_nest_perm nodes nestable []).map TagNode.origin
      rw [spelledOut_nil, List.nil_append, spelledOut, textOf, ← List.filter_map,
        origins_unnestedAll, List.filter_map] at spelled
      exact spelled

end Placed

/-! ## The tags of a document -/

section Document

variable {options : Options} {source : Text}

/-- The comments of a document that names its tags write tags that can be nested. -/
lemma NamesTags.exists_writtenTags (names : NamesTags options source) {comment : List (Line Nat)}
    (finding : .comment comment ∈ Scan.start.findings (!options.trim) (pieces '\n' source)) :
    ∃ nodes, writtenTags options.trim options.parsers (tagPassages options.trim comment) =
      .ok nodes ∧ ∀ node ∈ nodes, Nestable node := by
  obtain ⟨blocks, parsed, isNamed⟩ := names
  let plain : Options := { options with dottedNames := false }
  have collected := (outcome_gather_eq_collect _).symm.trans parsed
  have among : (parseBlock plain comment).outcome ∈
      (outcomes plain (pieces '\n' source)).map (·.outcome) :=
    List.mem_map_of_mem (List.mem_map_of_mem (f := Finding.outcome plain) finding)
  obtain ⟨found, made, kept⟩ := exists_of_collect_eq_ok collected among
  have filled := made
  rw [outcome_parseBlock, outcome_addPassages_of_not_dottedNames plain rfl] at filled
  obtain ⟨tags, added, shaped⟩ := map_eq_ok_iff.mp filled
  obtain ⟨nodes, written, rfl⟩ := map_eq_ok_iff.mp added
  refine ⟨nodes, written, fun node isTag => ?_⟩
  obtain ⟨passage, isPassage, tagOf⟩ := List.mem_map.mp (mem_of_mem_collect written isTag)
  rcases blockWith_cases options.trim comment with ⟨noPassages, -⟩ | ⟨shell, makes⟩
  · rw [noPassages] at isPassage
    cases isPassage
  · rw [makes] at shaped
    subst shaped
    exact (isNamed _ (kept _ rfl) node isTag).nestable tagOf

/-- Where texts are trimmed, the tags of a comment have its headers, with their numbers, for the
first lines of their texts, wherever the tags are placed. -/
lemma NamesTags.exists_tags (names : NamesTags options source) (trims : options.trim = true)
    {k : Nat} {comment : List (Line Nat)}
    (completes : Completes false (pieces '\n' source) k comment) :
    ∃ tags, (parseBlock options comment).outcome = .ok (blockWith true comment tags) ∧
      ((tagsWithText tags).map TagNode.heading).Perm
        ((headers (comment.map (Line.trimIf true))).map fun line =>
          (line.number, some line.text)) := by
  have finding : .comment comment ∈ Scan.start.findings (!options.trim) (pieces '\n' source) := by
    rw [trims]
    exact completes.mem_findings
  obtain ⟨nodes, written, nestable⟩ := names.exists_writtenTags finding
  refine ⟨placed options.dottedNames nodes, ?_, ?_⟩
  · rw [outcome_parseBlock_of_nestable written nestable, trims]
  · rw [trims] at written
    rw [← map_writtenTags_tagPassages (not_mem_newline_of_comment finding) written]
    have origins := (origins_placed_perm options.dottedNames nestable).map
      (Prod.map id fun source => (pieces '\n' source).head?)
    rw [List.map_map, List.map_map] at origins
    exact origins

lemma nodup_headers {k : Nat} {keepPadding : Bool} {lines : List Text} {comment : List (Line Nat)}
    (completes : Completes keepPadding lines k comment) :
    ((headers (comment.map (Line.trimIf true))).map (·.number)).Nodup := by
  have increasing : (comment.map (·.number)).Pairwise (· < ·) :=
    List.pairwise_map.mpr (ascending_of_comment_mem_findings completes.mem_findings)
  have passageNumbers := congrArg (List.map Prod.fst)
    (headings_passages (comment.map (Line.trimIf true)))
  rw [List.map_map, List.map_map] at passageNumbers
  have kept := numbers_tagPassages_sublist true comment
  exact passageNumbers ▸ (increasing.sublist kept).nodup

end Document

/-! ## The correspondence -/

/-- The tags with a text in numbered blocks, each with the number of its block. -/
def numberedTags (blocks : List (Nat × Block Nat)) : List (Nat × TagNode Nat) :=
  blocks.flatMap fun entry => (tagsWithText entry.2.tags).map (entry.1, ·)

lemma mem_numberedTags_iff {blocks : List (Nat × Block Nat)} {number : Nat} {node : TagNode Nat} :
    (number, node) ∈ numberedTags blocks ↔
      ∃ block, (number, block) ∈ blocks ∧ node ∈ tagsWithText block.tags := by
  simp [numberedTags, List.mem_flatMap]

/-- A tag, with the number of lines taken when its block is complete, is that of header `i` in the
comment that line `k` completes: it has the index of the line for its number, less the lines before
it that hold a whole comment, and the content of the header for the first line of its text. -/
structure IsTagOf (options : Options) (lines : List Text) (i k : Nat) (content : Text)
    (entry : Nat × TagNode Nat) : Prop where
  number : entry.2.line = i - (lines.take i).countP fun line => (oneLineText? line).isSome
  firstLine : (pieces '\n' entry.2.source).head? = some content
  completed : entry.1 = k + 1
  block : ∃ block comment, (entry.1, block) ∈ numberedBlocks options lines ∧
    entry.2 ∈ tagsWithText block.tags ∧ Completes (!options.trim) lines k comment ∧
    (parseBlock options comment).outcome = .ok (some block) ∧
    ∃ text, ⟨text, lineNumber lines i⟩ ∈ comment ∧ trim text = content

/-- Things with different marks correspond to the items of a list with different labels, if the
marks are the labels. -/
lemma exists_bijective_of_labels {ι α β : Type} {items : List α} {label : α → β} {mark : ι → β}
    (injective : Function.Injective mark) (distinct : (items.map label).Nodup)
    (each : ∀ i, ∃ a ∈ items, label a = mark i) (only : ∀ a ∈ items, ∃ i, mark i = label a) :
    ∃ place : ι → Fin items.length, Function.Bijective place ∧
      ∀ i, label (items.get (place i)) = mark i := by
  have placed : ∀ i, ∃ position : Fin items.length, label (items.get position) = mark i := by
    intro i
    obtain ⟨a, isItem, same⟩ := each i
    obtain ⟨position, rfl⟩ := List.mem_iff_get.mp isItem
    exact ⟨position, same⟩
  choose place marks using placed
  refine ⟨place, ⟨fun i j same => injective ?_, fun position => ?_⟩, marks⟩
  · rw [← marks i, same, marks j]
  · obtain ⟨i, marked⟩ := only _ (List.get_mem items position)
    refine ⟨i, ?_⟩
    have sameLabel : label (items.get (place i)) = label (items.get position) :=
      (marks i).trans marked
    have sameItem : items.get (place i) = items.get position :=
      List.inj_on_of_nodup_map distinct (List.get_mem _ _) (List.get_mem _ _) sameLabel
    exact (distinct.of_map label).get_inj_iff.mp sameItem

section Correspondence

variable {options : Options} {source : Text}

/-- What tells tags apart: the block, the line and the first line of the text. -/
def tagLabel (entry : Nat × TagNode Nat) : Nat × Nat × Option Text := (entry.1, entry.2.heading)

lemma Completes.unique {keepPadding : Bool} {lines : List Text} {k : Nat}
    {comment other : List (Line Nat)} (completes : Completes keepPadding lines k comment)
    (again : Completes keepPadding lines k other) : comment = other := by
  have both := (getElem?_findings_eq_comment_iff.mpr completes).symm.trans
    (getElem?_findings_eq_comment_iff.mpr again)
  simpa using both

/-- Every header has a tag, in the block of its comment. -/
lemma NamesTags.exists_tag_of_liveHeader (names : NamesTags options source)
    (trims : options.trim = true) {i k : Nat} {content : Text}
    (header : LiveHeader (pieces '\n' source) i k content) :
    ∃ entry ∈ numberedTags (numberedBlocks options (pieces '\n' source)),
      tagLabel entry = (k + 1, lineNumber (pieces '\n' source) i, some content) := by
  obtain ⟨comment, completes, isHeaderLine⟩ := header.exists_completes
  obtain ⟨tags, made, headings⟩ := names.exists_tags trims completes
  rcases blockWith_cases true comment with ⟨noPassages, -⟩ | ⟨shell, makes⟩
  · have noHeadings := headings_passages (comment.map (Line.trimIf true))
    rw [show (passages (comment.map (Line.trimIf true))).2 = [] from noPassages] at noHeadings
    rw [List.map_eq_nil_iff.mp noHeadings.symm] at isHeaderLine
    cases isHeaderLine
  · rw [makes] at made
    have isBlock := mem_blocks_iff.mpr ⟨k, comment, rfl, by rwa [trims], made⟩
    have isHeading := headings.mem_iff.mpr (List.mem_map_of_mem isHeaderLine)
    obtain ⟨node, within, heading⟩ := List.mem_map.mp isHeading
    exact ⟨(k + 1, node), mem_numberedTags_iff.mpr ⟨_, isBlock, within⟩,
      congrArg (Prod.mk (k + 1)) heading⟩

/-- The tags of a block have the headers of the comment behind it. -/
lemma NamesTags.exists_comment_of_block (names : NamesTags options source)
    (trims : options.trim = true) {number : Nat} {block : Block Nat}
    (isBlock : (number, block) ∈ numberedBlocks options (pieces '\n' source)) :
    ∃ k comment, number = k + 1 ∧ Completes false (pieces '\n' source) k comment ∧
      ((tagsWithText block.tags).map TagNode.heading).Perm
        ((headers (comment.map (Line.trimIf true))).map fun line =>
          (line.number, some line.text)) := by
  obtain ⟨k, comment, rfl, completes, made⟩ := mem_blocks_iff.mp isBlock
  rw [trims] at completes
  obtain ⟨tags, filled, headings⟩ := names.exists_tags trims completes
  have same : blockWith true comment tags = some block := Except.ok.inj (filled.symm.trans made)
  rcases blockWith_cases true comment with ⟨-, none⟩ | ⟨shell, makes⟩
  · rw [none] at same
    cases same
  · rw [makes] at same
    cases same
    exact ⟨k, comment, rfl, completes, headings⟩

lemma NamesTags.exists_liveHeader_of_tag (names : NamesTags options source)
    (trims : options.trim = true) {entry : Nat × TagNode Nat}
    (isTag : entry ∈ numberedTags (numberedBlocks options (pieces '\n' source))) :
    ∃ i k content, LiveHeader (pieces '\n' source) i k content ∧
      tagLabel entry = (k + 1, lineNumber (pieces '\n' source) i, some content) := by
  obtain ⟨number, node⟩ := entry
  obtain ⟨block, isBlock, within⟩ := mem_numberedTags_iff.mp isTag
  obtain ⟨k, comment, rfl, completes, headings⟩ := names.exists_comment_of_block trims isBlock
  have isHeading := headings.mem_iff.mp (List.mem_map_of_mem within)
  obtain ⟨⟨content, number⟩, isHeaderLine, heading⟩ := List.mem_map.mp isHeading
  obtain ⟨i, header, rfl⟩ := completes.exists_liveHeader isHeaderLine
  exact ⟨i, k, content, header, congrArg (Prod.mk (k + 1)) heading.symm⟩

lemma NamesTags.nodup_tagLabels (names : NamesTags options source) (trims : options.trim = true) :
    ((numberedTags (numberedBlocks options (pieces '\n' source))).map tagLabel).Nodup := by
  rw [numberedTags, List.map_flatMap, List.nodup_flatMap]
  constructor
  · rintro ⟨number, block⟩ isBlock
    obtain ⟨k, comment, -, completes, headings⟩ := names.exists_comment_of_block trims isBlock
    have lines : ((tagsWithText block.tags).map (·.line)).Nodup := by
      have numbers := (headings.map Prod.fst).nodup_iff.mpr (by
        rw [List.map_map]
        exact nodup_headers completes)
      rwa [List.map_map] at numbers
    rw [List.map_map]
    refine List.Nodup.of_map (fun label : Nat × Nat × Option Text => label.2.1) ?_
    rw [List.map_map]
    exact lines
  · refine (pairwise_numberedBlocks _ _).imp ?_
    intro first second less label inFirst inSecond
    simp only [List.map_map, List.mem_map] at inFirst inSecond
    obtain ⟨node, -, rfl⟩ := inFirst
    obtain ⟨other, -, same⟩ := inSecond
    have equal : second.1 = first.1 := (Prod.mk.inj same).1
    omega

lemma isTagOf_of_tagLabel (trims : options.trim = true) {lines : List Text} {i k : Nat}
    {content : Text} (header : LiveHeader lines i k content) {entry : Nat × TagNode Nat}
    (isTag : entry ∈ numberedTags (numberedBlocks options lines))
    (label : tagLabel entry = (k + 1, lineNumber lines i, some content)) :
    IsTagOf options lines i k content entry := by
  obtain ⟨number, node⟩ := entry
  obtain ⟨rfl, lineOf, firstLine⟩ : number = k + 1 ∧ node.line = lineNumber lines i ∧
      (pieces '\n' node.source).head? = some content := by
    simpa [tagLabel, TagNode.heading] using label
  obtain ⟨block, isBlock, within⟩ := mem_numberedTags_iff.mp isTag
  obtain ⟨_, comment, same, completes, made⟩ := mem_blocks_iff.mp isBlock
  obtain rfl := Nat.succ.inj same
  obtain ⟨again, completesAgain, isHeaderLine⟩ := header.exists_completes
  obtain rfl : comment = again := completes.unique (by rwa [trims])
  obtain ⟨text, stands, -⟩ := header.stands
  exact ⟨lineOf.trans (lineNumber_eq stands.lt_length.le), firstLine, rfl, block, comment, isBlock,
    within, completes, made, (mem_headers_trimmed_iff.mp isHeaderLine).1⟩

lemma NamesTags.outcome_parse (names : NamesTags options source) :
    (parse options source).outcome =
      .ok ((numberedBlocks options (pieces '\n' source)).map (·.2)) := by
  obtain ⟨blocks, parsed⟩ : ∃ blocks, (parse options source).outcome = .ok blocks := by
    obtain ⟨plain, parsedPlain, parsedNested, -⟩ := NamesTags.exists_blocks (.inl names)
    obtain ⟨trim, dottedNames, parsers⟩ := options
    cases dottedNames
    · exact ⟨plain, parsedPlain⟩
    · exact ⟨_, parsedNested⟩
  rw [parsed, eq_blocks_of_parseLines parsed]

/-- **Headers and tags correspond one to one.**  Where texts are trimmed, a document that names its
tags is read to blocks whose tags with a text, wherever they are nested, correspond to the live
headers of the document: the tag of a header has the index of that line for its number, less the
lines before it that hold a whole comment; its text begins with the line of the header; and it is in
the block of the comment in which the header stands. -/
theorem headers_and_tags_correspond (options : Options) (source : Text)
    (trims : options.trim = true) (names : NamesTags options source) :
    let lines := pieces '\n' source
    let blocks := numberedBlocks options lines
    (parse options source).outcome = .ok (blocks.map (·.2)) ∧
    ∃ tagOf : {i // ∃ k content, LiveHeader lines i k content} → Fin (numberedTags blocks).length,
      Function.Bijective tagOf ∧
      ∀ header k content, LiveHeader lines header.1 k content →
        IsTagOf options lines header.1 k content ((numberedTags blocks).get (tagOf header)) := by
  intro lines blocks
  refine ⟨names.outcome_parse, ?_⟩
  let Header := {i // ∃ k content, LiveHeader lines i k content}
  choose completing content live using fun header : Header => header.2
  -- A header is marked the way its tag is labelled: by its comment, its number and its content.
  let mark (header : Header) : Nat × Nat × Option Text :=
    (completing header + 1, lineNumber lines header.1, some (content header))
  have injective : Function.Injective mark := by
    intro header other same
    obtain ⟨sameLine, sameNumber, -⟩ : completing header = completing other ∧
        lineNumber lines header.1 = lineNumber lines other.1 ∧ content header = content other := by
      simpa [mark] using same
    obtain ⟨text, stands, -⟩ := (live header).stands
    obtain ⟨text', stands', -⟩ := (live other).stands
    rw [← sameLine] at stands'
    exact Subtype.ext (stands.eq_of_lineNumber_eq stands' sameNumber)
  have each : ∀ header : Header, ∃ entry ∈ numberedTags blocks, tagLabel entry = mark header :=
    fun header => names.exists_tag_of_liveHeader trims (live header)
  have only : ∀ entry ∈ numberedTags blocks, ∃ header : Header, mark header = tagLabel entry := by
    intro entry isTag
    obtain ⟨i, k, said, isHeader, label⟩ := names.exists_liveHeader_of_tag trims isTag
    let header : Header := ⟨i, k, said, isHeader⟩
    obtain ⟨sameLine, sameContent⟩ := (live header).unique isHeader
    have marked : mark header = (k + 1, lineNumber lines i, some said) := by
      simp only [mark, sameLine, sameContent, header]
    exact ⟨header, marked.trans label.symm⟩
  obtain ⟨tagOf, bijective, labels⟩ :=
    exists_bijective_of_labels injective (names.nodup_tagLabels trims) each only
  refine ⟨tagOf, bijective, fun header k said isHeader => ?_⟩
  obtain ⟨rfl, rfl⟩ := (live header).unique isHeader
  exact isTagOf_of_tagLabel trims isHeader (List.get_mem _ _) (labels header)

end Correspondence

/-- A comment with a tag in front of its parent and a whole comment between the two. -/
def headersAround : Text := "/**\n * @a p.q\n/** @b r */\n * @a p\n */".toList

theorem header_around_comment_has_tag :
    (Options.mk true true Builtin.parsers).trim = true ∧
    NamesTags ⟨true, true, Builtin.parsers⟩ headersAround ∧
    LiveHeader (pieces '\n' headersAround) 3 4 "@a p".toList ∧
    ∃ entry ∈ numberedTags (numberedBlocks ⟨true, true, Builtin.parsers⟩
        (pieces '\n' headersAround)),
      IsTagOf ⟨true, true, Builtin.parsers⟩ (pieces '\n' headersAround) 3 4 "@a p".toList entry ∧
        entry.2.line = 2 := by
  have lines : pieces '\n' headersAround =
      ["/**", " * @a p.q", "/** @b r */", " * @a p", " */"].map String.toList := by
    decide +kernel
  have names : NamesTags ⟨true, true, Builtin.parsers⟩ headersAround :=
    namesTags_of_isTyped Builtin.isTyped_parsers _
  have opened : OpenFrom (pieces '\n' headersAround) 0 4 := by
    rw [lines]
    refine ⟨by decide, ⟨"/**".toList, rfl, by decide⟩, fun k line after before here => ?_⟩
    obtain rfl | rfl | rfl : k = 1 ∨ k = 2 ∨ k = 3 := by omega
    all_goals
      cases here
      decide
  have header : LiveHeader (pieces '\n' headersAround) 3 4 "@a p".toList := by
    refine ⟨⟨"@a p".toList, ?_, by decide⟩, ⟨'a', " p".toList, rfl, by decide⟩⟩
    refine .interior (by rw [lines]; rfl) ?_ (by decide) (by decide) opened (by rw [lines]; rfl) ?_
    · decide
    · decide
  obtain ⟨-, tagOf, -, isTag⟩ :=
    headers_and_tags_correspond ⟨true, true, Builtin.parsers⟩ headersAround rfl names
  have itsTag := isTag ⟨3, 4, _, header⟩ 4 _ header
  have number : 3 - ((pieces '\n' headersAround).take 3).countP
      (fun line => (oneLineText? line).isSome) = 2 := by
    rw [lines]
    decide
  exact ⟨rfl, names, header, _, List.get_mem _ _, itsTag, itsTag.number.trans number⟩

end DocComment
