import DocComment.Proofs.Recognition
import DocComment.Proofs.TypedParsers
import DocComment.Tag.Script

/-!
# What parsers cannot change

Tag parsers may fail, change the record they are handed, contribute fields of any name and reply
with anything.  Without nesting they still leave alone where comments begin and end, which texts the
description and the tags have, and on which lines these stand: the *outline* of a block is decided
by the lines of its comment (`Finding.outline_of_outcomeBy`).  This holds even if every passage goes
through other parsers, which is what parsers come to that keep a state of their own between their
calls.

So two readers whose parsers differ stand at the same place after every line, whether parsing a
comment failed or not, and where both come to a result the outlines agree
(`parsers_leave_recognition_alone`).
-/

namespace DocComment

open Text

variable {ν : Type}

/-! ## Outlines -/

/-- What of a tag its comment decides. -/
structure TagNode.Outline (ν : Type) where
  line : ν
  source : Text
  tags : List (TagNode ν)

/-- What of a block its comment decides. -/
structure Block.Outline (ν : Type) where
  line : ν
  description : Text
  source : Text
  tags : List (TagNode.Outline ν)

/-- The outline of a tag. -/
def TagNode.outline (node : TagNode ν) : TagNode.Outline ν := ⟨node.line, node.source, node.tags⟩

/-- The outline of a block. -/
def Block.outline (block : Block ν) : Block.Outline ν :=
  ⟨block.line, block.description, block.source, block.tags.map TagNode.outline⟩

/-- The outline of the tag that a passage writes; a passage writes one if its text begins with
`@`. -/
def Passage.outline? (trimmed : Bool) (passage : Passage ν) : Option (TagNode.Outline ν) :=
  match sourceOf trimmed passage.lines with
  | '@' :: rest => some ⟨passage.number, '@' :: rest, []⟩
  | _ => none

/-- The outline of the block that a comment makes, if it makes one. -/
def commentOutline? (trimmed : Bool) (lines : List (Line ν)) : Option (Block.Outline ν) :=
  (blockWith trimmed lines []).map fun shell =>
    ⟨shell.line, shell.description, shell.source,
      (tagPassages trimmed lines).filterMap (Passage.outline? trimmed)⟩

/-- The outline of the block that a finding comes to, if it comes to one. -/
def Finding.outline? (trimmed : Bool) : Finding → Option (Block.Outline Nat)
  | .nothing => none
  | .comment lines => commentOutline? trimmed lines
  | .abandoned _ _ => none

/-- What a finding comes to without nesting if each passage goes through the parsers that are chosen
for it.  Parsers that keep a state between their calls come to such a choice. -/
def Finding.outcomeBy (trimmed : Bool) (choose : Passage Nat → List TagParser) :
    Finding → Except Fault (Option (Block Nat))
  | .nothing => .ok none
  | .comment lines =>
    (collect ((tagPassages trimmed lines).map fun passage =>
      writtenTag? trimmed (choose passage) passage)).map (blockWith trimmed lines)
  | .abandoned _ _ => .ok none

/-! ## Parsers do not change outlines -/

section Parsers

variable {trimmed : Bool} {parsers : List TagParser}

lemma exists_of_parseTag_eq_ok {rest : Text} {result : Option Record}
    (parsed : (parseTag ('@' :: rest) parsers : Report ν (Option Record)).outcome = .ok result) :
    ∃ record, result = some record := by
  rw [parseTag, Report.outcome_bind, bind_eq_ok_iff] at parsed
  obtain ⟨progress, -, completed⟩ := parsed
  cases completed
  exact ⟨_, rfl⟩

/-- The tag that a passage writes has the outline of the passage, whatever fields the parsers
contribute. -/
lemma outline_of_writtenTag? {passage : Passage ν} {written : Option (TagNode ν)}
    (writes : writtenTag? trimmed parsers passage = .ok written) :
    written.map TagNode.outline = passage.outline? trimmed := by
  obtain ⟨result, parsed, rfl⟩ := map_eq_ok_iff.mp writes
  rw [Passage.outline?]
  split
  · next rest source =>
      rw [source] at parsed
      obtain ⟨record, rfl⟩ := exists_of_parseTag_eq_ok parsed
      simp only [Option.map_some, source]
      rfl
  · next unmarked =>
      have noRecord : (parseTag (sourceOf trimmed passage.lines) parsers :
          Report ν (Option Record)).outcome = .ok none := by
        rw [parseTag]
        · rfl
        · exact unmarked
      rw [noRecord] at parsed
      cases parsed
      rfl

section ParsersFor

variable {parsersFor : Passage ν → List TagParser} {nodes : List (TagNode ν)}

lemma outlines_of_writtenTags {passages : List (Passage ν)}
    (written : collect (passages.map fun passage =>
      writtenTag? trimmed (parsersFor passage) passage) = .ok nodes) :
    nodes.map TagNode.outline = passages.filterMap (Passage.outline? trimmed) := by
  induction passages generalizing nodes with
  | nil =>
      cases written
      rfl
  | cons passage rest ih =>
      obtain ⟨tag, others, first, later, rfl⟩ := collect_cons_eq_ok_iff.mp written
      have here := outline_of_writtenTag? first
      rw [List.map_append, ih later, List.filterMap_cons, ← here]
      cases tag <;> rfl

/-- A block with the tags that its passages write has the outline that its comment decides, though
each passage may have parsers of its own. -/
lemma outline_of_blockWith {lines : List (Line ν)}
    (written : collect ((tagPassages trimmed lines).map fun passage =>
      writtenTag? trimmed (parsersFor passage) passage) = .ok nodes) :
    (blockWith trimmed lines nodes).map Block.outline = commentOutline? trimmed lines := by
  have outlines := outlines_of_writtenTags written
  rw [commentOutline?]
  rcases blockWith_cases trimmed lines with ⟨-, none⟩ | ⟨shell, makes⟩
  · rw [none, none]
    rfl
  · rw [makes, makes, Option.map_some, Option.map_some, Block.outline, outlines]

end ParsersFor

/-- **Without nesting, the outline of a block is decided by its comment**, whatever parsers are
chosen. -/
lemma Finding.outline_of_outcomeBy {choose : Passage Nat → List TagParser} {finding : Finding}
    {found : Option (Block Nat)} (parsed : finding.outcomeBy trimmed choose = .ok found) :
    found.map Block.outline = finding.outline? trimmed := by
  cases finding with
  | nothing =>
      cases parsed
      rfl
  | comment lines =>
      obtain ⟨nodes, written, rfl⟩ := map_eq_ok_iff.mp parsed
      exact outline_of_blockWith written
  | abandoned opened given =>
      cases parsed
      rfl

/-- Without nesting a reader chooses the same parsers for every passage. -/
lemma Finding.outcome_eq_outcomeBy {options : Options} (plain : options.dottedNames = false)
    (finding : Finding) : (finding.outcome options).outcome =
      finding.outcomeBy options.trim fun _ => options.parsers := by
  cases finding with
  | nothing => rfl
  | comment lines =>
      rw [Finding.outcome, outcome_parseBlock, outcome_addPassages_of_not_dottedNames options plain,
        writtenTags, Finding.outcomeBy]
      cases collect _ <;> rfl
  | abandoned opened given => rfl

end Parsers

lemma exists_of_mem_reports_without_parsers (trimmed : Bool) {lines : List Text}
    {report : Report Nat (Option (Block Nat))}
    (reported : report ∈ (Extractor.start ⟨trimmed, false, []⟩).reports lines) :
    ∃ found, report.outcome = .ok found := by
  rw [Extractor.reports_eq_outcomesFrom] at reported
  obtain ⟨finding, -, rfl⟩ := List.mem_map.mp reported
  cases finding with
  | nothing => exact ⟨none, rfl⟩
  | abandoned opened given => exact ⟨none, rfl⟩
  | comment found =>
      have plain : (Options.mk trimmed false []).dottedNames = false := rfl
      have noParser : ∀ parser ∈ (Options.mk trimmed false []).parsers, parser.IsTyped := nofun
      obtain ⟨block, parsed, -⟩ := exists_parseBlock_of_isTyped plain noParser found
      exact ⟨block, parsed⟩

/-- **Parsers leave the recognition of comments alone.**  Two readers that differ in their parsers
stand at the same place after every line, so a comment is open for the one exactly if it is open for
the other; and at every line at which both come to a result, the one comes to a block exactly if the
other does, and the two blocks have one outline.  One of the readers may have no parsers at all; it
never comes to a fault, so a fault leaves a reader at the place where success would have left it.
The same holds if the parsers change from passage to passage, as those do that keep a state. -/
theorem parsers_leave_recognition_alone (trimmed : Bool) (parsers others : List TagParser)
    (lines : List Text) :
    let reader := Extractor.start ⟨trimmed, false, parsers⟩
    let other := Extractor.start ⟨trimmed, false, others⟩
    let bare := Extractor.start ⟨trimmed, false, []⟩
    let findings := Scan.start.findings (!trimmed) lines
    (∀ i, (reader.after (lines.take i)).scan = (other.after (lines.take i)).scan) ∧
    (reader.reports lines).length = lines.length ∧
    (∀ (i : Nat) (found otherFound : Option (Block Nat)),
      (reader.reports lines)[i]?.map (·.outcome) = some (.ok found) →
        (other.reports lines)[i]?.map (·.outcome) = some (.ok otherFound) →
          found.map Block.outline = otherFound.map Block.outline) ∧
    (∀ report ∈ bare.reports lines, ∃ found, report.outcome = .ok found) ∧
    ((reader.reports lines).map (·.outcome) =
      findings.map (Finding.outcomeBy trimmed fun _ => parsers)) ∧
    ∀ (choose otherChoose : Passage Nat → List TagParser), ∀ finding ∈ findings,
      ∀ found otherFound, finding.outcomeBy trimmed choose = .ok found →
        finding.outcomeBy trimmed otherChoose = .ok otherFound →
          found.map Block.outline = otherFound.map Block.outline := by
  intro reader other bare findings
  -- The findings do not depend on the parsers, and each report is what its finding comes to.
  have outcomes : ∀ parsers, ((Extractor.start ⟨trimmed, false, parsers⟩).reports lines).map
      (·.outcome) = findings.map (Finding.outcomeBy trimmed fun _ => parsers) := by
    intro parsers
    rw [Extractor.reports_eq_outcomesFrom, outcomesFrom, List.map_map]
    exact List.map_congr_left fun finding _ => Finding.outcome_eq_outcomeBy rfl finding
  have sameOutline : ∀ (choose otherChoose : Passage Nat → List TagParser), ∀ finding ∈ findings,
      ∀ found otherFound, finding.outcomeBy trimmed choose = .ok found →
        finding.outcomeBy trimmed otherChoose = .ok otherFound →
          found.map Block.outline = otherFound.map Block.outline :=
    fun _ _ _ _ _ _ parsed otherParsed => (Finding.outline_of_outcomeBy parsed).trans
      (Finding.outline_of_outcomeBy otherParsed).symm
  refine ⟨fun i => ?_, Extractor.length_reports reader lines, ?_, fun report reported => ?_,
    outcomes parsers, sameOutline⟩
  · rw [Extractor.after_eq, Extractor.after_eq]
    rfl
  · intro i found otherFound parsed otherParsed
    rw [← List.getElem?_map, outcomes, List.getElem?_map, Option.map_eq_some_iff]
      at parsed otherParsed
    obtain ⟨finding, isFinding, outcome⟩ := parsed
    obtain ⟨otherFinding, isOther, otherOutcome⟩ := otherParsed
    obtain rfl : finding = otherFinding := Option.some.inj (isFinding.symm.trans isOther)
    exact sameOutline _ _ finding (List.mem_of_getElem? isFinding) _ _ outcome otherOutcome
  · exact exists_of_mem_reports_without_parsers trimmed reported

/-- A parser that replies with a number, which is no reply that a parser may give. -/
def counting : TagParser := Script.toParser ⟨"count", [], .gives (.int 1)⟩

/-- A comment with a tag, and one with a description. -/
def tagAndDescription : List Text :=
  ["/** @a x */".toList, "/**".toList, " * b".toList, " */".toList]

theorem malformed_reply_leaves_recognition_alone :
    let reader := Extractor.start ⟨true, false, [counting]⟩
    let other := Extractor.start ⟨true, false, Builtin.parsers⟩
    (∃ fault, (reader.reports tagAndDescription)[0]?.map (·.outcome) = some (.error fault)) ∧
    (reader.after (tagAndDescription.take 1)).scan =
      (other.after (tagAndDescription.take 1)).scan ∧
    ∃ block otherBlock,
      (reader.reports tagAndDescription)[3]?.map (·.outcome) = some (.ok (some block)) ∧
      (other.reports tagAndDescription)[3]?.map (·.outcome) = some (.ok (some otherBlock)) ∧
      block.outline = otherBlock.outline := by
  intro reader other
  obtain ⟨samePlace, -, sameOutline, -⟩ :=
    parsers_leave_recognition_alone true [counting] Builtin.parsers tagAndDescription
  have failed : (reader.reports tagAndDescription)[0]?.map (·.outcome) =
      some (.error (.malformedReply "count" (.int 1))) := rfl
  have first : (reader.reports tagAndDescription)[3]?.map (·.outcome) =
      some (.ok (some ⟨0, "b".toList, "b".toList, []⟩)) := rfl
  have second : (other.reports tagAndDescription)[3]?.map (·.outcome) =
      some (.ok (some ⟨0, "b".toList, "b".toList, []⟩)) := rfl
  exact ⟨⟨_, failed⟩, samePlace 1, _, _, first, second,
    Option.some.inj (sameOutline 3 _ _ first second)⟩

end DocComment
