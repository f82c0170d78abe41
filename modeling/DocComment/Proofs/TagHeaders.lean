import DocComment.Proofs.WrittenTags
import DocComment.Proofs.Trimming
import Mathlib.Data.List.Basic

/-!
# Headers and the texts that they begin

Every header of a comment begins a passage, and no other line does (`headings_passages`).  Whether
the passage writes a tag is decided by the first character of its text
(`writtenTag?_eq_ok_none_iff`).  Where texts are not trimmed, this is the first character of the
header, which may be a blank (`head?_sourceOf_false`).  Where they are trimmed, a header begins with
`@`, so each writes a tag, and it is the first line of the text of that tag
(`map_writtenTags_tagPassages`).
-/

namespace DocComment

open Text

variable {ν : Type}

/-- The lines that begin a tag. -/
def headers (lines : List (Line ν)) : List (Line ν) := lines.filter (isHeader ·.text)

lemma headings_passages (lines : List (Line ν)) :
    (passages lines).2.map (fun passage => (passage.number, passage.lines.head?)) =
      (headers lines).map fun line => (line.number, some line.text) := by
  induction lines with
  | nil => rfl
  | cons line rest ih =>
      rw [passages_cons, headers, List.filter_cons]
      split
      · exact congrArg (_ :: ·) ih
      · exact ih

lemma exists_header_of_mem_passages {lines : List (Line ν)} {passage : Passage ν}
    (found : passage ∈ (passages lines).2) :
    ∃ line ∈ headers lines, ∃ more, passage = ⟨line.text :: more, line.number⟩ := by
  have heading := List.mem_map_of_mem (f := fun passage : Passage ν =>
    (passage.number, passage.lines.head?)) found
  rw [headings_passages] at heading
  obtain ⟨line, isHeaderLine, same⟩ := List.mem_map.mp heading
  obtain ⟨texts, number⟩ := passage
  obtain ⟨rfl, first⟩ := Prod.mk.inj same
  obtain ⟨more, rfl⟩ := List.head?_eq_some_iff.mp first.symm
  exact ⟨line, isHeaderLine, more, rfl⟩

lemma ne_nil_of_isHeader {text : Text} (header : isHeader text = true) : text ≠ [] := by
  rintro rfl
  cases header

/-- A header without a blank in front begins with `@`. -/
lemma exists_eq_cons_of_isHeader {text : Text} (header : isHeader text = true)
    (noBlank : ∀ c ∈ text.head?, isBlank c = false) :
    ∃ c rest, text = '@' :: c :: rest ∧ isWord c = true := by
  obtain ⟨first, rest, rfl⟩ := List.exists_cons_of_ne_nil (ne_nil_of_isHeader header)
  rw [isHeader, trimStart_cons_of_not_blank (noBlank first rfl)] at header
  split at header
  · next c more same => exact ⟨c, more, same, header⟩
  · cases header

/-! ## The text of a passage -/

/-- A text writes no tag, without a fault, exactly if it does not begin with `@`. -/
lemma writtenTag?_eq_ok_none_iff {trimmed : Bool} (parsers : List TagParser)
    {passage : Passage ν} :
    writtenTag? trimmed parsers passage = .ok none ↔
      (sourceOf trimmed passage.lines).head? ≠ some '@' := by
  rw [writtenTag?]
  cases source : sourceOf trimmed passage.lines with
  | nil => simp [parseTag, Except.map]
  | cons c rest =>
      by_cases marked : c = '@'
      · subst marked
        simp only [parseTag, Report.outcome_bind]
        cases (Progress.callAll ('@' :: rest) 0 parsers ⟨'@' :: rest, []⟩ :
          Report ν Progress).outcome <;> simp [Except.bind, Except.map]
      · simp [parseTag, marked, Except.map]

lemma head?_sourceOf_false {header : Text} (shown : header ≠ []) (more : List Text) :
    (sourceOf false (header :: more)).head? = header.head? :=
  head?_joinLines shown more

/-- What is trimmed off behind a text without blanks at its ends leaves the text whole. -/
lemma exists_trim_append {core : Text} (tight : Tight isBlank core) (shown : core ≠ [])
    (rest : Text) : ∃ kept, kept <+: rest ∧ trim (core ++ rest) = core ++ kept := by
  obtain ⟨before, middle, after, rfl, blankBefore, blankAfter, tightMiddle⟩ :=
    exists_core isBlank rest
  have nothing : ∀ c ∈ ([] : Text), isBlank c = true := nofun
  by_cases onlyBlanks : middle = []
  · subst onlyBlanks
    have blank : ∀ c ∈ before ++ after, isBlank c = true :=
      List.forall_mem_append.mpr ⟨blankBefore, blankAfter⟩
    have trimmed := trim_surround nothing blank tight
    exact ⟨[], List.nil_prefix, by simpa using trimmed⟩
  · have wider : Tight isBlank (core ++ (before ++ middle)) := by
      refine ⟨fun c first => tight.first c ?_, fun c last => tightMiddle.last c ?_⟩
      · rwa [List.head?_append_of_ne_nil _ shown] at first
      · rwa [← List.append_assoc, List.getLast?_append_of_ne_nil _ onlyBlanks] at last
    have trimmed := trim_surround nothing blankAfter wider
    refine ⟨before ++ middle, ⟨after, rfl⟩, ?_⟩
    simpa using trimmed

/-- A header that is trimmed is the first line of its passage's text. -/
lemma exists_sourceOf_true {header : Text} (tight : Tight isBlank header) (shown : header ≠ [])
    (more : List Text) :
    ∃ kept, sourceOf true (header :: more) = header ++ kept ∧
      (kept = [] ∨ ∃ others, kept = '\n' :: others) := by
  cases more with
  | nil => exact ⟨[], by simp [sourceOf, trim_of_tight tight], .inl rfl⟩
  | cons next rest =>
      obtain ⟨kept, isPrefix, trimmed⟩ :=
        exists_trim_append tight shown ('\n' :: joinLines (next :: rest))
      refine ⟨kept, trimmed, ?_⟩
      cases kept with
      | nil => exact .inl rfl
      | cons c others =>
          obtain ⟨rfl, -⟩ := List.cons_prefix_cons.mp isPrefix
          exact .inr ⟨others, rfl⟩

/-- Where a tag comes from: its line and its text. -/
def TagNode.origin (node : TagNode ν) : ν × Text := (node.line, node.source)

/-- The line of a tag, with the first line of its text. -/
def TagNode.heading (node : TagNode ν) : ν × Option Text :=
  (node.line, (pieces '\n' node.source).head?)

/-- Passages that all begin with `@` write a tag each, with their numbers and texts. -/
lemma map_writtenTags {trimmed : Bool} {parsers : List TagParser} {passages : List (Passage ν)}
    {nodes : List (TagNode ν)}
    (marked : ∀ passage ∈ passages, (sourceOf trimmed passage.lines).head? = some '@')
    (written : writtenTags trimmed parsers passages = .ok nodes) :
    nodes.map TagNode.origin =
      passages.map fun passage => (passage.number, sourceOf trimmed passage.lines) := by
  induction passages generalizing nodes with
  | nil =>
      cases written
      rfl
  | cons passage rest ih =>
      obtain ⟨tag, others, first, later, rfl⟩ := collect_cons_eq_ok_iff.mp written
      obtain ⟨markedFirst, markedOthers⟩ := List.forall_mem_cons.mp marked
      cases tag with
      | none => exact ((writtenTag?_eq_ok_none_iff parsers).mp first markedFirst).elim
      | some node =>
          obtain ⟨result, -, made⟩ := map_eq_ok_iff.mp first
          obtain ⟨record, -, rfl⟩ := Option.map_eq_some_iff.mp made
          exact congrArg (_ :: ·) (ih markedOthers later)

/-! ## Comments whose texts are trimmed -/

/-- A trimmed text is a header exactly if it begins with `@` and a word character. -/
lemma isHeader_trim_iff {text : Text} :
    isHeader (trim text) = true ↔ ∃ c rest, trim text = '@' :: c :: rest ∧ isWord c = true := by
  constructor
  · exact fun header => exists_eq_cons_of_isHeader header (tight_trim text).first
  · rintro ⟨c, rest, same, word⟩
    rw [same, isHeader, trimStart_cons_of_not_blank (by decide)]
    exact word

lemma mem_headers_trimmed_iff {lines : List (Line ν)} {content : Text} {number : ν} :
    ⟨content, number⟩ ∈ headers (lines.map (Line.trimIf true)) ↔
      (∃ text, ⟨text, number⟩ ∈ lines ∧ trim text = content) ∧
        ∃ c rest, content = '@' :: c :: rest ∧ isWord c = true := by
  rw [headers, List.mem_filter, List.mem_map]
  constructor
  · rintro ⟨⟨⟨text, same⟩, isLine, trimmed⟩, header⟩
    cases trimmed
    exact ⟨⟨text, isLine, rfl⟩, isHeader_trim_iff.mp header⟩
  · rintro ⟨⟨text, isLine, rfl⟩, begins⟩
    exact ⟨⟨_, isLine, rfl⟩, isHeader_trim_iff.mpr begins⟩

/-- Where texts are trimmed, the text of a passage begins with `@`. -/
lemma head?_sourceOf_true {lines : List (Line ν)} {passage : Passage ν}
    (found : passage ∈ tagPassages true lines) :
    (sourceOf true passage.lines).head? = some '@' := by
  obtain ⟨line, isHeaderLine, more, rfl⟩ := exists_header_of_mem_passages found
  obtain ⟨⟨text, -, trimmed⟩, c, rest, marked, -⟩ := mem_headers_trimmed_iff.mp isHeaderLine
  obtain ⟨kept, source, -⟩ :=
    exists_sourceOf_true (trimmed ▸ tight_trim text) (by simp [marked]) more
  rw [source, marked]
  rfl

/-- Where texts are trimmed, every header of a comment writes a tag: it has the number of the
header, which is the first line of its text. -/
lemma map_writtenTags_tagPassages {parsers : List TagParser} {lines : List (Line ν)}
    {nodes : List (TagNode ν)} (oneLineEach : ∀ line ∈ lines, '\n' ∉ line.text)
    (written : writtenTags true parsers (tagPassages true lines) = .ok nodes) :
    nodes.map TagNode.heading =
      (headers (lines.map (Line.trimIf true))).map fun line => (line.number, some line.text) := by
  have firstLine : ∀ passage ∈ tagPassages true lines,
      (pieces '\n' (sourceOf true passage.lines)).head? = passage.lines.head? := by
    intro passage found
    obtain ⟨line, isHeaderLine, more, rfl⟩ := exists_header_of_mem_passages found
    obtain ⟨⟨text, isLine, trimmed⟩, c, rest, marked, -⟩ := mem_headers_trimmed_iff.mp isHeaderLine
    have tight : Tight isBlank line.text := trimmed ▸ tight_trim text
    have noNewline : '\n' ∉ line.text :=
      fun newline => oneLineEach _ isLine (trim_subset text (trimmed ▸ newline))
    obtain ⟨kept, source, rfl | ⟨others, rfl⟩⟩ :=
      exists_sourceOf_true tight (by simp [marked]) more
    · rw [source, List.append_nil, pieces_of_not_mem noNewline]
      rfl
    · rw [source, pieces_append_sep, pieces_of_not_mem noNewline]
      rfl
  have sources := map_writtenTags (fun passage => head?_sourceOf_true) written
  calc nodes.map TagNode.heading
      = (nodes.map TagNode.origin).map (Prod.map id fun source => (pieces '\n' source).head?) := by
        rw [List.map_map]
        rfl
    _ = (tagPassages true lines).map
          fun passage => (passage.number, (pieces '\n' (sourceOf true passage.lines)).head?) := by
        rw [sources, List.map_map]
        rfl
    _ = (tagPassages true lines).map fun passage => (passage.number, passage.lines.head?) :=
        List.map_congr_left fun passage found => by rw [firstLine passage found]
    _ = _ := headings_passages _

end DocComment
