import DocComment.Proofs.ReportedTags

/-!
# Indentation and the tags that are reported

Where texts are not trimmed, what stands on an interior line is kept with its indentation, so a
header that is indented begins a passage but writes no tag.  The two ways of reading a document
agree on all else: they complete the same comments at the same lines, and each line that stands in a
comment is the same header, with the same number and keyword, in both (`recordedHeader?_eq`).

The headers of a document are listed here in their order (`Header`, `Header.Precedes`), comment by
comment.  A comment is a row of lines with what can be read on them (`AreLinesAt`), which may be one
line that holds it all (`areLinesAt_of_oneLine`) or the lines between an opening line and a closing
one (`areLinesAt_of_closing`), and its headers are found among these
(`AreLinesAt.areHeadersAt`).  Put together, they say what is reported in both ways
(`indentation_alone_hides_tags`).
-/

namespace DocComment

open Text

/-! ## The headers of a document, in order -/

/-- A header of a document: the index of its line, the index of the line that completes its comment,
and its content without the blanks around it. -/
structure Header where
  index : Nat
  completing : Nat
  content : Text

/-- Whether the content of a line follows its markers at once: it stands in a whole comment, or
behind the marker there is one separator and then the `@`. -/
def isFlushLine (line : Text) : Bool :=
  (oneLineText? line).isSome ||
    match trimStart line with
    | '*' :: _ :: '@' :: _ => true
    | _ => false

namespace Header

/-- A header stands in a document as its fields say. -/
def IsLive (lines : List Text) (header : Header) : Prop :=
  LiveHeader lines header.index header.completing header.content

/-- Headers are ordered by the comments that they stand in, and then by their lines. -/
def Precedes (header other : Header) : Prop :=
  header.completing < other.completing ∨
    header.completing = other.completing ∧ header.index < other.index

/-- Whether a header is not indented. -/
def isFlush (lines : List Text) (header : Header) : Bool := lines[header.index]?.any isFlushLine

/-- What the tag of a header reports. -/
def report (lines : List Text) (header : Header) : Nat × Value :=
  (lineNumber lines header.index, .text (keywordOf header.content))

/-- The header that a line makes with this text in the comment that line `k` completes. -/
def of? (k i : Nat) (text : Text) : Option Header :=
  if isHeader text then some ⟨i, k, trim text⟩ else none

end Header

section Lines

variable {lines : List Text} {i k : Nat}

lemma map_report_filter_of? {line : Text} (trimmed : Bool) (here : lines[i]? = some line)
    (text : Text) :
    ((Header.of? k i text).filter fun header => trimmed || header.isFlush lines).map
        (Header.report lines) =
      if isHeader text && (trimmed || isFlushLine line) then
        some (lineNumber lines i, .text (keywordOf text))
      else none := by
  rw [Header.of?]
  cases isHeader text with
  | false => rfl
  | true =>
      rw [if_pos rfl, Option.filter_some]
      have flush : Header.isFlush lines ⟨i, k, trim text⟩ = isFlushLine line := by
        rw [Header.isFlush, here, Option.any_some]
      rw [flush, Bool.true_and]
      split
      · rw [Option.map_some, Header.report, keywordOf_trim]
      · rfl

lemma recordedHeader?_eq {line text full : Text} (trimmed : Bool) (here : lines[i]? = some line)
    (same : trim full = trim text)
    (flush : isHeader full = true → (isFlushLine line = true ↔ full.head? = some '@')) :
    recordedHeader? (Line.trimIf trimmed ⟨if trimmed then text else full, lineNumber lines i⟩) =
      ((Header.of? k i text).filter fun header => trimmed || header.isFlush lines).map
        (Header.report lines) := by
  rw [map_report_filter_of? trimmed here]
  cases trimmed with
  | true =>
      show recordedHeader? ⟨trim text, lineNumber lines i⟩ = _
      have counts : (isHeader (trim text) && (trim text).head? == some '@') =
          (isHeader text && (true || isFlushLine line)) := by
        rw [Bool.true_or, Bool.and_true, ← isHeader_trim text]
        cases header : isHeader (trim text) with
        | false => rfl
        | true =>
            obtain ⟨c, rest, shown, -⟩ := isHeader_trim_iff.mp header
            rw [shown]
            rfl
      simp only [recordedHeader?, counts, keywordOf_trim]
  | false =>
      show recordedHeader? ⟨full, lineNumber lines i⟩ = _
      have header : isHeader full = isHeader text := by rw [← isHeader_trim, same, isHeader_trim]
      have keyword : keywordOf full = keywordOf text := by
        rw [← keywordOf_trim, same, keywordOf_trim]
      have counts : (isHeader full && full.head? == some '@') =
          (isHeader text && (false || isFlushLine line)) := by
        rw [Bool.false_or, ← header]
        cases isHeaderFull : isHeader full with
        | false => rfl
        | true => rw [Bool.true_and, Bool.true_and, Bool.eq_iff_iff, beq_iff_eq, flush isHeaderFull]
      simp only [recordedHeader?, counts, keyword]

lemma not_blank_of_oneLineText? {line text : Text} (whole : oneLineText? line = some text) :
    ∀ c ∈ text.head?, isBlank c = false := by
  unfold oneLineText? at whole
  split at whole
  · next rest shown =>
      split at whole
      · next body dropped =>
          split at whole
          · cases whole
            intro c first
            obtain ⟨more, begins⟩ := List.head?_eq_some_iff.mp first
            obtain ⟨behind, split⟩ := List.takeWhile_prefix (l := body) (· != '\n')
            rw [begins, List.cons_append] at split
            have left : trimEnd (trimStart rest) = [c] ++ (more ++ behind ++ ['*', '/']) := by
              rw [eq_append_of_dropEnding? dropped, ← split]
              rfl
            obtain ⟨_, shows⟩ := exists_eq_append_of_trimEnd_eq left
            exact not_blank_of_trimStart_eq_cons shows
          · cases whole
      · cases whole
  · cases whole

/-- The content of an interior line that is kept with its padding: without the padding it is the
content that is read otherwise, and it begins with `@` if the line is not indented. -/
lemma interiorText?_of_keepPadding {line full : Text}
    (inside : interiorText? true line = some full) :
    interiorText? false line = some (trimStart full) ∧
      (isHeader full = true → (isFlushLine line = true ↔ full.head? = some '@')) := by
  have notWhole := oneLineText?_eq_none_of_interiorText? inside
  rw [isFlushLine, notWhole]
  rcases trimStart_of_interiorText? inside with shown | ⟨c, rest, shown, blank⟩
  · simp only [interiorText?, shown, Option.some.injEq] at inside
    subst inside
    exact ⟨by simp [interiorText?, shown], fun header => (ne_nil_of_isHeader header rfl).elim⟩
  · simp only [interiorText?, shown, blank, if_true, Option.some.injEq] at inside
    subst inside
    refine ⟨by simp [interiorText?, shown, blank], fun header => ?_⟩
    obtain ⟨first, more, rfl⟩ := List.exists_cons_of_ne_nil (ne_nil_of_isHeader header)
    by_cases marked : first = '@' <;> simp [shown, marked]

end Lines

/-! ## The headers of one comment -/

section Comments

variable {lines : List Text} {k : Nat}

/-- What the tags report of the comment that line `k` completes, if it completes one. -/
def recordedAt (trimmed : Bool) (lines : List Text) (k : Nat) : List (Nat × Value) :=
  (Scan.start.findings (!trimmed) lines)[k]?.elim [] (Finding.recorded trimmed)

lemma recordedAt_of_completes {trimmed : Bool} {comment : List (Line Nat)}
    (completes : Completes (!trimmed) lines k comment) :
    recordedAt trimmed lines k =
      (comment.map (Line.trimIf trimmed)).filterMap recordedHeader? := by
  rw [recordedAt, getElem?_findings_eq_comment_iff.mpr completes]
  rfl

lemma recordedAt_of_not_completes {trimmed : Bool}
    (completesNone : ∀ comment, ¬ Completes (!trimmed) lines k comment) :
    recordedAt trimmed lines k = [] := by
  rw [recordedAt]
  cases found : (Scan.start.findings (!trimmed) lines)[k]? with
  | none => rfl
  | some finding =>
      cases finding with
      | nothing => rfl
      | abandoned opened given => rfl
      | comment lines =>
          exact (completesNone lines (getElem?_findings_eq_comment_iff.mp found)).elim

/-- Headers are those of the comment that line `k` completes: they are in order, they are all of
them, and what the tags of the comment report is what they say. -/
structure AreHeadersAt (lines : List Text) (k : Nat) (headers : List Header) : Prop where
  inOrder : headers.Pairwise Header.Precedes
  each : ∀ header, header ∈ headers ↔ header.IsLive lines ∧ header.completing = k
  recorded : ∀ trimmed, recordedAt trimmed lines k =
    (headers.filter fun header => trimmed || header.isFlush lines).map (Header.report lines)

lemma Header.of?_eq_some_iff {i : Nat} {text : Text} {header : Header} :
    Header.of? k i text = some header ↔
      header = ⟨i, k, trim text⟩ ∧ ∃ c rest, trim text = '@' :: c :: rest ∧ isWord c = true := by
  rw [Header.of?, ← isHeader_trim_iff, isHeader_trim]
  cases isHeader text <;> simp [eq_comm]

/-- The lines `indices` stand in the comment that line `k` completes, with these contents, which are
read with their padding or without. -/
structure AreLinesAt (lines : List Text) (k : Nat) (indices : List Nat)
    (content? : Bool → Nat → Option Text) : Prop where
  ascending : indices.Pairwise (· < ·)
  stands : ∀ i text, StandsIn lines i k text ↔ i ∈ indices ∧ content? false i = some text
  padded : ∀ i full, content? true i = some full →
    ∃ line text, lines[i]? = some line ∧ content? false i = some text ∧ trim full = trim text ∧
      (isHeader full = true → (isFlushLine line = true ↔ full.head? = some '@'))
  unpadded : ∀ i, content? true i = none → content? false i = none
  recorded : ∀ trimmed, recordedAt trimmed lines k =
    indices.filterMap fun i => (content? (!trimmed) i).bind fun text =>
      recordedHeader? (Line.trimIf trimmed ⟨text, lineNumber lines i⟩)

/-- The headers of a comment are found among its lines. -/
lemma AreLinesAt.areHeadersAt {indices : List Nat} {content? : Bool → Nat → Option Text}
    (areLines : AreLinesAt lines k indices content?) :
    AreHeadersAt lines k
      (indices.filterMap fun i => (content? false i).bind (Header.of? k i)) where
  inOrder := by
    refine areLines.ascending.filterMap _ fun i j before header made other madeOther => ?_
    obtain ⟨text, -, isHeader⟩ := Option.bind_eq_some_iff.mp made
    obtain ⟨otherText, -, isOther⟩ := Option.bind_eq_some_iff.mp madeOther
    obtain ⟨rfl, -⟩ := Header.of?_eq_some_iff.mp isHeader
    obtain ⟨rfl, -⟩ := Header.of?_eq_some_iff.mp isOther
    exact .inr ⟨rfl, before⟩
  each header := by
    rw [List.mem_filterMap]
    constructor
    · rintro ⟨i, isIndex, made⟩
      obtain ⟨text, content, isHeader⟩ := Option.bind_eq_some_iff.mp made
      obtain ⟨rfl, begins⟩ := Header.of?_eq_some_iff.mp isHeader
      exact ⟨⟨⟨text, (areLines.stands i text).mpr ⟨isIndex, content⟩, rfl⟩, begins⟩, rfl⟩
    · obtain ⟨i, completing, content⟩ := header
      rintro ⟨⟨⟨text, stands, rfl⟩, begins⟩, rfl⟩
      obtain ⟨isIndex, content⟩ := (areLines.stands i text).mp stands
      refine ⟨i, isIndex, ?_⟩
      rw [content, Option.bind_some]
      exact Header.of?_eq_some_iff.mpr ⟨rfl, begins⟩
  recorded trimmed := by
    rw [areLines.recorded, List.filter_filterMap, List.map_filterMap]
    refine List.filterMap_congr fun i _ => ?_
    cases full : content? true i with
    | none =>
        have unpadded := areLines.unpadded i full
        cases trimmed <;> simp [full, unpadded]
    | some content =>
        obtain ⟨line, text, here, unpadded, same, flush⟩ := areLines.padded i content full
        have read : content? (!trimmed) i = some (if trimmed then text else content) := by
          cases trimmed
          · exact full
          · exact unpadded
        rw [read, unpadded, Option.bind_some, Option.bind_some]
        exact recordedHeader?_eq trimmed here same flush

lemma areLinesAt_of_oneLine {line text : Text} (here : lines[k]? = some line)
    (whole : oneLineText? line = some text) :
    AreLinesAt lines k [k] fun _ i => lines[i]?.bind oneLineText? where
  ascending := List.pairwise_singleton _ _
  stands i content := by
    rw [List.mem_singleton]
    constructor
    · intro stands
      cases stands with
      | oneLine here whole itself => exact ⟨itself.symm, by rw [here, Option.bind_some, whole]⟩
      | interior _ _ _ _ _ ends closes =>
          cases here.symm.trans ends
          simp [oneLineText?_eq_none_of_isClosing closes] at whole
    · rintro ⟨rfl, read⟩
      rw [here, Option.bind_some] at read
      exact .oneLine here read rfl
  padded i full read := by
    obtain ⟨line, here, whole⟩ := Option.bind_eq_some_iff.mp read
    refine ⟨line, full, here, read, rfl, fun header => ?_⟩
    obtain ⟨c, rest, rfl, -⟩ := exists_eq_cons_of_isHeader header (not_blank_of_oneLineText? whole)
    simp [isFlushLine, whole]
  unpadded i read := read
  recorded trimmed := by
    rw [recordedAt_of_completes (.oneLine here whole)]
    simp [List.filterMap_cons, here, whole]

lemma areLinesAt_of_closing {last : Text} {j : Nat} (ends : lines[k]? = some last)
    (closes : isClosing last = true) (opened : OpenFrom lines j k) :
    AreLinesAt lines k (List.range' (j + 1) (k - (j + 1)))
      fun keepPadding i => lines[i]?.bind (interiorText? keepPadding) where
  ascending := List.pairwise_lt_range'
  stands i content := by
    rw [List.mem_range'_1]
    constructor
    · intro stands
      cases stands with
      | oneLine here whole itself =>
          subst itself
          cases here.symm.trans ends
          simp [oneLineText?_eq_none_of_isClosing closes] at whole
      | interior here inside after before openedHere =>
          obtain rfl := opened.unique openedHere
          exact ⟨by omega, by rw [here, Option.bind_some, inside]⟩
    · rintro ⟨inRange, read⟩
      obtain ⟨line, here, inside⟩ := Option.bind_eq_some_iff.mp read
      exact .interior here inside (by omega) (by omega) opened ends closes
  padded i full read := by
    obtain ⟨line, here, inside⟩ := Option.bind_eq_some_iff.mp read
    obtain ⟨unpadded, flush⟩ := interiorText?_of_keepPadding inside
    refine ⟨line, trimStart full, here, ?_, (trim_trimStart full).symm, flush⟩
    rw [here, Option.bind_some, unpadded]
  unpadded i read := by
    cases here : lines[i]? with
    | none => rfl
    | some line =>
        rw [here, Option.bind_some] at read
        have alike := isSome_interiorText? false line
        rw [read] at alike
        simpa using alike
  recorded trimmed := by
    rw [recordedAt_of_completes (.closing ends closes opened)]
    have empty : ∀ number : Nat,
        recordedHeader? (Line.trimIf trimmed ⟨[], number⟩) = none := by
      cases trimmed <;> exact fun _ => rfl
    simp only [List.map_cons, List.map_append, List.map_nil, List.filterMap_cons,
      List.filterMap_append, List.filterMap_nil, empty, List.append_nil, List.cons_append,
      interiorLines, List.map_filterMap, List.filterMap_filterMap]
    refine List.filterMap_congr fun i _ => ?_
    cases here : lines[i]? with
    | none => simp [interiorLine?, here]
    | some line =>
        rw [interiorLine?_eq here, Option.bind_some]
        cases interiorText? (!trimmed) line <;> rfl

lemma exists_headersAt (lines : List Text) (k : Nat) :
    ∃ headers, AreHeadersAt lines k headers := by
  by_cases whole : ∃ line text, lines[k]? = some line ∧ oneLineText? line = some text
  · obtain ⟨line, text, here, whole⟩ := whole
    exact ⟨_, (areLinesAt_of_oneLine here whole).areHeadersAt⟩
  by_cases closing : ∃ last j, lines[k]? = some last ∧ isClosing last = true ∧ OpenFrom lines j k
  · obtain ⟨last, j, ends, closes, opened⟩ := closing
    exact ⟨_, (areLinesAt_of_closing ends closes opened).areHeadersAt⟩
  have completesNone : ∀ keepPadding comment, ¬ Completes keepPadding lines k comment := by
    intro keepPadding comment completes
    cases completes with
    | oneLine here isWhole => exact whole ⟨_, _, here, isWhole⟩
    | closing ends closes opened => exact closing ⟨_, _, ends, closes, opened⟩
  refine ⟨[], .nil, fun header => ⟨nofun, ?_⟩, fun trimmed =>
    recordedAt_of_not_completes (completesNone _)⟩
  rintro ⟨⟨⟨text, stands, -⟩, -⟩, rfl⟩
  obtain ⟨comment, completes, -⟩ := stands.exists_completes
  exact (completesNone _ _ completes).elim

end Comments

/-! ## With indentation and without -/

section Document

variable {lines : List Text}

lemma Header.IsLive.completing_lt {header : Header} (isLive : header.IsLive lines) :
    header.completing < lines.length := by
  obtain ⟨⟨text, stands, -⟩, -⟩ := isLive
  cases stands with
  | oneLine here whole itself => exact itself ▸ (List.getElem?_eq_some_iff.mp here).1
  | interior _ _ _ _ _ ends => exact (List.getElem?_eq_some_iff.mp ends).1

/-- Going through a list is going through its positions. -/
lemma flatMap_eq_flatMap_range {α β : Type} (items : List α) (each : α → List β) :
    items.flatMap each = (List.range items.length).flatMap fun k => items[k]?.elim [] each := by
  induction items with
  | nil => rfl
  | cons item rest ih =>
      rw [List.flatMap_cons, ih, List.length_cons, List.range_succ_eq_map, List.flatMap_cons,
        List.flatMap_map]
      rfl

/-- The headers of a document can be listed so that what its tags report is what they say. -/
lemma exists_headers (lines : List Text) :
    ∃ headers : List Header, headers.Pairwise Header.Precedes ∧
      (∀ header, header ∈ headers ↔ header.IsLive lines) ∧
      ∀ trimmed, (Scan.start.findings (!trimmed) lines).flatMap (Finding.recorded trimmed) =
        (headers.filter fun header => trimmed || header.isFlush lines).map
          (Header.report lines) := by
  choose headersAt areHeaders using exists_headersAt lines
  refine ⟨(List.range lines.length).flatMap headersAt, ?_, fun header => ?_, fun trimmed => ?_⟩
  · refine List.pairwise_flatMap.mpr ⟨fun k _ => (areHeaders k).inOrder, ?_⟩
    refine List.pairwise_lt_range.imp fun before header isFirst other isSecond => ?_
    have first := (((areHeaders _).each header).mp isFirst).2
    have second := (((areHeaders _).each other).mp isSecond).2
    exact .inl (by omega)
  · rw [List.mem_flatMap]
    constructor
    · rintro ⟨k, -, isHeader⟩
      exact (((areHeaders k).each header).mp isHeader).1
    · intro isLive
      exact ⟨header.completing, List.mem_range.mpr isLive.completing_lt,
        ((areHeaders _).each header).mpr ⟨isLive, rfl⟩⟩
  · rw [flatMap_eq_flatMap_range, Scan.length_findings, List.filter_flatMap, List.map_flatMap]
    exact List.flatMap_congr fun k _ => (areHeaders k).recorded trimmed

end Document

/-- **Without trimming, the tags of indented headers are lost, and nothing else changes.**  The
headers of a document, in the order of their comments and lines, are the tags that the standard
parsers report where texts are trimmed, each with its line and its keyword.  Where texts are not
trimmed, those of the headers that are not indented are reported, with the same lines and keywords.
So the two agree if no header is indented. -/
theorem indentation_alone_hides_tags (source : Text) :
    let lines := pieces '\n' source
    ∃ (trimmed kept : List (Block Nat)) (headers : List Header),
      (parse ⟨true, false, Builtin.parsers⟩ source).outcome = .ok trimmed ∧
      (parse ⟨false, false, Builtin.parsers⟩ source).outcome = .ok kept ∧
      headers.Pairwise Header.Precedes ∧
      (∀ header, header ∈ headers ↔ header.IsLive lines) ∧
      reportedTags trimmed = headers.map (Header.report lines) ∧
      reportedTags kept = (headers.filter (Header.isFlush lines)).map (Header.report lines) ∧
      ((∀ header ∈ headers, header.isFlush lines = true) →
        reportedTags kept = reportedTags trimmed) ∧
      (reportedTags kept).Sublist (reportedTags trimmed) := by
  intro lines
  obtain ⟨headers, inOrder, each, recorded⟩ := exists_headers lines
  obtain ⟨trimmed, parsedTrimmed, reportedTrimmed⟩ := exists_blocks_recorded true lines
  obtain ⟨kept, parsedKept, reportedKept⟩ := exists_blocks_recorded false lines
  rw [recorded] at reportedTrimmed reportedKept
  simp only [Bool.true_or, List.filter_true] at reportedTrimmed
  simp only [Bool.false_or] at reportedKept
  refine ⟨trimmed, kept, headers, parsedTrimmed, parsedKept, inOrder, each, reportedTrimmed,
    reportedKept, fun allFlush => ?_, ?_⟩
  · rw [reportedKept, reportedTrimmed, List.filter_eq_self.mpr allFlush]
  · rw [reportedKept, reportedTrimmed]
    exact List.filter_sublist.map _

/-- A document whose headers are not indented: one in a whole comment, one behind a space and one
behind a tab. -/
def flushDocument : Text := "/** @a b */\n/**\n * @c\n *   d\n *\t@e f\n */".toList

theorem flush_headers_are_all_reported :
    ∃ trimmed kept : List (Block Nat),
      (parse ⟨true, false, Builtin.parsers⟩ flushDocument).outcome = .ok trimmed ∧
      (parse ⟨false, false, Builtin.parsers⟩ flushDocument).outcome = .ok kept ∧
      reportedTags kept = reportedTags trimmed ∧
      (reportedTags kept).map (·.1) = [0, 1, 3] := by
  obtain ⟨trimmed, kept, headers, parsedTrimmed, parsedKept, -, each, -, -, equal, -⟩ :=
    indentation_alone_hides_tags flushDocument
  have flush : ∀ line ∈ pieces '\n' flushDocument,
      ((oneLineText? line).or (interiorText? false line)).all
        (fun text => !isHeader text || isFlushLine line) = true := by
    decide +kernel
  have allFlush : ∀ header ∈ headers, header.isFlush (pieces '\n' flushDocument) = true := by
    intro header isHeaderOf
    obtain ⟨⟨text, stands, trimmedText⟩, begins⟩ := (each header).mp isHeaderOf
    have isHeaderText : isHeader text = true := by
      rw [← isHeader_trim, isHeader_trim_iff, trimmedText]
      exact begins
    obtain ⟨line, here, reads⟩ : ∃ line, (pieces '\n' flushDocument)[header.index]? = some line ∧
        (oneLineText? line).or (interiorText? false line) = some text := by
      cases stands with
      | oneLine here whole => exact ⟨_, here, by rw [whole, Option.some_or]⟩
      | interior here inside =>
          exact ⟨_, here, by rw [oneLineText?_eq_none_of_interiorText? inside, Option.none_or,
            inside]⟩
    have onLine := flush line (List.mem_of_getElem? here)
    rw [reads, Option.all_some, isHeaderText, Bool.not_true, Bool.false_or] at onLine
    rw [Header.isFlush, here, Option.any_some, onLine]
  have numbers : ((parse ⟨false, false, Builtin.parsers⟩ flushDocument).outcome.map
      fun blocks => (reportedTags blocks).map (·.1)).toOption = some [0, 1, 3] := by
    decide +kernel
  rw [parsedKept] at numbers
  exact ⟨trimmed, kept, parsedTrimmed, parsedKept, equal allFlush, Option.some.inj numbers⟩

/-- An indented header is reported only where texts are trimmed. -/
example :
    let numbers := fun trim =>
      ((parse ⟨trim, false, Builtin.parsers⟩ "/**\n *  @a\n * @b\n */".toList).outcome.map
        fun blocks => (reportedTags blocks).map (·.1)).toOption
    numbers true = some [1, 2] ∧ numbers false = some [2] := by
  decide +kernel

end DocComment
