import DocComment.Document
import DocComment.Proofs.FoundComments
import DocComment.Proofs.Trimming

/-!
# Texts wrapped in a comment

Lines are wrapped in a comment by an opening line, a closing line and a marker with a blank in front
of each (`wrapped`).  Whatever stands behind a marker and its blank is read as content, even if it
looks like a marker of its own (`interiorText?_marked`), so the comment is read as the parser of
blocks would read the lines themselves (`contents_stay_inside`).

Where texts are trimmed, a scan takes the blanks in front of the content away and the parser of
blocks takes them away again; `parseBlock_congr` says that this comes to the same.
-/

namespace DocComment

open Text

/-! ## The lines of a comment, trimmed or not -/

section Trimmed

variable {ν : Type}

@[simp] lemma number_trimIf (trimmed : Bool) (line : Line ν) :
    (line.trimIf trimmed).number = line.number := by
  cases trimmed <;> rfl

lemma parseBlock_congr (options : Options) {lines others : List (Line ν)}
    (same : lines.map (Line.trimIf options.trim) = others.map (Line.trimIf options.trim)) :
    parseBlock options lines = parseBlock options others := by
  cases lines with
  | nil =>
      cases others with
      | nil => rfl
      | cons first rest => simp at same
  | cons first rest =>
      cases others with
      | nil => simp at same
      | cons otherFirst otherRest =>
          have number : first.number = otherFirst.number := by
            have trimmedFirst := (List.cons.inj same).1
            simpa using congrArg (·.number) trimmedFirst
          simp only [parseBlock, same, number]

lemma map_trimIf_numbered (start : Nat) (texts : List Text) :
    (numbered start texts).map (Line.trimIf true) = numbered start (texts.map trim) := by
  induction texts generalizing start with
  | nil => rfl
  | cons text rest ih => rw [numbered_cons, List.map_cons, ih, List.map_cons, numbered_cons]; rfl

end Trimmed

/-! ## Wrapping -/

/-- The lines of a comment that holds these contents. -/
def wrappedLines (contents : List Text) : List Text :=
  "/**".toList :: contents.map (" * ".toList ++ ·) ++ [" */".toList]

/-- The text of a comment that holds these contents. -/
def wrapped (contents : List Text) : Text := joinLines (wrappedLines contents)

/-- What a scan takes from a line with this content: all of it, or all but the blanks in front. -/
def takenContent (keepPadding : Bool) (content : Text) : Text :=
  if keepPadding then content else trimStart content

/-- A line with a marker and a blank in front of its content is interior, whatever the content. -/
lemma interiorText?_marked (keepPadding : Bool) (content : Text) :
    interiorText? keepPadding (" * ".toList ++ content) =
      some (takenContent keepPadding content) := by
  have spelled : " * ".toList ++ content = ' ' :: '*' :: ' ' :: content := rfl
  have separator : isBlank ' ' = true := by decide
  have marker : isBlank '*' = false := by decide
  have shown : trimStart (" * ".toList ++ content) = '*' :: ' ' :: content := by
    rw [spelled, trimStart_cons_of_blank separator, trimStart_cons_of_not_blank marker]
  rw [interiorText?, shown]
  exact if_pos separator

section Scan

variable (keepPadding : Bool) (contents : List Text)

lemma Scan.findings_marked (next : Nat) (pending : Pending) :
    (Scan.mk next (some pending)).findings keepPadding (contents.map (" * ".toList ++ ·)) =
      contents.map fun _ => .nothing := by
  induction contents generalizing next pending with
  | nil => rfl
  | cons content rest ih =>
      have kind := kind_eq_interior_iff.mpr (interiorText?_marked keepPadding content)
      simp only [List.map_cons, findings, step, kind, ih]

lemma Scan.after_marked (next opened : Nat) (interior : List (Line Nat)) :
    (Scan.mk next (some ⟨opened, interior⟩)).after keepPadding
        (contents.map (" * ".toList ++ ·)) =
      ⟨next + contents.length, some ⟨opened,
        (numbered next (contents.map (takenContent keepPadding))).reverse ++ interior⟩⟩ := by
  induction contents generalizing next interior with
  | nil => rfl
  | cons content rest ih =>
      have kind := kind_eq_interior_iff.mpr (interiorText?_marked keepPadding content)
      have number : next + 1 + rest.length = next + (content :: rest).length := by
        rw [List.length_cons]
        omega
      simp only [List.map_cons, after_cons, step, kind, ih, number, numbered_cons,
        List.reverse_cons, List.append_assoc, List.singleton_append]

/-- A scan of a comment that holds contents finds the contents, and nothing before the last
line. -/
lemma findings_wrappedLines :
    Scan.start.findings keepPadding (wrappedLines contents) =
      .nothing :: contents.map (fun _ => .nothing) ++
        [.comment (numbered 0 ([] :: contents.map (takenContent keepPadding) ++ [[]]))] := by
  have opening : LineKind.of keepPadding "/**".toList = .opening :=
    kind_eq_opening_iff.mpr (by decide)
  have closing : LineKind.of keepPadding " */".toList = .closing :=
    kind_eq_closing_iff.mpr (by decide)
  simp only [wrappedLines, List.cons_append, Scan.findings, Scan.step, Scan.start, opening,
    Scan.findings_append, Scan.findings_marked, Scan.after_marked, closing, Pending.close,
    List.append_nil, List.reverse_reverse, numbered_cons, numbered_append, numbered_nil,
    List.length_map, Nat.zero_add]

end Scan

/-! ## Reading what is wrapped -/

lemma gather_cons_pure_none (rest : List (Report Nat (Option (Block Nat)))) :
    gather (pure none :: rest) = gather rest := by
  show (⟨[] ++ (gather rest).notes, (gather rest).outcome.map ([] ++ ·)⟩ : Report _ _) = gather rest
  cases gathered : gather rest with
  | mk notes outcome => cases outcome <;> rfl

lemma gather_append_of_pure_none {silent : List (Report Nat (Option (Block Nat)))}
    (isSilent : ∀ report ∈ silent, report = pure none)
    (rest : List (Report Nat (Option (Block Nat)))) : gather (silent ++ rest) = gather rest := by
  induction silent with
  | nil => rfl
  | cons report more ih =>
      obtain ⟨rfl, others⟩ := List.forall_mem_cons.mp isSilent
      rw [List.cons_append, gather_cons_pure_none, ih others]

lemma gather_singleton (report : Report Nat (Option (Block Nat))) :
    gather [report] = Option.toList <$> report := by
  obtain ⟨notes, outcome⟩ := report
  cases outcome with
  | error fault => rfl
  | ok found =>
      show (⟨notes ++ [], .ok (found.toList ++ [])⟩ : Report _ _) = ⟨notes, .ok found.toList⟩
      rw [List.append_nil, List.append_nil]

lemma parseLines_wrappedLines (options : Options) (contents : List Text) :
    parseLines options (wrappedLines contents) =
      Option.toList <$> parseBlock options (numbered 0 ([] :: contents ++ [[]])) := by
  have sameContents : parseBlock options
      (numbered 0 ([] :: contents.map (takenContent (!options.trim)) ++ [[]])) =
        parseBlock options (numbered 0 ([] :: contents ++ [[]])) := by
    apply parseBlock_congr
    cases options.trim with
    | false =>
        have all : takenContent (!false) = id := rfl
        rw [all, List.map_id]
    | true =>
        have trimmedStart : trim ∘ takenContent (!true) = trim := by
          funext content
          exact trim_trimStart content
        rw [map_trimIf_numbered, map_trimIf_numbered]
        simp only [List.map_append, List.map_cons, List.map_map, trimmedStart]
  have silent : ∀ report ∈ (.nothing :: contents.map fun _ => .nothing : List Finding).map
      (Finding.outcome options), report = pure none := by
    intro report reported
    obtain ⟨finding, found, rfl⟩ := List.mem_map.mp reported
    rcases List.mem_cons.mp found with rfl | marked
    · rfl
    · obtain ⟨content, -, rfl⟩ := List.mem_map.mp marked
      rfl
  rw [parseLines, outcomes, outcomesFrom, findings_wrappedLines, List.map_append,
    gather_append_of_pure_none silent, List.map_singleton, gather_singleton, Finding.outcome,
    sameContents]

/-- The lines of a comment come back from its text, if no content has a newline in it. -/
lemma pieces_wrapped {contents : List Text} (oneLineEach : ∀ content ∈ contents, '\n' ∉ content) :
    pieces '\n' (wrapped contents) = wrappedLines contents := by
  refine pieces_joinLines (by simp [wrappedLines]) fun line isLine => ?_
  have markerOnLine : '\n' ∉ " * ".toList := by decide
  simp only [wrappedLines, List.cons_append, List.mem_cons, List.mem_append, List.mem_map,
    List.not_mem_nil, or_false] at isLine
  rcases isLine with rfl | ⟨content, found, rfl⟩ | rfl
  · decide
  · exact fun newline => (List.mem_append.mp newline).elim markerOnLine (oneLineEach _ found)
  · decide

/-- **Contents stay inside their comment.**  Lines of any texts without newlines that are wrapped in
a comment are read as the parser of blocks reads them, each with its number and between two empty
lines for the markers: to the same block, to none or to the same fault, with the same notes. -/
theorem contents_stay_inside (options : Options) (contents : List Text)
    (oneLineEach : ∀ content ∈ contents, '\n' ∉ content) :
    parse options (wrapped contents) =
      Option.toList <$> parseBlock options (numbered 0 ([] :: contents ++ [[]])) := by
  rw [parse, pieces_wrapped oneLineEach, parseLines_wrappedLines]

/-- Contents that look like the markers of comments, or that hold other separators of lines. -/
def markerLikeContents : List Text :=
  ["*/".toList, "/**".toList, "/** @a b */".toList, " @c\rd".toList, "\u2028* e".toList]

theorem marker_like_contents_stay_inside :
    (∀ content ∈ markerLikeContents, '\n' ∉ content) ∧
      parse .default (wrapped markerLikeContents) =
        Option.toList <$> parseBlock .default (numbered 0 ([] :: markerLikeContents ++ [[]])) := by
  have oneLineEach : ∀ content ∈ markerLikeContents, '\n' ∉ content := by decide
  exact ⟨oneLineEach, contents_stay_inside .default markerLikeContents oneLineEach⟩

end DocComment
