import DocComment.Proofs.ReportedTags

/-!
# How the standard parsers fail

The keyword of a tag can always be read: a passage is a tag only if its text begins with `@`, and
the line that begins it is a header, so that a word character follows.  The type and the name may
fail, each in one way, and the parsers behind one that fails decline
(`StandardRun.name_declines`, `StandardRun.description_declines`).  So a tag has at most one error,
and where it has one it was given up before it had a name (`StandardRun.standardFields`).

Nesting gives a tag the last part of its name.  A tag that failed has an empty name, which has no
other part, so what is recorded of it stays (`TagNode.IsStandard.withName`).
-/

namespace DocComment

open Text

variable {ν : Type}

/-! ## What is recorded of a tag -/

/-- The fields of a tag that was given up: there is nothing behind its type. -/
structure GivenUp (fields : Record) : Prop where
  name : Record.get? fields "name" = some (.text [])
  description : Record.get? fields "description" = some (.text [])
  optional : Record.get? fields "optional" = some (.bool false)
  default : Record.get? fields "default" = none

/-- How the standard parsers get on with a tag: without an error, or to the failure of the type or
of the name, at which they give up. -/
inductive StandardErrors (fields : Record) : Prop
  | none (errors : Record.get? fields "errors" = some (.list []))
  | type
      (errors : Record.get? fields "errors" =
        some (.list [.ofString "parse_type: Invalid `\x7btype\x7d`, unpaired curlies"]))
      (noType : Record.get? fields "type" = some (.text []))
      (givenUp : GivenUp fields)
  | name
      (errors : Record.get? fields "errors" =
        some (.list [.ofString "parse_name: Invalid `name`, unpaired brackets"]))
      (givenUp : GivenUp fields)

/-- What the standard parsers record of a tag with a text: its keyword stands behind the `@` of the
text, and only the type and the name can fail. -/
structure StandardFields (source : Text) (fields : Record) : Prop where
  keyword : ∃ keyword, keyword ≠ [] ∧ Record.get? fields "tag" = some (.text keyword) ∧
    '@' :: keyword <+: source
  errors : StandardErrors fields

/-! ## The run of the standard parsers -/

namespace Builtin

lemma message_of_readType {source : Text} {record : Record} {message : String}
    (failed : readType source record = .failed message) :
    message = "Invalid `\x7btype\x7d`, unpaired curlies" := by
  unfold readType at failed
  split at failed
  · cases failed
  · split at failed
    · split at failed
      · cases failed
      · cases failed
        rfl
    · cases failed

lemma message_of_readName {source : Text} {record : Record} {message : String}
    (failed : readName source record = .failed message) :
    message = "Invalid `name`, unpaired brackets" := by
  unfold readName at failed
  split at failed
  · cases failed
  · split at failed
    · cases failed
    · split at failed
      · cases failed
      · split at failed
        · cases failed
        · cases failed
          rfl

end Builtin

namespace StandardRun

variable {source : Text} {record : Record} {first second third fourth : Call}

lemma name_declines (run : StandardRun source record first second third fourth)
    (failed : gatheredErrors [first, second] ≠ []) : third.reply = .declining := by
  rw [run.name, Builtin.readName, if_pos (run.nameDeclines.mpr failed)]

lemma description_declines (run : StandardRun source record first second third fourth)
    (failed : gatheredErrors [first, second, third] ≠ []) : fourth.reply = .declining := by
  rw [run.description, Builtin.readDescription, if_pos (run.descriptionDeclines.mpr failed)]

lemma givenUp (run : StandardRun source record first second third fourth)
    (noName : third.reply.pair? = none) (noDescription : fourth.reply.pair? = none) :
    GivenUp record := by
  have keyword := Builtin.isPlain_readKeyword source
  have type := Builtin.isPlain_readType (source.drop (consumedBy [first])) second.record
  rw [← run.keyword] at keyword
  rw [← run.type] at type
  have silent : ∀ name, name ∉ ["tag"] → name ∉ ["type"] →
      lastContribution? [first, second, third, fourth] name = none := by
    intro name notTag notType
    rw [lastContribution?_eq, keyword.contribution?_eq_none notTag,
      type.contribution?_eq_none notType, Reply.contribution?, noDescription,
      Reply.contribution?, noName]
    rfl
  constructor
  · rw [run.concludes.get?_text (by decide), silent "name" (by decide) (by decide)]
    rfl
  · rw [run.concludes.get?_text (by decide), silent "description" (by decide) (by decide)]
    rfl
  · rw [run.concludes.optional, silent "optional" (by decide) (by decide)]
    rfl
  · rw [run.concludes.field "default" (by decide) (by decide),
      silent "default" (by decide) (by decide)]
    rfl

/-- The errors of a text with a keyword are those of the type and those of the name. -/
lemma get?_errors {rest : Text} (run : StandardRun ('@' :: rest) record first second third fourth)
    (named : rest.takeWhile (!isBlank ·) ≠ []) :
    Record.get? record "errors" = some (.list
      (second.reply.errors second.parser.name ++ third.reply.errors third.parser.name)) := by
  have keyword := Builtin.isPlain_readKeyword ('@' :: rest)
  have description := Builtin.isPlain_readDescription
    (('@' :: rest).drop (consumedBy [first, second, third])) fourth.record
  rw [← run.keyword] at keyword
  rw [← run.description] at description
  have noneFirst : first.reply.errors first.parser.name = [] := by
    refine keyword.errors_eq_nil (by decide) (fun message => ?_) _
    simp [run.keyword, Builtin.readKeyword_marked named, Reply.consuming]
  have noneLast : fourth.reply.errors fourth.parser.name = [] := by
    refine description.errors_eq_nil (by decide) (fun message => ?_) _
    rw [run.description]
    exact Builtin.readDescription_ne_failed _ _ message
  rw [run.concludes.errors]
  simp [gatheredErrors, noneFirst, noneLast]

section Named

variable {rest : Text} (run : StandardRun ('@' :: rest) record first second third fourth)
  (inOrder : [first, second, third, fourth].map (·.parser) = Builtin.parsers)
  (named : rest.takeWhile (!isBlank ·) ≠ [])

include run inOrder named

/-- Where the type fails, nothing behind it is read. -/
lemma standardErrors_of_type_failed {message : String}
    (failed : second.reply = .failed message) : StandardErrors record := by
  have isType : second.parser = Builtin.type := (List.cons.inj (List.cons.inj inOrder).2).1
  have noName := run.name_declines (by simp [gatheredErrors, failed, Reply.errors])
  have noDescription := run.description_declines (by simp [gatheredErrors, failed, Reply.errors])
  have errors := run.get?_errors named
  rw [failed, noName, isType, Builtin.message_of_readType (run.type.symm.trans failed)] at errors
  refine .type errors ?_ (run.givenUp (by rw [noName]; rfl) (by rw [noDescription]; rfl))
  have keyword := Builtin.isPlain_readKeyword ('@' :: rest)
  rw [← run.keyword] at keyword
  rw [run.concludes.get?_text (by decide), lastContribution?_eq, failed, noName, noDescription,
    keyword.contribution?_eq_none (by decide)]
  rfl

/-- Where the name fails behind a sound type, nothing behind it is read. -/
lemma standardErrors_of_name_failed {message : String}
    (soundType : second.reply.errors second.parser.name = [])
    (failed : third.reply = .failed message) : StandardErrors record := by
  have isName : third.parser = Builtin.name :=
    (List.cons.inj (List.cons.inj (List.cons.inj inOrder).2).2).1
  have noDescription := run.description_declines (by simp [gatheredErrors, failed, Reply.errors])
  have errors := run.get?_errors named
  rw [soundType, failed, isName,
    Builtin.message_of_readName (run.name.symm.trans failed)] at errors
  exact .name errors (run.givenUp (by rw [failed]; rfl) (by rw [noDescription]; rfl))

/-- **What is recorded of a text with a keyword.** -/
lemma standardFields : StandardFields ('@' :: rest) record := by
  refine ⟨⟨_, named, run.get?_tag named,
    List.cons_prefix_cons.mpr ⟨rfl, List.takeWhile_prefix _⟩⟩, ?_⟩
  have type := Builtin.isPlain_readType (('@' :: rest).drop (consumedBy [first])) second.record
  have name := Builtin.isPlain_readName (('@' :: rest).drop (consumedBy [first, second]))
    third.record
  rw [← run.type] at type
  rw [← run.name] at name
  cases typeReply : second.reply with
  | failed message => exact run.standardErrors_of_type_failed inOrder named typeReply
  | value given =>
      have soundType : second.reply.errors second.parser.name = [] :=
        type.errors_eq_nil (by decide) (by simp [typeReply]) _
      cases nameReply : third.reply with
      | failed message => exact run.standardErrors_of_name_failed inOrder named soundType nameReply
      | value given =>
          have errors := run.get?_errors named
          rw [soundType, name.errors_eq_nil (by decide) (by simp [nameReply])] at errors
          exact .none errors

end Named

end StandardRun

/-! ## The tags of a comment -/

/-- Fields that agree wherever their place does not decide record the same. -/
lemma StandardFields.congr {source : Text} {record fields : Record}
    (standard : StandardFields source record)
    (same : ∀ name, name ∉ TagNode.placeFields →
      Record.get? fields name = Record.get? record name) :
    StandardFields source fields := by
  have givenUp : GivenUp record → GivenUp fields := fun given =>
    ⟨(same _ (by decide)).trans given.name, (same _ (by decide)).trans given.description,
      (same _ (by decide)).trans given.optional, (same _ (by decide)).trans given.default⟩
  obtain ⟨⟨keyword, notEmpty, tag, begins⟩, errors⟩ := standard
  refine ⟨⟨keyword, notEmpty, (same _ (by decide)).trans tag, begins⟩, ?_⟩
  cases errors with
  | none errors => exact .none ((same _ (by decide)).trans errors)
  | type errors noType given =>
      exact .type ((same _ (by decide)).trans errors) ((same _ (by decide)).trans noType)
        (givenUp given)
  | name errors given => exact .name ((same _ (by decide)).trans errors) (givenUp given)

namespace TagNode

/-- A tag with a text has what the standard parsers record of this text; of an implied tag nothing
is recorded. -/
def IsStandard : TagNode ν → Prop
  | .written fields _ source _ => StandardFields source fields
  | .implied _ _ _ _ => True

lemma IsStandard.withTags {node : TagNode ν} (standard : node.IsStandard)
    (tags : List (TagNode ν)) : (node.withTags tags).IsStandard := by
  cases node <;> exact standard

/-- A tag stays standard under the last part of its name: without an error, the name does not
matter, and after an error it is empty and has no other part. -/
lemma IsStandard.withName {node : TagNode ν} (standard : node.IsStandard) {last : Text}
    (isLast : (pieces '.' node.nameText).getLast? = some last) :
    (node.withName last).IsStandard := by
  cases node with
  | implied tag name line tags => exact trivial
  | written fields line source tags =>
      have recorded : StandardFields source fields := standard
      have unnamed : GivenUp fields →
          (written fields line source tags).withName last = written fields line source tags := by
        intro given
        have named : (written fields line source tags).name = .text [] := by
          rw [TagNode.name, Record.getD, given.name, Option.getD_some]
        rw [nameText_of_name named, pieces_nil] at isLast
        cases isLast
        exact withName_of_name named
      cases recorded.errors with
      | none errors =>
          obtain ⟨keyword, notEmpty, tag, begins⟩ := recorded.keyword
          refine ⟨⟨keyword, notEmpty, ?_, begins⟩, .none ?_⟩
          · rwa [Record.get?_set_of_ne (by decide)]
          · rwa [Record.get?_set_of_ne (by decide)]
      | type errors noType given =>
          rw [unnamed given]
          exact recorded
      | name errors given =>
          rw [unnamed given]
          exact recorded

end TagNode

/-- A passage whose text begins with `@` goes on with a keyword: its first line is a header, and a
word character is not blank. -/
lemma exists_keyword_of_mem_tagPassages {trimmed : Bool} {lines : List (Line ν)}
    {passage : Passage ν} (found : passage ∈ tagPassages trimmed lines) {rest : Text}
    (source : sourceOf trimmed passage.lines = '@' :: rest) :
    rest.takeWhile (!isBlank ·) ≠ [] := by
  obtain ⟨line, isHeaderLine, more, rfl⟩ := exists_header_of_mem_passages found
  obtain ⟨isLine, header⟩ := List.mem_filter.mp isHeaderLine
  have shown := ne_nil_of_isHeader header
  obtain ⟨kept, text, -⟩ := exists_sourceOf shown (trim_text_of_mem isLine) more
  have begins : line.text ++ kept = '@' :: rest := text.symm.trans source
  have noBlank : ∀ c ∈ line.text.head?, isBlank c = false := by
    intro c first
    have marked : (line.text ++ kept).head? = some c := by
      rwa [List.head?_append_of_ne_nil _ shown]
    rw [begins] at marked
    cases marked
    decide
  obtain ⟨c, others, shape, word⟩ := exists_eq_cons_of_isHeader header noBlank
  rw [shape] at begins
  cases begins
  simp [not_blank_of_isWord word]

lemma isStandard_of_writtenTag? {trimmed : Bool} {lines : List (Line ν)} {passage : Passage ν}
    (found : passage ∈ tagPassages trimmed lines) {node : TagNode ν}
    (written : writtenTag? trimmed Builtin.parsers passage = .ok (some node)) :
    node.IsStandard := by
  obtain ⟨record, rest, rfl, parsed, source⟩ := exists_of_writtenTag?_eq_some written
  have named := exists_keyword_of_mem_tagPassages found source
  obtain ⟨_, _, _, _, _, sameParsed, -, inOrder, -, run⟩ := exists_calls_standardRun ν rest
  obtain rfl : record = _ := by simpa using parsed.symm.trans sameParsed
  exact (run.standardFields inOrder named).congr fun name other => get?_withoutPlace record other

/-- The passages of a comment come to standard tags, whether names nest or not. -/
lemma exists_addPassages_isStandard (trimmed dottedNames : Bool) (lines : List (Line ν)) :
    ∃ tags, (addPassages ⟨trimmed, dottedNames, Builtin.parsers⟩ []
        (tagPassages trimmed lines)).outcome = .ok tags ∧
      ∀ node ∈ tagsWithin tags, node.IsStandard := by
  obtain ⟨nodes, written, complete⟩ := exists_writtenTags_of_isTyped Builtin.isTyped_parsers trimmed
    (tagPassages trimmed lines)
  have named : ∀ node ∈ nodes, node.IsNamed := fun node isNode => (complete node isNode).isNamed
  have each : ∀ node ∈ nodes, node.IsStandard ∧ node.tags = [] := by
    intro node isNode
    obtain ⟨passage, found, tagOf⟩ := List.mem_map.mp (mem_of_mem_collect written isNode)
    exact ⟨isStandard_of_writtenTag? found tagOf, ((named node isNode).nestable tagOf).bare⟩
  have bare : ∀ node ∈ nodes, node.tags = [] := fun node isNode => (each node isNode).2
  cases dottedNames with
  | false =>
      refine ⟨nodes, ?_, fun node within => ?_⟩
      · rw [outcome_addPassages_of_not_dottedNames _ rfl]
        exact congrArg (Except.map ([] ++ ·)) written
      · rw [tagsWithin_of_bare bare] at within
        exact (each node within).1
  | true =>
      refine ⟨nodes.foldl nest [], outcome_addPassages_of_dottedNames _ rfl written named [],
        fun found within => ?_⟩
      rcases mem_tagsWithin_foldl_nest bare within with
        ⟨old, none, -⟩ | ⟨node, isNode, last, nested, isLast, rfl⟩ | ⟨node, -, part, nested, rfl⟩
      · simp at none
      · exact ((each node isNode).1.withName isLast).withTags nested
      · exact trivial

/-- **How the standard parsers fail.**  Lines of any texts, trimmed or not, with names that nest or
not, come to a block or to none, and for every tag of the block that has a text, at every depth,
standard fields are recorded: the keyword that stands behind the `@` of the text, and no error, or
one of the type or one of the name at which the tag was given up. -/
theorem standard_parsers_fail_at_type_or_name (trimmed dottedNames : Bool) (lines : List (Line ν)) :
    ∃ found, (parseBlock ⟨trimmed, dottedNames, Builtin.parsers⟩ lines).outcome = .ok found ∧
      ∀ block ∈ found, ∀ fields line source tags,
        TagNode.written fields line source tags ∈ tagsWithin block.tags →
          StandardFields source fields := by
  obtain ⟨tags, added, standard⟩ := exists_addPassages_isStandard trimmed dottedNames lines
  refine ⟨blockWith trimmed lines tags, ?_, fun block made fields line source nested within => ?_⟩
  · rw [outcome_parseBlock]
    exact congrArg (Except.map (blockWith trimmed lines)) added
  · rcases blockWith_cases trimmed lines with ⟨-, none⟩ | ⟨shell, makes⟩
    · rw [none] at made
      cases made
    · rw [makes] at made
      cases made
      exact standard _ within

/-- A comment with a sound tag that nests, one with a type that is not closed, and an indented one
with a name that is not closed. -/
def failingLines : List (Line Nat) :=
  [⟨"@a \x7bt\x7d p.q d".toList, 0⟩, ⟨"@b \x7bt p.q".toList, 1⟩,
    ⟨" @c \x7bt\x7d [p.q d".toList, 2⟩]

-- Both failures occur, and the dots in a name that is not read do not nest.
example : ((parseBlock ⟨true, true, Builtin.parsers⟩ failingLines).outcome.map (Option.map
    fun block => (tagsWithin block.tags).map fun node => (node.nameText, match node with
      | .written fields _ _ _ => (Progress.errorsOf fields).map fun error =>
        if let .text message := error then message else []
      | .implied _ _ _ _ => []))).toOption =
    some (some [("p".toList, []), ("q".toList, []),
      ([], ["parse_type: Invalid `\x7btype\x7d`, unpaired curlies".toList]),
      ([], ["parse_name: Invalid `name`, unpaired brackets".toList])]) := by
  decide +kernel

end DocComment
