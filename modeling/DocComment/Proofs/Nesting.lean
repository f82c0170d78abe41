import DocComment.Proofs.Records
import DocComment.Tag.Forest

/-!
# How a tag comes to stand below others

`attach` looks for the parents that a dotted name calls for, one sibling list after the other, and
implies those that are missing.  Every proof about it follows the path and meets two cases at each
part (`attach_cons_cases`): the last sibling that is called takes the tag in, or none is called and
a new parent stands at the end.  What is proved of a forest is mostly proved of each of its sibling
lists, at every depth (`Everywhere`), or of each of its tags (`tagsWithin`).
-/

namespace DocComment

open Text

variable {ν : Type}

/-! ## Values and names -/

lemma Value.eq_text_of_equals {value : Value} {characters : Text}
    (same : value.equals (.text characters) = true) : value = .text characters := by
  cases value <;> simp_all [Value.equals, Value.asInt?]

@[simp] lemma Value.equals_text (a b : Text) : (Value.text a).equals (.text b) = (a == b) := by
  simp [Value.equals]

namespace TagNode

/-- The name as a text; a name of another kind counts as the empty one. -/
def nameText (node : TagNode ν) : Text :=
  match node.name with
  | .text characters => characters
  | _ => []

lemma nameText_of_name {node : TagNode ν} {name : Text} (named : node.name = .text name) :
    node.nameText = name := by
  simp [nameText, named]

@[simp] lemma nameText_withTags (node : TagNode ν) (tags : List (TagNode ν)) :
    (node.withTags tags).nameText = node.nameText := by
  simp [nameText]

@[simp] lemma isImplied_withTags (node : TagNode ν) (tags : List (TagNode ν)) :
    (node.withTags tags).isImplied = node.isImplied := by cases node <;> rfl

@[simp] lemma withTags_tags (node : TagNode ν) : node.withTags node.tags = node := by
  cases node <;> rfl

@[simp] lemma withTags_withTags (node : TagNode ν) (first second : List (TagNode ν)) :
    (node.withTags first).withTags second = node.withTags second := by cases node <;> rfl

@[simp] lemma name_withName (node : TagNode ν) (name : Text) :
    (node.withName name).name = .text name := by
  cases node <;> simp [withName, TagNode.name, Record.getD, Record.get?_set_self]

@[simp] lemma nameText_withName (node : TagNode ν) (name : Text) :
    (node.withName name).nameText = name :=
  nameText_of_name (name_withName node name)

@[simp] lemma tag_withName (node : TagNode ν) (name : Text) :
    (node.withName name).tag = node.tag := by
  cases node with
  | written fields line source tags =>
      have other : ("tag" : String) ≠ "name" := by decide
      simp [withName, TagNode.tag, Record.getD, Record.get?_set_of_ne other]
  | implied tag old line tags => rfl

@[simp] lemma line_withName (node : TagNode ν) (name : Text) :
    (node.withName name).line = node.line := by cases node <;> rfl

@[simp] lemma source_withName (node : TagNode ν) (name : Text) :
    (node.withName name).source = node.source := by cases node <;> rfl

@[simp] lemma tags_withName (node : TagNode ν) (name : Text) :
    (node.withName name).tags = node.tags := by cases node <;> rfl

@[simp] lemma isImplied_withName (node : TagNode ν) (name : Text) :
    (node.withName name).isImplied = node.isImplied := by cases node <;> rfl

@[simp] lemma withName_withName (node : TagNode ν) (first second : Text) :
    (node.withName first).withName second = node.withName second := by
  cases node <;> simp [withName]

lemma withName_of_name {node : TagNode ν} {name : Text} (named : node.name = .text name) :
    node.withName name = node := by
  cases node with
  | written fields line source tags =>
      have present : Record.get? fields "name" = some (.text name) := by
        cases found : Record.get? fields "name" <;>
          simp_all [TagNode.name, Record.getD]
      simp [withName, Record.set_of_get? present]
  | implied tag old line tags => simp_all [withName, TagNode.name]

lemma name_of_isCalled {node : TagNode ν} {tag : Value} {part : Text}
    (called : node.isCalled tag part = true) : node.name = .text part := by
  rw [isCalled, Bool.and_eq_true] at called
  exact Value.eq_text_of_equals called.2

lemma isCalled_iff_of_tag {node : TagNode ν} {keyword part : Text} :
    node.isCalled (.text keyword) part = true ↔
      node.tag = .text keyword ∧ node.name = .text part := by
  rw [isCalled, Bool.and_eq_true]
  constructor
  · rintro ⟨sameTag, sameName⟩
    exact ⟨Value.eq_text_of_equals sameTag, Value.eq_text_of_equals sameName⟩
  · rintro ⟨sameTag, sameName⟩
    simp [sameTag, sameName]

end TagNode

/-! ## One part of a path -/

section UpdateLast

variable {α : Type} {has : α → Bool} {change : α → α}

lemma updateLast?_eq_none_iff {items : List α} :
    updateLast? has change items = none ↔ ∀ item ∈ items, has item = false := by
  induction items with
  | nil => simp [updateLast?]
  | cons item rest ih =>
      simp only [updateLast?]
      cases later : updateLast? has change rest with
      | some changed =>
          have found : ¬ ∀ item ∈ rest, has item = false := by
            rw [← ih, later]
            simp
          simp only [reduceCtorEq, List.forall_mem_cons, false_iff]
          exact fun none => found none.2
      | none =>
          have noneLater := ih.mp later
          cases here : has item
          · simpa [here] using noneLater
          · simp [here]

lemma exists_of_updateLast?_eq_some {items changed : List α}
    (updated : updateLast? has change items = some changed) :
    ∃ before item after, items = before ++ item :: after ∧ has item = true ∧
      (∀ later ∈ after, has later = false) ∧ changed = before ++ change item :: after := by
  induction items generalizing changed with
  | nil => simp [updateLast?] at updated
  | cons item rest ih =>
      simp only [updateLast?] at updated
      cases later : updateLast? has change rest with
      | some changedRest =>
          simp only [later, Option.some.injEq] at updated
          obtain ⟨before, found, after, rfl, called, last, rfl⟩ := ih later
          exact ⟨item :: before, found, after, rfl, called, last, updated.symm⟩
      | none =>
          cases here : has item with
          | false => simp [later, here] at updated
          | true =>
              simp only [later, here, if_true, Option.some.injEq] at updated
              exact ⟨[], item, rest, rfl, here, updateLast?_eq_none_iff.mp later, updated.symm⟩

end UpdateLast

@[simp] lemma attach_nil (node : TagNode ν) (tags : List (TagNode ν)) :
    attach node [] tags = tags ++ [node] := rfl

/-- The two ways of going down one part of a path: into the last sibling that is called, or into a
new parent behind siblings of which none is called. -/
lemma attach_cons_cases (node : TagNode ν) (part : Text) (path : List Text)
    (tags : List (TagNode ν)) :
    (∃ before parent after, tags = before ++ parent :: after ∧
      parent.isCalled node.tag part = true ∧
      (∀ later ∈ after, later.isCalled node.tag part = false) ∧
      attach node (part :: path) tags =
        before ++ parent.withTags (attach node path parent.tags) :: after) ∨
    ((∀ other ∈ tags, other.isCalled node.tag part = false) ∧
      attach node (part :: path) tags =
        tags ++ [.implied node.tag part node.line (attach node path [])]) := by
  cases updated : updateLast? (TagNode.isCalled node.tag part)
      (fun parent => parent.withTags (attach node path parent.tags)) tags with
  | some changed =>
      obtain ⟨before, parent, after, split, called, last, rfl⟩ :=
        exists_of_updateLast?_eq_some updated
      exact .inl ⟨before, parent, after, split, called, last, by simp [attach, updated]⟩
  | none =>
      exact .inr ⟨updateLast?_eq_none_iff.mp updated, by simp [attach, updated]⟩

/-- A tag placed by the parts of its name between the dots: below the parents that all parts but
the last call for, and under the last as its name. -/
def nest (tags : List (TagNode ν)) (node : TagNode ν) : List (TagNode ν) :=
  let parts := pieces '.' node.nameText
  attach (node.withName (parts.getLast?.getD [])) parts.dropLast tags

/-- A tag as a comment writes it: with texts for its keyword, its name and its source, and with
nothing nested. -/
structure Nestable (node : TagNode ν) : Prop where
  bare : node.tags = []
  textName : ∃ name, node.name = .text name
  textKeyword : ∃ keyword, node.tag = .text keyword
  hasSource : node.source ≠ []
  written : node.isImplied = false

lemma Nestable.withName {node : TagNode ν} (nestable : Nestable node) (name : Text) :
    Nestable (node.withName name) where
  bare := by simpa using nestable.bare
  textName := ⟨name, by simp⟩
  textKeyword := by simpa using nestable.textKeyword
  hasSource := by simpa using nestable.hasSource
  written := by simpa using nestable.written

/-- The last part of a name, where there is always one. -/
lemma exists_getLast?_pieces (name : Text) : ∃ last, (pieces '.' name).getLast? = some last :=
  Option.ne_none_iff_exists'.mp (mt List.getLast?_eq_none_iff.mp (pieces_ne_nil '.' name))

/-! ## Every depth of a forest -/

/-- A property of every sibling list of a forest: of the tags at the top and of the tags nested
under each tag, at every depth. -/
inductive Everywhere (property : List (TagNode ν) → Prop) : List (TagNode ν) → Prop
  | intro {tags : List (TagNode ν)} (here : property tags)
      (below : ∀ node ∈ tags, Everywhere property node.tags) : Everywhere property tags

mutual

/-- A tag and all tags nested under it, at every depth. -/
def TagNode.withDescendants : TagNode ν → List (TagNode ν)
  | .written fields line source tags => .written fields line source tags :: tagsWithin tags
  | .implied tag name line tags => .implied tag name line tags :: tagsWithin tags

/-- The tags of a forest at every depth, each before the tags nested under it. -/
def tagsWithin : List (TagNode ν) → List (TagNode ν)
  | [] => []
  | node :: rest => node.withDescendants ++ tagsWithin rest

end

lemma TagNode.withDescendants_eq (node : TagNode ν) :
    node.withDescendants = node :: tagsWithin node.tags := by
  cases node <;> simp [withDescendants, TagNode.tags]

@[simp] lemma tagsWithin_nil : tagsWithin ([] : List (TagNode ν)) = [] := by
  simp [tagsWithin]

@[simp] lemma tagsWithin_cons (node : TagNode ν) (rest : List (TagNode ν)) :
    tagsWithin (node :: rest) = node :: tagsWithin node.tags ++ tagsWithin rest := by
  rw [tagsWithin, TagNode.withDescendants_eq]

@[simp] lemma tagsWithin_append (tags more : List (TagNode ν)) :
    tagsWithin (tags ++ more) = tagsWithin tags ++ tagsWithin more := by
  induction tags with
  | nil => simp
  | cons node rest ih => simp [ih]

lemma subset_tagsWithin (tags : List (TagNode ν)) : tags ⊆ tagsWithin tags := by
  induction tags with
  | nil => simp
  | cons node rest ih =>
      intro other found
      rcases List.mem_cons.mp found with rfl | later
      · simp
      · simp [ih later]

lemma tagsWithin_tags_subset {node : TagNode ν} {tags : List (TagNode ν)} (found : node ∈ tags) :
    tagsWithin node.tags ⊆ tagsWithin tags := by
  obtain ⟨before, after, rfl⟩ := List.append_of_mem found
  intro other below
  simp [below]

mutual

/-- What holds of a tag and of every tag below it holds of every sibling list below it. -/
lemma TagNode.everywhere_of_forall_within {property : TagNode ν → Prop} : ∀ node : TagNode ν,
    (∀ other ∈ node.withDescendants, property other) →
      Everywhere (fun siblings => ∀ other ∈ siblings, property other) node.tags
  | .written _ _ _ tags, each =>
      everywhere_of_forall_within tags fun other below =>
        each other (by simp [TagNode.withDescendants, below])
  | .implied _ _ _ tags, each =>
      everywhere_of_forall_within tags fun other below =>
        each other (by simp [TagNode.withDescendants, below])

/-- What holds of every tag of a forest holds of its sibling lists at every depth. -/
lemma everywhere_of_forall_within {property : TagNode ν → Prop} : ∀ tags : List (TagNode ν),
    (∀ node ∈ tagsWithin tags, property node) →
      Everywhere (fun siblings => ∀ node ∈ siblings, property node) tags
  | [], _ => .intro (by simp) (by simp)
  | node :: rest, each => by
      obtain ⟨here, below⟩ := everywhere_of_forall_within rest
        fun other within => each other (by simp [within])
      have first := TagNode.everywhere_of_forall_within node
        fun other within => each other (by rw [tagsWithin]; simp [within])
      exact .intro (List.forall_mem_cons.mpr ⟨each node (by simp), here⟩)
        (List.forall_mem_cons.mpr ⟨first, below⟩)

end

/-- What stands in a forest after attaching a tag stood there before, with other tags nested under
it, or is the attached tag, or a parent that its path calls for. -/
lemma mem_tagsWithin_attach {node : TagNode ν} (bare : node.tags = []) {path : List Text}
    {tags : List (TagNode ν)} {found : TagNode ν}
    (within : found ∈ tagsWithin (attach node path tags)) :
    (∃ old ∈ tagsWithin tags, ∃ nested, found = old.withTags nested) ∨ found = node ∨
      ∃ part nested, found = .implied node.tag part node.line nested := by
  induction path generalizing tags with
  | nil =>
      simp only [attach_nil, tagsWithin_append, tagsWithin_cons, bare, tagsWithin_nil,
        List.append_nil, List.mem_append, List.mem_singleton] at within
      rcases within with old | rfl
      · exact .inl ⟨found, old, found.tags, by simp⟩
      · exact .inr (.inl rfl)
  | cons part path ih =>
      rcases attach_cons_cases node part path tags with
        ⟨before, parent, after, rfl, -, -, attached⟩ | ⟨-, attached⟩
      · simp only [attached, tagsWithin_append, tagsWithin_cons, List.mem_append, List.mem_cons,
          TagNode.tags_withTags] at within ⊢
        rcases within with old | (rfl | below) | old
        · exact .inl ⟨found, .inl old, found.tags, by simp⟩
        · exact .inl ⟨parent, .inr (.inl (.inl rfl)), _, rfl⟩
        · refine (ih below).imp_left ?_
          rintro ⟨old, isOld, nested, rfl⟩
          exact ⟨old, .inr (.inl (.inr isOld)), nested, rfl⟩
        · exact .inl ⟨found, .inr (.inr old), found.tags, by simp⟩
      · simp only [attached, tagsWithin_append, tagsWithin_cons, List.mem_append, List.mem_cons,
          tagsWithin_nil, List.append_nil, TagNode.tags] at within
        rcases within with old | rfl | below
        · exact .inl ⟨found, old, found.tags, by simp⟩
        · exact .inr (.inr ⟨part, _, rfl⟩)
        · rcases ih below with ⟨old, isOld, -⟩ | isNew
          · simp at isOld
          · exact .inr isNew

/-- What stands in a forest after nesting tags one after the other stood there before, or is one of
these tags by the last part of its name, each with other tags nested under it, or is a parent that a
name calls for. -/
lemma mem_tagsWithin_foldl_nest {nodes : List (TagNode ν)} (bare : ∀ node ∈ nodes, node.tags = [])
    {tags : List (TagNode ν)} {found : TagNode ν}
    (within : found ∈ tagsWithin (nodes.foldl nest tags)) :
    (∃ old ∈ tagsWithin tags, ∃ nested, found = old.withTags nested) ∨
      (∃ node ∈ nodes, ∃ last nested, (pieces '.' node.nameText).getLast? = some last ∧
        found = (node.withName last).withTags nested) ∨
      ∃ node ∈ nodes, ∃ part nested, found = .implied node.tag part node.line nested := by
  induction nodes generalizing tags with
  | nil => exact .inl ⟨found, within, found.tags, by simp⟩
  | cons node rest ih =>
      obtain ⟨bareNode, bareRest⟩ := List.forall_mem_cons.mp bare
      rcases ih bareRest within with ⟨old, isOld, nested, rfl⟩ | ⟨other, isOther, renamed⟩ |
        ⟨other, isOther, implied⟩
      · rcases mem_tagsWithin_attach (by simpa using bareNode) isOld with
          ⟨older, isOlder, -, rfl⟩ | rfl | ⟨part, -, rfl⟩
        · exact .inl ⟨older, isOlder, nested, by simp⟩
        · obtain ⟨last, isLast⟩ := exists_getLast?_pieces node.nameText
          exact .inr (.inl ⟨node, List.mem_cons_self, last, nested, isLast, by simp [isLast]⟩)
        · exact .inr (.inr ⟨node, List.mem_cons_self, part, nested, by simp [TagNode.withTags]⟩)
      · exact .inr (.inl ⟨other, List.mem_cons_of_mem _ isOther, renamed⟩)
      · exact .inr (.inr ⟨other, List.mem_cons_of_mem _ isOther, implied⟩)

/-- A property of tags that nesting keeps: neither the nested tags nor the name matter to it, and a
parent has it if a tag has it that calls for the parent. -/
structure KeptByNesting (property : TagNode ν → Prop) : Prop where
  withTags {node : TagNode ν} (holds : property node) (tags : List (TagNode ν)) :
    property (node.withTags tags)
  withName {node : TagNode ν} (holds : property node) (name : Text) :
    property (node.withName name)
  implied {node : TagNode ν} (holds : property node) (part : Text) (tags : List (TagNode ν)) :
    property (.implied node.tag part node.line tags)

/-- Nesting tags one after the other keeps at every depth what holds of each of them. -/
lemma KeptByNesting.foldl_nest {property : TagNode ν → Prop} (kept : KeptByNesting property)
    {nodes : List (TagNode ν)} (each : ∀ node ∈ nodes, property node)
    (bare : ∀ node ∈ nodes, node.tags = []) {tags : List (TagNode ν)}
    (within : ∀ old ∈ tagsWithin tags, property old) :
    ∀ found ∈ tagsWithin (nodes.foldl nest tags), property found := by
  intro found isFound
  rcases mem_tagsWithin_foldl_nest bare isFound with
    ⟨old, isOld, nested, rfl⟩ | ⟨node, isNode, last, nested, -, rfl⟩ |
    ⟨node, isNode, part, nested, rfl⟩
  · exact kept.withTags (within old isOld) nested
  · exact kept.withTags (kept.withName (each node isNode) last) nested
  · exact kept.implied (each node isNode) part nested

end DocComment
