import DocComment.Proofs.Nesting
import DocComment.Proofs.Pieces

/-!
# The shape of nested tags

Nesting keeps a shape that is stated of one sibling list at a time: of each tag in it (`ShapedTag`)
and of each two (`ShapedPair`).  Names have no dots, nested tags have the keyword of their parent,
lines increase, an implied tag stands in front of the tag that it was implied for, and of siblings
with one keyword and name only the last takes tags in.

The shape is kept by attaching one tag below any path, provided the tag stands behind all that is
there (`everywhere_attach`), so it holds of every forest that grows from nothing
(`everywhere_foldl_nest`).
-/

namespace DocComment

open Text

/-- The value of a field of a tag, as it is given out. -/
def TagNode.field? (node : TagNode Nat) (name : String) : Option Value :=
  match node.toValue Value.ofNat with
  | .record fields => Record.get? fields name
  | _ => none

/-- The shape of a tag and its relation to the tags nested under it. -/
structure ShapedTag (node : TagNode Nat) : Prop where
  plainName : ∃ name, node.name = .text name ∧ '.' ∉ name
  textKeyword : ∃ keyword, node.tag = .text keyword
  sameKeyword : ∀ child ∈ node.tags, child.tag = node.tag
  notBefore : ∀ child ∈ node.tags, node.line ≤ child.line
  implied_iff : node.source = [] ↔ node.isImplied = true
  impliedFields : node.isImplied = true →
    node.field? "type" = some (.text []) ∧ node.field? "description" = some (.text []) ∧
      node.field? "optional" = some (.bool false) ∧ node.field? "errors" = some (.list [])
  impliedFirst : node.isImplied = true →
    ∃ first rest, node.tags = first :: rest ∧ node.line = first.line

/-- The relation of a tag to a sibling behind it. -/
structure ShapedPair (earlier later : TagNode Nat) : Prop where
  ascending : earlier.line < later.line
  written : earlier.tag = later.tag → earlier.name = later.name → later.isImplied = false
  nearest : earlier.tag = later.tag → earlier.name = later.name →
    ∀ nested ∈ tagsWithin earlier.tags, nested.line < later.line

/-- The shape of a sibling list. -/
structure ShapedSiblings (tags : List (TagNode Nat)) : Prop where
  each : ∀ node ∈ tags, ShapedTag node
  pairs : tags.Pairwise ShapedPair

/-! ## What attaching does to the tags at the top -/

/-- What attaching below a tag never changes of it. -/
def TagNode.label (node : TagNode Nat) : Value × Nat := (node.tag, node.line)

section Top

variable (node : TagNode Nat)

lemma map_label_attach (path : List Text) (tags : List (TagNode Nat)) :
    (tags ≠ [] ∧ (attach node path tags).map TagNode.label = tags.map TagNode.label) ∨
      (attach node path tags).map TagNode.label = tags.map TagNode.label ++ [node.label] := by
  cases path with
  | nil => exact .inr (by simp)
  | cons part path =>
      rcases attach_cons_cases node part path tags with
        ⟨before, parent, after, rfl, -, -, attached⟩ | ⟨-, attached⟩
      · exact .inl (by simp [attached, TagNode.label])
      · exact .inr (by simp [attached, TagNode.label, TagNode.tag, TagNode.line])

variable {node}

/-- A tag at the top is one that was there, or has the keyword and the line of the attached one. -/
lemma label_of_mem_attach {path : List Text} {tags : List (TagNode Nat)} {top : TagNode Nat}
    (found : top ∈ attach node path tags) :
    (∃ old ∈ tags, top.label = old.label) ∨ top.label = node.label := by
  have label : top.label ∈ (attach node path tags).map TagNode.label :=
    List.mem_map.mpr ⟨top, found, rfl⟩
  have isOld : top.label ∈ tags.map TagNode.label → ∃ old ∈ tags, top.label = old.label := by
    intro inOld
    obtain ⟨old, isOld, same⟩ := List.mem_map.mp inOld
    exact ⟨old, isOld, same.symm⟩
  rcases map_label_attach node path tags with ⟨-, kept⟩ | grown
  · rw [kept] at label
    exact .inl (isOld label)
  · rw [grown, List.mem_append, List.mem_singleton] at label
    exact label.imp isOld id

/-- The first tag at the top stays the first, or is the attached one or a parent of it. -/
lemma exists_first_attach (node : TagNode Nat) (path : List Text) (tags : List (TagNode Nat)) :
    ∃ first rest, attach node path tags = first :: rest ∧
      first.label = (tags.map TagNode.label).head?.getD node.label := by
  have heads : ((attach node path tags).map TagNode.label).head? =
      some ((tags.map TagNode.label).head?.getD node.label) := by
    rcases map_label_attach node path tags with ⟨nonempty, kept⟩ | grown
    · obtain ⟨old, others, rfl⟩ := List.exists_cons_of_ne_nil nonempty
      rw [kept]
      rfl
    · rw [grown]
      cases tags <;> rfl
  cases attached : attach node path tags with
  | nil => simp [attached] at heads
  | cons first rest =>
      rw [attached, List.map_cons, List.head?_cons, Option.some.injEq] at heads
      exact ⟨first, rest, rfl, heads⟩

lemma line_of_mem_tagsWithin_attach (bare : node.tags = []) {path : List Text}
    {tags : List (TagNode Nat)} {found : TagNode Nat}
    (within : found ∈ tagsWithin (attach node path tags)) :
    (∃ old ∈ tagsWithin tags, found.line = old.line) ∨ found.line = node.line := by
  rcases mem_tagsWithin_attach bare within with
    ⟨old, isOld, nested, rfl⟩ | rfl | ⟨part, nested, rfl⟩
  · exact .inl ⟨old, isOld, by simp⟩
  · exact .inr rfl
  · exact .inr rfl

end Top

/-! ## Attaching keeps the shape -/

/-- A written tag has the right shape once its name has no dots. -/
lemma Nestable.shapedTag {node : TagNode Nat} (nestable : Nestable node)
    (plain : '.' ∉ node.nameText) : ShapedTag node where
  plainName := by
    obtain ⟨name, named⟩ := nestable.textName
    rw [TagNode.nameText_of_name named] at plain
    exact ⟨name, named, plain⟩
  textKeyword := nestable.textKeyword
  sameKeyword := by simp [nestable.bare]
  notBefore := by simp [nestable.bare]
  implied_iff := by simp [nestable.hasSource, nestable.written]
  impliedFields implied := by simp [nestable.written] at implied
  impliedFirst implied := by simp [nestable.written] at implied

/-- A parent keeps its shape when a later tag with its keyword is attached below it. -/
lemma ShapedTag.attach_below {node parent : TagNode Nat} (shaped : ShapedTag parent)
    (sameTag : parent.tag = node.tag) (earlier : parent.line < node.line) (path : List Text) :
    ShapedTag (parent.withTags (attach node path parent.tags)) where
  plainName := by simpa using shaped.plainName
  textKeyword := by simpa using shaped.textKeyword
  sameKeyword child isChild := by
    rw [TagNode.tags_withTags] at isChild
    rw [TagNode.tag_withTags]
    rcases label_of_mem_attach isChild with ⟨old, isOld, label⟩ | label
    · exact (congrArg Prod.fst label).trans (shaped.sameKeyword old isOld)
    · exact (congrArg Prod.fst label).trans sameTag.symm
  notBefore child isChild := by
    rw [TagNode.tags_withTags] at isChild
    rw [TagNode.line_withTags]
    rcases label_of_mem_attach isChild with ⟨old, isOld, label⟩ | label
    · exact Nat.le_trans (shaped.notBefore old isOld) (Nat.le_of_eq (congrArg Prod.snd label).symm)
    · exact Nat.le_trans (Nat.le_of_lt earlier) (Nat.le_of_eq (congrArg Prod.snd label).symm)
  implied_iff := by simpa using shaped.implied_iff
  impliedFields implied := by
    rw [TagNode.isImplied_withTags] at implied
    have fields := shaped.impliedFields implied
    cases parent with
    | written fields line source tags => simp [TagNode.isImplied] at implied
    | implied tag name line tags => exact fields
  impliedFirst implied := by
    rw [TagNode.isImplied_withTags] at implied
    obtain ⟨first, rest, nested, line⟩ := shaped.impliedFirst implied
    obtain ⟨newFirst, newRest, attached, label⟩ :=
      exists_first_attach node path parent.tags
    refine ⟨newFirst, newRest, by rw [TagNode.tags_withTags, attached], ?_⟩
    rw [nested] at label
    rw [TagNode.line_withTags, line]
    exact (congrArg Prod.snd label).symm

lemma shapedTag_implied {node : TagNode Nat} (nestable : Nestable node) {part : Text}
    (plain : '.' ∉ part) (path : List Text) :
    ShapedTag (.implied node.tag part node.line (attach node path [])) where
  plainName := ⟨part, rfl, plain⟩
  textKeyword := nestable.textKeyword
  sameKeyword child isChild := by
    rcases label_of_mem_attach isChild with ⟨old, isOld, -⟩ | label
    · simp at isOld
    · exact congrArg Prod.fst label
  notBefore child isChild := by
    rcases label_of_mem_attach isChild with ⟨old, isOld, -⟩ | label
    · simp at isOld
    · exact Nat.le_of_eq (congrArg Prod.snd label).symm
  implied_iff := by simp [TagNode.source, TagNode.isImplied]
  impliedFields _ := ⟨rfl, rfl, rfl, rfl⟩
  impliedFirst _ := by
    obtain ⟨first, rest, attached, label⟩ := exists_first_attach node path []
    exact ⟨first, rest, attached, (congrArg Prod.snd label).symm⟩

/-- Siblings keep their shape when a tag is added behind them, provided an implied one is new. -/
lemma ShapedSiblings.append {tags : List (TagNode Nat)} {last : TagNode Nat}
    (shaped : ShapedSiblings tags) (shapedLast : ShapedTag last)
    (behind : ∀ old ∈ tagsWithin tags, old.line < last.line)
    (fresh : last.isImplied = true → ∀ old ∈ tags, old.tag = last.tag → old.name ≠ last.name) :
    ShapedSiblings (tags ++ [last]) where
  each node found := by
    rcases List.mem_append.mp found with old | new
    · exact shaped.each node old
    · rw [List.mem_singleton.mp new]
      exact shapedLast
  pairs := by
    refine List.pairwise_append.mpr ⟨shaped.pairs, List.pairwise_singleton _ _, ?_⟩
    intro old isOld new isNew
    rw [List.mem_singleton.mp isNew]
    refine ⟨behind old (subset_tagsWithin tags isOld), fun sameTag sameName => ?_, fun _ _ => ?_⟩
    · rw [Bool.eq_false_iff]
      intro implied
      exact fresh implied old isOld sameTag sameName
    · exact fun nested below => behind nested (tagsWithin_tags_subset isOld below)

/-- Siblings keep their shape when tags are nested under the last one of its keyword and name. -/
lemma ShapedSiblings.replace {before after nested : List (TagNode Nat)} {parent : TagNode Nat}
    (shaped : ShapedSiblings (before ++ parent :: after))
    (shapedParent : ShapedTag (parent.withTags nested))
    (last : ∀ later ∈ after, parent.tag = later.tag → parent.name ≠ later.name) :
    ShapedSiblings (before ++ parent.withTags nested :: after) where
  each node found := by
    rcases List.mem_append.mp found with front | back
    · exact shaped.each node (List.mem_append_left _ front)
    · rcases List.mem_cons.mp back with rfl | behind
      · exact shapedParent
      · exact shaped.each node (List.mem_append_right _ (List.mem_cons_of_mem _ behind))
  pairs := by
    obtain ⟨inFront, fromParent, across⟩ := List.pairwise_append.mp shaped.pairs
    obtain ⟨parentFirst, behind⟩ := List.pairwise_cons.mp fromParent
    refine List.pairwise_append.mpr ⟨inFront, List.pairwise_cons.mpr ⟨?_, behind⟩, ?_⟩
    · -- No later sibling shares keyword and name, so only the line counts.
      intro later isLater
      refine ⟨by simpa using (parentFirst later isLater).ascending, ?_, ?_⟩ <;>
        · rw [TagNode.tag_withTags, TagNode.name_withTags]
          exact fun sameTag sameName => (last later isLater sameTag sameName).elim
    · intro earlier isEarlier later isLater
      rcases List.mem_cons.mp isLater with rfl | isLater
      · obtain ⟨ascending, written, nearest⟩ :=
          across earlier isEarlier parent List.mem_cons_self
        exact ⟨by simpa using ascending, by simpa using written, by simpa using nearest⟩
      · exact across earlier isEarlier later (List.mem_cons_of_mem _ isLater)

lemma everywhere_nil : Everywhere ShapedSiblings [] :=
  .intro ⟨by simp, .nil⟩ (by simp)

/-- **Attaching keeps the shape at every depth**, if the attached tag is behind all others. -/
lemma everywhere_attach {node : TagNode Nat} (nestable : Nestable node)
    (plainName : '.' ∉ node.nameText) {path : List Text} (plain : ∀ part ∈ path, '.' ∉ part)
    {tags : List (TagNode Nat)}
    (shaped : Everywhere ShapedSiblings tags)
    (behind : ∀ old ∈ tagsWithin tags, old.line < node.line) :
    Everywhere ShapedSiblings (attach node path tags) := by
  induction path generalizing tags with
  | nil =>
      obtain ⟨here, below⟩ := shaped
      refine .intro (here.append (nestable.shapedTag plainName) behind ?_) ?_
      · simp [nestable.written]
      · intro other found
        rcases List.mem_append.mp found with old | new
        · exact below other old
        · rw [List.mem_singleton.mp new, nestable.bare]
          exact everywhere_nil
  | cons part path ih =>
      obtain ⟨plainPart, plainPath⟩ := List.forall_mem_cons.mp plain
      obtain ⟨keyword, isKeyword⟩ := nestable.textKeyword
      obtain ⟨here, below⟩ := shaped
      rcases attach_cons_cases node part path tags with
        ⟨before, parent, after, rfl, called, last, attached⟩ | ⟨none, attached⟩
      · rw [isKeyword] at called last
        obtain ⟨parentTag, parentName⟩ := TagNode.isCalled_iff_of_tag.mp called
        -- The tag goes below its parent, which keeps its place among its siblings.
        have isParent : parent ∈ before ++ parent :: after := by simp
        have earlier := behind parent (subset_tagsWithin _ isParent)
        have shapedParent :=
          (here.each parent isParent).attach_below (parentTag.trans isKeyword.symm) earlier path
        rw [attached]
        refine .intro (here.replace shapedParent fun later isLater sameTag sameName => ?_) ?_
        · have calledLater : later.isCalled (.text keyword) part = true :=
            TagNode.isCalled_iff_of_tag.mpr
              ⟨sameTag.symm.trans parentTag, sameName.symm.trans parentName⟩
          simp [last later isLater] at calledLater
        · intro other found
          rcases List.mem_append.mp found with front | back
          · exact below other (List.mem_append_left _ front)
          · rcases List.mem_cons.mp back with rfl | isLater
            · rw [TagNode.tags_withTags]
              exact ih plainPath (below parent isParent)
                fun old isOld => behind old (tagsWithin_tags_subset isParent isOld)
            · exact below other (List.mem_append_right _ (List.mem_cons_of_mem _ isLater))
      · rw [attached]
        refine .intro (here.append (shapedTag_implied nestable plainPart path) behind ?_) ?_
        · intro _ old isOld sameTag sameName
          have calledOld : old.isCalled node.tag part = true := by
            rw [isKeyword]
            exact TagNode.isCalled_iff_of_tag.mpr ⟨sameTag.trans isKeyword, sameName⟩
          simp [none old isOld] at calledOld
        · intro other found
          rcases List.mem_append.mp found with old | new
          · exact below other old
          · rw [List.mem_singleton.mp new]
            exact ih plainPath everywhere_nil (by simp)

/-! ## Forests that grow from nothing -/

lemma everywhere_nest {node : TagNode Nat} (nestable : Nestable node) {tags : List (TagNode Nat)}
    (shaped : Everywhere ShapedSiblings tags)
    (behind : ∀ old ∈ tagsWithin tags, old.line < node.line) :
    Everywhere ShapedSiblings (nest tags node) := by
  obtain ⟨last, lastPart⟩ := exists_getLast?_pieces node.nameText
  have plainName : '.' ∉ (node.withName last).nameText := by
    rw [TagNode.nameText_withName]
    exact not_mem_of_mem_pieces (List.mem_of_getLast? lastPart)
  rw [nest, lastPart]
  exact everywhere_attach (nestable.withName last) plainName
    (fun part isPart => not_mem_of_mem_pieces (List.dropLast_subset _ isPart)) shaped
    (by simpa using behind)

/-- Tags with increasing lines nest to a forest of the right shape. -/
lemma everywhere_foldl_nest {nodes : List (TagNode Nat)} (nestable : ∀ node ∈ nodes, Nestable node)
    (ascending : nodes.Pairwise (·.line < ·.line)) {tags : List (TagNode Nat)}
    (shaped : Everywhere ShapedSiblings tags)
    (behind : ∀ old ∈ tagsWithin tags, ∀ node ∈ nodes, old.line < node.line) :
    Everywhere ShapedSiblings (nodes.foldl nest tags) := by
  induction nodes generalizing tags with
  | nil => exact shaped
  | cons node rest ih =>
      obtain ⟨first, later⟩ := List.pairwise_cons.mp ascending
      obtain ⟨nestableNode, nestableRest⟩ := List.forall_mem_cons.mp nestable
      refine ih nestableRest later
        (everywhere_nest nestableNode shaped fun old isOld => behind old isOld node (by simp)) ?_
      -- What is there after nesting has an old line or that of the nested tag.
      intro old isOld other isOther
      rcases line_of_mem_tagsWithin_attach (by simpa using nestableNode.bare) isOld with
        ⟨before, isBefore, same⟩ | same
      · rw [same]
        exact behind before isBefore other (List.mem_cons_of_mem _ isOther)
      · rw [same, TagNode.line_withName]
        exact first other isOther

end DocComment
