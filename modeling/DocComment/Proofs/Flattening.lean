import DocComment.Block
import DocComment.Proofs.Nesting
import Mathlib.Data.List.Nodup

/-!
# Taking a forest apart again

A forest of nested tags is taken apart by giving every tag the names on its path from the top,
joined with dots, and nothing to nest (`unnestedAll`).  Implied tags have no text and drop out, and
the lines tell in which order the others were written (`flattened`).  Nesting tags one after the
other loses none of them and puts each on a path that spells its name (`spelledOut_nest_perm`),
so tags with increasing lines come back as they were (`flattened_foldl_nest`).
-/

namespace DocComment

open Text

variable {ν : Type}

/-! ## Names with dots -/

/-- The names of a path as one name, with dots between them. -/
def dotted (path : List Text) : Text := List.intercalate ['.'] path

@[simp] lemma dotted_singleton (name : Text) : dotted [name] = name := by
  simp [dotted, List.intercalate]

lemma dotted_cons_cons (first second : Text) (rest : List Text) :
    dotted (first :: second :: rest) = first ++ '.' :: dotted (second :: rest) := by
  simp [dotted, List.intercalate]

lemma dotted_pieces (name : Text) : dotted (pieces '.' name) = name := by
  induction name with
  | nil => simp
  | cons c rest ih =>
      by_cases isDot : c = '.'
      · subst isDot
        obtain ⟨first, others, found⟩ := List.exists_cons_of_ne_nil (pieces_ne_nil '.' rest)
        rw [pieces_cons_sep, found, dotted_cons_cons, ← found, ih, List.nil_append]
      · obtain ⟨first, others, found, extended⟩ := pieces_cons_of_ne isDot rest
        rw [found] at ih
        rw [extended]
        cases others with
        | nil => simpa using ih
        | cons second others =>
            rw [dotted_cons_cons] at ih ⊢
            rw [List.cons_append, ih]

/-! ## Taking apart -/

mutual

/-- A tag and the tags nested under it, in the order of the tree: each with its full name and with
nothing nested.  The path holds the names above. -/
def TagNode.unnested (path : List Text) : TagNode ν → List (TagNode ν)
  | .written fields line source tags =>
    let full := path ++ [TagNode.nameText (.written fields line source tags)]
    (TagNode.written fields line source []).withName (dotted full) :: unnestedAll full tags
  | .implied tag name line tags =>
    .implied tag (dotted (path ++ [name])) line [] :: unnestedAll (path ++ [name]) tags

/-- The tags of a forest, taken apart. -/
def unnestedAll (path : List Text) : List (TagNode ν) → List (TagNode ν)
  | [] => []
  | node :: rest => node.unnested path ++ unnestedAll path rest

end

lemma TagNode.unnested_eq (path : List Text) (node : TagNode ν) :
    node.unnested path = (node.withTags []).withName (dotted (path ++ [node.nameText])) ::
      unnestedAll (path ++ [node.nameText]) node.tags := by
  cases node with
  | written fields line source tags =>
      simp only [unnested, withTags, TagNode.tags]
  | implied tag name line tags =>
      simp only [unnested, withTags, withName, nameText, TagNode.name, TagNode.tags]

@[simp] lemma unnestedAll_nil (path : List Text) :
    unnestedAll path ([] : List (TagNode ν)) = [] := by
  simp [unnestedAll]

@[simp] lemma unnestedAll_cons (path : List Text) (node : TagNode ν) (rest : List (TagNode ν)) :
    unnestedAll path (node :: rest) = node.unnested path ++ unnestedAll path rest := by
  simp [unnestedAll]

@[simp] lemma unnestedAll_append (path : List Text) (tags more : List (TagNode ν)) :
    unnestedAll path (tags ++ more) = unnestedAll path tags ++ unnestedAll path more := by
  induction tags with
  | nil => simp
  | cons node rest ih => simp [ih]

/-- Whether a tag has a text; implied tags have none. -/
def TagNode.hasSource (node : TagNode ν) : Bool := !node.source.isEmpty

/-- The tags of a forest that have a text, taken apart. -/
def spelledOut (path : List Text) (tags : List (TagNode ν)) : List (TagNode ν) :=
  (unnestedAll path tags).filter (·.hasSource)

/-- The tags of a forest that have a text, taken apart and in the order of their lines. -/
def flattened (tags : List (TagNode Nat)) : List (TagNode Nat) :=
  (spelledOut [] tags).mergeSort fun a b => decide (a.line ≤ b.line)

/-- The block with its tags taken apart. -/
def Block.flattened (block : Block Nat) : Block Nat :=
  { block with tags := DocComment.flattened block.tags }

@[simp] lemma spelledOut_nil (path : List Text) :
    spelledOut path ([] : List (TagNode ν)) = [] := by
  simp [spelledOut]

lemma spelledOut_cons (path : List Text) (node : TagNode ν) (rest : List (TagNode ν)) :
    spelledOut path (node :: rest) =
      [(node.withTags []).withName (dotted (path ++ [node.nameText]))].filter (·.hasSource) ++
        spelledOut (path ++ [node.nameText]) node.tags ++ spelledOut path rest := by
  rw [spelledOut, unnestedAll_cons, TagNode.unnested_eq, List.filter_append,
    ← List.singleton_append, List.filter_append]
  rfl

@[simp] lemma spelledOut_append (path : List Text) (tags more : List (TagNode ν)) :
    spelledOut path (tags ++ more) = spelledOut path tags ++ spelledOut path more := by
  simp [spelledOut]

/-! ## Nesting loses nothing -/

/-- What joins the middle of three parts of a list may as well stand behind all of them. -/
lemma perm_append_of_middle {α : Type} {middle grown : List α} {item : α}
    (joined : grown.Perm (middle ++ [item])) (before after : List α) :
    (before ++ (grown ++ after)).Perm (before ++ (middle ++ after) ++ [item]) := by
  have moved : (middle ++ [item] ++ after).Perm (middle ++ after ++ [item]) := by
    simpa only [List.append_assoc] using List.perm_append_comm.append_left middle
  rw [List.append_assoc before]
  exact ((joined.append_right after).trans moved).append_left before

section Nest

variable {node : TagNode ν}

/-- Attaching a tag below a path adds to what is spelled out the tag with the names of the path in
front of its own, and takes nothing away. -/
lemma spelledOut_attach_perm (nestable : Nestable node) (above path : List Text)
    (tags : List (TagNode ν)) :
    (spelledOut above (attach node path tags)).Perm
      (spelledOut above tags ++ [node.withName (dotted (above ++ path ++ [node.nameText]))]) := by
  induction path generalizing above tags with
  | nil =>
      have itself : node.withTags [] = node := by rw [← nestable.bare, TagNode.withTags_tags]
      have kept : (node.withName (dotted (above ++ [node.nameText]))).hasSource = true := by
        simpa [TagNode.hasSource] using nestable.hasSource
      simp [spelledOut_cons, nestable.bare, itself, kept]
  | cons part path ih =>
      have spelling : above ++ part :: path ++ [node.nameText] =
          above ++ [part] ++ path ++ [node.nameText] := by simp
      rw [spelling]
      rcases attach_cons_cases node part path tags with
        ⟨before, parent, after, rfl, called, -, attached⟩ | ⟨-, attached⟩
      · -- The tag joins what is nested under the parent, between what stands around it.
        have named := TagNode.nameText_of_name (TagNode.name_of_isCalled called)
        rw [attached]
        simp only [spelledOut_append, spelledOut_cons, TagNode.withTags_withTags,
          TagNode.nameText_withTags, TagNode.tags_withTags, named]
        rw [← List.append_assoc, ← List.append_assoc,
          List.append_assoc _ _ (spelledOut above after),
          List.append_assoc _ _ (spelledOut above after)]
        have joined := ih (above ++ [part]) parent.tags
        simpa only [List.append_assoc] using perm_append_of_middle joined
          (spelledOut above before ++
            [(parent.withTags []).withName (dotted (above ++ [part]))].filter (·.hasSource))
          (spelledOut above after)
      · -- The new parent has no text, so only the tag joins.
        have joined := ih (above ++ [part]) []
        rw [attached, spelledOut_append]
        refine List.Perm.append_left _ ?_
        simpa [spelledOut_cons, TagNode.hasSource, TagNode.source, TagNode.withTags,
          TagNode.withName, TagNode.nameText, TagNode.name, TagNode.tags] using joined

/-- Nesting a tag adds it to what is spelled out, and takes nothing away. -/
lemma spelledOut_nest_perm (nestable : Nestable node) (tags : List (TagNode ν)) :
    (spelledOut [] (nest tags node)).Perm (spelledOut [] tags ++ [node]) := by
  obtain ⟨name, named⟩ := nestable.textName
  obtain ⟨last, lastPart⟩ := exists_getLast?_pieces name
  have spelling : (pieces '.' name).dropLast ++ [last] = pieces '.' name :=
    List.dropLast_append_getLast? last lastPart
  have joined := spelledOut_attach_perm (nestable.withName last) [] (pieces '.' name).dropLast tags
  rw [TagNode.withName_withName, TagNode.nameText_withName, List.nil_append, spelling,
    dotted_pieces, TagNode.withName_of_name named] at joined
  simpa only [nest, TagNode.nameText_of_name named, lastPart, Option.getD_some] using joined

end Nest

lemma spelledOut_foldl_nest_perm (nodes : List (TagNode ν))
    (nestable : ∀ node ∈ nodes, Nestable node) (tags : List (TagNode ν)) :
    (spelledOut [] (nodes.foldl nest tags)).Perm (spelledOut [] tags ++ nodes) := by
  induction nodes generalizing tags with
  | nil => simp
  | cons node rest ih =>
      obtain ⟨nestableNode, nestableRest⟩ := List.forall_mem_cons.mp nestable
      have first := spelledOut_nest_perm nestableNode tags
      have others := ih nestableRest (nest tags node)
      rw [List.foldl_cons]
      simpa only [List.append_assoc, List.singleton_append] using
        others.trans (first.append_right rest)

/-- Sorting by lines brings tags with increasing lines back into their order. -/
lemma mergeSort_line_of_perm {mixed nodes : List (TagNode Nat)} (mixing : mixed.Perm nodes)
    (ascending : nodes.Pairwise (·.line < ·.line)) :
    mixed.mergeSort (fun a b => decide (a.line ≤ b.line)) = nodes := by
  have trans : ∀ a b c : TagNode Nat, decide (a.line ≤ b.line) = true →
      decide (b.line ≤ c.line) = true → decide (a.line ≤ c.line) = true :=
    fun a b c => by simpa using Nat.le_trans
  have total : ∀ a b : TagNode Nat,
      (decide (a.line ≤ b.line) || decide (b.line ≤ a.line)) = true :=
    fun a b => by simpa using Nat.le_total a.line b.line
  have sorted := List.pairwise_mergeSort trans total mixed
  have increasing : nodes.Pairwise fun a b => decide (a.line ≤ b.line) = true :=
    ascending.imp fun less => by simpa using Nat.le_of_lt less
  have distinct : (nodes.map (·.line)).Nodup := (List.pairwise_map.mpr ascending).nodup
  refine List.Perm.eq_of_pairwise ?_ sorted increasing ((List.mergeSort_perm mixed _).trans mixing)
  intro a b inMixed inNodes ab ba
  have inNodes' : a ∈ nodes := mixing.mem_iff.mp (List.mem_mergeSort.mp inMixed)
  simp only [decide_eq_true_eq] at ab ba
  exact List.inj_on_of_nodup_map distinct inNodes' inNodes (Nat.le_antisymm ab ba)

/-- Written tags with increasing lines come back from being nested. -/
lemma flattened_foldl_nest {nodes : List (TagNode Nat)}
    (nestable : ∀ node ∈ nodes, Nestable node) (ascending : nodes.Pairwise (·.line < ·.line)) :
    flattened (nodes.foldl nest []) = nodes :=
  mergeSort_line_of_perm (by simpa using spelledOut_foldl_nest_perm nodes nestable []) ascending

end DocComment
