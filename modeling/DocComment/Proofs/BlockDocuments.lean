import DocComment.Proofs.CheckedBlocks

/-!
# Documents that are lists of blocks

`IsBlockList` says what a list of blocks looks like as a document, without the shapes by which it
is checked: which fields a block and a tag have and what stands in them, that a block has no others
while a tag may, and so on to any depth of nested tags.

No violation is found in a document exactly if it is such a list (`blocks_sound_iff`).  The
proof goes shape by shape, by the one equation for arrays and the one for objects (`array_sound_iff`,
`object_sound_iff`), and only tags need an induction, on the levels of the document.

Acceptance asks for more.  Nothing bounds how deep the tags of a list nest, and a checker that does
not get through a document comes to no verdict on it (`accepted_iff_isBlockList`).
-/

namespace DocComment.Schema

open DocComment

/-! ## What a list of blocks looks like -/

/-- A value is a text. -/
def IsText (value : Json) : Prop := ∃ codes, value = .string codes

/-- A value is a flag. -/
def IsFlag (value : Json) : Prop := ∃ flag, value = .bool flag

/-- A value is a number that counts lines: a whole number that is not negative, be it written with
a fraction part. -/
def IsLineNumber : Json → Prop
  | .int n => 0 ≤ n
  | .real x => ∃ n : Nat, x.equalsInt n = true
  | _ => False

/-- A tag: nine fields at least, and tags again in one of them. -/
inductive IsTag : Json → Prop
  | intro {fields : List (List CodePoint × Json)} {tags : List Json}
      (texts : ∀ name ∈ ["tag", "type", "name", "description", "source"],
        HasField fields name IsText)
      (optional : HasField fields "optional" IsFlag)
      (line : HasField fields "line" IsLineNumber)
      (nested : Record.get? fields (CodePoint.listOf "tags") = some (.array tags))
      (each : ∀ tag ∈ tags, IsTag tag)
      (errors : HasField fields "errors" (IsListOf IsText)) : IsTag (.object fields)

/-- A block: four fields and no others. -/
inductive IsBlock : Json → Prop
  | intro {fields : List (List CodePoint × Json)}
      (line : HasField fields "line" IsLineNumber)
      (texts : ∀ name ∈ ["description", "source"], HasField fields name IsText)
      (tags : HasField fields "tags" (IsListOf IsTag))
      (noOthers : ∀ field ∈ fields,
        field.1 ∈ ["line", "description", "source", "tags"].map CodePoint.listOf) :
      IsBlock (.object fields)

/-- A list of blocks. -/
def IsBlockList : Json → Prop := IsListOf IsBlock

/-! ## What the shapes have to say of a value -/

lemma text_sound_iff {value : Json} : IsSound .text value ↔ IsText value := by
  rw [scalar_sound_iff rfl rfl rfl]
  cases value <;> simp [IsText, Shape.kind, Shape.isNonnegative, Kind.admits]

lemma flag_sound_iff {value : Json} : IsSound .flag value ↔ IsFlag value := by
  rw [scalar_sound_iff rfl rfl rfl]
  cases value <;> simp [IsFlag, Shape.kind, Shape.isNonnegative, Kind.admits]

/-- A number of the binary format has the value of a natural number exactly if it is whole and not
negative. -/
lemma exists_equalsInt_iff (x : Binary64) :
    (∃ n : Nat, x.equalsInt n = true) ↔ x.isWhole = true ∧ x.isNegative = false := by
  cases x with
  | nan => simp [Binary64.equalsInt, Binary64.isWhole]
  | infinite negative => simp [Binary64.equalsInt, Binary64.isWhole]
  | finite negative mantissa exponent =>
      simp only [Binary64.equalsInt, Binary64.isWhole, Binary64.isNegative, beq_iff_eq,
        ← Nat.dvd_iff_mod_eq_zero, Bool.and_eq_false_iff, bne_eq_false_iff_eq]
      -- One of the two powers is one: the mantissa is either multiplied or divided.
      have positive : 0 < Nat.pow 2 exponent.toNat := Nat.two_pow_pos _
      have oneIsOne : Nat.pow 2 exponent.toNat = 1 ∨ Nat.pow 2 (-exponent).toNat = 1 := by
        rcases Int.le_total exponent 0 with down | up
        · exact .inl (by simp [Int.toNat_of_nonpos down])
        · exact .inr (by simp [Int.toNat_of_nonpos (Int.neg_nonpos_of_nonneg up)])
      generalize Nat.pow 2 exponent.toNat = scale at *
      generalize Nat.pow 2 (-exponent).toNat = divisor at *
      constructor
      · rintro ⟨n, same⟩
        have sizes : mantissa * scale = n * divisor ∧ (negative = false ∨ mantissa = 0) := by
          cases negative with
          | false => exact ⟨Int.ofNat_inj.mp same, .inl rfl⟩
          | true =>
              have signed : -((mantissa * scale : Nat) : Int) = ((n * divisor : Nat) : Int) := by
                rw [Int.natCast_mul, Int.natCast_mul, ← Int.neg_mul]
                exact same
              have none : mantissa * scale = 0 := by omega
              refine ⟨by omega, .inr ((Nat.mul_eq_zero.mp none).resolve_right ?_)⟩
              exact Nat.ne_of_gt positive
        refine ⟨?_, sizes.2⟩
        rcases oneIsOne with rfl | rfl
        · exact ⟨n, by rw [Nat.mul_comm divisor, ← sizes.1, Nat.mul_one]⟩
        · exact Nat.one_dvd _
      · rintro ⟨⟨k, rfl⟩, notNegative⟩
        have unsigned : (if negative = true then -Int.ofNat (divisor * k)
            else Int.ofNat (divisor * k)) = Int.ofNat (divisor * k) := by
          rcases notNegative with rfl | none
          · rfl
          · rw [none]
            split <;> rfl
        refine ⟨k * scale, ?_⟩
        rw [unsigned]
        exact congrArg Int.ofNat (by rw [Nat.mul_assoc, Nat.mul_comm])

lemma lineNumber_sound_iff {value : Json} : IsSound .lineNumber value ↔ IsLineNumber value := by
  rw [scalar_sound_iff rfl rfl rfl]
  cases value with
  | int n => simp [IsLineNumber, Shape.kind, Shape.isNonnegative, Kind.admits, isBelowZero]
  | real x =>
      simp [IsLineNumber, exists_equalsInt_iff, Shape.kind, Shape.isNonnegative, Kind.admits,
        isBelowZero]
  | null | bool | string | array | object =>
      simp [IsLineNumber, Shape.kind, Kind.admits]

lemma messages_sound_iff {value : Json} : IsSound .messages value ↔ IsListOf IsText value := by
  rw [array_sound_iff (show Shape.messages.item? = some .text from rfl), IsListOf, IsListOf]
  simp only [text_sound_iff]

/-! ## Tags, blocks and lists of blocks -/

lemma tagFields_sound_iff {fields : List (List CodePoint × Json)} :
    (∀ field ∈ Shape.tag.fields, HasField fields field.1 (IsSound field.2)) ↔
      (∀ name ∈ ["tag", "type", "name", "description", "source"], HasField fields name IsText) ∧
        HasField fields "optional" IsFlag ∧ HasField fields "line" IsLineNumber ∧
          HasField fields "tags" (IsListOf (IsSound .tag)) ∧
            HasField fields "errors" (IsListOf IsText) := by
  have text : IsSound .text = IsText := funext fun _ => propext text_sound_iff
  have flag : IsSound .flag = IsFlag := funext fun _ => propext flag_sound_iff
  have line : IsSound .lineNumber = IsLineNumber := funext fun _ => propext lineNumber_sound_iff
  have messages : IsSound .messages = IsListOf IsText :=
    funext fun _ => propext messages_sound_iff
  have tags : IsSound .tags = IsListOf (IsSound .tag) :=
    funext fun _ => propext (array_sound_iff rfl)
  simp only [Shape.fields, List.forall_mem_cons, List.not_mem_nil, false_implies, implies_true,
    and_true, text, flag, line, messages, tags]
  constructor
  · rintro ⟨tag, type, name, description, optional, line, source, nested, errors⟩
    exact ⟨⟨tag, type, name, description, source⟩, optional, line, nested, errors⟩
  · rintro ⟨⟨tag, type, name, description, source⟩, optional, line, nested, errors⟩
    exact ⟨tag, type, name, description, optional, line, source, nested, errors⟩

lemma sound_of_isTag {value : Json} (isTag : IsTag value) : IsSound .tag value := by
  induction isTag with
  | intro texts optional line nested each errors ih =>
      refine (object_sound_iff rfl).mpr ⟨_, rfl, tagFields_sound_iff.mpr ?_, nofun⟩
      exact ⟨texts, optional, line, ⟨_, nested, _, rfl, ih⟩, errors⟩

lemma levels_add_two_le_of_tags {fields : List (List CodePoint × Json)} {tags : List Json}
    (nested : Record.get? fields (CodePoint.listOf "tags") = some (.array tags)) {tag : Json}
    (found : tag ∈ tags) : tag.levels + 2 ≤ (Json.object fields).levels := by
  obtain ⟨i, stands⟩ := List.mem_iff_getElem?.mp found
  have inList : tag.levels < (Json.array tags).levels :=
    levels_lt_of_value? (show (Step.index i).value? (.array tags) = some tag from stands)
  have inObject : (Json.array tags).levels < (Json.object fields).levels :=
    levels_lt_of_value? (show (Step.field "tags").value? (.object fields) = _ from nested)
  omega

lemma isTag_of_sound {value : Json} (sound : IsSound .tag value) : IsTag value := by
  induction levels : value.levels using Nat.strong_induction_on generalizing value with
  | _ levels ih =>
      obtain ⟨fields, rfl, present, -⟩ := (object_sound_iff rfl).mp sound
      obtain ⟨texts, optional, line, ⟨_, nested, tags, rfl, each⟩, errors⟩ :=
        tagFields_sound_iff.mp present
      refine .intro texts optional line nested (fun tag found => ?_) errors
      -- The shapes of tags refer to each other in a circle, but a tag below has fewer levels.
      have deeper := levels_add_two_le_of_tags nested found
      exact ih tag.levels (by omega) (each tag found) rfl

lemma tag_sound_iff {value : Json} : IsSound .tag value ↔ IsTag value :=
  ⟨isTag_of_sound, sound_of_isTag⟩

lemma block_sound_iff {value : Json} : IsSound .block value ↔ IsBlock value := by
  have text : IsSound .text = IsText := funext fun _ => propext text_sound_iff
  have line : IsSound .lineNumber = IsLineNumber := funext fun _ => propext lineNumber_sound_iff
  have tag : IsSound .tag = IsTag := funext fun _ => propext tag_sound_iff
  have tags : IsSound .tags = IsListOf IsTag :=
    funext fun _ => propext ((array_sound_iff rfl).trans (by rw [tag]))
  rw [object_sound_iff rfl]
  simp only [Shape.fields, Shape.isClosed, List.forall_mem_cons, List.not_mem_nil, false_implies,
    implies_true, and_true, true_implies, text, line, tags, List.map_cons, List.map_nil]
  constructor
  · rintro ⟨fields, rfl, ⟨number, description, source, nested⟩, noOthers⟩
    exact .intro number (by simp [description, source]) nested noOthers
  · rintro ⟨number, texts, nested, noOthers⟩
    exact ⟨_, rfl, ⟨number, texts _ (by simp), texts _ (by simp), nested⟩, noOthers⟩

lemma blocks_sound_iff {document : Json} : IsSound .blocks document ↔ IsBlockList document := by
  have block : IsSound .block = IsBlock := funext fun _ => propext block_sound_iff
  rw [IsBlockList, ← block]
  exact array_sound_iff rfl

/-! ## Acceptance -/

/-- **Exactly the lists of blocks are accepted.**  No violation is found in a document exactly if it
is a list of blocks.  A checker reports one exactly if it is none, and accepts it exactly if it is
one and the checker gets through it.  Of a list that it does not get through it gives no verdict. -/
theorem accepted_iff_isBlockList (document : Json) :
    (violations .blocks document = [] ↔ IsBlockList document) ∧
      ∀ checker : Checker,
        (checker.validate document = none ↔ IsBlockList document) ∧
          (judge document checker = .conforming ↔
            IsBlockList document ∧ checker.reaches document = true) ∧
          (IsBlockList document →
            (judge document checker = .tooDeep ↔ checker.reaches document = false)) := by
  refine ⟨blocks_sound_iff, fun checker => ⟨?_, ?_, fun _ => Checker.judge_eq_tooDeep_iff⟩⟩
  · exact Checker.validate_eq_none_iff.trans blocks_sound_iff
  · rw [Checker.judge_eq_conforming_iff, ← blocks_sound_iff, IsSound, and_comm]

/-! ## Lists of blocks by example -/

/-- An object with fields of these names. -/
def objectOf (fields : List (String × Json)) : Json :=
  .object (fields.map fun field => (CodePoint.listOf field.1, field.2))

lemma hasField_map {fields : List (String × Json)} {name : String} {value : Json}
    {IsValue : Json → Prop} (stands : Record.get? fields name = some value)
    (isValue : IsValue value) :
    HasField (fields.map fun field => (CodePoint.listOf field.1, field.2)) name IsValue :=
  ⟨value, (get?_map_listOf fields name).trans stands, isValue⟩

/-- A tag without texts and errors, with other fields behind those that it has to have. -/
def bareTag (line : Json) (tags : List Json) (others : List (String × Json)) : Json :=
  objectOf ([("tag", .string []), ("type", .string []), ("name", .string []),
    ("description", .string []), ("optional", .bool false), ("line", line), ("source", .string []),
    ("tags", .array tags), ("errors", .array [])] ++ others)

/-- A block without texts. -/
def bareBlock (line : Json) (tags : List Json) : Json :=
  objectOf [("line", line), ("description", .string []), ("source", .string []),
    ("tags", .array tags)]

lemma isTag_bareTag {line : Json} {tags : List Json} (isLine : IsLineNumber line)
    (each : ∀ tag ∈ tags, IsTag tag) (others : List (String × Json)) :
    IsTag (bareTag line tags others) := by
  have text : IsText (.string []) := ⟨[], rfl⟩
  refine .intro (fun name isName => ?_) (hasField_map rfl ⟨false, rfl⟩) (hasField_map rfl isLine)
    ((get?_map_listOf _ _).trans rfl) each (hasField_map rfl ⟨[], rfl, by simp⟩)
  simp only [List.mem_cons, List.not_mem_nil, or_false] at isName
  rcases isName with rfl | rfl | rfl | rfl | rfl <;> exact hasField_map rfl text

lemma isBlock_bareBlock {line : Json} {tags : List Json} (isLine : IsLineNumber line)
    (each : ∀ tag ∈ tags, IsTag tag) : IsBlock (bareBlock line tags) := by
  have text : IsText (.string []) := ⟨[], rfl⟩
  refine .intro (hasField_map rfl isLine) (fun name isName => ?_)
    (hasField_map rfl ⟨tags, rfl, each⟩) (by simp)
  simp only [List.mem_cons, List.not_mem_nil, or_false] at isName
  rcases isName with rfl | rfl <;> exact hasField_map rfl text

/-- Tags that are nested below a tag on so many levels. -/
def nestedTag : (levels : Nat) → Json
  | 0 => bareTag (.int 0) [] []
  | levels + 1 => bareTag (.int 0) [nestedTag levels] []

lemma isLineNumber_zero : IsLineNumber (.int 0) := Int.le_refl 0

lemma isTag_nestedTag (levels : Nat) : IsTag (nestedTag levels) := by
  induction levels with
  | zero => exact isTag_bareTag isLineNumber_zero (by simp) []
  | succ levels ih => exact isTag_bareTag isLineNumber_zero (by simpa) []

/-- A tag with a tag below it has two levels more than that one. -/
lemma lt_levels_nestedTag (levels : Nat) : 2 * levels < (nestedTag levels).levels := by
  induction levels with
  | zero => decide
  | succ levels ih =>
      have deeper : (nestedTag levels).levels + 2 ≤ (nestedTag (levels + 1)).levels :=
        levels_add_two_le_of_tags ((get?_map_listOf _ _).trans rfl) (List.mem_singleton_self _)
      omega

theorem list_with_other_fields_is_accepted :
    let tag := bareTag (.real (.finite true 0 0)) [nestedTag 1] [("default", .null)]
    let document := Json.array [bareBlock (.real (.finite false 3 0)) [tag]]
    IsBlockList document ∧ judge document .standard = .conforming := by
  intro tag document
  have zero : IsLineNumber (.real (.finite true 0 0)) := ⟨0, by decide⟩
  have three : IsLineNumber (.real (.finite false 3 0)) := ⟨3, by decide⟩
  have isTag : IsTag tag :=
    isTag_bareTag zero (List.forall_mem_singleton.mpr (isTag_nestedTag 1)) _
  have isBlockList : IsBlockList document := by
    refine ⟨_, rfl, List.forall_mem_singleton.mpr (isBlock_bareBlock three ?_)⟩
    exact List.forall_mem_singleton.mpr isTag
  have reached : Checker.standard.reaches document = true := by decide +kernel
  exact ⟨isBlockList,
    ((accepted_iff_isBlockList document).2 .standard).2.1.mpr ⟨isBlockList, reached⟩⟩

/-- A list of one block whose tags are nested on four hundred levels. -/
def deeplyNested : Json := .array [bareBlock (.int 0) [nestedTag 399]]

lemma isBlockList_deeplyNested : IsBlockList deeplyNested := by
  refine ⟨_, rfl, List.forall_mem_singleton.mpr ?_⟩
  exact isBlock_bareBlock isLineNumber_zero (by simpa using isTag_nestedTag 399)

theorem deeply_nested_list_is_not_accepted :
    ¬ (judge deeplyNested .standard = .conforming ↔ IsBlockList deeplyNested) := by
  have many := lt_levels_nestedTag 399
  have inBlock : (nestedTag 399).levels + 2 ≤ (bareBlock (.int 0) [nestedTag 399]).levels :=
    levels_add_two_le_of_tags ((get?_map_listOf _ _).trans rfl) (List.mem_singleton_self _)
  have inList : (bareBlock (.int 0) [nestedTag 399]).levels < deeplyNested.levels :=
    levels_lt_of_value? (show (Step.index 0).value? deeplyNested = some _ from rfl)
  have beyond : Checker.standard.reaches deeplyNested = false := by
    rw [Checker.standard, Checker.reaches_ofLevels, decide_eq_false_iff_not]
    omega
  have deep : judge deeplyNested .standard = .tooDeep := Checker.judge_eq_tooDeep_iff.mpr beyond
  rw [deep]
  exact fun same => nomatch same.mpr isBlockList_deeplyNested

end DocComment.Schema
