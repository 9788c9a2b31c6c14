import EmbeddedFilters.Proofs.Json.Trees

/-!
# Printed values are kept

A value *can be kept* if it is what a reader may have kept of some text: its whole numbers fit into
64 bits, signed or not, its other numbers are finite, and the fields of its objects are sorted by
key and have each key once (`Value.CanBeKept`). The reader keeps such a value as it was printed,
unless too many of its containers stand inside one another (`Value.keep_tree`), and it keeps no
other values (`Value.canBeKept_iff`). No more containers of a kept value stand inside one another
than are allowed (`Tree.depth_of_keep`).

The proofs follow the values, with a statement each for values, items and fields.
-/

namespace EmbeddedFilters.Json

mutual

/-- The number of containers of a value that stand inside one another. -/
def Value.depth : Value → Nat
  | .array items => itemsDepth items + 1
  | .object fields => fieldsDepth fields + 1
  | _ => 0

/-- The depth of the deepest item. -/
def itemsDepth : List Value → Nat
  | [] => 0
  | item :: items => max item.depth (itemsDepth items)

/-- The depth of the deepest value of a field. -/
def fieldsDepth : List (String × Value) → Nat
  | [] => 0
  | (_, value) :: fields => max value.depth (fieldsDepth fields)

end

/-- Fields are sorted by key, and no key comes twice. -/
def FieldsSorted (fields : List (String × Value)) : Prop := fields.Pairwise fun f g => f.1 < g.1

mutual

/-- The value can be kept of some text. -/
def Value.CanBeKept : Value → Prop
  | .integer i => -0x8000000000000000 ≤ i ∧ i < 0x10000000000000000
  | .number x => x.isFinite = true
  | .array items => ItemsCanBeKept items
  | .object fields => FieldsSorted fields ∧ FieldsCanBeKept fields
  | _ => True

/-- Every item can be kept. -/
def ItemsCanBeKept : List Value → Prop
  | [] => True
  | item :: items => item.CanBeKept ∧ ItemsCanBeKept items

/-- The value of every field can be kept. -/
def FieldsCanBeKept : List (String × Value) → Prop
  | [] => True
  | (_, value) :: fields => value.CanBeKept ∧ FieldsCanBeKept fields

end

/-! ### Sorted fields -/

/-- A field whose key comes after all others goes to the end. -/
lemma insertField_last {key : String} {fields : List (String × Value)}
    (h : ∀ f ∈ fields, f.1 < key) (value : Value) :
    insertField key value fields = fields ++ [(key, value)] := by
  induction fields with
  | nil => rfl
  | cons f fields ih =>
    obtain ⟨k, v⟩ := f
    have hkey : k < key := h (k, v) List.mem_cons_self
    have hafter : ¬ key < k := String.lt_asymm hkey
    have hne : ¬ key = k := by
      rintro rfl
      exact String.lt_irrefl key hkey
    rw [insertField, if_neg hafter, if_neg (by simpa using hne),
      ih fun g hg => h g (List.mem_cons_of_mem _ hg)]
    rfl

/-- Sorting leaves sorted fields as they are. -/
lemma sortFields_of_sorted {fields : List (String × Value)} (h : FieldsSorted fields) :
    sortFields fields = fields := by
  have haux : ∀ first : List (String × Value), FieldsSorted (first ++ fields) →
      fields.foldl (fun sorted f => insertField f.1 f.2 sorted) first = first ++ fields := by
    induction fields with
    | nil => exact fun first _ => (List.append_nil first).symm
    | cons f fields ih =>
      intro first hsorted
      obtain ⟨-, hrest, hbefore⟩ := List.pairwise_append.mp hsorted
      have hlast := insertField_last (fun g hg => hbefore g hg f List.mem_cons_self) f.2
      rw [List.append_cons] at hsorted ⊢
      rw [List.foldl_cons, hlast]
      exact ih (List.pairwise_cons.mp hrest).2 _ hsorted
  exact haux [] h

/-! ### Keeping values -/

mutual

/-- A value that can be kept is kept as it was printed, up to the depth that is allowed. -/
lemma Value.keep_tree : ∀ (v : Value) (depth : Nat), v.CanBeKept →
    v.tree.keep depth = if v.depth ≤ depth then some v else none
  | .null, _, _ => rfl
  | .bool _, _, _ => rfl
  | .integer _, _, h => keepNumber_integerParts h.1 h.2
  | .number x, depth, h => by
    have hx : x.isFinite = true := h
    rw [Value.tree, numberTree, if_pos hx]
    exact keepNumber_messageParts hx
  | .string _, _, _ => rfl
  | .array items, 0, _ => rfl
  | .array items, depth + 1, h => by
    rw [Value.tree, Tree.keep, keepItems_trees items depth h, Value.depth]
    simp only [Nat.add_le_add_iff_right]
    split <;> rfl
  | .object fields, 0, _ => rfl
  | .object fields, depth + 1, h => by
    rw [Value.tree, Tree.keep, keepFields_trees fields depth h.2, Value.depth]
    simp only [Nat.add_le_add_iff_right]
    split
    · rw [Option.map_some, sortFields_of_sorted h.1]
    · rfl

/-- Items that can be kept are kept as they were printed. -/
lemma keepItems_trees : ∀ (items : List Value) (depth : Nat), ItemsCanBeKept items →
    keepItems depth (itemTrees items) = if itemsDepth items ≤ depth then some items else none
  | [], _, _ => by simp [itemTrees, keepItems, itemsDepth]
  | item :: items, depth, h => by
    rw [itemTrees, keepItems, Value.keep_tree item depth h.1, keepItems_trees items depth h.2,
      itemsDepth]
    by_cases hitem : item.depth ≤ depth <;> by_cases hitems : itemsDepth items ≤ depth <;>
      simp [hitem, hitems]

/-- Fields that can be kept are kept as they were printed. -/
lemma keepFields_trees : ∀ (fields : List (String × Value)) (depth : Nat), FieldsCanBeKept fields →
    keepFields depth (fieldTrees fields) = if fieldsDepth fields ≤ depth then some fields else none
  | [], _, _ => by simp [fieldTrees, keepFields, fieldsDepth]
  | (key, value) :: fields, depth, h => by
    rw [fieldTrees, keepFields, Value.keep_tree value depth h.1, keepFields_trees fields depth h.2,
      fieldsDepth]
    by_cases hvalue : value.depth ≤ depth <;> by_cases hfields : fieldsDepth fields ≤ depth <;>
      simp [hvalue, hfields]

end

/-! ### What is kept -/

/-- A field of an object with one more field is that one or was there before. -/
lemma mem_insertField {key : String} {value : Value} {fields : List (String × Value)}
    {f : String × Value} (h : f ∈ insertField key value fields) :
    f = (key, value) ∨ f ∈ fields := by
  induction fields with
  | nil => exact .inl (List.mem_singleton.mp h)
  | cons g fields ih =>
    obtain ⟨k, v⟩ := g
    rw [insertField] at h
    split at h
    · exact List.mem_cons.mp h
    · split at h
      · obtain rfl | hmem := List.mem_cons.mp h
        · exact .inl rfl
        · exact .inr (List.mem_cons_of_mem _ hmem)
      · obtain rfl | hmem := List.mem_cons.mp h
        · exact .inr List.mem_cons_self
        · exact (ih hmem).imp_right (List.mem_cons_of_mem _)

/-- Fields stay sorted when one is inserted. -/
lemma FieldsSorted.insertField {fields : List (String × Value)} (h : FieldsSorted fields)
    (key : String) (value : Value) : FieldsSorted (insertField key value fields) := by
  induction fields with
  | nil => exact List.pairwise_singleton _ _
  | cons f fields ih =>
    obtain ⟨k, v⟩ := f
    obtain ⟨hfirst, hrest⟩ := List.pairwise_cons.mp h
    rw [Json.insertField]
    split
    case isTrue hbefore =>
      refine List.pairwise_cons.mpr ⟨fun g hg => ?_, h⟩
      obtain rfl | hmem := List.mem_cons.mp hg
      · exact hbefore
      · exact String.lt_trans hbefore (hfirst g hmem)
    case isFalse hbefore =>
      split
      case isTrue hsame =>
        cases beq_iff_eq.mp hsame
        exact List.pairwise_cons.mpr ⟨hfirst, hrest⟩
      case isFalse hsame =>
        refine List.pairwise_cons.mpr ⟨fun g hg => ?_, ih hrest⟩
        obtain rfl | hmem := mem_insertField hg
        · exact Std.lt_of_le_of_ne (String.not_lt.mp hbefore) fun heq => hsame (by simp_all)
        · exact hfirst g hmem

/-- Fields can be kept exactly if the value of each of them can be. -/
lemma fieldsCanBeKept_iff {fields : List (String × Value)} :
    FieldsCanBeKept fields ↔ ∀ f ∈ fields, f.2.CanBeKept := by
  induction fields with
  | nil => simp [FieldsCanBeKept]
  | cons f fields ih =>
    obtain ⟨key, value⟩ := f
    simp [FieldsCanBeKept, ih]

/-- Sorted fields are sorted, and all of them come from the fields. -/
lemma sortFields_sorted (fields : List (String × Value)) :
    FieldsSorted (sortFields fields) ∧ ∀ f ∈ sortFields fields, f ∈ fields := by
  have haux : ∀ first : List (String × Value), FieldsSorted first →
      FieldsSorted (fields.foldl (fun sorted f => insertField f.1 f.2 sorted) first) ∧
        ∀ f ∈ fields.foldl (fun sorted f => insertField f.1 f.2 sorted) first,
          f ∈ first ∨ f ∈ fields := by
    induction fields with
    | nil => exact fun first hfirst => ⟨hfirst, fun f hf => .inl hf⟩
    | cons g fields ih =>
      intro first hfirst
      obtain ⟨hsorted, hmem⟩ := ih _ (hfirst.insertField g.1 g.2)
      refine ⟨hsorted, fun f hf => ?_⟩
      obtain hin | hin := hmem f hf
      · obtain rfl | hin := mem_insertField hin
        · exact .inr List.mem_cons_self
        · exact .inl hin
      · exact .inr (List.mem_cons_of_mem _ hin)
  obtain ⟨hsorted, hmem⟩ := haux [] List.Pairwise.nil
  exact ⟨hsorted, fun f hf => (hmem f hf).resolve_left List.not_mem_nil⟩

/-- What is kept of a number can be kept. -/
lemma keepNumber_canBeKept {t : DecimalText} {v : Value} (h : keepNumber t = some v) :
    v.CanBeKept := by
  unfold keepNumber at h
  extract_lets d i x at h
  obtain ⟨hint, h⟩ | ⟨-, h⟩ := ite_eq_iff.mp h
  · cases h
    simp only [Bool.and_eq_true, decide_eq_true_eq] at hint
    exact ⟨hint.1.2, hint.2⟩
  · obtain ⟨hfinite, h⟩ | ⟨-, h⟩ := ite_eq_iff.mp h
    · cases h
      exact hfinite
    · cases h

mutual

/-- Whatever is kept of a tree can be kept. -/
lemma Tree.canBeKept_of_keep : ∀ (tree : Tree) {depth : Nat} {v : Value},
    tree.keep depth = some v → v.CanBeKept
  | .null, _, _, h => by cases h; trivial
  | .bool _, _, _, h => by cases h; trivial
  | .number _, _, _, h => keepNumber_canBeKept h
  | .string none, _, _, h => by cases h
  | .string (some _), _, _, h => by cases h; trivial
  | .array items, 0, _, h => by cases h
  | .array items, depth + 1, v, h => by
    rw [Tree.keep, Option.map_eq_some_iff] at h
    obtain ⟨values, hvalues, rfl⟩ := h
    exact canBeKept_of_keepItems items hvalues
  | .object fields, 0, _, h => by cases h
  | .object fields, depth + 1, v, h => by
    rw [Tree.keep, Option.map_eq_some_iff] at h
    obtain ⟨kept, hkept, rfl⟩ := h
    obtain ⟨hsorted, hmem⟩ := sortFields_sorted kept
    have hall := fieldsCanBeKept_iff.mp (canBeKept_of_keepFields fields hkept)
    exact ⟨hsorted, fieldsCanBeKept_iff.mpr fun f hf => hall f (hmem f hf)⟩

/-- What is kept of items can be kept. -/
lemma canBeKept_of_keepItems : ∀ (items : List Tree) {depth : Nat} {values : List Value},
    keepItems depth items = some values → ItemsCanBeKept values
  | [], _, _, h => by cases h; trivial
  | item :: items, depth, values, h => by
    simp only [keepItems, Option.bind_eq_bind, Option.bind_eq_some_iff, Option.pure_def,
      Option.some.injEq] at h
    obtain ⟨value, hvalue, rest, hrest, rfl⟩ := h
    exact ⟨Tree.canBeKept_of_keep item hvalue, canBeKept_of_keepItems items hrest⟩

/-- What is kept of fields can be kept. -/
lemma canBeKept_of_keepFields : ∀ (trees : List (Option String × Tree)) {depth : Nat}
    {fields : List (String × Value)}, keepFields depth trees = some fields → FieldsCanBeKept fields
  | [], _, _, h => by cases h; trivial
  | (key?, tree) :: trees, depth, fields, h => by
    simp only [keepFields, Option.bind_eq_bind, Option.bind_eq_some_iff, Option.pure_def,
      Option.some.injEq] at h
    obtain ⟨key, -, value, hvalue, rest, hrest, rfl⟩ := h
    exact ⟨Tree.canBeKept_of_keep tree hvalue, canBeKept_of_keepFields trees hrest⟩

end

/-- A number has no containers. -/
lemma depth_of_keepNumber {t : DecimalText} {v : Value} (h : keepNumber t = some v) :
    v.depth = 0 := by
  unfold keepNumber at h
  extract_lets d i x at h
  obtain ⟨-, h⟩ | ⟨-, h⟩ := ite_eq_iff.mp h
  · cases h
    rfl
  · obtain ⟨-, h⟩ | ⟨-, h⟩ := ite_eq_iff.mp h
    · cases h
      rfl
    · cases h

/-- Fields are as deep as the deepest of them. -/
lemma fieldsDepth_le_iff {fields : List (String × Value)} {depth : Nat} :
    fieldsDepth fields ≤ depth ↔ ∀ f ∈ fields, f.2.depth ≤ depth := by
  induction fields with
  | nil => simp [fieldsDepth]
  | cons f fields ih =>
    obtain ⟨key, value⟩ := f
    simp [fieldsDepth, ih]

mutual

/-- A kept value has no more containers inside one another than are allowed. -/
lemma Tree.depth_of_keep : ∀ (tree : Tree) {depth : Nat} {v : Value},
    tree.keep depth = some v → v.depth ≤ depth
  | .null, _, _, h => by cases h; exact Nat.zero_le _
  | .bool _, _, _, h => by cases h; exact Nat.zero_le _
  | .number t, _, v, h => by
    rw [depth_of_keepNumber h]
    exact Nat.zero_le _
  | .string none, _, _, h => by cases h
  | .string (some _), _, _, h => by cases h; exact Nat.zero_le _
  | .array items, 0, _, h => by cases h
  | .array items, depth + 1, v, h => by
    rw [Tree.keep, Option.map_eq_some_iff] at h
    obtain ⟨values, hvalues, rfl⟩ := h
    exact Nat.succ_le_succ (depth_of_keepItems items hvalues)
  | .object fields, 0, _, h => by cases h
  | .object fields, depth + 1, v, h => by
    rw [Tree.keep, Option.map_eq_some_iff] at h
    obtain ⟨kept, hkept, rfl⟩ := h
    have hall := fieldsDepth_le_iff.mp (depth_of_keepFields fields hkept)
    exact Nat.succ_le_succ
      (fieldsDepth_le_iff.mpr fun f hf => hall f ((sortFields_sorted kept).2 f hf))

/-- Items are kept no deeper than is allowed. -/
lemma depth_of_keepItems : ∀ (items : List Tree) {depth : Nat} {values : List Value},
    keepItems depth items = some values → itemsDepth values ≤ depth
  | [], _, _, h => by cases h; exact Nat.zero_le _
  | item :: items, depth, values, h => by
    simp only [keepItems, Option.bind_eq_bind, Option.bind_eq_some_iff, Option.pure_def,
      Option.some.injEq] at h
    obtain ⟨value, hvalue, rest, hrest, rfl⟩ := h
    exact Nat.max_le.mpr ⟨Tree.depth_of_keep item hvalue, depth_of_keepItems items hrest⟩

/-- Fields are kept no deeper than is allowed. -/
lemma depth_of_keepFields : ∀ (trees : List (Option String × Tree)) {depth : Nat}
    {fields : List (String × Value)}, keepFields depth trees = some fields →
      fieldsDepth fields ≤ depth
  | [], _, _, h => by cases h; exact Nat.zero_le _
  | (key?, tree) :: trees, depth, fields, h => by
    simp only [keepFields, Option.bind_eq_bind, Option.bind_eq_some_iff, Option.pure_def,
      Option.some.injEq] at h
    obtain ⟨key, -, value, hvalue, rest, hrest, rfl⟩ := h
    exact Nat.max_le.mpr ⟨Tree.depth_of_keep tree hvalue, depth_of_keepFields trees hrest⟩

end

/-- The values that can be kept are those that some tree is kept as. -/
theorem Value.canBeKept_iff {v : Value} :
    v.CanBeKept ↔ ∃ (tree : Tree) (depth : Nat), tree.keep depth = some v := by
  refine ⟨fun h => ⟨v.tree, v.depth, ?_⟩, fun ⟨tree, depth, h⟩ => tree.canBeKept_of_keep h⟩
  rw [Value.keep_tree v v.depth h, if_pos (Nat.le_refl v.depth)]

end EmbeddedFilters.Json
