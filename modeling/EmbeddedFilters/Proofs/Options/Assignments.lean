import EmbeddedFilters.Options.Assignment
import EmbeddedFilters.Proofs.Outcome
import Mathlib.Data.List.Perm.Subperm

/-!
# Lists of assignments

What a list assigns to a name after a value has been laid over it, and what the two checks of lists
say: an overlay succeeds on the names of the list and keeps them (`overlay_eq_ok`), and a list is
complete when its names are the option names of the kind in some order (`checkComplete_eq_ok`).
-/

namespace EmbeddedFilters.Assignment

open Outcome

/-- The names of a list in their order. -/
def names (list : List Assignment) : List String := list.map (·.name)

/-- No assignments have no names. -/
@[simp] lemma names_nil : names [] = [] := rfl

/-- The names of assignments begin with that of the first. -/
@[simp] lemma names_cons (a : Assignment) (list : List Assignment) :
    names (a :: list) = a.name :: names list := rfl

/-- Replacing a value keeps the names. -/
@[simp] lemma names_replace (name : String) (value : OptionValue) (list : List Assignment) :
    names (replace name value list) = names list := map_name_replace name value list

/-- Turning assignments round turns their names round. -/
@[simp] lemma names_reverse (list : List Assignment) : names list.reverse = (names list).reverse :=
  List.map_reverse

/-- A name is looked for in the first assignment and then in the others. -/
lemma find?_cons (name : String) (a : Assignment) (list : List Assignment) :
    find? name (a :: list) = if a.name = name then some a.value else find? name list := by
  unfold find?
  by_cases h : a.name = name <;> simp [h]

/-- A list assigns something to its names and to nothing else. -/
lemma isSome_find? (name : String) (list : List Assignment) :
    (find? name list).isSome = true ↔ name ∈ names list := by
  induction list with
  | nil => simp [find?]
  | cons a list ih =>
    rw [find?_cons, names_cons, List.mem_cons]
    by_cases h : a.name = name
    · simp [h]
    · simp [h, ih, Ne.symm h]

/-- What is found under a name is assigned to it. -/
lemma mem_of_find? {name : String} {list : List Assignment} {value : OptionValue}
    (h : find? name list = some value) : ⟨name, value⟩ ∈ list := by
  obtain ⟨a, ha, rfl⟩ := Option.map_eq_some_iff.mp h
  have hname := List.find?_some ha
  rw [beq_iff_eq] at hname
  rw [← hname]
  exact List.mem_of_find?_eq_some ha

/-- What a list assigns to a name is in the first of two parts that assigns something to it. -/
lemma find?_append (name : String) (front back : List Assignment) :
    find? name (front ++ back) = (find? name front).or (find? name back) := by
  induction front with
  | nil => rfl
  | cons a front ih =>
    rw [List.cons_append, find?_cons, find?_cons, ih]
    split <;> rfl

/-- Nothing is found exactly under names that are not there. -/
lemma find?_eq_none {name : String} {list : List Assignment} :
    find? name list = none ↔ name ∉ names list := by
  rw [← isSome_find?, Bool.not_eq_true, Option.isSome_eq_false_iff, Option.isNone_iff_eq_none]

/-- A list has no last assignment to any but its names. -/
lemma find?_reverse_eq_none {name : String} {list : List Assignment} :
    find? name list.reverse = none ↔ name ∉ names list := by
  rw [find?_eq_none, names_reverse, List.mem_reverse]

/-- A name that is there is also found from the end. -/
lemma exists_find?_reverse {name : String} {list : List Assignment} (h : name ∈ names list) :
    ∃ value, find? name list.reverse = some value := by
  rw [← Option.isSome_iff_exists, isSome_find?, names_reverse, List.mem_reverse]
  exact h

/-- The value of a member whose name comes once is what the list assigns to it. -/
lemma find?_of_mem {list : List Assignment} (hnd : (names list).Nodup) {a : Assignment}
    (ha : a ∈ list) : find? a.name list = some a.value := by
  induction list with
  | nil => cases ha
  | cons b list ih =>
    rw [names_cons, List.nodup_cons] at hnd
    rw [find?_cons]
    cases List.mem_cons.mp ha with
    | inl hab => rw [hab, if_pos rfl]
    | inr hmem =>
      have hne : b.name ≠ a.name := fun h => hnd.1 (h ▸ List.mem_map_of_mem hmem)
      rw [if_neg hne]
      exact ih hnd.2 hmem

/-- Lists with the same names, each once, are the same if they assign the same values to them. -/
lemma eq_of_find? {first second : List Assignment} (hnames : names first = names second)
    (hnd : (names second).Nodup) (h : ∀ a ∈ second, find? a.name first = some a.value) :
    first = second := by
  induction second generalizing first with
  | nil => exact List.map_eq_nil_iff.mp hnames
  | cons a second ih =>
    cases first with
    | nil => cases hnames
    | cons b first =>
      rw [names_cons, names_cons, List.cons.injEq] at hnames
      obtain ⟨hname, hrest⟩ := hnames
      rw [names_cons, List.nodup_cons] at hnd
      have hhead := h a List.mem_cons_self
      rw [find?_cons, if_pos hname] at hhead
      have hab : b = a := by
        obtain ⟨_, _⟩ := a
        obtain ⟨_, _⟩ := b
        cases hname
        cases hhead
        rfl
      have htail : first = second := by
        refine ih hrest hnd.2 fun c hc => ?_
        -- the first name does not come again
        have hne : b.name ≠ c.name := fun heq => hnd.1 (hname ▸ heq ▸ List.mem_map_of_mem hc)
        rw [← h c (List.mem_cons_of_mem _ hc), find?_cons, if_neg hne]
      rw [hab, htail]

/-- After a replacement an assignment is an old one or the new one. -/
lemma mem_replace {name : String} {value : OptionValue} {list : List Assignment} {a : Assignment}
    (h : a ∈ replace name value list) : a ∈ list ∨ a = ⟨name, value⟩ := by
  induction list with
  | nil => cases h
  | cons b list ih =>
    unfold replace at h
    split at h
    · rename_i hname
      rcases List.mem_cons.mp h with rfl | h
      · exact .inr (by rw [← beq_iff_eq.mp hname])
      · exact .inl (List.mem_cons_of_mem b h)
    · rcases List.mem_cons.mp h with rfl | h
      · exact .inl List.mem_cons_self
      · exact (ih h).imp_left (List.mem_cons_of_mem b)

/-- What has been put in place of a value is found under its name. -/
lemma find?_replace_self {name : String} {list : List Assignment} (h : name ∈ names list)
    (value : OptionValue) : find? name (replace name value list) = some value := by
  induction list with
  | nil => cases h
  | cons a list ih =>
    by_cases hn : a.name = name
    · simp [replace, find?_cons, hn]
    · have hmem : name ∈ names list := by simpa [Ne.symm hn] using h
      simp [replace, find?_cons, hn, ih hmem]

/-- Replacing a value leaves what is found under other names. -/
lemma find?_replace_of_ne {name other : String} (h : other ≠ name) (value : OptionValue)
    (list : List Assignment) : find? other (replace name value list) = find? other list := by
  induction list with
  | nil => rfl
  | cons a list ih =>
    by_cases hn : a.name = name
    · simp [replace, find?_cons, hn, Ne.symm h]
    · simp [replace, find?_cons, hn, ih]

/-- A value can be laid over the names of a list, whose first assignment it replaces. -/
@[simp] lemma overlay_eq_ok {filter : FilterKind} {name : String} {value : OptionValue}
    {list out : List Assignment} :
    overlay filter name value list = .ok out ↔
      name ∈ names list ∧ replace name value list = out := by
  have hany : (list.any fun a => a.name == name) = true ↔ name ∈ names list := by
    simp [names]
  unfold overlay
  split
  · rename_i h
    simp [hany.mp h]
  · rename_i h
    simp [mt hany.mpr h]

/-- What is required is there exactly if it is found. -/
@[simp] lemma require_eq_ok {filter : FilterKind} {name : String} {list : List Assignment}
    {value : OptionValue} :
    require filter name list = .ok value ↔ find? name list = some value := by
  unfold require
  cases find? name list <;> simp

/-- The options of a decimation filter are its flag and its magnitude. -/
lemma mem_decimation {name : String} :
    name ∈ FilterKind.optionNames .decimation ↔ name = "Toggle" ∨ name = "Magnitude" := by
  simp only [FilterKind.optionNames, List.mem_cons, List.not_mem_nil, or_false]

/-- The options of a temporal filter are its flag, its weight, its threshold and its persistency. -/
lemma mem_temporal {name : String} : name ∈ FilterKind.optionNames .temporal ↔
    name = "Toggle" ∨ name = "Alpha" ∨ name = "Delta" ∨ name = "Persistency" := by
  simp only [FilterKind.optionNames, List.mem_cons, List.not_mem_nil, or_false]

/-- A kind has each option once. -/
lemma nodup_optionNames (filter : FilterKind) : filter.optionNames.Nodup := by
  cases filter <;> decide

/-- A list is complete if its names are the option names of the kind in some order. -/
lemma checkComplete_eq_ok {filter : FilterKind} {list : List Assignment} :
    checkComplete filter list = .ok () ↔ (names list).Perm filter.optionNames := by
  constructor
  · intro h
    unfold checkComplete at h
    split at h
    · cases h
    · split at h
      · cases h
      · rename_i hmissing
        have hsub : filter.optionNames ⊆ names list := by
          intro name hname
          simpa [names] using List.find?_eq_none.mp hmissing name hname
        split at h
        · rename_i hlength
          -- with as many members as there are names, no name comes twice
          have hperm := List.subperm_of_subset (nodup_optionNames filter) hsub
          exact (hperm.perm_of_length_le (by simp [names, hlength])).symm
        · cases h
  · intro h
    have hunknown : (list.find? fun a => !filter.optionNames.contains a.name) = none := by
      refine List.find?_eq_none.mpr fun a ha => ?_
      simpa using h.subset (List.mem_map_of_mem ha)
    have hmissing : (filter.optionNames.find? fun name => !list.any fun a => a.name == name) =
        none := by
      refine List.find?_eq_none.mpr fun name hname => ?_
      simpa [names] using h.symm.subset hname
    have hlength : list.length = filter.optionNames.length := by
      simpa [names] using h.length_eq
    unfold checkComplete
    rw [hunknown]
    dsimp only
    rw [hmissing]
    dsimp only
    rw [if_pos hlength]

end EmbeddedFilters.Assignment
