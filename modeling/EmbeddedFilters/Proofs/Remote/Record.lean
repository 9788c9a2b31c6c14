import EmbeddedFilters.Proofs.Options.Assignments
import EmbeddedFilters.Proofs.Options.Declarations
import EmbeddedFilters.Remote.Record
import Mathlib.Data.List.Nodup

/-!
# Merging updates into a record

A merge lays its updates over the values one after another. What one of them does (`lay_eq_ok`)
gives what all of them do: the names stay in their order (`names_of_merge`), a value that no update
names stays (`find?_of_merge`), and a value that an update names is what the declaration makes of
the update (`checked_of_merge`). So values that are allowed stay so (`allows_of_merge`).
-/

namespace EmbeddedFilters.FilterRecord

open Outcome Assignment

variable {r : FilterRecord} {kind : FilterKind} {list out updates : List Assignment}
  {update : Assignment}

/-- The option of an assignment is declared, and its declaration admits the value as it is. -/
def Allows (r : FilterRecord) (a : Assignment) : Prop :=
  ∃ d, r.declaration? a.name = some d ∧ d.check a.value = .ok a.value

/-- All values of the record are allowed. -/
def Conforms (r : FilterRecord) : Prop := ∀ a ∈ r.current, r.Allows a

/-- The values of the record stand in the order of its declarations, one for each. -/
def InOrder (r : FilterRecord) : Prop := names r.current = r.declarations.map (·.name)

/-- The records have the same declarations, and their values stand in the same order. -/
structure SameOrder (r s : FilterRecord) : Prop where
  declarations : r.declarations = s.declarations
  names : names r.current = names s.current

/-- A record has its own order. -/
lemma SameOrder.refl (r : FilterRecord) : r.SameOrder r := ⟨rfl, rfl⟩

/-- Records in the order of one record are in the same order. -/
lemma SameOrder.trans {s t : FilterRecord} (h : r.SameOrder s) (h' : s.SameOrder t) :
    r.SameOrder t :=
  ⟨h.declarations.trans h'.declarations, h.names.trans h'.names⟩

/-- A record in the order of one in order is in order. -/
lemma SameOrder.inOrder {s : FilterRecord} (h : r.SameOrder s) (hs : s.InOrder) : r.InOrder := by
  rw [InOrder, h.names, h.declarations]
  exact hs

/-- A part that is stated leaves the order of values alone, and declared options bring their values
in their own order. -/
lemma order_state (r : FilterRecord) (part : RecordPart) (content : part.Content) :
    (r.state part content).2.SameOrder r ∨ (r.state part content).2.InOrder := by
  unfold state
  split
  · exact .inl (.refl r)
  · cases part with
    | options =>
      right
      simp [InOrder, withPart, FilterRecord.declarations, Assignment.names, Declaration.assignment]
    | name => exact .inl ⟨rfl, rfl⟩
    | kind => exact .inl ⟨rfl, rfl⟩
    | stream => exact .inl ⟨rfl, rfl⟩

/-- A declaration that is found is one of the declared ones, and has the name. -/
lemma of_declaration? {name : String} {d : Declaration} (h : r.declaration? name = some d) :
    d ∈ r.declarations ∧ d.name = name := by
  have hname := List.find?_some h
  rw [beq_iff_eq] at hname
  exact ⟨List.mem_of_find?_eq_some h, hname⟩

/-- A declaration is found under its name if no other has it. -/
lemma declaration?_of_mem (hnd : (r.declarations.map (·.name)).Nodup) {d : Declaration}
    (hd : d ∈ r.declarations) : r.declaration? d.name = some d := by
  cases hfound : r.declaration? d.name with
  | none =>
    have hnone := List.find?_eq_none.mp hfound d hd
    exact absurd (beq_self_eq_true d.name) hnone
  | some found =>
    obtain ⟨hmem, hname⟩ := of_declaration? hfound
    rw [List.inj_on_of_nodup_map hnd hmem hd hname]

/-- An update can be laid over a list if its option is declared and assigned, and its value is
admitted. -/
lemma lay_eq_ok :
    r.lay kind list update = .ok out ↔ ∃ d v, r.declaration? update.name = some d ∧
      d.check update.value = .ok v ∧ update.name ∈ names list ∧
      replace update.name v list = out := by
  unfold lay
  cases r.declaration? update.name with
  | none => simp
  | some d => simp

/-- A merge succeeds if the kind is stated and all updates can be laid over the values. -/
lemma merge_eq_ok :
    r.merge updates = .ok out ↔ ∃ k, r.kind? = some k ∧
      updates.foldlM (r.lay k) r.current = .ok out := by
  unfold merge kind
  cases r.kind? with
  | none => simp
  | some k => simp

/-- Laying updates over values keeps their names and order. -/
lemma names_of_foldlM (h : updates.foldlM (r.lay kind) list = .ok out) :
    names out = names list := by
  induction updates generalizing list with
  | nil =>
    cases h
    rfl
  | cons update updates ih =>
    rw [List.foldlM_cons] at h
    obtain ⟨next, hlay, hrest⟩ := bind_eq_ok.mp h
    obtain ⟨d, v, -, -, -, rfl⟩ := lay_eq_ok.mp hlay
    rw [ih hrest, names_replace]

/-- Values stay where no update names their option. -/
lemma find?_of_foldlM (h : updates.foldlM (r.lay kind) list = .ok out) {name : String}
    (hname : name ∉ names updates) : find? name out = find? name list := by
  induction updates generalizing list with
  | nil =>
    cases h
    rfl
  | cons update updates ih =>
    rw [List.foldlM_cons] at h
    obtain ⟨next, hlay, hrest⟩ := bind_eq_ok.mp h
    obtain ⟨d, v, -, -, -, rfl⟩ := lay_eq_ok.mp hlay
    rw [names_cons, List.mem_cons, not_or] at hname
    rw [ih hrest hname.2, find?_replace_of_ne hname.1]

/-- Every update passes the check of its declaration, and names an option that has a value. -/
lemma check_of_foldlM (h : updates.foldlM (r.lay kind) list = .ok out) (hmem : update ∈ updates) :
    update.name ∈ names list ∧
      ∃ d v, r.declaration? update.name = some d ∧ d.check update.value = .ok v := by
  induction updates generalizing list with
  | nil => cases hmem
  | cons first updates ih =>
    rw [List.foldlM_cons] at h
    obtain ⟨next, hlay, hrest⟩ := bind_eq_ok.mp h
    obtain ⟨d, v, hd, hv, hname, rfl⟩ := lay_eq_ok.mp hlay
    cases List.mem_cons.mp hmem with
    | inl heq => exact heq ▸ ⟨hname, d, v, hd, hv⟩
    | inr htail =>
      obtain ⟨hnames, hchecked⟩ := ih hrest htail
      rw [names_replace] at hnames
      exact ⟨hnames, hchecked⟩

/-- The value of an option that updates name is what the declaration makes of the last of them. -/
lemma last_of_foldlM (h : updates.foldlM (r.lay kind) list = .ok out) {name : String}
    {v : OptionValue} (hlast : find? name updates.reverse = some v) :
    ∃ d checked, r.declaration? name = some d ∧ d.check v = .ok checked ∧
      find? name out = some checked := by
  induction updates generalizing list with
  | nil => cases hlast
  | cons first updates ih =>
    rw [List.foldlM_cons] at h
    obtain ⟨next, hlay, hrest⟩ := bind_eq_ok.mp h
    rw [List.reverse_cons, find?_append] at hlast
    cases hlater : find? name updates.reverse with
    | some later =>
      rw [hlater, Option.some_or] at hlast
      exact ih hrest (hlater.trans hlast)
    | none =>
      rw [hlater, Option.none_or, find?_cons] at hlast
      split at hlast
      · rename_i heq
        subst heq
        obtain ⟨d, checked, hd, hv, hname, rfl⟩ := lay_eq_ok.mp hlay
        cases hlast
        refine ⟨d, checked, hd, hv, ?_⟩
        -- the updates that follow name other options
        rw [find?_of_foldlM hrest (find?_reverse_eq_none.mp hlater), find?_replace_self hname]
      · cases hlast

/-- The value of an option that one update names is what the declaration makes of the update. -/
lemma checked_of_foldlM (h : updates.foldlM (r.lay kind) list = .ok out)
    (hnd : (names updates).Nodup) (hmem : update ∈ updates) :
    ∃ d v, r.declaration? update.name = some d ∧ d.check update.value = .ok v ∧
      find? update.name out = some v := by
  refine last_of_foldlM h (find?_of_mem ?_ (List.mem_reverse.mpr hmem))
  rw [names_reverse]
  exact (List.reverse_perm _).nodup_iff.mpr hnd

/-- Updates laid over allowed values give allowed values. -/
lemma allows_of_foldlM (h : updates.foldlM (r.lay kind) list = .ok out)
    (hlist : ∀ a ∈ list, r.Allows a) : ∀ a ∈ out, r.Allows a := by
  induction updates generalizing list with
  | nil =>
    cases h
    exact hlist
  | cons update updates ih =>
    rw [List.foldlM_cons] at h
    obtain ⟨next, hlay, hrest⟩ := bind_eq_ok.mp h
    obtain ⟨d, v, hd, hv, -, rfl⟩ := lay_eq_ok.mp hlay
    refine ih hrest fun a ha => ?_
    rcases mem_replace ha with ha | rfl
    · exact hlist a ha
    · exact ⟨d, hd, Declaration.check_idem hv⟩

/-- Updates that pass the checks of their declarations, and name options that have values, can be
laid over the values. -/
lemma exists_foldlM (h : ∀ a ∈ updates, a.name ∈ names list ∧
    ∃ d v, r.declaration? a.name = some d ∧ d.check a.value = .ok v) :
    ∃ out, updates.foldlM (r.lay kind) list = .ok out := by
  induction updates generalizing list with
  | nil => exact ⟨list, rfl⟩
  | cons update updates ih =>
    obtain ⟨hname, d, v, hd, hv⟩ := h update List.mem_cons_self
    have hlay : r.lay kind list update = .ok (replace update.name v list) :=
      lay_eq_ok.mpr ⟨d, v, hd, hv, hname, rfl⟩
    rw [List.foldlM_cons, hlay, ok_bind]
    refine ih fun a ha => ?_
    rw [names_replace]
    exact h a (List.mem_cons_of_mem _ ha)

/-- Updates are merged one after another: the later ones into the record with the outcome of the
first, if these have one. -/
lemma merge_append_eq_bind (r : FilterRecord) (updates later : List Assignment) :
    r.merge (updates ++ later) = r.merge updates >>= fun values =>
      (r.withValues values).merge later := by
  unfold merge
  cases hkind : r.kind with
  | error e => rfl
  | ok k =>
    rw [ok_bind, ok_bind, List.foldlM_append]
    refine bind_congr fun values => ?_
    have hlater : (r.withValues values).kind = .ok k := hkind
    rw [hlater]
    rfl

/-- Two lists of updates are merged one after the other. -/
lemma merge_append {values later : List Assignment} (h : r.merge updates = .ok values) :
    r.merge (updates ++ later) = (r.withValues values).merge later := by
  rw [merge_append_eq_bind, h, ok_bind]

/-- A merge keeps the names and their order. -/
lemma names_of_merge (h : r.merge updates = .ok out) : names out = names r.current := by
  rw [merge_eq_ok] at h
  obtain ⟨k, -, hfold⟩ := h
  exact names_of_foldlM hfold

/-- A merge keeps the values that are not updated. -/
lemma find?_of_merge (h : r.merge updates = .ok out) {name : String}
    (hname : name ∉ names updates) :
    find? name out = find? name r.current := by
  rw [merge_eq_ok] at h
  obtain ⟨k, -, hfold⟩ := h
  exact find?_of_foldlM hfold hname

/-- A merge into values that conform has values that conform. -/
lemma allows_of_merge (h : r.merge updates = .ok out) (hr : r.Conforms) :
    ∀ a ∈ out, r.Allows a := by
  rw [merge_eq_ok] at h
  obtain ⟨k, -, hfold⟩ := h
  exact allows_of_foldlM hfold hr

/-- What is merged passes the checks of its declarations, and names options that have values. -/
lemma check_of_merge (h : r.merge updates = .ok out) (hmem : update ∈ updates) :
    update.name ∈ names r.current ∧
      ∃ d v, r.declaration? update.name = some d ∧ d.check update.value = .ok v := by
  rw [merge_eq_ok] at h
  obtain ⟨k, -, hfold⟩ := h
  exact check_of_foldlM hfold hmem

/-- What passes the checks of its declarations, and names options that have values, can be
merged. -/
lemma exists_merge (hkind : r.kind? = some kind) (h : ∀ a ∈ updates, a.name ∈ names r.current ∧
    ∃ d v, r.declaration? a.name = some d ∧ d.check a.value = .ok v) :
    ∃ out, r.merge updates = .ok out := by
  obtain ⟨out, hfold⟩ : ∃ out, updates.foldlM (r.lay kind) r.current = .ok out := exists_foldlM h
  refine ⟨out, ?_⟩
  rw [merge_eq_ok]
  exact ⟨kind, hkind, hfold⟩

/-- A merge gives an option that its updates name what the declaration makes of the last of them. -/
lemma last_of_merge (h : r.merge updates = .ok out) {name : String} {v : OptionValue}
    (hlast : find? name updates.reverse = some v) :
    ∃ d checked, r.declaration? name = some d ∧ d.check v = .ok checked ∧
      find? name out = some checked := by
  rw [merge_eq_ok] at h
  obtain ⟨k, -, hfold⟩ := h
  exact last_of_foldlM hfold hlast

/-- A merge gives the options that its updates name once what the declarations make of the
updates. -/
lemma checked_of_merge (h : r.merge updates = .ok out) (hnd : (names updates).Nodup)
    (hmem : update ∈ updates) :
    ∃ d v, r.declaration? update.name = some d ∧ d.check update.value = .ok v ∧
      find? update.name out = some v := by
  rw [merge_eq_ok] at h
  obtain ⟨k, -, hfold⟩ := h
  exact checked_of_foldlM hfold hnd hmem

/-- The record of an advertised filter before the current values are merged into it. -/
def declared (a : Advertisement) : FilterRecord where
  name? := a.name
  kind? := a.kind
  declarations? := a.options
  stream? := a.stream
  current := a.options.map Declaration.assignment

/-- All parts of a fresh record can be stated. -/
lemma ofAdvertisement_unfold (a : Advertisement) :
    ofAdvertisement a = if a.current.isEmpty then pure (declared a)
      else do return (declared a).withValues (← (declared a).merge a.current) := rfl

/-- The record of an advertised filter has the current values merged into those that are
declared. -/
lemma ofAdvertisement_eq {a : Advertisement} (h : ofAdvertisement a = .ok r) :
    ∃ values, (declared a).merge a.current = .ok values ∧ r = (declared a).withValues values := by
  rw [ofAdvertisement_unfold] at h
  split at h
  · rename_i hempty
    obtain rfl := pure_eq_ok.mp h
    refine ⟨(declared a).current, ?_, rfl⟩
    rw [List.isEmpty_iff.mp hempty]
    rfl
  · obtain ⟨values, hmerge, hpure⟩ := bind_eq_ok.mp h
    exact ⟨values, hmerge, (pure_eq_ok.mp hpure).symm⟩

/-- The record of an advertised filter is there as soon as the current values can be merged. -/
lemma ofAdvertisement_of_merge {a : Advertisement} {values : List Assignment}
    (h : (declared a).merge a.current = .ok values) :
    ofAdvertisement a = .ok ((declared a).withValues values) := by
  rw [ofAdvertisement_unfold]
  split
  · rename_i hempty
    rw [List.isEmpty_iff.mp hempty] at h
    cases h
    rfl
  · rw [h]
    rfl

/-- The record of an advertised filter has the name, the kind and the declarations that have been
advertised, and its values have the declared names in their order. -/
lemma ofAdvertisement_ok {a : Advertisement} (h : ofAdvertisement a = .ok r) :
    r.name? = some a.name ∧ r.kind? = some a.kind ∧ r.declarations? = some a.options ∧
      names r.current = a.options.map (·.name) := by
  obtain ⟨values, hmerge, rfl⟩ := ofAdvertisement_eq h
  refine ⟨rfl, rfl, rfl, (names_of_merge hmerge).trans ?_⟩
  simp [declared, names, Declaration.assignment]

/-- The values of an advertised filter stand in the order in which its options are advertised. -/
lemma inOrder_of_ofAdvertisement {a : Advertisement} (h : ofAdvertisement a = .ok r) :
    r.InOrder := by
  obtain ⟨-, -, hdeclared, hnames⟩ := ofAdvertisement_ok h
  rw [InOrder, hnames, declarations, hdeclared]
  rfl

end EmbeddedFilters.FilterRecord
