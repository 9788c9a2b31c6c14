import EmbeddedFilters.Parameters.Temporal
import EmbeddedFilters.Proofs.Remote.Record

/-!
# The last update of an option wins

Where a record has a value for each of the options that it declares, a merge fails only for an
update that no declaration takes, and its outcome is told by the last update of each option alone
(`FilterRecord.LastWins`), which leaves no choice (`FilterRecord.LastWins.unique`). So the order of
updates matters only among those of one option (`FilterRecord.merge_is_checked_fold`).
-/

namespace EmbeddedFilters

open Outcome Assignment

/-- The last of two parts of a list that assigns something to a name decides; if only one of them
does, their order does not matter. -/
lemma Assignment.find?_reverse_append_comm {first second : List Assignment}
    (h : ∀ a ∈ first, a.name ∉ names second) (name : String) :
    find? name (first ++ second).reverse = find? name (second ++ first).reverse := by
  rw [List.reverse_append, List.reverse_append, find?_append, find?_append]
  by_cases hfirst : name ∈ names first
  · obtain ⟨a, ha, rfl⟩ := List.mem_map.mp hfirst
    rw [find?_reverse_eq_none.mpr (h a ha), Option.none_or, Option.or_none]
  · rw [find?_reverse_eq_none.mpr hfirst, Option.none_or, Option.or_none]

namespace FilterRecord

variable {r : FilterRecord} {kind : FilterKind} {updates first second out other : List Assignment}

/-- The record is one of a kind, declares each of its options once, and has their values in the
order of the declarations. -/
structure Lists (r : FilterRecord) (kind : FilterKind) : Prop where
  kind : r.kind? = some kind
  nodup : (r.declarations.map (·.name)).Nodup
  names : names r.current = r.declarations.map (·.name)

/-- The update is one of a declared option, and passes its check. -/
def Takes (r : FilterRecord) (a : Assignment) : Prop :=
  ∃ d ∈ r.declarations, d.name = a.name ∧ ∃ v, d.check a.value = .ok v

/-- The list has the names of the record's values in their order. The value of an option that is
updated is the last update in the declared form, and any other value is that of the record. -/
structure LastWins (r : FilterRecord) (updates out : List Assignment) : Prop where
  names : names out = names r.current
  updated : ∀ d ∈ r.declarations, ∀ v, find? d.name updates.reverse = some v →
    ∃ w, v.coerce d.kind d.name = .ok w ∧ find? d.name out = some w
  kept : ∀ d ∈ r.declarations, d.name ∉ Assignment.names updates →
    find? d.name out = find? d.name r.current

/-- A merge succeeds exactly if all updates are taken. -/
lemma Lists.exists_merge_iff (hr : r.Lists kind) :
    (∃ out, r.merge updates = .ok out) ↔ ∀ a ∈ updates, r.Takes a := by
  constructor
  · rintro ⟨out, h⟩ a ha
    obtain ⟨-, d, v, hd, hv⟩ := check_of_merge h ha
    obtain ⟨hmem, hname⟩ := of_declaration? hd
    exact ⟨d, hmem, hname, v, hv⟩
  · intro h
    refine exists_merge hr.kind fun a ha => ?_
    obtain ⟨d, hd, hname, v, hv⟩ := h a ha
    rw [hr.names, ← hname]
    exact ⟨List.mem_map_of_mem hd, d, v, declaration?_of_mem hr.nodup hd, hv⟩

/-- In a merge the last update of an option wins. -/
lemma Lists.lastWins_of_merge (hr : r.Lists kind) (h : r.merge updates = .ok out) :
    r.LastWins updates out where
  names := names_of_merge h
  updated d hd v hlast := by
    obtain ⟨e, w, he, hcheck, hfind⟩ := last_of_merge h hlast
    rw [declaration?_of_mem hr.nodup hd] at he
    obtain rfl := Option.some.inj he
    exact ⟨w, (Declaration.check_eq_ok.mp hcheck).1, hfind⟩
  kept _ _ hname := find?_of_merge h hname

/-- The last updates of the options leave no choice. -/
lemma LastWins.unique (hr : r.Lists kind) (h : r.LastWins updates out)
    (h' : r.LastWins updates other) :
    out = other := by
  have hnd : (Assignment.names other).Nodup := by
    rw [h'.names, hr.names]
    exact hr.nodup
  refine eq_of_find? (h.names.trans h'.names.symm) hnd fun a ha => ?_
  have hfind : find? a.name other = some a.value := find?_of_mem hnd ha
  have hdeclared : a.name ∈ r.declarations.map (·.name) := by
    rw [← hr.names, ← h'.names]
    exact List.mem_map_of_mem ha
  obtain ⟨d, hd, hname⟩ := List.mem_map.mp hdeclared
  rw [← hname] at hfind ⊢
  by_cases hupdated : d.name ∈ Assignment.names updates
  · obtain ⟨v, hv⟩ := exists_find?_reverse hupdated
    obtain ⟨w, hw, hout⟩ := h.updated d hd v hv
    obtain ⟨w', hw', hother⟩ := h'.updated d hd v hv
    obtain rfl : w = w' := Except.ok.inj (hw.symm.trans hw')
    rw [hout, ← hother, hfind]
  · rw [h.kept d hd hupdated, ← h'.kept d hd hupdated, hfind]

/-- A merge succeeds exactly if each update is taken, and the last update of an option wins. -/
lemma Lists.merge_eq_ok_iff (hr : r.Lists kind) :
    r.merge updates = .ok out ↔ (∀ a ∈ updates, r.Takes a) ∧ r.LastWins updates out := by
  constructor
  · exact fun h => ⟨hr.exists_merge_iff.mp ⟨out, h⟩, hr.lastWins_of_merge h⟩
  · rintro ⟨htaken, hlast⟩
    obtain ⟨merged, h⟩ := hr.exists_merge_iff.mpr htaken
    rwa [hlast.unique hr (hr.lastWins_of_merge h)]

/-- Only the last update of each option matters. -/
lemma LastWins.congr (h : r.LastWins first out)
    (hlast : ∀ name, find? name first.reverse = find? name second.reverse) :
    r.LastWins second out where
  names := h.names
  updated d hd v hv := h.updated d hd v ((hlast d.name).trans hv)
  kept d hd hname := by
    have hnone := (hlast d.name).trans (find?_reverse_eq_none.mpr hname)
    exact h.kept d hd (find?_reverse_eq_none.mp hnone)

/-- A merge succeeds exactly if each update is one of a declared option and passes its check, and
gives just the list in which the last update of each option has won. Updates in one list are merged
as if those of its first part had been stored before the rest is merged, and parts that update
different options can be merged in either order. -/
theorem merge_is_checked_fold (hr : r.Lists kind) (first second : List Assignment) :
    ((∃ out, r.merge first = .ok out) ↔ ∀ a ∈ first, r.Takes a) ∧
      (∀ out, r.merge first = .ok out ↔ (∀ a ∈ first, r.Takes a) ∧ r.LastWins first out) ∧
      (r.merge (first ++ second) = do
        let out ← r.merge first
        (r.withValues out).merge second) ∧
      ((∀ a ∈ first, a.name ∉ names second) →
        ∀ out, r.merge (first ++ second) = .ok out ↔ r.merge (second ++ first) = .ok out) := by
  refine ⟨hr.exists_merge_iff, fun out => hr.merge_eq_ok_iff,
    r.merge_append_eq_bind first second, ?_⟩
  intro hapart out
  have hlast := find?_reverse_append_comm hapart
  have htaken : (∀ a ∈ first ++ second, r.Takes a) ↔ ∀ a ∈ second ++ first, r.Takes a := by
    simp only [List.mem_append, or_comm]
  rw [hr.merge_eq_ok_iff, hr.merge_eq_ok_iff, htaken]
  exact and_congr_right fun _ =>
    ⟨fun h => h.congr hlast, fun h => h.congr fun name => (hlast name).symm⟩

/-- A temporal filter as its device declares it. -/
def depth : FilterRecord where
  name? := some "depth"
  kind? := some .temporal
  declarations? := some Temporal.declarations
  current := Temporal.declarations.map Declaration.assignment

/-- Two updates of delta, the last of them in the other form. -/
def deltas : List Assignment := [⟨"Delta", .int 35⟩, ⟨"Delta", .float (.ofInt .double 40)⟩]

/-- The values of the filter once it is switched on and its delta is 40. -/
def depthOn : List Assignment :=
  [⟨"Toggle", .int 1⟩, ⟨"Alpha", .ofSingle Temporal.defaultAlpha⟩,
    ⟨"Delta", .int 40⟩, ⟨"Persistency", .int 3⟩]

/-- The filter is switched on after or before its delta is updated twice. The last delta wins, as a
whole number. -/
theorem depth_merges_either_way :
    depth.Lists .temporal ∧ (∀ a ∈ deltas, a.name ∉ names [⟨"Toggle", .int 1⟩]) ∧
      depth.merge (deltas ++ [⟨"Toggle", .int 1⟩]) = .ok depthOn ∧
      depth.merge (⟨"Toggle", .int 1⟩ :: deltas) = .ok depthOn := by
  have hlists : depth.Lists .temporal := ⟨rfl, by decide +kernel, rfl⟩
  have hapart : ∀ a ∈ deltas, a.name ∉ names [⟨"Toggle", .int 1⟩] := by decide
  have hmerge : depth.merge (deltas ++ [⟨"Toggle", .int 1⟩]) = .ok depthOn :=
    eq_ok_of_toOption (by decide +kernel)
  obtain ⟨-, -, -, hcommutes⟩ := merge_is_checked_fold hlists deltas [⟨"Toggle", .int 1⟩]
  exact ⟨hlists, hapart, hmerge, (hcommutes hapart depthOn).mp hmerge⟩

end FilterRecord

end EmbeddedFilters
