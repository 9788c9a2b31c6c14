import EmbeddedFilters.Proofs.Options.Ids
import EmbeddedFilters.Proofs.Tables
import Mathlib.Algebra.Group.Nat.Defs
import Mathlib.Data.List.Nodup
import Mathlib.Data.List.Infix
import Mathlib.Data.List.Range

/-!
# Names and numbers

A table of numbers is asked to register names, and to look up numbers and names (`IdTable.Request`).
As long as there are numbers left, it holds the well-known names and, after them, the new ones in
the order of their first registration, each with its number, and the same pairs the other way round
(`IdTable.Numbers`, `IdTable.numbers_run`). So names and numbers stand for each other, and stay what
they are (`IdTable.numbers_stand_for_names`).
-/

namespace EmbeddedFilters

open OptionId (ofName? wellKnown firstDynamic)

/-- What stands in the table of well-known names is found there. -/
lemma OptionId.ofName?_of_mem {e : String × OptionId} (h : e ∈ wellKnown) :
    ofName? e.1 = some e.2 := by
  have hall : ∀ e ∈ wellKnown, ofName? e.1 = some e.2 := by decide
  exact hall e h

/-- The table of well-known names holds exactly what is found in it. -/
lemma OptionId.mem_wellKnown_iff {name : String} {id : OptionId} :
    (name, id) ∈ wellKnown ↔ ofName? name = some id :=
  ⟨fun h => ofName?_of_mem h, mem_wellKnown⟩

namespace IdTable

/-- What a table is asked. -/
inductive Request where
  | register (name : String)
  | find (name : String)
  | nameOf (id : OptionId)

/-- What a table answers. -/
inductive Reply where
  | registered (id : OptionId)
  | found (id? : Option OptionId)
  | named (name? : Option String)

/-- The answer to a request, and the table afterwards. -/
def serve (t : IdTable) : Request → Reply × IdTable
  | .register name =>
    let (id, t) := t.register name
    (.registered id, t)
  | .find name => (.found (t.find? name), t)
  | .nameOf id => (.named (t.name? id), t)

/-- The table after requests. -/
def run (t : IdTable) (requests : List Request) : IdTable :=
  requests.foldl (fun t request => (t.serve request).2) t

/-- The name that is to be registered. -/
def Request.registered? : Request → Option String
  | .register name => some name
  | _ => none

/-- The names without fixed numbers that are to be registered. -/
def unfixed (requests : List Request) : List String :=
  (requests.filterMap Request.registered?).filter fun name => (ofName? name).isNone

/-- The names without fixed numbers that are to be registered, in the order of their first
registration. -/
def newNames (requests : List Request) : List String := (unfixed requests).eraseDups

variable {t : IdTable} {new more : List String} {name other : String} {id : OptionId}

/-! ### The pairs of a table -/

/-- New names with their numbers. -/
def numbered (new : List String) : List (String × OptionId) :=
  (new.zipIdx firstDynamic).map fun e => (e.1, ⟨.ofNat e.2⟩)

/-- All names that have a number, with their numbers. -/
def known (new : List String) : List (String × OptionId) := wellKnown ++ numbered new

/-- More new names take the numbers after those that have been given out. -/
lemma known_append (new more : List String) : known (new ++ more) =
    known new ++ (more.zipIdx (firstDynamic + new.length)).map fun e => (e.1, ⟨.ofNat e.2⟩) := by
  rw [known, numbered, List.zipIdx_append, List.map_append, ← List.append_assoc]
  rfl

/-- One more new name takes the number after those that have been given out. -/
lemma known_snoc (new : List String) (name : String) :
    known (new ++ [name]) = known new ++ [(name, ⟨.ofNat (firstDynamic + new.length)⟩)] :=
  known_append new [name]

/-- What is known stays known when more names come. -/
lemma known_subset (h : new <+: more) {e : String × OptionId} (he : e ∈ known new) :
    e ∈ known more := by
  obtain ⟨later, rfl⟩ := h
  rw [known_append]
  exact List.mem_append_left _ he

/-- A name has a number if it is well known, or new and has been numbered in its place. -/
lemma mem_known : (name, id) ∈ known new ↔
    ofName? name = some id ∨ ∃ i, new[i]? = some name ∧ id = ⟨.ofNat (firstDynamic + i)⟩ := by
  rw [known, List.mem_append, OptionId.mem_wellKnown_iff]
  refine or_congr_right ?_
  rw [numbered, List.mem_map]
  constructor
  · rintro ⟨⟨n, i⟩, hmem, heq⟩
    cases heq
    obtain ⟨j, hj⟩ := List.mem_iff_getElem?.mp hmem
    rw [List.getElem?_zipIdx, Option.map_eq_some_iff] at hj
    obtain ⟨a, ha, heq⟩ := hj
    cases heq
    exact ⟨j, ha, rfl⟩
  · rintro ⟨i, hi, rfl⟩
    refine ⟨(name, firstDynamic + i), List.mem_iff_getElem?.mpr ⟨i, ?_⟩, rfl⟩
    rw [List.getElem?_zipIdx, hi]
    rfl

/-- The known names are the well-known ones and then the new ones. -/
lemma map_fst_known (new : List String) : (known new).map (·.1) = wellKnown.map (·.1) ++ new := by
  rw [known, List.map_append, numbered, List.map_map]
  exact congrArg _ (List.zipIdx_map_fst firstDynamic new)

/-- The known numbers are the fixed ones and then those from the first dynamic one on. -/
lemma map_snd_known (new : List String) : (known new).map (·.2) =
    wellKnown.map (·.2) ++ (List.range' firstDynamic new.length).map fun n => ⟨.ofNat n⟩ := by
  rw [known, List.map_append, numbered, List.map_map,
    ← List.zipIdx_map_snd firstDynamic new, List.map_map]
  rfl

/-- No name has two numbers. -/
lemma nodup_map_fst_known (hnew : new.Nodup) (hunknown : ∀ name ∈ new, ofName? name = none) :
    ((known new).map (·.1)).Nodup := by
  rw [map_fst_known]
  refine List.Nodup.append (by decide) hnew fun name hname hmem => ?_
  obtain ⟨e, he, rfl⟩ := List.mem_map.mp hname
  cases (hunknown e.1 hmem).symm.trans (OptionId.ofName?_of_mem he)

/-- No number is that of two names, as long as there are numbers left. -/
lemma nodup_map_snd_known (hroom : firstDynamic + new.length ≤ 2 ^ 32) :
    ((known new).map (·.2)).Nodup := by
  rw [map_snd_known]
  have hvalue : ∀ n ∈ List.range' firstDynamic new.length, (UInt32.ofNat n).toNat = n := by
    intro n hn
    rw [List.mem_range'_1] at hn
    exact UInt32.toNat_ofNat_of_lt' (by show n < 2 ^ 32; omega)
  refine List.Nodup.append (by decide) ((List.nodup_range' ..).map_on ?_) ?_
  · intro n hn m hm heq
    rw [← hvalue n hn, ← hvalue m hm, OptionId.mk.inj heq]
  · -- the fixed numbers are below those that are given out
    intro id hfixed hgiven
    obtain ⟨n, hn, rfl⟩ := List.mem_map.mp hgiven
    have hsmall : ∀ id ∈ wellKnown.map (·.2), id.value.toNat < firstDynamic := by decide
    have hlow := hsmall _ hfixed
    rw [hvalue n hn] at hlow
    exact absurd (List.mem_range'_1.mp hn).1 (not_le.mpr hlow)

/-! ### The pairs stay in step -/

/-- The table holds the well-known names and the new ones, which have been numbered in their
order. -/
structure Numbers (t : IdTable) (new : List String) : Prop where
  numbers : t.numbers.entries = known new
  names : t.names.entries = (known new).map Prod.swap
  next : t.next = .ofNat (firstDynamic + new.length)
  nodup : new.Nodup
  unknown : ∀ name ∈ new, ofName? name = none

/-- A fresh table numbers the well-known names only. -/
lemma numbers_fresh : Numbers {} [] where
  numbers := rfl
  names := rfl
  next := rfl
  nodup := List.nodup_nil
  unknown := by simp

/-- A table finds a number exactly for the names that are known. -/
lemma Numbers.find?_eq_some (h : t.Numbers new) :
    t.find? name = some id ↔ (name, id) ∈ known new := by
  have hdistinct : t.numbers.Distinct := by
    rw [Table.Distinct, h.numbers]
    exact nodup_map_fst_known h.nodup h.unknown
  rw [← h.numbers]
  exact ⟨Table.mem_entries, hdistinct.get?_of_mem⟩

/-- A table with room finds a name exactly for the numbers that are known. -/
lemma Numbers.name?_eq_some (h : t.Numbers new) (hroom : firstDynamic + new.length ≤ 2 ^ 32) :
    t.name? id = some name ↔ (name, id) ∈ known new := by
  have hdistinct : t.names.Distinct := by
    rw [Table.Distinct, h.names, List.map_map]
    exact nodup_map_snd_known hroom
  have hswap : (name, id) ∈ known new ↔ (id, name) ∈ t.names.entries := by
    rw [h.names, List.mem_map]
    constructor
    · exact fun hmem => ⟨_, hmem, rfl⟩
    · rintro ⟨⟨n, i⟩, hmem, heq⟩
      cases heq
      exact hmem
  rw [hswap]
  exact ⟨Table.mem_entries, hdistinct.get?_of_mem⟩

/-- The number of a name and the name of a number are the same pairs. -/
lemma Numbers.find?_iff_name? (h : t.Numbers new) (hroom : firstDynamic + new.length ≤ 2 ^ 32) :
    t.find? name = some id ↔ t.name? id = some name :=
  h.find?_eq_some.trans (h.name?_eq_some hroom).symm

/-- Names with the same number are the same as long as there is room. -/
lemma Numbers.find?_inj (h : t.Numbers new) (hroom : firstDynamic + new.length ≤ 2 ^ 32)
    (hname : t.find? name = some id) (hother : t.find? other = some id) : name = other := by
  rw [h.find?_iff_name? hroom] at hname hother
  exact Option.some.inj (hname.symm.trans hother)

/-- A table keeps the fixed numbers of the well-known names. -/
lemma Numbers.find?_wellKnown (h : t.Numbers new) :
    (wellKnown.map fun e => t.find? e.1) = wellKnown.map fun e => some e.2 :=
  List.map_congr_left fun _ he => h.find?_eq_some.mpr (List.mem_append_left _ he)

/-- A new name is numbered by its place. -/
lemma Numbers.find?_new (h : t.Numbers new) (hroom : firstDynamic + new.length ≤ 2 ^ 32) {i : Nat}
    (hi : new[i]? = some name) :
    ∃ id, t.find? name = some id ∧ id.value.toNat = firstDynamic + i := by
  refine ⟨_, h.find?_eq_some.mpr (mem_known.mpr (.inr ⟨i, hi, rfl⟩)), ?_⟩
  have hlt := (List.getElem?_eq_some_iff.mp hi).1
  exact UInt32.toNat_ofNat_of_lt' (by show firstDynamic + i < 2 ^ 32; omega)

/-- A name that has a number is not registered again. -/
lemma register_of_find? (h : t.find? name = some id) : t.register name = (id, t) := by
  have h : t.numbers.get? name = some id := h
  rw [register, h]

/-- A name has the number that it is told. -/
lemma find?_register (t : IdTable) (name : String) :
    (t.register name).2.find? name = some (t.register name).1 := by
  cases h : t.find? name with
  | some id => rw [register_of_find? h, h]
  | none =>
    have h : t.numbers.get? name = none := h
    rw [register, h]
    exact t.numbers.get?_put_self name _

/-- A name that has no number gets the next one, and the pair is put at the end of both lists. -/
lemma Numbers.register_new (h : t.Numbers new) (hnone : t.find? name = none)
    (hroom : firstDynamic + new.length < 2 ^ 32) :
    (t.register name).1 = ⟨.ofNat (firstDynamic + new.length)⟩ ∧
      (t.register name).2.Numbers (new ++ [name]) := by
  have hget : t.numbers.get? name = none := hnone
  have hfresh : ofName? name = none ∧ name ∉ new := by
    constructor
    · by_contra hsome
      obtain ⟨id, hid⟩ := Option.ne_none_iff_exists'.mp hsome
      cases hnone.symm.trans (h.find?_eq_some.mpr (mem_known.mpr (.inl hid)))
    · intro hmem
      obtain ⟨i, hi⟩ := List.mem_iff_getElem?.mp hmem
      cases hnone.symm.trans (h.find?_eq_some.mpr (mem_known.mpr (.inr ⟨i, hi, rfl⟩)))
  have hnumber : t.names.get? ⟨t.next⟩ = none := by
    by_contra hsome
    obtain ⟨other, hother⟩ := Option.ne_none_iff_exists'.mp hsome
    -- the next number is above all numbers that have been given out
    have hall : ((known (new ++ [name])).map (·.2)).Nodup :=
      nodup_map_snd_known (by rw [List.length_append]; simp only [List.length_singleton]; omega)
    have hmem := (h.name?_eq_some hroom.le).mp hother
    rw [known_snoc, List.map_append] at hall
    refine (List.disjoint_of_nodup_append hall) (List.mem_map_of_mem hmem) ?_
    rw [h.next]
    exact List.mem_singleton_self _
  rw [register, hget]
  refine ⟨congrArg _ h.next, ?_⟩
  exact {
    numbers := by
      show (t.numbers.put name _).entries = _
      rw [Table.entries_put_of_none hget, h.numbers, known_snoc, h.next]
    names := by
      show (t.names.put _ name).entries = _
      rw [Table.entries_put_of_none hnumber, h.names, known_snoc, h.next, List.map_append]
      rfl
    next := by
      show t.next + 1 = _
      rw [h.next, List.length_append, ← Nat.add_assoc]
      exact (UInt32.ofNat_add _ 1).symm
    nodup := h.nodup.append (List.nodup_singleton name) (List.disjoint_singleton.mpr hfresh.2)
    unknown := by
      intro other hother
      rcases List.mem_append.mp hother with hother | hother
      · exact h.unknown other hother
      · rw [List.mem_singleton.mp hother]
        exact hfresh.1 }

/-! ### Runs -/

variable {requests : List Request} {request : Request}

/-- Requests are served one list after the other. -/
lemma run_append (t : IdTable) (earlier later : List Request) :
    t.run (earlier ++ later) = (t.run earlier).run later := List.foldl_append

/-- The names without fixed numbers of two lists are those of one and then of the other. -/
lemma unfixed_append (earlier later : List Request) :
    unfixed (earlier ++ later) = unfixed earlier ++ unfixed later := by
  rw [unfixed, List.filterMap_append, List.filter_append]
  rfl

/-- New names stand behind those that were new before. -/
lemma prefix_newNames (earlier later : List Request) :
    newNames earlier <+: newNames (earlier ++ later) := by
  rw [newNames, newNames, unfixed_append, List.eraseDups_append]
  exact List.prefix_append _ _

/-- The new names are those that are registered and have no fixed number. -/
lemma mem_newNames :
    name ∈ newNames requests ↔ .register name ∈ requests ∧ ofName? name = none := by
  rw [newNames, List.mem_eraseDups, unfixed, List.mem_filter, List.mem_filterMap,
    Option.isNone_iff_eq_none]
  refine and_congr_left fun _ => ⟨?_, fun h => ⟨_, h, rfl⟩⟩
  rintro ⟨request, hmem, hname⟩
  cases request with
  | register other =>
    cases hname
    exact hmem
  | find | nameOf => cases hname

/-- A request that registers nothing brings no new name. -/
lemma newNames_lookup (h : request.registered? = none) :
    newNames (requests ++ [request]) = newNames requests := by
  have hnone : unfixed [request] = [] := by simp [unfixed, h]
  rw [newNames, unfixed_append, hnone, List.append_nil]
  rfl

/-- A name is new where it has no fixed number and has not been registered before. -/
lemma newNames_register (requests : List Request) (name : String) :
    newNames (requests ++ [.register name]) = if ofName? name = none ∧ name ∉ newNames requests then
      newNames requests ++ [name] else newNames requests := by
  have hone : unfixed [.register name] = if ofName? name = none then [name] else [] := by
    cases hname : ofName? name <;> simp [unfixed, Request.registered?, hname]
  have hmem : name ∈ newNames requests ↔ name ∈ unfixed requests := List.mem_eraseDups
  have hall : newNames (requests ++ [.register name]) =
      newNames requests ++ ((unfixed [.register name]).removeAll (unfixed requests)).eraseDups := by
    rw [newNames, unfixed_append, List.eraseDups_append]
    rfl
  rw [hall, hone]
  by_cases hname : ofName? name = none
  · by_cases hold : name ∈ unfixed requests <;>
      simp [hname, hmem, hold, List.removeAll, List.eraseDups_cons]
  · simp [hname, List.removeAll]

/-- A name has a number if it is well known or new. -/
lemma Numbers.exists_find? (h : t.Numbers new) :
    (∃ id, t.find? name = some id) ↔ (∃ id, ofName? name = some id) ∨ name ∈ new := by
  constructor
  · rintro ⟨id, hid⟩
    rcases mem_known.mp (h.find?_eq_some.mp hid) with hfixed | ⟨i, hi, -⟩
    · exact .inl ⟨id, hfixed⟩
    · exact .inr (List.mem_of_getElem? hi)
  · rintro (⟨id, hid⟩ | hmem)
    · exact ⟨id, h.find?_eq_some.mpr (mem_known.mpr (.inl hid))⟩
    · obtain ⟨i, hi⟩ := List.mem_iff_getElem?.mp hmem
      exact ⟨_, h.find?_eq_some.mpr (mem_known.mpr (.inr ⟨i, hi, rfl⟩))⟩

/-- A name has a number if it is well known or has been registered. -/
lemma Numbers.exists_find?_run (h : t.Numbers (newNames requests)) :
    (∃ id, t.find? name = some id) ↔ (∃ id, ofName? name = some id) ∨
    .register name ∈ requests := by
  rw [h.exists_find?, mem_newNames]
  constructor
  · exact Or.imp_right And.left
  · rintro (hfixed | hmem)
    · exact .inl hfixed
    · cases hname : ofName? name with
      | some id => exact .inl ⟨id, rfl⟩
      | none => exact .inr ⟨hmem, rfl⟩

/-- A request that registers nothing leaves the table as it is. -/
lemma serve_lookup (h : request.registered? = none) (t : IdTable) : (t.serve request).2 = t := by
  cases request with
  | register name => cases h
  | find | nameOf => rfl

/-- One request more leaves the numbers in step. -/
lemma Numbers.serve (h : t.Numbers (newNames requests)) (request : Request)
    (hroom : firstDynamic + (newNames (requests ++ [request])).length ≤ 2 ^ 32) :
    (t.serve request).2.Numbers (newNames (requests ++ [request])) := by
  cases request with
  | find | nameOf =>
    rw [newNames_lookup rfl]
    exact h
  | register name =>
    show (t.register name).2.Numbers _
    cases hfind : t.find? name with
    | some id =>
      have hknown := h.exists_find?.mp ⟨id, hfind⟩
      rw [register_of_find? hfind, newNames_register, if_neg]
      · exact h
      · rintro ⟨hnone, hnew⟩
        obtain ⟨fixed, hfixed⟩ := hknown.resolve_right hnew
        cases hnone.symm.trans hfixed
    | none =>
      have hunknown : ¬ ∃ id, t.find? name = some id := by simp [hfind]
      rw [h.exists_find?, not_or, ← Option.ne_none_iff_exists', not_not] at hunknown
      rw [newNames_register, if_pos hunknown] at hroom ⊢
      rw [List.length_append, List.length_singleton] at hroom
      exact (h.register_new hfind (by omega)).2

/-- As long as there are numbers left, all names that have been registered are numbered in their
order. -/
lemma numbers_run (hroom : firstDynamic + (newNames requests).length ≤ 2 ^ 32) :
    (run {} requests).Numbers (newNames requests) := by
  induction requests using List.reverseRecOn with
  | nil => exact numbers_fresh
  | append_singleton requests request ih =>
    have hshorter := (prefix_newNames requests [request]).length_le
    rw [run_append]
    exact (ih (by omega)).serve request hroom

/-- Names and numbers stand for each other after whatever requests, as long as there are numbers
left: no two names have the same number; the names that have one are the well-known ones, with the
numbers 1 to 5, and those that have been registered, which have 1000, 1001 and so on in the order of
their first registration; a name keeps the number that it has been given; and to register a name
again, or to look anything up, changes nothing. -/
theorem numbers_stand_for_names (earlier later : List Request)
    (hroom : (newNames (earlier ++ later)).length < 2 ^ 32 - 1000) :
    let before := run {} earlier
    let after := run before later
    (∀ name id, after.find? name = some id ↔ after.name? id = some name) ∧
      (∀ name other id, after.find? name = some id → after.find? other = some id → name = other) ∧
      (∀ name, (∃ id, after.find? name = some id) ↔
        (∃ id, ofName? name = some id) ∨ .register name ∈ earlier ++ later) ∧
      (∀ name id, before.find? name = some id →
        before.serve (.register name) = (.registered id, before) ∧ after.find? name = some id) ∧
      (∀ name rest, later = .register name :: rest →
        ∃ id, (before.serve (.register name)).1 = .registered id ∧ after.find? name = some id) ∧
      (∀ request, request.registered? = none → (after.serve request).2 = after) ∧
      ["Toggle", "Magnitude", "Alpha", "Delta", "Persistency"].map after.find? =
        [some ⟨1⟩, some ⟨2⟩, some ⟨3⟩, some ⟨4⟩, some ⟨5⟩] ∧
      ∀ i name, (newNames (earlier ++ later))[i]? = some name →
        ∃ id, after.find? name = some id ∧ id.value.toNat = 1000 + i := by
  have hspace : firstDynamic + (newNames (earlier ++ later)).length ≤ 2 ^ 32 := by
    show 1000 + (newNames (earlier ++ later)).length ≤ 2 ^ 32
    omega
  have hshorter := (prefix_newNames earlier later).length_le
  have hbefore : (run {} earlier).Numbers (newNames earlier) := numbers_run (by omega)
  have hafter : (run (run {} earlier) later).Numbers (newNames (earlier ++ later)) := by
    rw [← run_append]
    exact numbers_run hspace
  have hkeep : ∀ {name id}, (run {} earlier).find? name = some id →
      (run (run {} earlier) later).find? name = some id := by
    intro name id h
    exact hafter.find?_eq_some.mpr
      (known_subset (prefix_newNames earlier later) (hbefore.find?_eq_some.mp h))
  refine ⟨fun name id => hafter.find?_iff_name? hspace,
    fun name other id => hafter.find?_inj hspace,
    fun name => hafter.exists_find?_run, ?_, ?_, fun request h =>
      serve_lookup h _, hafter.find?_wellKnown,
    fun i name => hafter.find?_new hspace⟩
  · intro name id h
    refine ⟨?_, hkeep h⟩
    rw [serve, register_of_find? h]
  · rintro name rest rfl
    have hthen : newNames (earlier ++ [.register name]) <+:
        newNames (earlier ++ .register name :: rest) := by
      rw [List.append_cons earlier _ rest]
      exact prefix_newNames _ rest
    have hnumber :=
      (hbefore.serve (.register name) (by have hle := hthen.length_le; omega)).find?_eq_some.mp
      (find?_register _ name)
    exact ⟨_, rfl, hafter.find?_eq_some.mpr (known_subset hthen hnumber)⟩

/-- Two names are registered, one of them twice, with look-ups in between. -/
def someRequests : List Request :=
  [.register "Hole Fill Mode", .find "Delta", .register "Spatial Radius"]

/-- The names among them have the numbers 1000 and 1001, and keep them when they are registered
again. -/
theorem someRequests_number_names :
    (newNames (someRequests ++ [.register "Hole Fill Mode"])).length < 2 ^ 32 - 1000 ∧
      (run {} someRequests).serve (.register "Hole Fill Mode") =
        (.registered ⟨1000⟩, run {} someRequests) ∧
      (run (run {} someRequests) [.register "Hole Fill Mode"]).name? ⟨1000⟩ =
        some "Hole Fill Mode" ∧
      (∃ id, (run (run {} someRequests)
        [.register "Hole Fill Mode"]).find? "Spatial Radius" = some id ∧
        id.value.toNat = 1001) ∧
      ["Toggle", "Magnitude", "Alpha", "Delta", "Persistency"].map
          (run (run {} someRequests) [.register "Hole Fill Mode"]).find? =
        [some ⟨1⟩, some ⟨2⟩, some ⟨3⟩, some ⟨4⟩, some ⟨5⟩] := by
  have hnames : newNames (someRequests ++ [.register "Hole Fill Mode"]) =
      ["Hole Fill Mode", "Spatial Radius"] := by
    decide
  have hroom : (newNames (someRequests ++ [.register "Hole Fill Mode"])).length <
      2 ^ 32 - 1000 := by
    rw [hnames]
    decide
  have hfound : (run {} someRequests).find? "Hole Fill Mode" = some ⟨1000⟩ := by decide
  obtain ⟨hinverse, -, -, hknown, -, -, hfixed, hnew⟩ :=
    numbers_stand_for_names someRequests [.register "Hole Fill Mode"] hroom
  obtain ⟨hserve, hkept⟩ := hknown "Hole Fill Mode" ⟨1000⟩ hfound
  exact ⟨hroom, hserve, (hinverse _ _).mp hkept,
    hnew 1 "Spatial Radius" (by rw [hnames]; rfl), hfixed⟩

end IdTable

end EmbeddedFilters
