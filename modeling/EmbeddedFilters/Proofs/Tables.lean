import EmbeddedFilters.Table
import Mathlib.Data.List.Nodup
import Mathlib.Tactic.Common

/-!
# Looking things up in tables and pools

What is found in a table, or in a pool of numbered values, after it has been changed under a key.
-/

namespace EmbeddedFilters

namespace Table

variable {κ α : Type} [DecidableEq κ]

/-- Putting a value under a key changes what is found under this key. -/
lemma get?_put (t : Table κ α) (key other : κ) (value : α) :
    (t.put key value).get? other = if other = key then some value else t.get? other := by
  split
  · rename_i h
    rw [h, get?_put_self]
  · rename_i h
    exact t.get?_put_of_ne h value

/-- Putting a value where it is changes nothing. -/
lemma put_of_get? {t : Table κ α} {key : κ} {value : α} (h : t.get? key = some value) :
    t.put key value = t := by
  have hplace : ∀ entries : List (κ × α), lookup key entries = some value →
      place key value entries = entries := by
    intro entries
    induction entries with
    | nil => exact fun hnone => nomatch hnone
    | cons e rest ih =>
      obtain ⟨k, a⟩ := e
      intro hlookup
      by_cases hk : k = key
      · simp only [lookup, hk, if_true, Option.some.injEq] at hlookup
        simp [place, hk, hlookup]
      · simp only [lookup, hk, if_false] at hlookup
        simp [place, hk, ih hlookup]
  exact congrArg Table.mk (hplace t.entries h)

/-- A key that is put in for the first time comes last. -/
lemma entries_put_of_none {t : Table κ α} {key : κ} (h : t.get? key = none) (value : α) :
    (t.put key value).entries = t.entries ++ [(key, value)] := by
  have hplace : ∀ entries : List (κ × α), lookup key entries = none →
      place key value entries = entries ++ [(key, value)] := by
    intro entries
    induction entries with
    | nil => exact fun _ => rfl
    | cons e rest ih =>
      obtain ⟨k, a⟩ := e
      intro hlookup
      by_cases hk : k = key
      · simp [lookup, hk] at hlookup
      · simp only [lookup, hk, if_false] at hlookup
        simp [place, hk, ih hlookup]
  exact hplace t.entries h

/-- Of two values under a key the last one stays. -/
lemma put_put (t : Table κ α) (key : κ) (first last : α) :
    (t.put key first).put key last = t.put key last := by
  have hplace : ∀ entries : List (κ × α), place key last (place key first entries) =
      place key last entries := by
    intro entries
    induction entries with
    | nil => simp [place]
    | cons e rest ih =>
      obtain ⟨k, a⟩ := e
      by_cases hk : k = key <;> simp [place, hk, ih]
  exact congrArg Table.mk (hplace t.entries)

/-- Modifying the value of a key changes what is found under this key. -/
lemma get?_modify (t : Table κ α) (key other : κ) (change : α → α) :
    (t.modify key change).get? other =
      if other = key then (t.get? other).map change else t.get? other := by
  unfold modify
  cases h : t.get? key with
  | none =>
    dsimp only
    split
    · rename_i heq
      rw [heq, h]
      rfl
    · rfl
  | some a =>
    dsimp only
    rw [get?_put]
    split
    · rename_i heq
      rw [heq, h]
      rfl
    · rfl

/-- Erasing a key leaves what is found under the others. -/
lemma get?_erase (t : Table κ α) (key other : κ) :
    (t.erase key).get? other = if other = key then none else t.get? other := by
  show lookup other (t.entries.filter fun e => e.1 ≠ key) =
    if other = key then none else lookup other t.entries
  induction t.entries with
  | nil => simp [lookup]
  | cons e rest ih =>
    obtain ⟨k, a⟩ := e
    by_cases hk : k = key
    · rw [List.filter_cons_of_neg (by simpa using hk), ih]
      split
      · rfl
      · rename_i ho
        rw [lookup, if_neg fun h => ho (h.symm.trans hk)]
    · rw [List.filter_cons_of_pos (by simpa using hk), lookup, lookup, ih]
      by_cases ho : k = other
      · rw [if_pos ho, if_pos ho, if_neg fun h => hk (ho.trans h)]
      · rw [if_neg ho, if_neg ho]

/-- What is found in a table is one of its entries. -/
lemma mem_entries {t : Table κ α} {key : κ} {a : α} (h : t.get? key = some a) :
    (key, a) ∈ t.entries := by
  obtain ⟨entries⟩ := t
  induction entries with
  | nil => cases h
  | cons e rest ih =>
    obtain ⟨k, b⟩ := e
    have h : lookup key ((k, b) :: rest) = some a := h
    by_cases hk : k = key
    · rw [lookup, if_pos hk] at h
      cases h
      exact hk ▸ List.mem_cons_self
    · rw [lookup, if_neg hk] at h
      exact List.mem_cons_of_mem _ (ih h)

/-- Something is found under the key of an entry. -/
lemma exists_get? {t : Table κ α} {e : κ × α} (h : e ∈ t.entries) : ∃ a, t.get? e.1 = some a := by
  obtain ⟨entries⟩ := t
  induction entries with
  | nil => cases h
  | cons first rest ih =>
    obtain ⟨k, b⟩ := first
    show ∃ a, lookup e.1 ((k, b) :: rest) = some a
    by_cases hk : k = e.1
    · exact ⟨b, if_pos hk⟩
    · rw [lookup, if_neg hk]
      refine ih ((List.mem_cons.mp h).resolve_left fun heq => hk ?_)
      rw [heq]

/-! ### Counting values -/

/-- The number of values with a property. -/
def count (t : Table κ α) (p : α → Bool) : Nat := t.values.countP p

/-- No key has two entries. -/
def Distinct (t : Table κ α) : Prop := (t.entries.map (·.1)).Nodup

/-- A value that is put counts instead of the one that was there. -/
lemma count_put (t : Table κ α) (key : κ) (value : α) (p : α → Bool) :
    (t.put key value).count p + (t.get? key).toList.countP p = t.count p + [value].countP p := by
  show ((place key value t.entries).map (·.2)).countP p + (lookup key t.entries).toList.countP p =
    (t.entries.map (·.2)).countP p + [value].countP p
  induction t.entries with
  | nil => simp [place, lookup]
  | cons e rest ih =>
    obtain ⟨k, a⟩ := e
    by_cases hk : k = key
    · simp only [place, lookup, hk, if_true, List.map_cons, Option.toList_some, List.countP_cons,
        List.countP_nil]
      omega
    · simp only [place, lookup, hk, if_false, List.map_cons, List.countP_cons]
      simp only [List.countP_cons] at ih
      omega

/-- A key that is not there is not found. -/
lemma lookup_of_not_mem {key : κ} {entries : List (κ × α)} (h : key ∉ entries.map (·.1)) :
    lookup key entries = none := by
  induction entries with
  | nil => rfl
  | cons e rest ih =>
    rw [List.map_cons, List.mem_cons, not_or] at h
    rw [lookup, if_neg (Ne.symm h.1), ih h.2]

/-- A value that is erased no longer counts. -/
lemma Distinct.count_erase {t : Table κ α} (h : t.Distinct) (key : κ) (p : α → Bool) :
    (t.erase key).count p + (t.get? key).toList.countP p = t.count p := by
  obtain ⟨entries⟩ := t
  show ((entries.filter fun e => e.1 ≠ key).map (·.2)).countP p +
    (lookup key entries).toList.countP p = (entries.map (·.2)).countP p
  have hkeys : (entries.map (·.1)).Nodup := h
  clear h
  induction entries with
  | nil => rfl
  | cons e rest ih =>
    obtain ⟨k, a⟩ := e
    obtain ⟨hk, hrest⟩ := List.nodup_cons.mp hkeys
    have ih := ih hrest
    by_cases hsame : k = key
    · subst hsame
      rw [lookup_of_not_mem hk] at ih
      rw [List.filter_cons_of_neg (by simp), lookup, if_pos rfl, List.map_cons, List.countP_cons]
      simp only [Option.toList_some, Option.toList_none, List.countP_cons, List.countP_nil] at ih ⊢
      omega
    · rw [List.filter_cons_of_pos (by simpa using hsame), lookup, if_neg hsame]
      simp only [List.map_cons, List.countP_cons]
      omega

/-- A table with distinct keys keeps them distinct when a value is put. -/
lemma Distinct.put {t : Table κ α} (h : t.Distinct) (key : κ) (value : α) :
    (t.put key value).Distinct := by
  have hplace : ∀ entries : List (κ × α), (place key value entries).map (·.1) =
      if key ∈ entries.map (·.1) then entries.map (·.1) else entries.map (·.1) ++ [key] := by
    intro entries
    induction entries with
    | nil => rfl
    | cons e rest ih =>
      obtain ⟨k, a⟩ := e
      by_cases hk : k = key
      · simp [place, hk]
      · simp only [place, hk, if_false, List.map_cons, ih, List.mem_cons, Ne.symm hk, false_or]
        split <;> rfl
  show ((place key value t.entries).map (·.1)).Nodup
  rw [hplace]
  split
  · exact h
  · rename_i hnew
    exact List.Nodup.append h (List.nodup_singleton key) (List.disjoint_singleton.mpr hnew)

/-- A table with distinct keys keeps them distinct when a key is erased. -/
lemma Distinct.erase {t : Table κ α} (h : t.Distinct) (key : κ) : (t.erase key).Distinct :=
  (List.filter_sublist.map _).nodup h

/-- In a table with distinct keys an entry is found under its key. -/
lemma Distinct.get?_of_mem {t : Table κ α} (h : t.Distinct) {key : κ} {a : α}
    (hmem : (key, a) ∈ t.entries) : t.get? key = some a := by
  obtain ⟨entries⟩ := t
  have hkeys : (entries.map (·.1)).Nodup := h
  show lookup key entries = some a
  clear h
  induction entries with
  | nil => cases hmem
  | cons e rest ih =>
    obtain ⟨k, b⟩ := e
    obtain ⟨hk, hrest⟩ := List.nodup_cons.mp hkeys
    rcases List.mem_cons.mp hmem with heq | hmem
    · cases heq
      exact if_pos rfl
    · have hne : k ≠ key := fun hsame => hk (hsame ▸ List.mem_map.mpr ⟨_, hmem, rfl⟩)
      rw [lookup, if_neg hne]
      exact ih hmem hrest

/-- Where keys are distinct, there are values with a property if one is found under some key. -/
lemma Distinct.count_pos {t : Table κ α} (h : t.Distinct) (p : α → Bool) :
    0 < t.count p ↔ ∃ key a, t.get? key = some a ∧ p a := by
  rw [count, List.countP_pos_iff]
  constructor
  · rintro ⟨a, ha, hp⟩
    obtain ⟨⟨key, _⟩, he, rfl⟩ := List.mem_map.mp ha
    exact ⟨key, _, h.get?_of_mem he, hp⟩
  · rintro ⟨key, a, hget, hp⟩
    exact ⟨a, List.mem_map.mpr ⟨(key, a), mem_entries hget, rfl⟩, hp⟩

end Table

namespace Pool

variable {α : Type}

/-- Putting a member changes what is found under its number. -/
lemma get?_put (p : Pool α) (n other : Nat) (value : α) :
    (p.put n value).get? other = if other = n then some value else p.get? other :=
  p.members.get?_put n other value

/-- A member that has been put is found under its number. -/
lemma get?_put_self (p : Pool α) (n : Nat) (value : α) : (p.put n value).get? n = some value :=
  p.members.get?_put_self n value

/-- Putting a member leaves the others. -/
lemma get?_put_of_ne (p : Pool α) {n other : Nat} (h : other ≠ n) (value : α) :
    (p.put n value).get? other = p.get? other :=
  p.members.get?_put_of_ne h value

/-- Only the last value that has been put somewhere stays. -/
lemma put_put (p : Pool α) (n : Nat) (first last : α) :
    (p.put n first).put n last = p.put n last := by
  have hmembers := p.members.put_put n first last
  rw [put, put, put, hmembers]

/-- Putting a member where it is changes nothing. -/
lemma put_of_get? {p : Pool α} {n : Nat} {value : α} (h : p.get? n = some value) :
    p.put n value = p := by
  have hmembers : p.members.put n value = p.members := Table.put_of_get? h
  rw [put, hmembers]

/-- Modifying a member changes what is found under its number. -/
lemma get?_modify (p : Pool α) (n other : Nat) (change : α → α) :
    (p.modify n change).get? other =
      if other = n then (p.get? other).map change else p.get? other :=
  p.members.get?_modify n other change

/-- What is changed where something is found is put there. -/
lemma modify_of_get? {p : Pool α} {n : Nat} {value : α} (h : p.get? n = some value)
    (change : α → α) : p.modify n change = p.put n (change value) := by
  have h : p.members.get? n = some value := h
  rw [modify, Table.modify, h]
  rfl

/-- The only member of a pool is found under its number. -/
lemma get?_of_entries {p : Pool α} {n : Nat} {value : α} (h : p.members.entries = [(n, value)]) :
    p.get? n = some value := by
  show Table.lookup n p.members.entries = _
  rw [h, Table.lookup, if_pos rfl]

/-- Putting another member in place of the only one leaves one member. -/
lemma entries_put {p : Pool α} {n : Nat} {value : α} (h : p.members.entries = [(n, value)])
    (other : α) : (p.put n other).members.entries = [(n, other)] := by
  show Table.place n other p.members.entries = _
  rw [h, Table.place, if_pos rfl]

/-- Modifying the only member leaves one member. -/
lemma entries_modify {p : Pool α} {n : Nat} {value : α} (h : p.members.entries = [(n, value)])
    (change : α → α) : (p.modify n change).members.entries = [(n, change value)] := by
  rw [modify_of_get? (get?_of_entries h)]
  exact entries_put h _

/-- Adding a member changes what is found under the next number. -/
lemma get?_add (p : Pool α) (other : Nat) (value : α) :
    (p.add value).2.get? other = if other = p.next then some value else p.get? other :=
  p.members.get?_put p.next other value

end Pool

end EmbeddedFilters
