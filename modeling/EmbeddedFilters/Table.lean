/-!
# Tables

A table finds values by key. It keeps the order in which keys were first put in, and a key that is
put in again keeps its place.
-/

namespace EmbeddedFilters

/-- Values by key. -/
structure Table (κ α : Type) where
  entries : List (κ × α) := []

namespace Table

variable {κ α : Type} [DecidableEq κ]

/-- The table without entries. -/
def empty : Table κ α := ⟨[]⟩

/-- The first value under a key in a list of entries. -/
def lookup (key : κ) : List (κ × α) → Option α
  | [] => none
  | (k, a) :: rest => if k = key then some a else lookup key rest

def place (key : κ) (value : α) : List (κ × α) → List (κ × α)
  | [] => [(key, value)]
  | (k, a) :: rest => if k = key then (key, value) :: rest else (k, a) :: place key value rest

def get? (t : Table κ α) (key : κ) : Option α := lookup key t.entries

/-- The table with a value under a key. -/
def put (t : Table κ α) (key : κ) (value : α) : Table κ α := ⟨place key value t.entries⟩

/-- The table without a key. -/
def erase (t : Table κ α) (key : κ) : Table κ α := ⟨t.entries.filter fun e => e.1 ≠ key⟩

/-- The table with the value under a key changed, if there is one. -/
def modify (t : Table κ α) (key : κ) (change : α → α) : Table κ α :=
  match t.get? key with
  | some a => t.put key (change a)
  | none => t

/-- The values in the order of their keys. -/
def values (t : Table κ α) : List α := t.entries.map (·.2)

/-- A value that has been placed is found under its key. -/
theorem lookup_place_self (key : κ) (value : α) (entries : List (κ × α)) :
    lookup key (place key value entries) = some value := by
  induction entries with
  | nil => simp [place, lookup]
  | cons e rest ih =>
    obtain ⟨k, a⟩ := e
    by_cases h : k = key <;> simp [place, lookup, h, ih]

/-- Placing a value leaves what is found under other keys. -/
theorem lookup_place_of_ne {key other : κ} (h : other ≠ key) (value : α)
    (entries : List (κ × α)) : lookup other (place key value entries) = lookup other entries := by
  induction entries with
  | nil => simp [place, lookup, Ne.symm h]
  | cons e rest ih =>
    obtain ⟨k, a⟩ := e
    by_cases hk : k = key
    · subst hk
      simp [place, lookup, Ne.symm h]
    · by_cases ho : k = other
      · subst ho
        simp [place, lookup, hk]
      · simp [place, lookup, hk, ho, ih]

/-- A value that has been put is found under its key. -/
@[simp] theorem get?_put_self (t : Table κ α) (key : κ) (value : α) :
    (t.put key value).get? key = some value := lookup_place_self key value t.entries

/-- Putting a value leaves what is found under other keys. -/
theorem get?_put_of_ne (t : Table κ α) {key other : κ} (h : other ≠ key) (value : α) :
    (t.put key value).get? other = t.get? other := lookup_place_of_ne h value t.entries

end Table

/-- Values that get a number of their own when they are added. -/
structure Pool (α : Type) where
  members : Table Nat α := {}
  next : Nat := 0

namespace Pool

variable {α : Type}

/-- The value with a number. -/
def get? (p : Pool α) (n : Nat) : Option α := p.members.get? n

def add (p : Pool α) (value : α) : Nat × Pool α :=
  (p.next, ⟨p.members.put p.next value, p.next + 1⟩)

/-- Replaces the value with a number. -/
def put (p : Pool α) (n : Nat) (value : α) : Pool α := { p with members := p.members.put n value }

/-- Changes the value with a number. -/
def modify (p : Pool α) (n : Nat) (change : α → α) : Pool α :=
  { p with members := p.members.modify n change }

/-- Removes the value with a number; the number is not given out again. -/
def erase (p : Pool α) (n : Nat) : Pool α := { p with members := p.members.erase n }

end Pool

end EmbeddedFilters
