import EmbeddedFilters.Table

/-!
# Option ids

Options are addressed by number. Five names have fixed numbers; every other name gets the next free
number from 1000 on when it is first registered. A table keeps the numbers by name, the names by
number, and the next free number.
-/

namespace EmbeddedFilters

/-- The number of an option. -/
structure OptionId where
  value : UInt32
  deriving DecidableEq, Repr

namespace OptionId

/-- The flag that switches a filter on. -/
def toggle : OptionId := ⟨1⟩

/-- The decimation factor. -/
def magnitude : OptionId := ⟨2⟩

/-- The weight of the current frame. -/
def alpha : OptionId := ⟨3⟩

/-- The threshold that preserves edges. -/
def delta : OptionId := ⟨4⟩

/-- The index of the persistency rule. -/
def persistency : OptionId := ⟨5⟩

/-- The names with fixed numbers. -/
def wellKnown : List (String × OptionId) :=
  [("Toggle", toggle), ("Magnitude", magnitude), ("Alpha", alpha), ("Delta", delta),
    ("Persistency", persistency)]

/-- The first number given to a registered name. -/
def firstDynamic : Nat := 1000

/-- Was the number given out by registration? -/
def isDynamic (id : OptionId) : Bool := firstDynamic ≤ id.value.toNat

/-- The fixed number of a name. -/
def ofName? (name : String) : Option OptionId :=
  (wellKnown.find? fun entry => entry.1 == name).map (·.2)

end OptionId

/-- The numbers that names have, and the next one to give out. -/
structure IdTable where
  numbers : Table String OptionId := ⟨OptionId.wellKnown⟩
  names : Table OptionId String := ⟨OptionId.wellKnown.map Prod.swap⟩
  next : UInt32 := .ofNat OptionId.firstDynamic

namespace IdTable

/-- The number of a name, if it is well known or registered. -/
def find? (table : IdTable) (name : String) : Option OptionId := table.numbers.get? name

/-- The name that has a number. -/
def name? (table : IdTable) (id : OptionId) : Option String := table.names.get? id

/-- The number of a name, which is registered if it is new, and the table afterwards. -/
def register (table : IdTable) (name : String) : OptionId × IdTable :=
  match table.numbers.get? name with
  | some id => (id, table)
  | none =>
    let id : OptionId := ⟨table.next⟩
    (id, {
      numbers := table.numbers.put name id
      names := table.names.put id name
      next := table.next + 1 })

/-- An option as shown in texts: by its name if it has one, and by its number. -/
def label (table : IdTable) (id : OptionId) : String :=
  match table.name? id with
  | some name => s!"{name} ({id.value.toNat})"
  | none => s!"#{id.value.toNat}"

end IdTable

/-- An option as shown in texts when no name has been registered. -/
def OptionId.label (id : OptionId) : String := IdTable.label {} id

end EmbeddedFilters
