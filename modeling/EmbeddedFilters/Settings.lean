import EmbeddedFilters.Filter

/-!
# Settings

Settings are values under flat keys, sorted by key: one for every option of a filter but the flag
that switches it on, and one for the flag. Restoring is forgiving: what is missing, out of range, of
the wrong form or refused is passed over.
-/

namespace EmbeddedFilters

/-- Values by key, in the order of the keys. -/
structure Settings where
  entries : List (String × OptionValue) := []

namespace Settings

def optionKey (full option : String) : String := full ++ "." ++ option

def enabledKey (full : String) : String := optionKey full "enabled"

def get? (s : Settings) (key : String) : Option OptionValue :=
  (s.entries.find? fun e => e.1 == key).map (·.2)

/-- Places a value among entries sorted by key. -/
def place (key : String) (value : OptionValue) :
    List (String × OptionValue) → List (String × OptionValue)
  | [] => [(key, value)]
  | (k, v) :: rest =>
    if key < k then (key, value) :: (k, v) :: rest
    else if key == k then (key, value) :: rest
    else (k, v) :: place key value rest

/-- The settings with a value under a key. -/
def set (s : Settings) (key : String) (value : OptionValue) : Settings :=
  ⟨place key value s.entries⟩

/-- The numbers of a filter's options but the flag, in ascending order. -/
def ordinaryOptions (f : Filter) : List OptionId := f.supported.filter (· ≠ .toggle)

/-- The names of the options to be saved: those with numbers in the order of the numbers, then the
others. -/
def savedNames (f : Filter) : List String :=
  (ordinaryOptions f).filterMap (IdTable.name? {}) ++ f.unnumbered

/-- Saves options one after another and stops at the first that cannot be read. -/
def saveOptions (full : String) (f : Filter) : List String → Settings →
    Except FilterError Unit × Settings
  | [], s => (.ok (), s)
  | name :: names, s =>
    match f.read name with
    | .error e => (.error e, s)
    | .ok value => saveOptions full f names (s.set (optionKey full name) value)

/-- Saves a filter under its full name, and gives the number of options saved. -/
def save (s : Settings) (full : String) (f : Filter) (enabled : Bool) :
    Except FilterError Nat × Settings :=
  match saveOptions full f (savedNames f) s with
  | (.error e, s) => (.error e, s)
  | (.ok (), s) => (.ok (savedNames f).length, s.set (enabledKey full) (.ofBool enabled))

/-- The stored value to be written to an option: there is one, it lies in the range of the option,
and the option does not have it already. -/
def candidate? (s : Settings) (full : String) (f : Filter) (id : OptionId) :
    Option OptionValue := do
  let model ← (f.model id).toOption
  let value ← s.get? (optionKey full model.name)
  guard (model.declaration.range.contains value.toDouble)
  match f.query id with
  | .ok present => if present.agrees value then none else some value
  | .error _ => some value

/-- The stored flag of a filter, or the default. -/
def flag (s : Settings) (full : String) (default : Bool) : Bool :=
  match s.get? (enabledKey full) with
  | some value => !value.toDouble.agrees (.ofInt .double 0)
  | none => default

/-- Restores a filter that is read and written by the given actions, and gives the stored flag. -/
def restore {m : Type → Type} [Monad m] (s : Settings) (full : String) (read : m Filter)
    (write : OptionId → OptionValue → m Unit) (default : Bool) : m Bool := do
  for id in ordinaryOptions (← read) do
    if let some value := s.candidate? full (← read) id then write id value
  return s.flag full default

end Settings

end EmbeddedFilters
