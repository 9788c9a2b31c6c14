import EmbeddedFilters.Options.Value

/-!
# Assignments

An update of a filter is a list of assignments, each of a value to a named option. A complete update
assigns every option of the filter's kind exactly once, in any order.
-/

namespace EmbeddedFilters

/-- A value for the option of a given name. -/
structure Assignment where
  name : String
  value : OptionValue
  deriving DecidableEq

namespace Assignment

/-- The value that a list assigns to a name first. -/
def find? (name : String) (list : List Assignment) : Option OptionValue :=
  (list.find? fun a => a.name == name).map (·.value)

def agrees (a b : Assignment) : Bool := a.name == b.name && a.value.agrees b.value

/-- Replaces the value of the first assignment to a name. -/
def replace (name : String) (value : OptionValue) : List Assignment → List Assignment
  | [] => []
  | a :: rest => if a.name == name then { a with value } :: rest else a :: replace name value rest

/-- Lays a value over a list that already assigns to the name. -/
def overlay (filter : FilterKind) (name : String) (value : OptionValue) (list : List Assignment) :
    Except FilterError (List Assignment) :=
  if list.any fun a => a.name == name then .ok (replace name value list)
  else .error (.unknownOption filter name)

/-- The value that a list assigns to a name, which must be there. -/
def require (filter : FilterKind) (name : String) (list : List Assignment) :
    Except FilterError OptionValue :=
  match find? name list with
  | some value => .ok value
  | none => .error (.missingOption filter name)

/-- Checks that a list assigns every option of a kind once. A name that is unknown is reported
first, then a name that is missing, then a count that is too high. -/
def checkComplete (filter : FilterKind) (list : List Assignment) : Except FilterError Unit :=
  match list.find? fun a => !filter.optionNames.contains a.name with
  | some a => .error (.unknownOption filter a.name)
  | none =>
    match filter.optionNames.find? fun name => !list.any fun a => a.name == name with
    | some name => .error (.missingOption filter name)
    | none =>
      if list.length = filter.optionNames.length then .ok ()
      else .error (.optionCount filter filter.optionNames.length list.length)

/-- Replacing a value keeps the names and their order. -/
theorem map_name_replace (name : String) (value : OptionValue) (list : List Assignment) :
    (replace name value list).map (·.name) = list.map (·.name) := by
  induction list with
  | nil => rfl
  | cons a rest ih => unfold replace; split <;> simp [ih]

end Assignment

end EmbeddedFilters
