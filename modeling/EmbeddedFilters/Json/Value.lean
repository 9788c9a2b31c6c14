import EmbeddedFilters.Number.Layout

/-!
# JSON values

The values that messages carry. Integers and fractional numbers are told apart, as a reader of a
message does: `1` is an integer and `1.0` is not.
-/

namespace EmbeddedFilters.Json

/-- A JSON value; the fields of an object keep their order. -/
inductive Value where
  | null
  | bool (b : Bool)
  | integer (i : Int)
  | number (x : Double)
  | string (s : String)
  | array (items : List Value)
  | object (fields : List (String × Value))

namespace Value

/-- The string under a name, or null. -/
def ofOption {α : Type} (encode : α → Value) : Option α → Value
  | none => .null
  | some a => encode a

/-- The first value under a key. -/
def field? (key : String) : Value → Option Value
  | .object fields => (fields.find? fun f => f.1 == key).map (·.2)
  | _ => none

end Value

/-- Inserts a field among fields sorted by key; a field of the same key is replaced. -/
def insertField (key : String) (value : Value) : List (String × Value) → List (String × Value)
  | [] => [(key, value)]
  | (k, v) :: rest =>
    if key < k then (key, value) :: (k, v) :: rest
    else if key == k then (key, value) :: rest
    else (k, v) :: insertField key value rest

/-- Fields sorted by key; of several fields under one key the last one stays. -/
def sortFields (fields : List (String × Value)) : List (String × Value) :=
  fields.foldl (fun sorted f => insertField f.1 f.2 sorted) []

end EmbeddedFilters.Json
