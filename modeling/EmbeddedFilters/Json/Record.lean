import EmbeddedFilters.Json.Reader

/-!
# Reading records

A record is written as an object, or as an array of its fields in their order. In an object unknown
fields are passed over and a known field must not come twice; in an array there must be no item
beyond the fields, and those at the end may be left out. A decoder reads one thing from a tree,
given how many containers may still be opened.
-/

namespace EmbeddedFilters.Json

/-- Reads an `α` from a tree in which at most the given number of containers stand inside one
another. -/
abbrev Decoder (α : Type) := Nat → Tree → Option α

/-- The trees of the named fields among the fields of an object. -/
def pickFields (names : List String) (fields : List (Option String × Tree)) :
    Option (List (Option Tree)) := do
  let keyed ← fields.mapM fun f => f.1.map fun key => (key, f.2)
  guard (names.all fun name => keyed.countP (fun f => f.1 == name) ≤ 1)
  return names.map fun name => (keyed.find? fun f => f.1 == name).map (·.2)

/-- The trees of a record's fields, `none` for those left out, and the depth that is left. -/
def recordFields (names : List String) : Decoder (Nat × List (Option Tree))
  | depth + 1, .object fields => (pickFields names fields).map fun trees => (depth, trees)
  | depth + 1, .array items =>
    if items.length ≤ names.length then
      some (depth, items.map some ++ List.replicate (names.length - items.length) none)
    else none
  | _, _ => none

/-- A field that must be there. -/
def required {α : Type} (decode : Decoder α) (depth : Nat) (field : Option Tree) : Option α :=
  field.bind (decode depth)

/-- A field that has a default. -/
def orDefault {α : Type} (default : α) (decode : Decoder α) (depth : Nat) :
    Option Tree → Option α
  | none => some default
  | some tree => decode depth tree

def optional {α : Type} (decode : Decoder α) (depth : Nat) : Option Tree → Option (Option α)
  | none => some none
  | some .null => some none
  | some tree => (decode depth tree).map some

def textDecoder : Decoder String
  | _, .string text => text
  | _, _ => none

def boolDecoder : Decoder Bool
  | _, .bool b => some b
  | _, _ => none

/-- An integer within bounds, written as an integer. -/
def intDecoder (low high : Int) : Decoder Int
  | _, .number t =>
    match keepNumber t with
    | some (.integer i) => if low ≤ i ∧ i ≤ high then some i else none
    | _ => none
  | _, _ => none

def valueDecoder : Decoder Value := Tree.keep

def listDecoder {α : Type} (decode : Decoder α) : Decoder (List α)
  | depth + 1, .array items => items.mapM (decode depth)
  | _, _ => none

/-- One of several names, written as a string or as an object with the name as its only key and null
under it. Where a reader has buffered the text first, an empty object may stand for null. -/
def nameDecoder {α : Type} (buffered : Bool) (ofName : String → Option α) : Decoder α
  | _, .string text => text.bind ofName
  | _ + 1, .object [(key, .null)] => key.bind ofName
  | _ + 2, .object [(key, .object [])] => if buffered then key.bind ofName else none
  | _, _ => none

/-- Reads a whole text. -/
def decodeSymbols {α : Type} (decode : Decoder α) (source : List Symbol) : Option α :=
  (parseTree source).bind (decode depthLimit)

def decodePayload {α : Type} (decode : Decoder α) (payload : ByteArray) : Option α :=
  decodeSymbols decode (payloadSymbols payload)

def decodeText {α : Type} (decode : Decoder α) (text : String) : Option α :=
  decodeSymbols decode (textSymbols text)

end EmbeddedFilters.Json
