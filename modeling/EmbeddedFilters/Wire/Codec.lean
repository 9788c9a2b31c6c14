import EmbeddedFilters.Json.Printer
import EmbeddedFilters.Json.Record
import EmbeddedFilters.Options.Declaration

/-!
# Options on the wire

The JSON forms of what messages are made of: kinds, option values, assignments and declarations.
Every encoder stands beside its decoder.
-/

namespace EmbeddedFilters

open Json

def FilterKind.toJson (k : FilterKind) : Value := .string k.name

def FilterKind.decoder (buffered : Bool) : Decoder FilterKind :=
  nameDecoder buffered FilterKind.ofName?

def OptionKind.wireName : OptionKind → String
  | .int => "int"
  | .float => "float"

/-- The kind of option with a given name on the wire. -/
def OptionKind.ofWireName? (s : String) : Option OptionKind :=
  [OptionKind.int, .float].find? fun k => k.wireName == s

def OptionKind.toJson (k : OptionKind) : Value := .string k.wireName

def OptionKind.decoder : Decoder OptionKind := nameDecoder false OptionKind.ofWireName?

def OptionValue.toJson : OptionValue → Value
  | .int i => .integer i.toInt
  | .float x => .number x

/-- An integer of 64 bits is whole, every other number is a double. -/
def OptionValue.ofJson? : Value → Option OptionValue
  | .integer i =>
    if -0x8000000000000000 ≤ i ∧ i < 0x8000000000000000 then some (.int (.ofInt i))
    else some (.float (.ofInt .double i))
  | .number x => some (.float x)
  | _ => none

def OptionValue.decoder : Decoder OptionValue := fun depth tree =>
  (valueDecoder depth tree).bind OptionValue.ofJson?

def OptionId.decoder : Decoder OptionId := fun depth tree =>
  (intDecoder 0 0xffffffff depth tree).map fun i => ⟨.ofNat i.toNat⟩

def OptionId.toJson (id : OptionId) : Value := .integer id.value.toNat

def Assignment.toJson (a : Assignment) : Value :=
  .object [("name", .string a.name), ("value", a.value.toJson)]

/-- Reads an assignment. -/
def Assignment.decoder : Decoder Assignment := fun depth tree => do
  let (depth, fields) ← recordFields ["name", "value"] depth tree
  match fields with
  | [name, value] =>
    return ⟨← required textDecoder depth name, ← required OptionValue.decoder depth value⟩
  | _ => none

def Assignment.listToJson (list : List Assignment) : Value := .array (list.map Assignment.toJson)

/-- A field of a record that is left out when there is nothing to write. -/
def optionalField {α : Type} (key : String) (encode : α → Value) :
    Option α → List (String × Value)
  | none => []
  | some a => [(key, encode a)]

/-- A declaration as a record. -/
def Declaration.toJson (d : Declaration) : Value :=
  .object
    ([("name", .string d.name), ("type", d.kind.toJson)]
      ++ optionalField "minimum" OptionValue.toJson d.minimum
      ++ optionalField "maximum" OptionValue.toJson d.maximum
      ++ optionalField "step" OptionValue.toJson d.step
      ++ [("default", d.default.toJson)]
      ++ optionalField "value" OptionValue.toJson d.value
      ++ optionalField "description" Value.string d.description)

/-- Reads a declaration. -/
def Declaration.decoder : Decoder Declaration := fun depth tree => do
  let names := ["name", "type", "minimum", "maximum", "step", "default", "value", "description"]
  let (depth, fields) ← recordFields names depth tree
  match fields with
  | [name, kind, minimum, maximum, step, default, value, description] =>
    return {
      name := ← required textDecoder depth name
      kind := ← required OptionKind.decoder depth kind
      minimum := ← optional OptionValue.decoder depth minimum
      maximum := ← optional OptionValue.decoder depth maximum
      step := ← optional OptionValue.decoder depth step
      default := ← required OptionValue.decoder depth default
      value := ← optional OptionValue.decoder depth value
      description := ← optional textDecoder depth description }
  | _ => none

end EmbeddedFilters
