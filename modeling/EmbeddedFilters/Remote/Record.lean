import EmbeddedFilters.Watching.Watcher
import EmbeddedFilters.Wire.Message

/-!
# Records of remote filters

The record of a filter is what the host knows of it: its name, kind, declared options and stream,
each of which is stated once and never again, and the values last agreed with the device. Updates
are merged into the values as a whole and checked against the declarations; the merged list replaces
the old one in a step of its own.
-/

namespace EmbeddedFilters

open Json

/-- What the host knows of a filter on a device. -/
structure FilterRecord where
  name? : Option String := none
  kind? : Option FilterKind := none
  declarations? : Option (List Declaration) := none
  stream? : Option Value := none
  current : List Assignment := []

/-- A part of a record that is stated once. -/
inductive RecordPart where
  | name
  | kind
  | options
  | stream
  deriving DecidableEq

namespace RecordPart

/-- The word for the part in an error. -/
def label : RecordPart → String
  | .name => "name"
  | .kind => "type"
  | .options => "options"
  | .stream => "stream type"

/-- What is stated of a part. -/
abbrev Content : RecordPart → Type
  | .name => String
  | .kind => FilterKind
  | .options => List Declaration
  | .stream => Value

end RecordPart

/-- A value that is now different; an option without a fixed number is told by its name. -/
structure ChangedOption where
  option : String ⊕ OptionId
  value : OptionValue

/-- The change of an option that has a number. -/
def ChangedOption.change? (c : ChangedOption) : Option Change :=
  match c.option with
  | .inl _ => none
  | .inr id => some (id, c.value)

namespace FilterRecord

/-- What a record holds of a part, if it has been stated. -/
def part? (r : FilterRecord) : (part : RecordPart) → Option part.Content
  | .name => r.name?
  | .kind => r.kind?
  | .options => r.declarations?
  | .stream => r.stream?

/-- The record with a part. The present values of options become the values of the record. -/
def withPart (r : FilterRecord) : (part : RecordPart) → part.Content → FilterRecord
  | .name, name => { r with name? := some name }
  | .kind, kind => { r with kind? := some kind }
  | .options, declarations =>
    { r with
      declarations? := some declarations
      current := declarations.map Declaration.assignment }
  | .stream, stream => { r with stream? := some stream }

/-- The failure to state a part for the second time. -/
def already (r : FilterRecord) (part : RecordPart) : FilterError :=
  .alreadyInitialized (r.name?.getD "") part.label

/-- States a part that has not been stated. -/
def state (r : FilterRecord) (part : RecordPart) (content : part.Content) :
    Except FilterError Unit × FilterRecord :=
  if (r.part? part).isSome then (.error (r.already part), r) else (.ok (), r.withPart part content)

def setName (r : FilterRecord) (name : String) : Except FilterError Unit × FilterRecord :=
  r.state .name name

def setKind (r : FilterRecord) (kind : FilterKind) : Except FilterError Unit × FilterRecord :=
  r.state .kind kind

/-- Declares the options. -/
def declare (r : FilterRecord) (declarations : List Declaration) :
    Except FilterError Unit × FilterRecord :=
  r.state .options declarations

def setStream (r : FilterRecord) (stream : Value) : Except FilterError Unit × FilterRecord :=
  r.state .stream stream

/-- Have name, kind and options been stated? -/
def isDeclared (r : FilterRecord) : Bool :=
  r.name?.isSome && r.kind?.isSome && r.declarations?.isSome

/-- The name, which must have been stated. -/
def name (r : FilterRecord) : Except FilterError String :=
  match r.name? with
  | some name => .ok name
  | none => .error (.notPopulated "")

/-- The kind, which must have been stated. -/
def kind (r : FilterRecord) : Except FilterError FilterKind :=
  match r.kind? with
  | some kind => .ok kind
  | none => .error (.notPopulated (r.name?.getD ""))

/-- The declared options in their order. -/
def declarations (r : FilterRecord) : List Declaration := r.declarations?.getD []

def declaration? (r : FilterRecord) (name : String) : Option Declaration :=
  r.declarations.find? fun d => d.name == name

/-- The stream, null if none has been stated. -/
def stream (r : FilterRecord) : Value := r.stream?.getD .null

def value? (r : FilterRecord) (name : String) : Option OptionValue :=
  Assignment.find? name r.current

/-- Lays one update over a list of values, in the form that the option declares. -/
def lay (r : FilterRecord) (kind : FilterKind) (list : List Assignment) (update : Assignment) :
    Except FilterError (List Assignment) :=
  match r.declaration? update.name with
  | none => .error (.unknownOption kind update.name)
  | some d => do Assignment.overlay kind update.name (← d.check update.value) list

/-- The values with updates laid over them one after another. -/
def merge (r : FilterRecord) (updates : List Assignment) :
    Except FilterError (List Assignment) := do
  updates.foldlM (r.lay (← r.kind)) r.current

/-- Does the record hold another value, or none, for an option? -/
def differsAt (r : FilterRecord) (a : Assignment) : Bool :=
  match r.value? a.name with
  | some old => !a.value.agrees old
  | none => true

/-- The values of a list that differ from those of the record, in the order of the list. -/
def changed (r : FilterRecord) (values : List Assignment) : List ChangedOption :=
  (values.filter r.differsAt).map fun a =>
    ⟨match OptionId.ofName? a.name with
      | some id => .inr id
      | none => .inl a.name, a.value⟩

/-- The record with other values. -/
def withValues (r : FilterRecord) (values : List Assignment) : FilterRecord :=
  { r with current := values }

/-- The record of an advertised filter. Advertised values are checked like any other update. -/
def ofAdvertisement (a : Advertisement) : Except FilterError FilterRecord := do
  let (named, r) := ({} : FilterRecord).setName a.name
  named
  let (typed, r) := r.setKind a.kind
  typed
  let (declared, r) := r.declare a.options
  declared
  let (streaming, r) := r.setStream a.stream
  streaming
  if a.current.isEmpty then return r
  return r.withValues (← r.merge a.current)

/-- The filter as it would be advertised, with the values that the record holds. -/
def toAdvertisement (r : FilterRecord) : Except FilterError Advertisement := do
  return {
    name := ← r.name
    kind := ← r.kind
    options := r.declarations
    stream := r.stream
    current := r.current }

end FilterRecord

end EmbeddedFilters
