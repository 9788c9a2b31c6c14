import EmbeddedFilters.Parameters
import EmbeddedFilters.Remote.Record
import EmbeddedFilters.Wire.Link

/-!
# Proxies

A proxy stands for one filter of a device. The device takes complete updates only, so a write to one
option is merged into the values of the record, checked as a whole, and sent as a whole. A write
goes in three steps: it is prepared, which may refuse it before anything is sent; the link carries
the request; and the answer of the link settles it. What the device reports between the first step
and the last stays, because the written options alone are laid over the record in the end.
-/

namespace EmbeddedFilters

/-- The number of a link to a device. -/
abbrev LinkNumber := Nat

/-- The host's side of a filter on a device. -/
structure RemoteProxy where
  kind : FilterKind
  name : String
  topic : String
  record : FilterRecord
  link? : Option LinkNumber := none
  spoiled : Bool := false

/-- A write that has passed all checks and waits for the link. -/
structure Submission where
  link : LinkNumber
  topic : String
  request : ControlRequest
  updates : List Assignment
  merged : List Assignment

/-- A question to the device. -/
structure Inquiry where
  link : LinkNumber
  topic : String
  request : ControlRequest

namespace RemoteProxy

/-- The proxy for a record, which must be of the kind and hold a complete and valid set of
values. -/
def new (kind : FilterKind) (record : FilterRecord) (topic : String) :
    Except FilterError RemoteProxy := do
  let stated ← record.kind
  if stated ≠ kind then throw (.wrongKind kind stated)
  let _ ← Parameters.ofOptions kind record.current
  return { kind, name := ← record.name, topic, record }

/-- The proxy with a link. -/
def wire (p : RemoteProxy) (link : LinkNumber) : RemoteProxy := { p with link? := some link }

/-- Has the proxy a link? -/
def isWired (p : RemoteProxy) : Bool := p.link?.isSome

/-- The proxy after a write was torn off while the link had it: further writes are refused. -/
def spoil (p : RemoteProxy) : RemoteProxy := { p with spoiled := true }

/-- Refuses to go on where a write was torn off. -/
def checkSound (p : RemoteProxy) : Except FilterError Unit :=
  if p.spoiled then .error .lockPoisoned else .ok ()

/-- The link, which must be there. -/
def link (p : RemoteProxy) : Except FilterError LinkNumber :=
  match p.link? with
  | some link => .ok link
  | none => .error (.notWired p.name)

def value (p : RemoteProxy) (name : String) : Except FilterError OptionValue :=
  match p.record.value? name with
  | some value => .ok value
  | none => .error (.unknownOption p.kind name)

def params (p : RemoteProxy) : Except FilterError Parameters :=
  Parameters.ofOptions p.kind p.record.current

/-- The values with updates laid over them, if the outcome is valid as a whole. -/
def merge (p : RemoteProxy) (updates : List Assignment) : Except FilterError (List Assignment) := do
  let merged ← p.record.merge updates
  let _ ← Parameters.ofOptions p.kind merged
  return merged

/-- The proxy with other values. -/
def withValues (p : RemoteProxy) (values : List Assignment) : RemoteProxy :=
  { p with record := p.record.withValues values }

def prepare (p : RemoteProxy) (updates : List Assignment) : Except FilterError Submission := do
  p.checkSound
  let merged ← p.merge updates
  let link ← p.link
  return ⟨link, p.topic, .setOptions p.name p.kind merged, updates, merged⟩

def prepareAll (p : RemoteProxy) (params : Parameters) : Except FilterError Submission := do
  params.validate
  p.prepare params.toOptions

/-- Settles a write that the device has taken. -/
def settle (p : RemoteProxy) (s : Submission) : RemoteProxy :=
  match p.merge s.updates with
  | .ok values => p.withValues values
  | .error _ => p.withValues s.merged

/-- Takes over what the device reports, as a whole or not at all. -/
def absorb (p : RemoteProxy) (options : List Assignment) :
    Except FilterError (List ChangedOption × RemoteProxy) := do
  let values ← p.merge options
  return (p.record.changed values, p.withValues values)

/-- The question for all values of the filter. -/
def inquire (p : RemoteProxy) : Except FilterError Inquiry := do
  return ⟨← p.link, p.topic, .getOptions p.name p.kind⟩

/-- Takes over the answer to the question. -/
def accept (p : RemoteProxy) (reply : ByteArray) :
    Except FilterError (List ChangedOption × RemoteProxy) := do
  let some report := Json.decodePayload OptionReport.decoder reply
    | throw LinkError.malformed.toFilterError
  if report.filter ≠ p.name then
    throw (.transport s!"reply for '{report.filter}' received by '{p.name}'")
  p.checkSound
  p.absorb report.options

end RemoteProxy

end EmbeddedFilters
