import EmbeddedFilters.Parameters
import EmbeddedFilters.Wire.Link
import EmbeddedFilters.Wire.Message

/-!
# Devices

A device keeps the values of its filters, takes complete and valid updates on its control topic,
answers questions there, and may change values by itself and report the change. Its link can be cut,
and it can be told to reject all updates.
-/

namespace EmbeddedFilters

open Json

/-- A filter as the device holds it. -/
structure HostedFilter where
  kind : FilterKind
  values : List Assignment

/-- A device with its link. -/
structure Device where
  controlTopic : String
  notificationTopic : String
  filters : List (String × HostedFilter) := []
  connected : Bool := true
  rejection? : Option String := none
  requests : List ControlRequest := []
  statistics : LinkStatistics := {}
  loop? : Option Nat := none

/-- A report on its way from a device to a loop. -/
structure Posting where
  loop : Nat
  topic : String
  payload : ByteArray

namespace Device

def ofConfig (config : LinkConfig) : Device where
  controlTopic := config.controlTopic
  notificationTopic := config.notificationTopic

/-- The filter with a name. -/
def filter? (d : Device) (name : String) : Option HostedFilter :=
  (d.filters.find? fun f => f.1 == name).map (·.2)

/-- The device with a filter under a name. -/
def withFilter (d : Device) (name : String) (filter : HostedFilter) : Device :=
  { d with filters := (name, filter) :: d.filters.filter fun f => f.1 != name }

def values? (d : Device) (name : String) : Option (List Assignment) :=
  (d.filter? name).map (·.values)

/-- What the device says of the stream its filters work on. -/
def stream : Value := .object [("index", .integer 0), ("stream", .string "depth")]

def advertise (d : Device) (kind : FilterKind) (name : String) : Advertisement × Device :=
  let options := Parameters.declarations kind
  let values := options.map Declaration.assignment
  ({ name, kind, options, stream, current := values }, d.withFilter name ⟨kind, values⟩)

/-- Lays values over those of a filter, one after another. -/
def overlay (kind : FilterKind) (values options : List Assignment) :
    Except FilterError (List Assignment) :=
  options.foldlM (fun list a => Assignment.overlay kind a.name a.value list) values

/-- The values of a filter after a change by the device itself, if they are valid. -/
def changed (d : Device) (name : String) (options : List Assignment) :
    Except LinkError HostedFilter :=
  match d.filter? name with
  | none => .error (.protocol s!"no filter '{name}'")
  | some filter =>
    let outcome : Except FilterError (List Assignment) := do
      let values ← overlay filter.kind filter.values options
      let _ ← Parameters.ofOptions filter.kind values
      return values
    match outcome with
    | .ok values => .ok { filter with values }
    | .error e => .error (.protocol e.message)

/-- Changes a filter on the side of the device. The report of the change needs a loop to go to. -/
def push (d : Device) (name : String) (options : List Assignment) :
    Except LinkError Posting × Device :=
  match d.changed name options with
  | .error e => (.error e, d)
  | .ok filter =>
    let d := d.withFilter name filter
    match d.loop? with
    | none => (.error .notConnected, d)
    | some loop =>
      (.ok ⟨loop, d.notificationTopic, OptionReport.payload ⟨name, options⟩⟩,
        { d with statistics := { d.statistics with reports := d.statistics.reports + 1 } })

/-- Reads a request that has arrived on a topic, and remembers it. -/
def receive (d : Device) (topic : String) (payload : ByteArray) :
    Except LinkError ControlRequest × Device :=
  if !d.connected then (.error .notConnected, d)
  else if topic ≠ d.controlTopic then (.error (.protocol s!"unexpected topic {topic}"), d)
  else
    match decodePayload ControlRequest.decoder payload with
    | none => (.error .malformed, d)
    | some request => (.ok request, { d with requests := d.requests ++ [request] })

/-- Replaces all values of a filter, if they are complete and valid. -/
def update (d : Device) (name : String) (kind : FilterKind) (options : List Assignment) :
    Except LinkError Unit × Device :=
  match d.rejection? with
  | some reason => (.error (.rejected reason), d)
  | none =>
    match Parameters.ofOptions kind options with
    | .error e => (.error (.rejected e.message), d)
    | .ok _ =>
      match d.filter? name with
      | some filter =>
        if filter.kind = kind then (.ok (), d.withFilter name { filter with values := options })
        else (.error (.rejected s!"no {kind.name} filter named '{name}'"), d)
      | none => (.error (.rejected s!"no {kind.name} filter named '{name}'"), d)

def handle (d : Device) : ControlRequest → Except LinkError Unit × Device
  | .setOptions name kind options => d.update name kind options
  | .getOptions _ _ => (.error (.protocol "get_options must be sent as a query"), d)

/-- Takes a message. Its outcome is counted. -/
def send (d : Device) (topic : String) (payload : ByteArray) : Except LinkError Unit × Device :=
  let (outcome, d) :=
    match d.receive topic payload with
    | (.ok request, d) => d.handle request
    | (.error e, d) => (.error e, d)
  (outcome, { d with statistics := d.statistics.record payload.size outcome })

/-- Answers a question. Only an answer is counted. -/
def query (d : Device) (topic : String) (payload : ByteArray) :
    Except LinkError ByteArray × Device :=
  match d.receive topic payload with
  | (.error e, d) => (.error e, d)
  | (.ok (.setOptions ..), d) => (.error (.protocol "query expects get_options"), d)
  | (.ok (.getOptions name _), d) =>
    match d.values? name with
    | none => (.error (.rejected s!"no filter '{name}'"), d)
    | some options =>
      (.ok (OptionReport.payload ⟨name, options⟩),
        { d with statistics := d.statistics.recordSent payload.size })

end Device

end EmbeddedFilters
