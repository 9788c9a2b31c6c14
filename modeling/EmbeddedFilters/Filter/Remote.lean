import EmbeddedFilters.Delivery.Loop
import EmbeddedFilters.Filter.Offline
import EmbeddedFilters.Remote.Proxy

/-!
# Remote filters

A remote filter is used like an offline one, but all its values live on a device, and the filter
holds a proxy for it. Its options can be addressed once it is populated, which happens once. Writes
announce nothing; what the device reports is announced as far as it changes anything.
-/

namespace EmbeddedFilters

/-- A filter whose values live on a device. -/
structure RemoteFilter where
  proxy : RemoteProxy
  models? : Option (List OptionModel) := none
  watcher : Watcher := {}
  destroyed : Bool := false
  route? : Option Route := none

namespace RemoteFilter

/-- The filter for a record, with options that cannot be addressed yet. -/
def declare (kind : FilterKind) (record : FilterRecord) (topic : String) :
    Except FilterError RemoteFilter := do
  return { proxy := ← RemoteProxy.new kind record topic }

def name (f : RemoteFilter) : String := f.proxy.name

def kind (f : RemoteFilter) : FilterKind := f.proxy.kind

def populate (f : RemoteFilter) : Except FilterError RemoteFilter :=
  if f.models?.isSome then .error (.alreadyInitialized f.name "options")
  else .ok { f with models? := some (OptionModel.ofDeclarations f.proxy.record.declarations) }

/-- The filter for an advertisement, populated. -/
def ofAdvertisement (kind : FilterKind) (a : Advertisement) (topic : String) :
    Except FilterError RemoteFilter := do
  (← declare kind (← FilterRecord.ofAdvertisement a) topic).populate

def state (f : RemoteFilter) : FilterState :=
  if f.destroyed then .destroyed else if f.models?.isSome then .populated else .declared

/-- Refuses to go on with a filter that is being torn down. -/
def ensureLive (f : RemoteFilter) : Except FilterError Unit :=
  if f.destroyed then .error (.destroyed f.name) else .ok ()

/-- The models of the options, which must be addressable. -/
def models (f : RemoteFilter) : Except FilterError (List OptionModel) :=
  match f.models? with
  | some models => .ok models
  | none => .error (.notPopulated f.name)

/-- Prepares a write to the option with a number. -/
def prepareOption (f : RemoteFilter) (id : OptionId) (value : OptionValue) :
    Except FilterError Submission := do
  let model ← findModel (← f.models) id
  let value ← model.accept value
  f.ensureLive
  f.proxy.prepare [⟨model.name, value⟩]

def prepareBytes (f : RemoteFilter) (bytes : List UInt8) : Except FilterError Submission := do
  f.ensureLive
  f.proxy.prepareAll (← Parameters.decode f.kind bytes)

/-- Settles a write that the device has taken. -/
def settle (f : RemoteFilter) (s : Submission) : RemoteFilter :=
  { f with proxy := f.proxy.settle s }

/-- Moves to another proxy and announces what has changed. -/
def announce (f : RemoteFilter) (changed : List ChangedOption) (proxy : RemoteProxy) :
    Told RemoteFilter :=
  (f.watcher.announce (changed.filterMap ChangedOption.change?)).map fun watcher =>
    { f with proxy, watcher }

/-- Takes over what the device reports by itself. -/
def notify (f : RemoteFilter) (options : List Assignment) :
    Except FilterError (Told RemoteFilter) := do
  f.ensureLive
  let (changed, proxy) ← f.proxy.absorb options
  return f.announce changed proxy

/-- The question for all values of the filter. -/
def inquire (f : RemoteFilter) : Except FilterError Inquiry := do
  f.ensureLive
  f.proxy.inquire

def accept (f : RemoteFilter) (reply : ByteArray) : Except FilterError (Told RemoteFilter) := do
  let (changed, proxy) ← f.proxy.accept reply
  return f.announce changed proxy

/-- Retracts all subscriptions and gives up the route; later writes fail. -/
def destroy (f : RemoteFilter) : RemoteFilter :=
  { f with destroyed := true, route? := none, watcher := f.watcher.close }

end RemoteFilter

end EmbeddedFilters
