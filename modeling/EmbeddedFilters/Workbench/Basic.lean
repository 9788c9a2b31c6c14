import EmbeddedFilters.Device
import EmbeddedFilters.Device.Script
import EmbeddedFilters.Fault
import EmbeddedFilters.Sensor
import EmbeddedFilters.Table

/-!
# The workbench

On the workbench filters, links, loops and sensors are put together and used under names. Objects
have numbers and names stand for numbers, so an object that has lost its name goes on working for
those that know its number. An operation either gives a result or ends in a fault; what it has done
until then stays done.
-/

namespace EmbeddedFilters

/-- What has been noted down while operations ran: a callback that was told a value, a sink that was
handed a report, or the outcome of a report that a script had made. -/
inductive Call where
  | told (label : String) (value : OptionValue)
  | received (label : String) (options : List Assignment)
  | reported (outcome : Except FilterError Nat)

/-- A link to a device, or one that only plays a device. -/
inductive Link where
  | device (d : Device)
  | script (s : Script)

/-- A receiver of reports that is no filter. It can refuse all of them, or hold them until it is
opened. -/
structure Sink where
  label : String
  refuses : Bool := false
  holds : Bool := false
  live : Bool := true
  deriving DecidableEq, Repr

/-- Where a loop delivers to. -/
inductive Target where
  | filter (number : Nat)
  | sink (number : Nat)
  deriving DecidableEq, Repr

/-- A name's hold on a filter. A filter that the name owns is torn down with the name; others belong
to a sensor. -/
structure FilterHandle where
  number : Nat
  owned : Bool
  deriving DecidableEq, Repr

/-- A name's hold on a subscription, and the mailbox if values are kept for it. -/
structure Watch where
  filter : Nat
  subscription : Subscription
  mailbox? : Option Nat := none
  deriving DecidableEq, Repr

/-- Where an advertisement comes from: a text, or a name under which a device has left it. -/
inductive AdvertisementSource where
  | text (text : String)
  | kept (key : String)
  deriving DecidableEq, Repr

/-- What names stand for. -/
structure Names where
  filters : Table String FilterHandle := {}
  devices : Table String LinkNumber := {}
  scripts : Table String LinkNumber := {}
  loops : Table String Nat := {}
  requests : Table String Nat := {}
  routes : Table String Route := {}
  sinks : Table String Nat := {}
  sensors : Table String Nat := {}
  proxies : Table String Nat := {}
  watches : Table String Watch := {}
  records : Table String FilterRecord := {}
  stores : Table String Settings := {}
  advertisements : Table String Advertisement := {}

/-- All objects with their names, and the calls noted down. -/
structure Workbench where
  filters : Pool Filter := {}
  links : Pool Link := {}
  loops : Pool (DeliveryLoop Target) := {}
  sinks : Pool Sink := {}
  sensors : Pool Sensor := {}
  proxies : Pool RemoteProxy := {}
  mailboxes : Pool (List OptionValue) := {}
  names : Names := {}
  calls : List Call := []

/-- Operations on the workbench. -/
abbrev Bench := ExceptT Fault (StateM Workbench)

namespace Bench

/-- Something that must be there. -/
def found {α : Type} (field : String) : Option α → Bench α
  | some a => pure a
  | none => throw (.noObject field)

/-- A step that may fail with the error of a filter. -/
def ofFilter {α : Type} : Except FilterError α → Bench α
  | .ok a => pure a
  | .error e => throw (.filter e)

/-- A step that may fail with the error of a link. -/
def ofLink {α : Type} : Except LinkError α → Bench α
  | .ok a => pure a
  | .error e => throw (.link e)

/-- A step that may fail with the error of a setting. -/
def ofConfig {α : Type} : Except ConfigError α → Bench α
  | .ok a => pure a
  | .error e => throw (.config e)

def ofText {α : Type} (decoder : Json.Decoder α) (text : String) : Bench α :=
  match Json.decodeText decoder text with
  | some a => pure a
  | none => throw (.link .malformed)

/-- Goes on where an operation has failed with the error of a filter. -/
def attempt {α : Type} (act : Bench α) : Bench (Except FilterError α) :=
  tryCatch (act.map .ok) fun
    | .filter e => pure (.error e)
    | fault => throw fault

def rename (change : Names → Names) : Bench Unit :=
  modify fun w => { w with names := change w.names }

def note (c : Call) : Bench Unit := modify fun w => { w with calls := w.calls ++ [c] }

/-- The advertisement from a source. -/
def advertisement : AdvertisementSource → Bench Advertisement
  | .text text => ofText Advertisement.decoder text
  | .kept key => do found "props" ((← get).names.advertisements.get? key)

/-- The number of the filter with a name. -/
def filterNumber (name : String) : Bench Nat := do
  return (← found "filter" ((← get).names.filters.get? name)).number

/-- The filter with a number. -/
def filter (n : Nat) : Bench Filter := do found "filter" ((← get).filters.get? n)

/-- Replaces the filter with a number. -/
def putFilter (n : Nat) (f : Filter) : Bench Unit :=
  modify fun w => { w with filters := w.filters.put n f }

/-- The remote filter with a number. -/
def remoteFilter (n : Nat) : Bench RemoteFilter := do
  match ← filter n with
  | .remote f => return f
  | .offline _ => throw (.noObject "filter")

def changeProxy (n : Nat) (change : RemoteProxy → RemoteProxy) : Bench Unit := do
  let f ← remoteFilter n
  putFilter n (.remote { f with proxy := change f.proxy })

def addFilter (f : Filter) : Bench Nat :=
  modifyGet fun w =>
    let (n, filters) := w.filters.add f
    (n, { w with filters })

/-- The link with a number. -/
def link (n : LinkNumber) : Bench Link := do found "transport" ((← get).links.get? n)

/-- Replaces the link with a number. -/
def putLink (n : LinkNumber) (l : Link) : Bench Unit :=
  modify fun w => { w with links := w.links.put n l }

def addLink (l : Link) : Bench LinkNumber :=
  modifyGet fun w =>
    let (n, links) := w.links.add l
    (n, { w with links })

/-- The number of the link with a name, which is that of a device or of a script. -/
def linkNumber (name : String) : Bench LinkNumber := do
  let names := (← get).names
  found "transport" ((names.devices.get? name).or (names.scripts.get? name))

/-- The number of the loop with a name. -/
def loopNumber (name : String) : Bench Nat := do found "loop" ((← get).names.loops.get? name)

/-- The loop with a number. -/
def loop (n : Nat) : Bench (DeliveryLoop Target) := do found "loop" ((← get).loops.get? n)

/-- Changes the loop with a number. -/
def changeLoop (n : Nat) (change : DeliveryLoop Target → DeliveryLoop Target) : Bench Unit :=
  modify fun w => { w with loops := w.loops.modify n change }

def addRoute (n : Nat) (topic filter : String) (target : Target) : Bench Route := do
  let (token, l) := (← loop n).addRoute topic filter target
  changeLoop n fun _ => l
  return ⟨n, token⟩

def dropRoute (r : Route) : Bench Unit := changeLoop r.loop fun l => l.dropRoute r.token

end Bench

end EmbeddedFilters
