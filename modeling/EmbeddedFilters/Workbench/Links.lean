import EmbeddedFilters.Workbench.Exchange

/-!
# Devices, scripts and loops by name

The operations on the far side of filters: devices and scripted links, and the loops that deliver
their reports.
-/

namespace EmbeddedFilters

/-- A loop at a glance. -/
structure LoopInfo where
  running : Bool
  requesters : Nat
  delivered : Nat
  dropped : Nat
  deriving DecidableEq, Repr

def DeliveryLoop.info {τ : Type} (l : DeliveryLoop τ) : LoopInfo :=
  ⟨l.running, l.requesters, l.delivered, l.dropped⟩

namespace Bench

def placeDevice (name : String) (config : LinkConfig) : Bench Unit := do
  let n ← addLink (.device (.ofConfig config))
  rename fun names => { names with devices := names.devices.put name n }

/-- The number of the device with a name, and the device. -/
def device (name : String) : Bench (LinkNumber × Device) := do
  let n ← found "device" ((← get).names.devices.get? name)
  match ← link n with
  | .device d => return (n, d)
  | .script _ => throw (.noObject "device")

/-- Changes the device with a name. -/
def changeDevice (name : String) (change : Device → Device) : Bench Unit := do
  let (n, d) ← device name
  putLink n (.device (change d))

/-- Has a device advertise a filter, and keeps the advertisement under a name. -/
def advertise (name : String) (kind : FilterKind) (title key : String) : Bench Advertisement := do
  let (n, d) ← device name
  let (a, d) := d.advertise kind title
  putLink n (.device d)
  rename fun names => { names with advertisements := names.advertisements.put key a }
  return a

def connectDevice (name loop : String) : Bench Unit := do
  let _ ← device name
  let l ← loopNumber loop
  changeDevice name fun d => { d with loop? := some l }

/-- Has a device change values by itself. The report of the change goes to its loop. -/
def push (name filter : String) (options : List Assignment) : Bench Unit := do
  let (n, d) ← device name
  let (outcome, d) := d.push filter options
  putLink n (.device d)
  let posting ← ofLink outcome
  post posting.loop fun l => l.receive posting.topic posting.payload

def sendToDevice (name topic : String) (payload : ByteArray) : Bench Unit := do
  let (n, _) ← device name
  ofLink (← send n topic payload)

def queryDevice (name topic : String) (payload : ByteArray) : Bench ByteArray := do
  let (n, _) ← device name
  ofLink (← query n topic payload)

def placeScript (name : String) (s : Script) : Bench Unit := do
  let n ← addLink (.script s)
  rename fun names => { names with scripts := names.scripts.put name n }

/-- What has come by at a script since the last look. -/
def lookAtScript (name : String) : Bench (List Sighting) := do
  let n ← found "transport" ((← get).names.scripts.get? name)
  match ← link n with
  | .script s =>
    let (seen, s) := s.look
    putLink n (.script s)
    return seen
  | .device _ => throw (.noObject "transport")

/-- Adds a loop as settings ask for it. -/
def placeLoop (name : String) (config : LinkConfig) : Bench Unit := do
  let n ← modifyGet fun w =>
    let (n, loops) := w.loops.add (.ofConfig config)
    (n, { w with loops })
  rename fun names => { names with loops := names.loops.put name n }

/-- Requests a loop, and keeps the request under a tag. What was kept there before ends
afterwards. -/
def acquireLoop (name tag : String) : Bench Unit := do
  let n ← loopNumber name
  changeLoop n DeliveryLoop.acquire
  let earlier := (← get).names.requests.get? tag
  rename fun names => { names with requests := names.requests.put tag n }
  earlier.forM fun n => changeLoop n DeliveryLoop.release

def releaseLoop (tag : String) : Bench Unit := do
  let n ← found "tag" ((← get).names.requests.get? tag)
  rename fun names => { names with requests := names.requests.erase tag }
  changeLoop n DeliveryLoop.release

/-- The number of the sink kept under a tag, which is added if there is none. -/
def sinkNumber (tag : String) (refuses holds : Bool) : Bench Nat := do
  match (← get).names.sinks.get? tag with
  | some n => return n
  | none =>
    let n ← modifyGet fun w =>
      let (n, sinks) := w.sinks.add { label := tag, refuses, holds }
      (n, { w with sinks })
    rename fun names => { names with sinks := names.sinks.put tag n }
    return n

/-- Routes reports of a filter to a sink, and keeps the route under a name. What was kept there
before is taken back afterwards. -/
def routeToSink (name topic filter tag key : String) (refuses holds : Bool) : Bench Unit := do
  let l ← loopNumber name
  let route ← addRoute l topic filter (.sink (← sinkNumber tag refuses holds))
  let earlier := (← get).names.routes.get? key
  rename fun names => { names with routes := names.routes.put key route }
  earlier.forM dropRoute

def dropNamedRoute (key : String) : Bench Unit := do
  let route ← found "tag" ((← get).names.routes.get? key)
  rename fun names => { names with routes := names.routes.erase key }
  dropRoute route

/-- Drops a sink; its routes lead nowhere from then on. -/
def dropSink (tag : String) : Bench Unit := do
  let n ← found "tag" ((← get).names.sinks.get? tag)
  rename fun names => { names with sinks := names.sinks.erase tag }
  modify fun w => { w with sinks := w.sinks.modify n fun s => { s with live := false } }

def openSink (tag : String) : Bench Unit := do
  let n ← found "tag" ((← get).names.sinks.get? tag)
  modify fun w => { w with sinks := w.sinks.modify n fun s => { s with holds := false } }

/-- Publishes reports one after another, and stops at the first that is refused. -/
def publish (name topic filter : String) (messages : List (List Assignment)) : Bench Unit := do
  let n ← loopNumber name
  messages.forM fun options => post n fun l => l.publish topic ⟨filter, options⟩

def deliver (name topic : String) (payload : ByteArray) : Bench Unit := do
  let n ← loopNumber name
  post n fun l => l.receive topic payload

end Bench

end EmbeddedFilters
