import EmbeddedFilters.Workbench.Basic

/-!
# Exchanges

How filters on the workbench are written, read back and notified, and what passes over their links
meanwhile. A scripted link may have a filter notified in the middle of an exchange.
-/

namespace EmbeddedFilters.Bench

def tell (d : Delivery) : Bench Unit :=
  match d.listener with
  | .callback label _ => note (.told label d.value)
  | .mailbox n => modify fun w => { w with mailboxes := w.mailboxes.modify n (· ++ [d.value]) }

/-- Leaves a filter as a change has left it, tells the listeners, and gives their number. -/
def announce (n : Nat) (t : Told Filter) : Bench Nat := do
  putFilter n t.state
  t.deliveries.forM tell
  if t.panicked then throw .panic
  return t.deliveries.length

/-- Has a filter take over what its device reports, and gives the number of listeners told. -/
def notify (n : Nat) (options : List Assignment) : Bench Nat := do
  announce n ((← ofFilter ((← remoteFilter n).notify options)).map .remote)

def play {α : Type} (o : ScriptedOutcome α) : Bench (Except LinkError α) := do
  if let some report := o.report? then
    note (.reported (← attempt (do notify (← filterNumber report.filter) report.options)))
  return o.outcome

/-- Sends a message over a link. -/
def send (n : LinkNumber) (topic : String) (payload : ByteArray) :
    Bench (Except LinkError Unit) := do
  match ← link n with
  | .device d =>
    let (outcome, d) := d.send topic payload
    putLink n (.device d)
    return outcome
  | .script s =>
    let (outcome, s) := s.nextSend topic payload
    putLink n (.script s)
    play outcome

/-- Asks a question over a link. -/
def query (n : LinkNumber) (topic : String) (payload : ByteArray) :
    Bench (Except LinkError ByteArray) := do
  match ← link n with
  | .device d =>
    let (outcome, d) := d.query topic payload
    putLink n (.device d)
    return outcome
  | .script s =>
    let (outcome, s) := s.nextQuery topic payload
    putLink n (.script s)
    play outcome

/-- An exchange that failed with the error of its link, as the failure of a filter. -/
def exchanged {α : Type} : Except LinkError α → Bench α
  | .ok a => pure a
  | .error e => throw (.filter e.toFilterError)

/-- Carries a write by an exchange with the device and settles it at the proxy. -/
def carryBy (exchange : Bench (Except LinkError Unit))
    (change : (RemoteProxy → RemoteProxy) → Bench Unit) (s : Submission) : Bench Unit := do
  let outcome ← tryCatch exchange fun fault => do
    if fault matches .panic then change RemoteProxy.spoil
    throw fault
  exchanged outcome
  change fun p => p.settle s

/-- Carries a write over its link. -/
def carry (change : (RemoteProxy → RemoteProxy) → Bench Unit) (s : Submission) : Bench Unit :=
  carryBy (send s.link s.topic s.request.payload) change s

def writeOption (n : Nat) (id : OptionId) (value : OptionValue) : Bench Unit := do
  match ← filter n with
  | .offline f =>
    let _ ← announce n ((← ofFilter (f.setOption id value)).map .offline)
  | .remote f => carry (changeProxy n) (← ofFilter (f.prepareOption id value))

def writeBytes (n : Nat) (bytes : List UInt8) : Bench Unit := do
  match ← filter n with
  | .offline f =>
    let _ ← announce n ((← ofFilter (f.setBytes bytes)).map .offline)
  | .remote f => carry (changeProxy n) (← ofFilter (f.prepareBytes bytes))

def enable (n : Nat) (on : Bool) : Bench Unit := writeOption n .toggle (.ofBool on)

/-- Asks the device for all values of a filter, and gives the number of listeners told. -/
def refresh (n : Nat) : Bench Nat := do
  let i ← ofFilter (← remoteFilter n).inquire
  let reply ← exchanged (← query i.link i.topic i.request.payload)
  announce n ((← ofFilter ((← remoteFilter n).accept reply)).map .remote)

/-- Has reports of a filter delivered by a loop. An earlier route is taken back. -/
def subscribe (n loop : Nat) (topic : String) : Bench Unit := do
  let f ← remoteFilter n
  ofFilter f.ensureLive
  let route ← addRoute loop topic f.name (.filter n)
  putFilter n (.remote { f with route? := some route })
  f.route?.forM dropRoute

def destroy (n : Nat) : Bench Unit := do
  let f ← filter n
  f.route?.forM dropRoute
  putFilter n f.destroy

/-- Restores a filter from settings, and gives the stored flag. What the filter refuses is passed
over. -/
def restore (n : Nat) (s : Settings) (full : String) (default : Bool) : Bench Bool :=
  s.restore full (filter n) (fun id value => do let _ ← attempt (writeOption n id value)) default

/-- Hands a report to a target. -/
def hand (target : Target) (options : List Assignment) : Bench Attempt :=
  match target with
  | .filter n =>
    tryCatch (do let _ ← notify n options; return .accepted) fun
      | .panic => pure .panicked
      | _ => pure .refused
  | .sink n => do
    let some sink := (← get).sinks.get? n | return .refused
    if sink.holds then return .waits
    note (.received sink.label options)
    return if sink.refuses then .refused else .accepted

/-- Can a target still be reached? -/
def isLive : Target → Bench Bool
  | .filter _ => pure true
  | .sink n => do return match (← get).sinks.get? n with
    | some sink => sink.live
    | none => false

def drain (n : Nat) : Bench Unit := do
  let l ← (← loop n).drain isLive hand
  changeLoop n fun _ => l

/-- Publishes a report at the loop with a number, and waits until there is room for it. -/
def post (n : Nat)
    (publish : DeliveryLoop Target → Except LinkError Unit × DeliveryLoop Target) : Bench Unit := do
  let (outcome?, l) ← DeliveryLoop.await isLive hand (publish (← loop n))
  changeLoop n fun _ => l
  match outcome? with
  | some outcome => ofLink outcome
  | none => throw .stalled

/-- Lets the workers of all loops do all that can be done now. -/
def settle : Bench Unit := do (← get).loops.members.entries.forM fun entry => drain entry.1

end EmbeddedFilters.Bench

namespace EmbeddedFilters

/-- Runs an operation and lets the loops come to rest. The calls noted down since they were last
read are read off, unless they are left for later. -/
def Workbench.step {α : Type} (w : Workbench) (act : Bench α) (leave : Bool) :
    Except Fault α × List Call × Workbench :=
  let (result, w) := act.run.run w
  let (_, w) := Bench.settle.run.run w
  if leave then (result, [], w) else (result, w.calls, { w with calls := [] })

end EmbeddedFilters
