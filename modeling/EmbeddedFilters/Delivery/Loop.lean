import EmbeddedFilters.Wire.Link
import EmbeddedFilters.Wire.Message

/-!
# Delivery loops

Reports that nobody asked for go into the queue of a loop, and a worker hands each of them to all
targets routed for its topic and filter, in the order of their routes. The loop runs while anybody
requests it, and refuses reports otherwise; what has been queued when the last request ends is still
delivered. The queue has room for so many reports only, and whoever publishes one more waits until
the worker has made room. A target may keep the worker waiting, and one that fails badly takes the
worker down with it until the loop is started again.
-/

namespace EmbeddedFilters

/-- Where the reports of a filter on a topic go. -/
structure RouteEntry (τ : Type) where
  token : Nat
  topic : String
  filter : String
  target : τ

/-- A report on its way. -/
structure Parcel where
  topic : String
  report : OptionReport

/-- What became of handing a report to a target. -/
inductive Attempt where
  | waits
  | accepted
  | refused
  | panicked
  deriving DecidableEq, Repr

/-- A queue of reports with routes to targets `τ`. Reports stand in the order of publication: as
many as the capacity says are in the queue itself, and the publishers of the others wait for
room. -/
structure DeliveryLoop (τ : Type) where
  capacity : Nat := ({} : LinkConfig).capacity
  capacity_pos : 0 < capacity := by decide
  routes : List (RouteEntry τ) := []
  nextToken : Nat := 0
  requesters : Nat := 0
  running : Bool := false
  working : Bool := false
  queue : List Parcel := []
  inFlight : List (τ × List Assignment) := []
  delivered : Nat := 0
  dropped : Nat := 0

namespace DeliveryLoop

variable {τ : Type}

/-- A loop as settings ask for it, with room for one report at least. -/
def ofConfig (c : LinkConfig) : DeliveryLoop τ where
  capacity := max c.capacity 1
  capacity_pos := by omega

/-- Does the publisher of the last report wait for room? -/
def isCrowded (l : DeliveryLoop τ) : Bool := l.capacity < l.queue.length

/-- Adds a requester; the first one starts a worker. -/
def acquire (l : DeliveryLoop τ) : DeliveryLoop τ :=
  if l.requesters = 0 then { l with requesters := 1, running := true, working := true }
  else { l with requesters := l.requesters + 1 }

/-- Removes a requester; with the last one the loop stops taking reports. -/
def release (l : DeliveryLoop τ) : DeliveryLoop τ :=
  let requesters := l.requesters - 1
  { l with requesters, running := l.running && requesters ≠ 0 }

def addRoute (l : DeliveryLoop τ) (topic filter : String) (target : τ) : Nat × DeliveryLoop τ :=
  (l.nextToken,
    { l with
      routes := l.routes ++ [⟨l.nextToken, topic, filter, target⟩]
      nextToken := l.nextToken + 1 })

def dropRoute (l : DeliveryLoop τ) (token : Nat) : DeliveryLoop τ :=
  { l with routes := l.routes.filter fun r => r.token ≠ token }

/-- The targets of a filter on a topic, in the order of their routes. -/
def targets (l : DeliveryLoop τ) (topic filter : String) : List τ :=
  (l.routes.filter fun r => r.topic == topic && r.filter == filter).map (·.target)

/-- Queues a report behind the others, if the loop is running. -/
def publish (l : DeliveryLoop τ) (topic : String) (report : OptionReport) :
    Except LinkError Unit × DeliveryLoop τ :=
  if l.running then (.ok (), { l with queue := l.queue ++ [⟨topic, report⟩] })
  else (.error .notConnected, { l with dropped := l.dropped + 1 })

def receive (l : DeliveryLoop τ) (topic : String) (payload : ByteArray) :
    Except LinkError Unit × DeliveryLoop τ :=
  match Json.decodePayload OptionReport.decoder payload with
  | some report => l.publish topic report
  | none => (.error .malformed, l)

section Worker

variable {m : Type → Type} [Monad m]

/-- Hands out what is in flight, until a target waits or fails badly. -/
def handOut (hand : τ → List Assignment → m Attempt) :
    List (τ × List Assignment) → DeliveryLoop τ → m (DeliveryLoop τ)
  | [], l => pure { l with inFlight := [] }
  | (target, options) :: rest, l => do
    match ← hand target options with
    | .waits => pure { l with inFlight := (target, options) :: rest }
    | .accepted => handOut hand rest { l with delivered := l.delivered + 1 }
    | .refused => handOut hand rest { l with dropped := l.dropped + 1 }
    | .panicked => pure { l with inFlight := [], working := false }

/-- Takes reports off the queue as long as nothing stays in flight. A report without a live target
is dropped. -/
def takeOff (live : τ → m Bool) (hand : τ → List Assignment → m Attempt) :
    List Parcel → DeliveryLoop τ → m (DeliveryLoop τ)
  | [], l => pure { l with queue := [] }
  | parcel :: rest, l => do
    if l.working && l.inFlight.isEmpty then
      let targets ← (l.targets parcel.topic parcel.report.filter).filterM live
      if targets.isEmpty then takeOff live hand rest { l with dropped := l.dropped + 1 }
      else
        takeOff live hand rest
          (← handOut hand (targets.map fun target => (target, parcel.report.options)) l)
    else pure { l with queue := parcel :: rest }

def drain (live : τ → m Bool) (hand : τ → List Assignment → m Attempt) (l : DeliveryLoop τ) :
    m (DeliveryLoop τ) := do
  let l ← if l.working then handOut hand l.inFlight l else pure l
  takeOff live hand l.queue l

/-- What comes of a report that has been published. Where there is no room for it, its publisher
waits for the worker, and if the worker makes no room either, nothing ever comes of it. -/
def await (live : τ → m Bool) (hand : τ → List Assignment → m Attempt) :
    Except LinkError Unit × DeliveryLoop τ → m (Option (Except LinkError Unit) × DeliveryLoop τ)
  | (.error e, l) => pure (some (.error e), l)
  | (.ok (), l) =>
    if l.isCrowded then do
      let l ← l.drain live hand
      return (if l.isCrowded then none else some (.ok ()), l)
    else pure (some (.ok ()), l)

end Worker

end DeliveryLoop

/-- A route that can be taken back. -/
structure Route where
  loop : Nat
  token : Nat
  deriving DecidableEq, Repr

end EmbeddedFilters
