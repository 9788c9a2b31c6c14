import EmbeddedFilters.Workbench.Exchange

/-!
# Filters by name

The operations on filters that are known by a name, and on the subscriptions to their options.
-/

namespace EmbeddedFilters

/-- What identifies a filter. -/
structure FilterSummary where
  name : String
  kind : FilterKind
  deriving DecidableEq, Repr

/-- A filter at a glance. -/
structure FilterInfo where
  summary : FilterSummary
  enabled : Bool
  state : FilterState
  options : List OptionId
  deriving DecidableEq, Repr

def Filter.summary (f : Filter) : FilterSummary := ⟨f.name, f.kind⟩

def Filter.info (f : Filter) : FilterInfo := ⟨f.summary, f.isEnabled, f.state, f.supported⟩

namespace Bench

/-- The filter with a name. -/
def namedFilter (name : String) : Bench Filter := do filter (← filterNumber name)

def letGo (h : FilterHandle) : Bench Unit := if h.owned then destroy h.number else pure ()

/-- Gives a filter a name. What had the name before is let go afterwards. -/
def nameFilter (name : String) (h : FilterHandle) : Bench Unit := do
  let earlier := (← get).names.filters.get? name
  rename fun names => { names with filters := names.filters.put name h }
  earlier.forM letGo

def place (name : String) (f : Filter) : Bench FilterSummary := do
  nameFilter name ⟨← addFilter f, true⟩
  return f.summary

/-- Adds an offline filter, at the defaults of its kind or with given parameters. -/
def placeOffline (name : String) (kind : FilterKind) (title : String)
    (params? : Option Parameters) :
    Bench FilterSummary := do
  match params? with
  | none => place name (.offline (.new kind title))
  | some params => place name (.offline (← ofFilter (OfflineFilter.withParams title params)))

def placeRemote (name : String) (kind : FilterKind) (source : AdvertisementSource)
    (topic : String) : Bench FilterSummary := do
  let a ← advertisement source
  place name (.remote (← ofFilter (RemoteFilter.ofAdvertisement kind a topic)))

def placeDeclared (name : String) (kind : FilterKind) (record topic : String) :
    Bench FilterSummary := do
  let r ← found "state" ((← get).names.records.get? record)
  place name (.remote (← ofFilter (RemoteFilter.declare kind r topic)))

def populate (name : String) : Bench Unit := do
  let n ← filterNumber name
  putFilter n (.remote (← ofFilter (← remoteFilter n).populate))

/-- Takes a name away from its filter. -/
def dropFilter (name : String) : Bench Unit := do
  let h ← found "filter" ((← get).names.filters.get? name)
  rename fun names => { names with filters := names.filters.erase name }
  letGo h

def readBytes (name : String) : Bench ParameterBuffer := do ofFilter (← namedFilter name).bytes

def readParams (name : String) : Bench Parameters := do ofFilter (← namedFilter name).params

/-- The advertisement of a remote filter with its present values. -/
def advertisementOf (name : String) : Bench Advertisement := do
  ofFilter (← remoteFilter (← filterNumber name)).proxy.record.toAdvertisement

def model (name : String) (id : OptionId) : Bench OptionModel := do
  ofFilter ((← namedFilter name).model id)

def readOption (name : String) (id : OptionId) : Bench OptionValue := do
  ofFilter ((← namedFilter name).query id)

def allowOption (name : String) (id : OptionId) (on : Bool) : Bench Unit := do
  let n ← filterNumber name
  let f ← filter n
  let _ ← ofFilter (f.model id)
  putFilter n (f.withOptionEnabled id on)

/-- The parameters of a filter, if it is a temporal one. -/
def temporal? (name : String) : Bench (Option Temporal) := do
  return match ← readParams name with
  | .temporal p => some p
  | .decimation _ => none

/-- The parameters of a filter, if it is a decimation filter. -/
def decimation? (name : String) : Bench (Option Decimation) := do
  return match ← readParams name with
  | .decimation p => some p
  | .temporal _ => none

/-- Writes an option of a temporal filter, and tells whether the filter is one. -/
def writeTemporal (name : String) (id : OptionId) (value : OptionValue) : Bench Bool := do
  let n ← filterNumber name
  if (← filter n).kind = .temporal then
    writeOption n id value
    return true
  else return false

def wire (name link : String) : Bench Unit := do
  let n ← filterNumber name
  let _ ← remoteFilter n
  let link ← linkNumber link
  changeProxy n fun p => p.wire link

/-- Has a remote filter a link? -/
def isWired (name : String) : Bench Bool := do
  return (← remoteFilter (← filterNumber name)).proxy.isWired

def subscribeNamed (name loop topic : String) : Bench Unit := do
  let n ← filterNumber name
  subscribe n (← loopNumber loop) topic

def endWatch (w : Watch) : Bench Unit := do
  let f ← filter w.filter
  putFilter w.filter (f.withWatcher (f.watcher.cancel w.subscription))

/-- Subscribes a listener to an option, and keeps the subscription under a tag. What was kept there
before ends afterwards. -/
def keepWatch (name : String) (id : OptionId) (tag : String) (listener : Listener)
    (mailbox? : Option Nat) : Bench Unit := do
  let n ← filterNumber name
  let f ← filter n
  let _ ← ofFilter (f.model id)
  let (subscription, watcher) ← ofFilter (f.watcher.subscribe id listener)
  putFilter n (f.withWatcher watcher)
  let earlier := (← get).names.watches.get? tag
  rename fun names =>
    { names with watches := names.watches.put tag { filter := n, subscription, mailbox? } }
  earlier.forM endWatch

def onChange (name : String) (id : OptionId) (tag : String) (panics : Bool) : Bench Unit :=
  keepWatch name id tag (.callback tag panics) none

def watch (name : String) (id : OptionId) (tag : String) : Bench Unit := do
  let mailbox ← modifyGet fun w =>
    let (n, mailboxes) := w.mailboxes.add []
    (n, { w with mailboxes })
  keepWatch name id tag (.mailbox mailbox) (some mailbox)

/-- The number and the content of the mailbox kept under a tag. -/
def mailbox (tag : String) : Bench (Nat × List OptionValue) := do
  let w ← found "tag" ((← get).names.watches.get? tag)
  let n ← found "tag" w.mailbox?
  return (n, ← found "tag" ((← get).mailboxes.get? n))

/-- Takes the next value out of a mailbox. -/
def nextValue (tag : String) : Bench (Option OptionValue) := do
  match ← mailbox tag with
  | (_, []) => return none
  | (n, value :: rest) =>
    modify fun w => { w with mailboxes := w.mailboxes.put n rest }
    return some value

def queued (tag : String) : Bench Nat := do return (← mailbox tag).2.length

def cancel (tag : String) : Bench Unit := do
  let w ← found "tag" ((← get).names.watches.get? tag)
  rename fun names => { names with watches := names.watches.erase tag }
  endWatch w

/-- The number of subscribers of an option, and whether the filter announces anything any more. -/
def subscribers (name : String) (id : OptionId) : Bench (Nat × Bool) := do
  let w := (← namedFilter name).watcher
  return (w.count id, w.isClosing)

end Bench

end EmbeddedFilters
