import EmbeddedFilters.Workbench.Exchange

/-!
# Records and proxies by name

The operations on records of filters, and on proxies that stand by themselves.
-/

namespace EmbeddedFilters.Bench

/-- The record with a name. -/
def record (name : String) : Bench FilterRecord := do
  found "state" ((← get).names.records.get? name)

def putRecord (name : String) (r : FilterRecord) : Bench Unit :=
  rename fun names => { names with records := names.records.put name r }

/-- Leaves a record as a change has made it. -/
def leaveRecord (name : String) (changed : Except FilterError Unit × FilterRecord) :
    Bench Unit := do
  putRecord name changed.2
  ofFilter changed.1

/-- Changes the record with a name. -/
def changeRecord (name : String)
    (change : FilterRecord → Except FilterError Unit × FilterRecord) : Bench Unit := do
  leaveRecord name (change (← record name))

/-- Keeps the record of an advertised filter, and gives its values. -/
def recordAdvertised (name : String) (a : Advertisement) : Bench (List Assignment) := do
  let r ← ofFilter (FilterRecord.ofAdvertisement a)
  putRecord name r
  return r.current

/-- Keeps the record of a filter that is advertised in a text, and gives its values. -/
def recordText (name text : String) : Bench (List Assignment) := do
  match Json.decodeText Advertisement.decoder text with
  | some a => recordAdvertised name a
  | none => throw (.filter LinkError.malformed.toFilterError)

/-- Keeps the record of a filter whose advertisement is at hand, and gives its values. -/
def recordSource (name : String) (source : AdvertisementSource) : Bench (List Assignment) := do
  recordAdvertised name (← advertisement source)

/-- Declares the options of a record from a text. -/
def declareText (name text : String) : Bench Unit := do
  let r ← record name
  let list ← ofText (Json.listDecoder Declaration.decoder) text
  leaveRecord name (r.declare list)

/-- States the stream of a record from a text. -/
def streamText (name text : String) : Bench Unit := do
  let r ← record name
  let stream ← ofText Json.valueDecoder text
  leaveRecord name (r.setStream stream)

/-- Replaces the values of a record, and gives those that differ. -/
def replaceValues (name : String) (values : List Assignment) : Bench (List ChangedOption) := do
  let r ← record name
  putRecord name (r.withValues values)
  return r.changed values

/-- The number of the proxy with a name. -/
def proxyNumber (name : String) : Bench Nat := do found "proxy" ((← get).names.proxies.get? name)

/-- The proxy with a number. -/
def proxyAt (n : Nat) : Bench RemoteProxy := do found "proxy" ((← get).proxies.get? n)

/-- The proxy with a name. -/
def proxy (name : String) : Bench RemoteProxy := do proxyAt (← proxyNumber name)

/-- Changes the proxy with a number. -/
def alterProxy (n : Nat) (change : RemoteProxy → RemoteProxy) : Bench Unit :=
  modify fun w => { w with proxies := w.proxies.modify n change }

/-- Adds a proxy for a copy of a record, and gives the name of its filter. -/
def placeProxy (name : String) (kind : FilterKind) (recordName topic : String) : Bench String := do
  let p ← ofFilter (RemoteProxy.new kind (← record recordName) topic)
  let n ← modifyGet fun w =>
    let (n, proxies) := w.proxies.add p
    (n, { w with proxies })
  rename fun names => { names with proxies := names.proxies.put name n }
  return p.name

def wireProxy (name link : String) : Bench Unit := do
  let n ← proxyNumber name
  let link ← linkNumber link
  alterProxy n fun p => p.wire link

def proxySetOption (name option : String) (value : OptionValue) : Bench Unit := do
  let n ← proxyNumber name
  carry (alterProxy n) (← ofFilter ((← proxyAt n).prepare [⟨option, value⟩]))

def proxyApply (name : String) (params : Parameters) : Bench Unit := do
  let n ← proxyNumber name
  carry (alterProxy n) (← ofFilter ((← proxyAt n).prepareAll params))

/-- Leaves a proxy with the values that it has taken over, and gives those that have changed. -/
def absorbed (n : Nat) (outcome : Except FilterError (List ChangedOption × RemoteProxy)) :
    Bench (List ChangedOption) := do
  let (changed, p) ← ofFilter outcome
  alterProxy n fun _ => p
  return changed

/-- Asks the device for all values of the filter behind a proxy. -/
def proxyRefresh (name : String) : Bench (List ChangedOption) := do
  let n ← proxyNumber name
  let i ← ofFilter (← proxyAt n).inquire
  let reply ← exchanged (← query i.link i.topic i.request.payload)
  absorbed n ((← proxyAt n).accept reply)

/-- Has a proxy take over what its device reports. -/
def proxyNotify (name : String) (options : List Assignment) : Bench (List ChangedOption) := do
  let n ← proxyNumber name
  absorbed n ((← proxyAt n).absorb options)

end EmbeddedFilters.Bench
