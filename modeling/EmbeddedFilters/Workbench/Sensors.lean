import EmbeddedFilters.Workbench.Filters
import EmbeddedFilters.Workbench.Links

/-!
# Sensors and settings by name

The operations on sensors, and on the settings that filters and sensors are saved to.
-/

namespace EmbeddedFilters.Bench

/-- The settings with a name. -/
def store (name : String) : Bench Settings := do found "store" ((← get).names.stores.get? name)

def putStore (name : String) (s : Settings) : Bench Unit :=
  rename fun names => { names with stores := names.stores.put name s }

/-- Saves a filter, and gives the number of options saved. -/
def saveFilter (n : Nat) (storeName full : String) (enabled : Bool) : Bench Nat := do
  let (outcome, s) := (← store storeName).save full (← filter n) enabled
  putStore storeName s
  ofFilter outcome

/-- Saves the filter with a name. -/
def saveNamed (name storeName full : String) (enabled : Bool) : Bench Nat := do
  saveFilter (← filterNumber name) storeName full enabled

/-- Restores the filter with a name, and gives the stored flag. -/
def restoreNamed (name storeName full : String) (default : Bool) : Bench Bool := do
  let n ← filterNumber name
  restore n (← store storeName) full default

/-- The number of the sensor with a name. -/
def sensorNumber (name : String) : Bench Nat := do found "sensor" ((← get).names.sensors.get? name)

/-- The sensor with a number. -/
def sensorAt (n : Nat) : Bench Sensor := do found "sensor" ((← get).sensors.get? n)

/-- The sensor with a name. -/
def sensor (name : String) : Bench Sensor := do sensorAt (← sensorNumber name)

def remoteSlots (s : Sensor) : List Nat := if s.offline then [] else s.slots.map (·.filter)

def wireSensor (n : Nat) (link : LinkNumber) : Bench Unit := do
  (remoteSlots (← sensorAt n)).forM fun f => changeProxy f fun p => p.wire link

/-- Has reports of all remote filters of a sensor delivered by a loop. The first loop that a sensor
with remote filters is attached to is requested and held. -/
def attachSensor (n loop : Nat) : Bench Unit := do
  let s ← sensorAt n
  (remoteSlots s).forM fun f => subscribe f loop s.config.notificationTopic
  if !(remoteSlots s).isEmpty && s.loop?.isNone then
    changeLoop loop DeliveryLoop.acquire
    modify fun w => { w with sensors := w.sensors.put n { s with loop? := some loop } }

/-- Tears a sensor down: first its filters, then its hold on a loop. -/
def endSensor (n : Nat) : Bench Unit := do
  let s ← sensorAt n
  s.slots.forM fun slot => destroy slot.filter
  s.loop?.forM fun l => changeLoop l DeliveryLoop.release
  modify fun w => { w with sensors := w.sensors.erase n }

/-- Builds a sensor from advertisements, with a link and a loop if they are given. -/
def buildSensor (name title : String) (config : LinkConfig) (sources : List AdvertisementSource)
    (linkName? loopName? : Option String) : Bench Sensor := do
  let list ← sources.mapM advertisement
  let link? ← linkName?.mapM linkNumber
  let loop? ← loopName?.mapM loopNumber
  ofConfig config.validate
  let offline := Sensor.fallsBack config link?.isSome
  let filters ← ofFilter (Sensor.filtersFor offline config.controlTopic list [])
  let slots ← filters.mapM fun f => do return { kind := f.kind, filter := ← addFilter f }
  let s : Sensor := { name := title, config, offline, slots }
  let n ← modifyGet fun w =>
    let (n, sensors) := w.sensors.add s
    (n, { w with sensors })
  link?.forM (wireSensor n)
  loop?.forM (attachSensor n)
  let earlier := (← get).names.sensors.get? name
  rename fun names => { names with sensors := names.sensors.put name n }
  earlier.forM endSensor
  return s

/-- Has a sensor with a name torn down. -/
def dropSensor (name : String) : Bench Unit := do
  let n ← sensorNumber name
  rename fun names => { names with sensors := names.sensors.erase name }
  endSensor n

def nameSensorFilter (name : String) (kind : FilterKind) (filterName : String) :
    Bench FilterSummary := do
  let slot ← ofFilter ((← sensor name).slot kind)
  nameFilter filterName ⟨slot.filter, false⟩
  return (← filter slot.filter).summary

/-- The filters of a sensor, each with its full name. -/
def querySensor (name : String) : Bench (List (FilterSummary × String)) := do
  let s ← sensor name
  s.slots.mapM fun slot => do
    let f ← filter slot.filter
    return (f.summary, s.fullName f.name)

def writeSensorBytes (name : String) (kind : FilterKind) (bytes : List UInt8) : Bench Unit := do
  writeBytes (← ofFilter ((← sensor name).slot kind)).filter bytes

def readSensorBytes (name : String) (kind : FilterKind) : Bench ParameterBuffer := do
  ofFilter (← filter (← ofFilter ((← sensor name).slot kind)).filter).bytes

/-- Asks the device for all values of a sensor's remote filters, and gives the number of listeners
told. -/
def refreshSensor (name : String) : Bench Nat := do
  (remoteSlots (← sensor name)).foldlM (fun count f => do return count + (← refresh f)) 0

/-- Saves all filters of a sensor, and gives the number of options saved. -/
def saveSensor (name storeName : String) : Bench Nat := do
  let s ← sensor name
  let _ ← store storeName
  s.slots.foldlM (fun count slot => do
    let f ← filter slot.filter
    return count + (← saveFilter slot.filter storeName (s.fullName f.name) f.isEnabled)) 0

/-- Restores all filters of a sensor. A filter whose stored flag differs is switched. -/
def restoreSensor (name storeName : String) : Bench Unit := do
  let s ← sensor name
  let settings ← store storeName
  s.slots.forM fun slot => do
    let f ← filter slot.filter
    let enabled ← restore slot.filter settings (s.fullName f.name) f.isEnabled
    if enabled != f.isEnabled then enable slot.filter enabled

end EmbeddedFilters.Bench
