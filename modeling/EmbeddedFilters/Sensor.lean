import EmbeddedFilters.Settings

/-!
# Sensors

A sensor offers the filters that its device has advertised, at most one of each kind. Which sort of
filter stands behind an advertisement is decided when the sensor is built: without a link, and only
where the settings allow it, offline filters take the place of remote ones.
-/

namespace EmbeddedFilters

/-- A filter of a sensor, by its number. -/
structure SensorSlot where
  kind : FilterKind
  filter : Nat
  deriving DecidableEq, Repr

/-- A sensor with its filters and the loop that it holds open. -/
structure Sensor where
  name : String
  config : LinkConfig
  offline : Bool
  slots : List SensorSlot := []
  loop? : Option Nat := none

namespace Sensor

/-- The kinds of filters on offer, in the order of their advertisement. -/
def supported (s : Sensor) : List FilterKind := s.slots.map (·.kind)

/-- Is there a filter of a kind? -/
def supports (s : Sensor) (kind : FilterKind) : Bool := s.supported.contains kind

def slot (s : Sensor) (kind : FilterKind) : Except FilterError SensorSlot :=
  match s.slots.find? fun slot => slot.kind == kind with
  | some slot => .ok slot
  | none => .error (.unsupported kind)

/-- The name of a filter with the name of its sensor before it. -/
def fullName (s : Sensor) (filter : String) : String := s.name ++ "." ++ filter

/-- The offline filter that stands in for an advertised one. -/
def offlineFilter (a : Advertisement) : Except FilterError OfflineFilter := do
  let record ← FilterRecord.ofAdvertisement a
  OfflineFilter.withParams (← record.name)
    (← Parameters.ofOptions (← record.kind) record.current)

def filterFor (offline : Bool) (topic : String) (a : Advertisement) : Except FilterError Filter :=
  if offline then (offlineFilter a).map .offline
  else (RemoteFilter.ofAdvertisement a.kind a topic).map .remote

/-- The filters for advertisements, after those that have been built. -/
def filtersFor (offline : Bool) (topic : String) :
    List Advertisement → List Filter → Except FilterError (List Filter)
  | [], built => .ok built
  | a :: rest, built => do
    if built.any fun f => f.kind == a.kind then throw (.alreadyInitialized a.name "filter type")
    filtersFor offline topic rest (built ++ [← filterFor offline topic a])

/-- Do offline filters take the place of remote ones? -/
def fallsBack (config : LinkConfig) (linked : Bool) : Bool := !linked && config.offlineFallback

/-- Has the sensor offline filters? -/
def isOffline (s : Sensor) : Bool := s.offline && !s.slots.isEmpty

end Sensor

end EmbeddedFilters
