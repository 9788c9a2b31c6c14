import EmbeddedFilters.Capability.Registry
import EmbeddedFilters.Sensor

/-!
# Standard capabilities

The capabilities of filters and sensors, and two of plain shapes that show how a registry works with
any objects.
-/

namespace EmbeddedFilters

/-- What an object may be able to do. -/
inductive Capability where
  | area
  | label
  | decimation
  | temporal
  | sensorAccess
  | queryFilters
  | getFilters
  | supportedFilters
  deriving DecidableEq, Repr

namespace Capability

/-- All capabilities, in their fixed order. -/
def all : List Capability :=
  [.area, .label, .decimation, .temporal, .sensorAccess, .queryFilters, .getFilters,
    .supportedFilters]

/-- The name of a capability. -/
def name : Capability → String
  | .area => "area"
  | .label => "label"
  | .decimation => "decimation filter"
  | .temporal => "temporal filter"
  | .sensorAccess => "embedded filter sensor"
  | .queryFilters => "query embedded filters"
  | .getFilters => "get embedded filters"
  | .supportedFilters => "supported embedded filters"

end Capability

/-- The kinds of objects. -/
inductive AssetKind where
  | square
  | circle
  | number
  | offlineFilter (kind : FilterKind)
  | remoteFilter (kind : FilterKind)
  | sensor
  deriving DecidableEq, Repr

/-- The objects of a kind. Of a square its side is known. -/
abbrev AssetKind.Object : AssetKind → Type
  | .square => Int
  | .circle => Unit
  | .number => Int
  | .offlineFilter kind => { f : OfflineFilter // f.kind = kind }
  | .remoteFilter kind => { f : RemoteFilter // f.kind = kind }
  | .sensor => Sensor

/-- An object that can be asked for capabilities. -/
abbrev Asset := Tagged AssetKind.Object

/-- What an object answers. -/
inductive Answer where
  | whole (i : Int)
  | text (s : String)
  | flags (decimation temporal : Bool)
  | kinds (kinds : List FilterKind)
  deriving DecidableEq, Repr

namespace Asset

def square (side : Int) : Asset := ⟨.square, side⟩

def circle : Asset := ⟨.circle, ()⟩

def number (value : Int) : Asset := ⟨.number, value⟩

def filter : Filter → Asset
  | .offline f => ⟨.offlineFilter f.kind, f, rfl⟩
  | .remote f => ⟨.remoteFilter f.kind, f, rfl⟩

def sensor (s : Sensor) : Asset := ⟨.sensor, s⟩

end Asset

/-- A registry of assets. -/
abbrev AssetRegistry := CapabilityRegistry AssetKind.Object fun _ : Capability => Answer

/-- A way for assets of a kind to provide a capability. -/
abbrev AssetEntry := CapabilityEntry AssetKind.Object fun _ : Capability => Answer

namespace AssetRegistry

/-- A registry without entries. -/
def empty : AssetRegistry := {}

def squareArea : AssetEntry := ⟨.square, .area, fun side => some (.whole (side * side))⟩

/-- Squares have an area, unless it is zero. -/
def squarePositiveArea : AssetEntry :=
  ⟨.square, .area, fun side => if 0 < side then some (.whole (side * side)) else none⟩

def squareLabel : AssetEntry := ⟨.square, .label, fun side => some (.text s!"square {side}")⟩

def circleLabel : AssetEntry := ⟨.circle, .label, fun _ => some (.text "circle")⟩

/-- The factor of a decimation filter. -/
def magnitude? (f : Filter) : Option Answer :=
  match f.params with
  | .ok (.decimation p) => some (.whole p.magnitude.toNat)
  | _ => none

/-- The threshold of a temporal filter. -/
def delta? (f : Filter) : Option Answer :=
  match f.params with
  | .ok (.temporal p) => some (.whole p.delta.toInt)
  | _ => none

/-- The capabilities of offline filters. -/
def offlineFilters : List AssetEntry :=
  [⟨.offlineFilter .decimation, .decimation, fun f => magnitude? (.offline f.1)⟩,
    ⟨.offlineFilter .temporal, .temporal, fun f => delta? (.offline f.1)⟩]

def remoteFilters : List AssetEntry :=
  [⟨.remoteFilter .decimation, .decimation, fun f => magnitude? (.remote f.1)⟩,
    ⟨.remoteFilter .temporal, .temporal, fun f => delta? (.remote f.1)⟩]

/-- Does a sensor offer decimation, and temporal filters? -/
def filterFlags (s : Sensor) : Answer := .flags (s.supports .decimation) (s.supports .temporal)

def sensors : List AssetEntry :=
  [⟨.sensor, .sensorAccess, fun s => some (filterFlags s)⟩,
    ⟨.sensor, .queryFilters, fun s => some (.whole s.slots.length)⟩,
    ⟨.sensor, .getFilters, fun s => some (filterFlags s)⟩,
    ⟨.sensor, .supportedFilters, fun s => some (.kinds s.supported)⟩]

def standard : List AssetEntry := offlineFilters ++ remoteFilters ++ sensors

/-- A registry with the standard capabilities, as far as they can be registered. -/
def loaded (r : AssetRegistry) : AssetRegistry := (r.registerAll standard).2

end AssetRegistry

end EmbeddedFilters
