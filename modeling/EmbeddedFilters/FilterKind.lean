/-!
# Kinds of embedded filters

A device runs two kinds of filters on its depth frames: decimation and temporal smoothing. The kind
fixes the names of a filter's options, their order on the wire, and the length of its parameter
buffer.
-/

namespace EmbeddedFilters

/-- The kinds of filters a device can run. -/
inductive FilterKind where
  | decimation
  | temporal
  deriving DecidableEq, Repr

namespace FilterKind

/-- All kinds, in their fixed order. -/
def all : List FilterKind := [.decimation, .temporal]

def name : FilterKind → String
  | .decimation => "decimation"
  | .temporal => "temporal"

/-- The kind with a given name; names are compared exactly. -/
def ofName? (s : String) : Option FilterKind := all.find? fun k => k.name == s

def bufferLength : FilterKind → Nat
  | .decimation => 2
  | .temporal => 13

/-- The names of the kind's options, in wire order. -/
def optionNames : FilterKind → List String
  | .decimation => ["Toggle", "Magnitude"]
  | .temporal => ["Toggle", "Alpha", "Delta", "Persistency"]

/-- A kind is found under its own name. -/
theorem ofName?_name (k : FilterKind) : ofName? k.name = some k := by
  cases k <;> decide

end FilterKind

end EmbeddedFilters
