import EmbeddedFilters.Options.Declaration
import EmbeddedFilters.Parameters.Check

/-!
# Parameters of the temporal filter

Thirteen bytes: the flag, then three words, least significant byte first. Alpha is the weight of the
current frame, delta the threshold that preserves edges, persistency the index of the rule that
fills missing pixels.
-/

namespace EmbeddedFilters

/-- The parameters of a temporal filter. -/
structure Temporal where
  enabled : Bool
  alpha : Single
  delta : Int32
  persistency : Int32
  deriving DecidableEq

namespace Temporal

/-- Four tenths in 32 bits. -/
def defaultAlpha : Single := .ofBits .single 0x3ECCCCCD

/-- One tenth in 32 bits. -/
def alphaStep : Single := .ofBits .single 0x3DCCCCCD

/-- The parameters of a device that has just been started. -/
def defaults : Temporal := ⟨false, defaultAlpha, 20, 3⟩

/-- Alpha lies between 0 and 1; it is checked before it is narrowed. -/
def checkAlpha (value : Double) : Except FilterError Single := do
  Check.number "Alpha" value (.ofInt .double 0) (.ofInt .double 1)
  return value.convert .single

/-- Delta lies between 0 and 100. -/
def checkDelta (value : Int64) : Except FilterError Int32 := do
  Check.whole "Delta" value 0 100
  return value.toInt32

/-- Persistency lies between 0 and 8. -/
def checkPersistency (value : Int64) : Except FilterError Int32 := do
  Check.whole "Persistency" value 0 8
  return value.toInt32

/-- Checks every field. -/
def validate (p : Temporal) : Except FilterError Unit := do
  let _ ← checkAlpha (p.alpha.convert .double)
  let _ ← checkDelta p.delta.toInt64
  let _ ← checkPersistency p.persistency.toInt64

/-- The fields as bytes, in layout order. -/
def fields (p : Temporal) : List (List UInt8) :=
  [[p.enabled.toUInt8], wordBytes (.ofNat p.alpha.toBits), wordBytes p.delta.toUInt32,
    wordBytes p.persistency.toUInt32]

/-- Reads the fields without checking their ranges. -/
def readFields (bytes : List UInt8) : Except FilterError Temporal := do
  Check.length .temporal bytes
  let enabled ← Check.flag "Toggle" (.ofNat (← Check.byteAt .temporal bytes 0).toNat)
  let alpha ← Check.singleAt .temporal bytes 1
  let delta ← Check.int32At .temporal bytes 5
  let persistency ← Check.int32At .temporal bytes 9
  return ⟨enabled, alpha, delta, persistency⟩

/-- The parameters as a complete update, in wire order. -/
def toOptions (p : Temporal) : List Assignment :=
  [⟨"Toggle", .ofBool p.enabled⟩, ⟨"Alpha", .ofSingle p.alpha⟩, ⟨"Delta", .ofInt32 p.delta⟩,
    ⟨"Persistency", .ofInt32 p.persistency⟩]

/-- The parameters that a complete update denotes. -/
def ofOptions (list : List Assignment) : Except FilterError Temporal := do
  Assignment.checkComplete .temporal list
  let toggle ← (← Assignment.require .temporal "Toggle" list).toWhole "Toggle"
  let alpha := (← Assignment.require .temporal "Alpha" list).toDouble
  let delta ← (← Assignment.require .temporal "Delta" list).toWhole "Delta"
  let persistency ← (← Assignment.require .temporal "Persistency" list).toWhole "Persistency"
  return ⟨← Check.flag "Toggle" toggle, ← checkAlpha alpha, ← checkDelta delta,
    ← checkPersistency persistency⟩

/-- The options as a device declares them. -/
def declarations : List Declaration :=
  [.int "Toggle" 0 1 1 0 (some "Enable temporal smoothing on the device"),
    .float "Alpha" (.ofInt .double 0) (.ofInt .double 1) (alphaStep.convert .double)
      (defaultAlpha.convert .double) (some "Weight of the current frame against history"),
    .int "Delta" 0 100 1 20 (some "Step size boundary preserving edges"),
    .int "Persistency" 0 8 1 3 (some "Persistency index for filling missing pixels")]

end Temporal

end EmbeddedFilters
