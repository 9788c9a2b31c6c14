import EmbeddedFilters.Options.Declaration
import EmbeddedFilters.Parameters.Check

/-!
# Parameters of the decimation filter

Two bytes: the flag that switches the filter on, and the factor, which the hardware fixes at two.
-/

namespace EmbeddedFilters

/-- The parameters of a decimation filter. -/
structure Decimation where
  enabled : Bool
  magnitude : UInt8
  deriving DecidableEq, Repr

namespace Decimation

/-- The parameters of a device that has just been started. -/
def defaults : Decimation := ⟨false, 2⟩

/-- The factor must be the one of the hardware. -/
def checkMagnitude (value : Int64) : Except FilterError UInt8 :=
  if value = 2 then .ok 2
  else .error
    (.outOfRange "Magnitude" (.ofInt .double value.toInt) (.exactly (.ofInt .double 2)))

/-- Checks every field. -/
def validate (p : Decimation) : Except FilterError Unit := do
  let _ ← checkMagnitude (.ofNat p.magnitude.toNat)

/-- The fields as bytes, in layout order. -/
def fields (p : Decimation) : List (List UInt8) := [[p.enabled.toUInt8], [p.magnitude]]

/-- Reads the fields without checking their ranges. -/
def readFields (bytes : List UInt8) : Except FilterError Decimation := do
  Check.length .decimation bytes
  let enabled ← Check.flag "Toggle" (.ofNat (← Check.byteAt .decimation bytes 0).toNat)
  let magnitude ← Check.byteAt .decimation bytes 1
  return ⟨enabled, magnitude⟩

/-- The parameters as a complete update, in wire order. -/
def toOptions (p : Decimation) : List Assignment :=
  [⟨"Toggle", .ofBool p.enabled⟩, ⟨"Magnitude", .int (.ofNat p.magnitude.toNat)⟩]

/-- The parameters that a complete update denotes. -/
def ofOptions (list : List Assignment) : Except FilterError Decimation := do
  Assignment.checkComplete .decimation list
  let toggle ← (← Assignment.require .decimation "Toggle" list).toWhole "Toggle"
  let magnitude ← (← Assignment.require .decimation "Magnitude" list).toWhole "Magnitude"
  return ⟨← Check.flag "Toggle" toggle, ← checkMagnitude magnitude⟩

/-- The options as a device declares them. -/
def declarations : List Declaration :=
  [.int "Toggle" 0 1 1 0 (some "Enable decimation on the device"),
    .int "Magnitude" 2 2 1 2 (some "Decimation factor, fixed by hardware")]

end Decimation

end EmbeddedFilters
