import EmbeddedFilters.Options.Value
import EmbeddedFilters.Parameters.Buffer

/-!
# Checks on parameter fields

The checks that readers and writers of parameters share: the length of a buffer, flags, ranges, and
words at an offset.
-/

namespace EmbeddedFilters.Check

/-- A buffer must have exactly the length of its kind. -/
def length (filter : FilterKind) (bytes : List UInt8) : Except FilterError Unit :=
  if bytes.length = filter.bufferLength then .ok ()
  else .error (.bufferSize filter filter.bufferLength bytes.length)

/-- A flag is 0 or 1. -/
def flag (field : String) (value : Int64) : Except FilterError Bool :=
  if value = 0 then .ok false
  else if value = 1 then .ok true
  else .error (.outOfRange field (.ofInt .double value.toInt) .flag)

/-- A whole number must lie between two bounds, which it may equal. -/
def whole (field : String) (value minimum maximum : Int64) : Except FilterError Unit :=
  if value < minimum then
    .error (.outOfRange field (.ofInt .double value.toInt)
      (.minimum (.ofInt .double minimum.toInt)))
  else if maximum < value then
    .error (.outOfRange field (.ofInt .double value.toInt)
      (.maximum (.ofInt .double maximum.toInt)))
  else .ok ()

/-- A double must lie between two bounds; what is not a number has the wrong type. -/
def number (field : String) (value minimum maximum : Double) : Except FilterError Unit :=
  if value.isNaN then .error (.typeMismatch field OptionKind.float.describe "NaN")
  else if value.lt minimum then .error (.outOfRange field value (.minimum minimum))
  else if maximum.lt value then .error (.outOfRange field value (.maximum maximum))
  else .ok ()

/-- The word at an offset. -/
def wordAt (filter : FilterKind) (bytes : List UInt8) (offset : Nat) : Except FilterError UInt32 :=
  match word? (bytes.drop offset) with
  | some w => .ok w
  | none => .error (.bufferSize filter filter.bufferLength bytes.length)

/-- The number of 32 bits at an offset. -/
def singleAt (filter : FilterKind) (bytes : List UInt8) (offset : Nat) :
    Except FilterError Single :=
  (wordAt filter bytes offset).map fun w => .ofBits .single w.toNat

/-- The whole number of 32 bits at an offset. -/
def int32At (filter : FilterKind) (bytes : List UInt8) (offset : Nat) : Except FilterError Int32 :=
  (wordAt filter bytes offset).map UInt32.toInt32

/-- The byte at an offset. -/
def byteAt (filter : FilterKind) (bytes : List UInt8) (offset : Nat) : Except FilterError UInt8 :=
  match bytes[offset]? with
  | some b => .ok b
  | none => .error (.bufferSize filter filter.bufferLength bytes.length)

end EmbeddedFilters.Check
