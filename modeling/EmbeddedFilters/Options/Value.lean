import EmbeddedFilters.FilterError

/-!
# Option values

An option holds a whole number of 64 bits or a double, and declares which of the two it is. Values
of the other form are coerced where the number allows it.
-/

namespace EmbeddedFilters

/-- The form of values that an option declares. -/
inductive OptionKind where
  | int
  | float
  deriving DecidableEq, Repr

def OptionKind.describe : OptionKind → String
  | .int => "integer"
  | .float => "float"

/-- The value of an option. -/
inductive OptionValue where
  | int (i : Int64)
  | float (x : Double)
  deriving DecidableEq

namespace OptionValue

def ofBool (b : Bool) : OptionValue := .int (if b then 1 else 0)

def ofSingle (x : Single) : OptionValue := .float (x.convert .double)

/-- The value of a whole number of 32 bits. -/
def ofInt32 (i : Int32) : OptionValue := .int i.toInt64

def kind : OptionValue → OptionKind
  | .int _ => .int
  | .float _ => .float

def toDouble : OptionValue → Double
  | .int i => .ofInt .double i.toInt
  | .float x => x

def text : OptionValue → String
  | .int i => toString i.toInt
  | .float x => x.text

/-- Equality of values: of the same form, and numerically equal. -/
def agrees : OptionValue → OptionValue → Bool
  | .int i, .int j => i == j
  | .float x, .float y => x.agrees y
  | _, _ => false

/-- The whole number that a value denotes, for the option named in the error. A double beyond the
range of whole numbers goes to the nearest end of the range. -/
def toWhole (field : String) : OptionValue → Except FilterError Int64
  | .int i => .ok i
  | .float x =>
    if x.isWhole then .ok x.toInt64
    else .error (.typeMismatch field OptionKind.int.describe x.text)

/-- The value in the form that an option of the given kind holds. -/
def coerce (kind : OptionKind) (field : String) (v : OptionValue) :
    Except FilterError OptionValue :=
  match kind with
  | .int => (v.toWhole field).map .int
  | .float => .ok (.float v.toDouble)

end OptionValue

end EmbeddedFilters
