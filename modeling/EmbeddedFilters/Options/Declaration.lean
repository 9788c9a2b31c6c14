import EmbeddedFilters.Options.Assignment

/-!
# Declarations of options

A device declares each option of a filter in full: its kind, its bounds, its default and perhaps its
present value. A value is admitted by a declaration if it can be coerced to the kind and lies within
the bounds that are stated.
-/

namespace EmbeddedFilters

/-- The range of an option in numbers, open sides widened to the largest finite numbers. -/
structure OptionRange where
  minimum : Double
  maximum : Double
  step : Double
  default : Double
  deriving DecidableEq

/-- Does a number lie within the range? -/
def OptionRange.contains (r : OptionRange) (x : Double) : Bool := r.minimum.le x && x.le r.maximum

/-- An option as a device declares it. -/
structure Declaration where
  name : String
  kind : OptionKind
  minimum : Option OptionValue := none
  maximum : Option OptionValue := none
  step : Option OptionValue := none
  default : OptionValue
  value : Option OptionValue := none
  description : Option String := none
  deriving DecidableEq

namespace Declaration

/-- An option of either kind with all numbers stated, and its default as present value. -/
def full (name : String) (kind : OptionKind) (minimum maximum step default : OptionValue)
    (description : Option String) : Declaration where
  name := name
  kind := kind
  minimum := minimum
  maximum := maximum
  step := step
  default := default
  value := default
  description := description

/-- An option of whole numbers. -/
def int (name : String) (minimum maximum step default : Int64)
    (description : Option String) : Declaration :=
  full name .int (.int minimum) (.int maximum) (.int step) (.int default) description

def float (name : String) (minimum maximum step default : Double)
    (description : Option String) : Declaration :=
  full name .float (.float minimum) (.float maximum) (.float step) (.float default) description

def range (d : Declaration) : OptionRange where
  minimum := (d.minimum.map OptionValue.toDouble).getD (.largest .double true)
  maximum := (d.maximum.map OptionValue.toDouble).getD (.largest .double false)
  step := (d.step.map OptionValue.toDouble).getD (.ofInt .double 1)
  default := d.default.toDouble

/-- The present value, or the default if the device states none. -/
def initial (d : Declaration) : OptionValue := d.value.getD d.default

def assignment (d : Declaration) : Assignment := ⟨d.name, d.initial⟩

/-- Checks a value against kind and bounds, and gives it in the declared form. -/
def check (d : Declaration) (v : OptionValue) : Except FilterError OptionValue := do
  let v ← v.coerce d.kind d.name
  let x := v.toDouble
  if x.isNaN then throw (.typeMismatch d.name d.kind.describe "NaN")
  if let some minimum := d.minimum then
    if x.lt minimum.toDouble then throw (.outOfRange d.name x (.minimum minimum.toDouble))
  if let some maximum := d.maximum then
    if maximum.toDouble.lt x then throw (.outOfRange d.name x (.maximum maximum.toDouble))
  return v

end Declaration

end EmbeddedFilters
