import EmbeddedFilters.Parameters.Decimation
import EmbeddedFilters.Parameters.Temporal

/-!
# Parameters of a filter of either kind

The three forms of a filter's parameters are the record, the byte buffer and the complete update.
Every form is checked by the same rules, so a set of parameters is accepted in all of them or in
none.
-/

namespace EmbeddedFilters

/-- The parameters of a filter. -/
inductive Parameters where
  | decimation (p : Decimation)
  | temporal (p : Temporal)
  deriving DecidableEq

namespace Parameters

def kind : Parameters → FilterKind
  | .decimation _ => .decimation
  | .temporal _ => .temporal

def defaults : FilterKind → Parameters
  | .decimation => .decimation Decimation.defaults
  | .temporal => .temporal Temporal.defaults

/-- Is the filter switched on? -/
def enabled : Parameters → Bool
  | .decimation p => p.enabled
  | .temporal p => p.enabled

/-- The same parameters, switched on or off. -/
def withEnabled (enabled : Bool) : Parameters → Parameters
  | .decimation p => .decimation { p with enabled }
  | .temporal p => .temporal { p with enabled }

def validate : Parameters → Except FilterError Unit
  | .decimation p => p.validate
  | .temporal p => p.validate

/-- The fields as bytes, in layout order. -/
def fields : Parameters → List (List UInt8)
  | .decimation p => p.fields
  | .temporal p => p.fields

/-- Appends the fields to a buffer without checking them. A field that does not fit is left out, as
are all after it. -/
def writeFields (p : Parameters) (buffer : ParameterBuffer) :
    Except FilterError Unit × ParameterBuffer :=
  match buffer.appendFields p.fields with
  | (buffer, none) => (.ok (), buffer)
  | (buffer, some e) => (.error (.bufferSize p.kind p.kind.bufferLength e.needed), buffer)

/-- Reads the fields of a kind without checking their ranges. -/
def readFields (kind : FilterKind) (bytes : List UInt8) : Except FilterError Parameters :=
  match kind with
  | .decimation => (Decimation.readFields bytes).map .decimation
  | .temporal => (Temporal.readFields bytes).map .temporal

/-- The parameters as a byte buffer. -/
def encode (p : Parameters) : Except FilterError ParameterBuffer := do
  p.validate
  let (result, buffer) := p.writeFields .empty
  result
  Check.length p.kind buffer.bytes
  return buffer

def decode (kind : FilterKind) (bytes : List UInt8) : Except FilterError Parameters := do
  Check.length kind bytes
  let p ← readFields kind bytes
  p.validate
  return p

/-- The parameters as a complete update, in wire order. -/
def toOptions : Parameters → List Assignment
  | .decimation p => p.toOptions
  | .temporal p => p.toOptions

def ofOptions (kind : FilterKind) (list : List Assignment) : Except FilterError Parameters :=
  match kind with
  | .decimation => (Decimation.ofOptions list).map .decimation
  | .temporal => (Temporal.ofOptions list).map .temporal

def declarations : FilterKind → List Declaration
  | .decimation => Decimation.declarations
  | .temporal => Temporal.declarations

/-- The number that smooths a temporal filter. -/
def alpha? : Parameters → Option OptionValue
  | .decimation _ => none
  | .temporal p => some (.ofSingle p.alpha)

end Parameters

end EmbeddedFilters
