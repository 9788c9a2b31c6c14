import EmbeddedFilters.FilterKind
import EmbeddedFilters.Number.Layout
import EmbeddedFilters.Options.Id

/-!
# Causes of failure

Everything that can go wrong with a filter, by cause. All causes but one are found on this side,
before anything is sent; `transport` stands for what the device or the way to it made of an update
that had passed every check.
-/

namespace EmbeddedFilters

/-- The bound that a value violates. -/
inductive Bound where
  | minimum (limit : Double)
  | maximum (limit : Double)
  | exactly (required : Double)
  | flag
  deriving DecidableEq

def Bound.text : Bound → String
  | .minimum limit => s!"minimum {limit.text}"
  | .maximum limit => s!"maximum {limit.text}"
  | .exactly required => s!"required value {required.text}"
  | .flag => "flag values 0 (off) or 1 (on)"

/-- A failed operation on a filter. -/
inductive FilterError where
  | bufferSize (filter : FilterKind) (expected actual : Nat)
  | outOfRange (field : String) (value : Double) (bound : Bound)
  | typeMismatch (field expected found : String)
  | unknownOption (filter : FilterKind) (name : String)
  | missingOption (filter : FilterKind) (name : String)
  | optionCount (filter : FilterKind) (expected actual : Nat)
  | alreadyInitialized (filter part : String)
  | notPopulated (filter : String)
  | optionNotFound (id : OptionId)
  | optionDisabled (name : String)
  | readOnly (name : String)
  | wrongKind (expected actual : FilterKind)
  | unknownKind (name : String)
  | duplicateCapability (name : String)
  | unsupported (filter : FilterKind)
  | notWired (filter : String)
  | transport (reason : String)
  | destroyed (owner : String)
  | lockPoisoned
  deriving DecidableEq

namespace FilterError

/-- Was the failure found before anything was sent? -/
def isLocal : FilterError → Bool
  | .transport _ => false
  | _ => true

/-- The text of a failure. -/
def message : FilterError → String
  | .bufferSize filter expected actual =>
    s!"{filter.name} parameter buffer must be {expected} bytes, received {actual}"
  | .outOfRange field value bound => s!"{field} value {value.text} violates {bound.text}"
  | .typeMismatch field expected found => s!"{field} expects {expected} value, received {found}"
  | .unknownOption filter name => s!"Unknown option '{name}' for {filter.name} filter"
  | .missingOption filter name => s!"{filter.name} filter update is missing option '{name}'"
  | .optionCount filter expected actual =>
    s!"{filter.name} filter expects {expected} options, received {actual}"
  | .alreadyInitialized filter part => s!"Cannot re-initialize {part} of filter '{filter}'"
  | .notPopulated filter => s!"Filter '{filter}' is not populated"
  | .optionNotFound id => s!"Option {id.label} not found"
  | .optionDisabled name => s!"Option '{name}' is disabled"
  | .readOnly name => s!"Option '{name}' is read-only"
  | .wrongKind expected actual =>
    s!"Filter type mismatch: expected {expected.name}, received {actual.name}"
  | .unknownKind name => s!"Unknown embedded filter type: {name}"
  | .duplicateCapability name => name
  | .unsupported filter => s!"{filter.name} filter is not supported by this sensor"
  | .notWired filter => s!"Filter '{filter}' has no transport wired"
  | .transport reason => s!"Transport failure: {reason}"
  | .destroyed owner => s!"Filter '{owner}' is being destroyed"
  | .lockPoisoned => "Lock poisoned"

end FilterError

end EmbeddedFilters
