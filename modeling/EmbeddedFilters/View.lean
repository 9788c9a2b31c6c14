import EmbeddedFilters.Fault
import EmbeddedFilters.Options.Model
import EmbeddedFilters.Options.Notation
import EmbeddedFilters.Parameters
import EmbeddedFilters.Remote.Record
import EmbeddedFilters.Wire.Codec

/-!
# Views

The JSON forms in which values are shown to whoever inspects them. Numbers of options keep their
form by the notation of option values, and failures are shown by a code and their text.
-/

namespace EmbeddedFilters

open Json

/-- The code of a failure. -/
def FilterError.code : FilterError → String
  | .bufferSize .. => "BufferSize"
  | .outOfRange .. => "OutOfRange"
  | .typeMismatch .. => "TypeMismatch"
  | .unknownOption .. => "UnknownOption"
  | .missingOption .. => "MissingOption"
  | .optionCount .. => "OptionCount"
  | .alreadyInitialized .. => "AlreadyInitialized"
  | .notPopulated .. => "NotPopulated"
  | .optionNotFound .. => "OptionNotFound"
  | .optionDisabled .. => "OptionDisabled"
  | .readOnly .. => "ReadOnly"
  | .wrongKind .. => "WrongFilterType"
  | .unknownKind .. => "UnknownFilterType"
  | .duplicateCapability .. => "DuplicateCapability"
  | .unsupported .. => "Unsupported"
  | .notWired .. => "NotWired"
  | .transport .. => "Transport"
  | .destroyed .. => "Destroyed"
  | .lockPoisoned => "LockPoisoned"

/-- The code of a failed exchange. -/
def LinkError.code : LinkError → String
  | .notConnected => "NotConnected"
  | .timeout => "Timeout"
  | .rejected _ => "Rejected"
  | .protocol _ => "Protocol"
  | .malformed => "Serialization"

/-- The code of a setting that cannot be used. -/
def ConfigError.code : ConfigError → String
  | .malformed => "Parse"
  | .emptyTopicRoot => "EmptyTopicRoot"
  | .zeroCapacity => "ZeroCapacity"

namespace View

def optionValue (v : OptionValue) : Value := .string v.noted

def double (x : Double) : Value := optionValue (.float x)

def optionId (id : OptionId) : Value := id.toJson

def list {α : Type} (view : α → Value) (items : List α) : Value := .array (items.map view)

def assignment (a : Assignment) : Value := .array [.string a.name, optionValue a.value]

def assignments (items : List Assignment) : Value := list assignment items

def bytes (bs : List UInt8) : Value := .string (Text.hexBytes bs)

def count (n : Nat) : Value := .integer n

/-- The written form of a value, as a text. -/
def written (v : Value) : Value := .string v.text

def failure (code message : String) : Value :=
  .object [("error", .string code), ("message", .string message)]

def filterError (e : FilterError) : Value := failure e.code e.message

def linkError (e : LinkError) : Value := failure e.code e.message

/-- A setting that cannot be used. -/
def configError (e : ConfigError) : Value := failure e.code e.message

/-- Nothing has come of what was asked for. -/
def stuck : Value := failure "BadInput" "stuck"

/-- A fault. -/
def fault : Fault → Value
  | .noObject field => failure "NoObject" field
  | .filter e => filterError e
  | .link e => linkError e
  | .config e => configError e
  | .panic => .object [("error", .string "Panic")]
  | .stalled => stuck

/-- The result of an operation on a filter, or its failure. -/
def result {α : Type} (view : α → Value) : Except FilterError α → Value
  | .ok a => .object [("ok", view a)]
  | .error e => filterError e

def statistics (s : LinkStatistics) : Value :=
  .object [("sent", count s.sent), ("failed", count s.failed), ("bytes", count s.bytes),
    ("notifications", count s.reports), ("last_error", .ofOption .string s.lastError)]

/-- The parameters of a filter. -/
def parameters : Parameters → Value
  | .decimation p =>
    .object [("type", FilterKind.decimation.toJson), ("enabled", .bool p.enabled),
      ("magnitude", count p.magnitude.toNat)]
  | .temporal p =>
    .object [("type", FilterKind.temporal.toJson), ("enabled", .bool p.enabled),
      ("alpha", .string (singleBits p.alpha)), ("delta", .integer p.delta.toInt),
      ("persistency", .integer p.persistency.toInt)]

def range (r : OptionRange) : Value :=
  .object [("min", double r.minimum), ("max", double r.maximum), ("step", double r.step),
    ("default", double r.default)]

/-- The model of an option. -/
def model (m : OptionModel) : Value :=
  .object [("id", optionId m.id), ("name", .string m.name),
    ("description", .ofOption .string m.declaration.description),
    ("kind", .string m.declaration.kind.describe), ("range", range m.declaration.range),
    ("read_only", .bool m.readOnly), ("enabled", .bool m.enabled),
    ("descriptor", written m.declaration.toJson), ("debug", .string m.describe)]

/-- The settings of a link with the topics that follow from them. -/
def config (c : LinkConfig) : Value :=
  .object [("topic_root", .string c.topicRoot), ("capacity", count c.capacity),
    ("offline", .bool c.offlineFallback), ("control", .string c.controlTopic),
    ("notification", .string c.notificationTopic)]

def controlRequest : ControlRequest → Value
  | .setOptions filter kind options =>
    .array [.string "set_options", .string filter, kind.toJson, assignments options]
  | .getOptions filter kind => .array [.string "get_options", .string filter, kind.toJson]

/-- A changed option by its number, or by its name if it has none. -/
def changed (c : ChangedOption) : Value :=
  match c.option with
  | .inl name => .array [.string name, optionValue c.value]
  | .inr id => .array [optionId id, optionValue c.value]

end View

end EmbeddedFilters
