import EmbeddedFilters.FilterError
import EmbeddedFilters.Json.Printer
import EmbeddedFilters.Json.Record

/-!
# Links to a device

What can go wrong on the way to a device, what a link counts, and the settings of a link with the
topics that follow from them.
-/

namespace EmbeddedFilters

open Json

/-- A failed exchange with a device. -/
inductive LinkError where
  | notConnected
  | timeout
  | rejected (reason : String)
  | protocol (reason : String)
  | malformed
  deriving DecidableEq, Repr

namespace LinkError

/-- The text of a failed exchange. -/
def message : LinkError → String
  | .notConnected => "Not connected"
  | .timeout => "Timeout"
  | .rejected reason => s!"Device rejected update: {reason}"
  | .protocol reason => s!"Protocol error: {reason}"
  | .malformed => "Serialization error"

/-- A failed exchange as the failure of an operation on a filter. -/
def toFilterError (e : LinkError) : FilterError := .transport e.message

end LinkError

/-- What a link has counted. -/
structure LinkStatistics where
  sent : Nat := 0
  failed : Nat := 0
  bytes : Nat := 0
  reports : Nat := 0
  lastError : Option String := none
  deriving DecidableEq, Repr

namespace LinkStatistics

def recordSent (s : LinkStatistics) (bytes : Nat) : LinkStatistics :=
  { s with sent := s.sent + 1, bytes := s.bytes + bytes }

def recordFailure (s : LinkStatistics) (e : LinkError) : LinkStatistics :=
  { s with failed := s.failed + 1, lastError := some e.message }

def record (s : LinkStatistics) (bytes : Nat) : Except LinkError Unit → LinkStatistics
  | .ok () => s.recordSent bytes
  | .error e => s.recordFailure e

end LinkStatistics

/-- A setting of a link that cannot be used. -/
inductive ConfigError where
  | malformed
  | emptyTopicRoot
  | zeroCapacity
  deriving DecidableEq, Repr

/-- The text of a setting that cannot be used. -/
def ConfigError.message : ConfigError → String
  | .malformed => "Malformed configuration"
  | .emptyTopicRoot => "Topic root must not be empty"
  | .zeroCapacity => "Notification capacity must be at least 1"

/-- The settings of a link. -/
structure LinkConfig where
  topicRoot : String := "rt/device"
  capacity : Nat := 64
  offlineFallback : Bool := false
  deriving DecidableEq, Repr

namespace LinkConfig

/-- A text without the slashes at its end. -/
def withoutSlashes (s : List Char) : List Char := (s.reverse.dropWhile (· == '/')).reverse

def root (c : LinkConfig) : String := String.ofList (withoutSlashes c.topicRoot.toList)

def controlTopic (c : LinkConfig) : String := c.root ++ "/control"

def notificationTopic (c : LinkConfig) : String := c.root ++ "/notification"

/-- Checks that the root holds more than slashes and that there is room for a report. -/
def validate (c : LinkConfig) : Except ConfigError Unit :=
  if c.topicRoot.toList.all (· == '/') then .error .emptyTopicRoot
  else if c.capacity = 0 then .error .zeroCapacity
  else .ok ()

def toJson (c : LinkConfig) : Value :=
  .object [("topic_root", .string c.topicRoot), ("notification_capacity", .integer c.capacity),
    ("offline_fallback", .bool c.offlineFallback)]

/-- Reads settings; what is left out has its default. -/
def decoder : Decoder LinkConfig := fun depth tree => do
  let names := ["topic_root", "notification_capacity", "offline_fallback"]
  let (depth, fields) ← recordFields names depth tree
  match fields with
  | [root, capacity, offline] =>
    let defaults : LinkConfig := {}
    return {
      topicRoot := ← orDefault defaults.topicRoot textDecoder depth root
      capacity := (← orDefault (defaults.capacity : Int) (intDecoder 0 0xffffffffffffffff) depth
        capacity).toNat
      offlineFallback := ← orDefault defaults.offlineFallback boolDecoder depth offline }
  | _ => none

/-- The settings in a text, if they can be used. -/
def ofText (text : String) : Except ConfigError LinkConfig :=
  match decodeText decoder text with
  | none => .error .malformed
  | some config => config.validate.map fun _ => config

end LinkConfig

end EmbeddedFilters
