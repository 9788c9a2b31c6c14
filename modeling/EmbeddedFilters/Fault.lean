import EmbeddedFilters.Wire.Link

/-!
# Faults

An operation on named objects ends in a fault when a name stands for nothing, when something it
needs fails, or when a callback that it runs fails badly. It has no end at all when it waits for
something that never comes.
-/

namespace EmbeddedFilters

/-- Why an operation has no result. -/
inductive Fault where
  | noObject (field : String)
  | filter (e : FilterError)
  | link (e : LinkError)
  | config (e : ConfigError)
  | panic
  | stalled
  deriving DecidableEq

end EmbeddedFilters
