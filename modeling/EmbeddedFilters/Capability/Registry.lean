import EmbeddedFilters.Table

/-!
# Capability registries

A registry knows, for pairs of a kind of objects and a capability, how an object of the kind
provides the capability. Each pair is registered at most once; an object may still decline. An
object is handed over as a value that only carries the tag of its kind, and what has been registered
is kept in the same way, so on every query the types have to be found again.
-/

namespace EmbeddedFilters

/-- A value of one of many types, which its tag tells. -/
structure Tagged {τ : Type} (F : τ → Type) where
  tag : τ
  value : F tag

/-- The value, if it is of the type that a tag tells. -/
def Tagged.cast? {τ : Type} [DecidableEq τ] {F : τ → Type} (x : Tagged F) (tag : τ) :
    Option (F tag) :=
  if h : x.tag = tag then some (h ▸ x.value) else none

section

variable {κ χ : Type} (ω : κ → Type) (α : χ → Type)

/-- A way for objects of a kind to provide a capability. -/
structure CapabilityEntry where
  kind : κ
  capability : χ
  access : ω kind → Option (α capability)

/-- How objects of a kind provide a capability, with the types that both stand for. -/
abbrev Accessor (pair : κ × χ) : Type := ω pair.1 → Option (α pair.2)

/-- A call through an accessor whose type is not known, beside the accessor. -/
structure CapabilityThunk (capability : χ) where
  call : Tagged ω → Tagged (Accessor ω α) → Option (α capability)
  accessor : Tagged (Accessor ω α)

/-- The ways registered so far. -/
structure CapabilityRegistry where
  entries : Table (κ × χ) (Tagged (CapabilityThunk ω α)) := {}

end

variable {κ χ : Type} {ω : κ → Type} {α : χ → Type} [DecidableEq κ] [DecidableEq χ]

/-- The pair that is registered. -/
def CapabilityEntry.pair (e : CapabilityEntry ω α) : κ × χ := (e.kind, e.capability)

/-- Calls an accessor on an object, if the accessor is one for the kind and the capability and the
object is of the kind. -/
def CapabilityEntry.callAccessor (kind : κ) (capability : χ) (object : Tagged ω)
    (accessor : Tagged (Accessor ω α)) : Option (α capability) := do
  let access ← accessor.cast? (kind, capability)
  let object ← object.cast? kind
  access object

/-- What is kept of a way to provide a capability. -/
def CapabilityEntry.thunk (e : CapabilityEntry ω α) : CapabilityThunk ω α e.capability where
  call := callAccessor e.kind e.capability
  accessor := ⟨e.pair, e.access⟩

namespace CapabilityRegistry

/-- Registers a pair; one that is registered already is refused. -/
def register (r : CapabilityRegistry ω α) (e : CapabilityEntry ω α) :
    Except χ Unit × CapabilityRegistry ω α :=
  match r.entries.get? e.pair with
  | some _ => (.error e.capability, r)
  | none => (.ok (), ⟨r.entries.put e.pair ⟨e.capability, e.thunk⟩⟩)

/-- Registers pairs one after another and stops at the first that is refused. -/
def registerAll (r : CapabilityRegistry ω α) :
    List (CapabilityEntry ω α) → Except χ Unit × CapabilityRegistry ω α
  | [] => (.ok (), r)
  | e :: rest =>
    match r.register e with
    | (.ok (), r) => r.registerAll rest
    | (.error capability, r) => (.error capability, r)

/-- What an object answers for a capability, if its kind is registered for it and it does not
decline. -/
def query (r : CapabilityRegistry ω α) (capability : χ) (object : Tagged ω) :
    Option (α capability) := do
  let entry ← r.entries.get? (object.tag, capability)
  let thunk ← entry.cast? capability
  thunk.call object thunk.accessor

/-- Does an object provide a capability? -/
def supports (r : CapabilityRegistry ω α) (capability : χ) (object : Tagged ω) : Bool :=
  (r.query capability object).isSome

/-- The number of registered pairs. -/
def size (r : CapabilityRegistry ω α) : Nat := r.entries.entries.length

end CapabilityRegistry

end EmbeddedFilters
