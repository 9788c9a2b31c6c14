import EmbeddedFilters.FilterError

/-!
# Parameter buffers

A parameter buffer holds at most sixteen bytes. Bytes are appended all together or not at all, and a
failed append reports the length that the buffer would have had.
-/

namespace EmbeddedFilters

/-- The most bytes that a parameter buffer holds. -/
def bufferCapacity : Nat := 16

/-- Bytes that stay within the capacity. -/
structure ParameterBuffer where
  bytes : List UInt8
  length_le : bytes.length ≤ bufferCapacity
  deriving DecidableEq

/-- An append that would need a buffer of the given length. -/
structure CapacityExceeded where
  needed : Nat
  deriving DecidableEq, Repr

def CapacityExceeded.message (e : CapacityExceeded) : String :=
  s!"{e.needed} bytes exceed parameter buffer capacity of {bufferCapacity}"

namespace ParameterBuffer

/-- The buffer without bytes. -/
def empty : ParameterBuffer := ⟨[], Nat.zero_le _⟩

/-- A buffer with the given bytes. -/
def ofList (bytes : List UInt8) : Except CapacityExceeded ParameterBuffer :=
  if h : bytes.length ≤ bufferCapacity then .ok ⟨bytes, h⟩ else .error ⟨bytes.length⟩

/-- The buffer with bytes added at its end. -/
def append (buffer : ParameterBuffer) (more : List UInt8) :
    Except CapacityExceeded ParameterBuffer :=
  ofList (buffer.bytes ++ more)

/-- Appends fields one by one and stops at the first that does not fit. -/
def appendFields (buffer : ParameterBuffer) :
    List (List UInt8) → ParameterBuffer × Option CapacityExceeded
  | [] => (buffer, none)
  | field :: fields =>
    match buffer.append field with
    | .ok buffer => buffer.appendFields fields
    | .error e => (buffer, some e)

def describe (buffer : ParameterBuffer) : String :=
  "ParameterBuffer[" ++ ", ".intercalate (buffer.bytes.map fun b => toString b.toNat) ++ "]"

end ParameterBuffer

/-- The four bytes of a word, least significant first. -/
def wordBytes (w : UInt32) : List UInt8 :=
  [w.toUInt8, (w >>> 8).toUInt8, (w >>> 16).toUInt8, (w >>> 24).toUInt8]

/-- The word in the first four bytes, least significant first. -/
def word? : List UInt8 → Option UInt32
  | a :: b :: c :: d :: _ =>
    some (UInt32.ofNat (a.toNat + b.toNat * 0x100 + c.toNat * 0x10000 + d.toNat * 0x1000000))
  | _ => none

end EmbeddedFilters
