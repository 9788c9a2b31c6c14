/-!
# Binary floating-point numbers

A format is given by the widths of its exponent and fraction fields, and a number of the format is a
sign with a *magnitude*: the exponent and fraction fields read as one natural number. Magnitudes are
ordered as the numbers they denote, and every finite one denotes a whole number of *units*, the unit
being the smallest positive number of the format. All arithmetic here is therefore exact arithmetic
on `Nat`, with one rounding function, `BinaryFormat.nearest`, for every conversion. Powers are those
of `Nat.pow`, whatever else may stand for a power.
-/

namespace EmbeddedFilters

/-- The widths of the two fields of a binary interchange format. -/
structure BinaryFormat where
  exponentBits : Nat
  fractionBits : Nat
  deriving DecidableEq, Repr

namespace BinaryFormat

/-- The 32-bit format. -/
def single : BinaryFormat := ⟨8, 23⟩

/-- The 64-bit format. -/
def double : BinaryFormat := ⟨11, 52⟩

variable (f : BinaryFormat)

/-- The weight of the sign bit; every magnitude lies below it. -/
def signWeight : Nat := Nat.pow 2 (f.exponentBits + f.fractionBits)

/-- The magnitude of infinity; larger magnitudes denote no number. -/
def infinity : Nat := (Nat.pow 2 f.exponentBits - 1) * Nat.pow 2 f.fractionBits

/-- The number of binary places of a unit: the smallest positive number is `2 ^ -places`. -/
def places : Nat := Nat.pow 2 (f.exponentBits - 1) + f.fractionBits - 2

/-- The number that a magnitude denotes, counted in units. -/
def units (n : Nat) : Nat :=
  let binade := Nat.pow 2 f.fractionBits
  if n < binade then n else (binade + n % binade) * Nat.pow 2 (n / binade - 1)

/-- The magnitude nearest to `num / den` units. A tie goes to the even magnitude, and whatever lies
beyond the finite numbers goes to infinity. -/
def nearest (num den : Nat) : Nat :=
  let shift := (num / den).log2 - f.fractionBits
  let step := den * Nat.pow 2 shift
  let low := shift * Nat.pow 2 f.fractionBits + num / step
  let rest := num % step
  min f.infinity (if step < 2 * rest ∨ (step = 2 * rest ∧ low % 2 = 1) then low + 1 else low)

/-- The magnitude of infinity leaves the sign bit free. -/
theorem infinity_lt_signWeight : f.infinity < f.signWeight := by
  have he := Nat.two_pow_pos f.exponentBits
  have hf := Nat.two_pow_pos f.fractionBits
  simp only [infinity, signWeight, Nat.pow_eq, Nat.pow_add]
  exact Nat.mul_lt_mul_of_pos_right (by omega) hf

/-- Rounding goes to infinity at most. -/
theorem nearest_le_infinity (num den : Nat) : f.nearest num den ≤ f.infinity :=
  Nat.min_le_left _ _

end BinaryFormat

/-- A number of a binary format: its sign bit and its magnitude. -/
structure Binary (f : BinaryFormat) where
  negative : Bool
  magnitude : Nat
  magnitude_lt : magnitude < f.signWeight
  deriving DecidableEq

/-- Numbers of the 32-bit format. -/
abbrev Single := Binary .single

/-- Numbers of the 64-bit format. -/
abbrev Double := Binary .double

namespace Binary

variable {f : BinaryFormat}

/-- The number with a given bit pattern; bits above the sign bit are ignored. -/
def ofBits (f : BinaryFormat) (bits : Nat) : Binary f where
  negative := bits / f.signWeight % 2 == 1
  magnitude := bits % f.signWeight
  magnitude_lt := Nat.mod_lt _ (Nat.two_pow_pos _)

/-- The bit pattern of a number. -/
def toBits (x : Binary f) : Nat :=
  (if x.negative then f.signWeight else 0) + x.magnitude

/-- The number nearest to `num / den` units with the given sign. -/
def round (f : BinaryFormat) (negative : Bool) (num den : Nat) : Binary f where
  negative := negative
  magnitude := f.nearest num den
  magnitude_lt := Nat.lt_of_le_of_lt (f.nearest_le_infinity num den) f.infinity_lt_signWeight

/-- Infinity of either sign. -/
def infinite (f : BinaryFormat) (negative : Bool) : Binary f :=
  ⟨negative, f.infinity, f.infinity_lt_signWeight⟩

/-- The largest finite number, with either sign. -/
def largest (f : BinaryFormat) (negative : Bool) : Binary f :=
  ⟨negative, f.infinity - 1, Nat.lt_of_le_of_lt (Nat.sub_le _ _) f.infinity_lt_signWeight⟩

/-- The pattern of all ones, which denotes no number. -/
def notANumber (f : BinaryFormat) (negative : Bool) : Binary f :=
  ⟨negative, f.signWeight - 1, Nat.sub_lt (Nat.two_pow_pos _) Nat.one_pos⟩

/-- Does the bit pattern denote no number at all? -/
def isNaN (x : Binary f) : Bool := f.infinity < x.magnitude

/-- Is the number finite? -/
def isFinite (x : Binary f) : Bool := x.magnitude < f.infinity

/-- The position of a number in the order of its format; both zeros are at position 0. -/
def rank (x : Binary f) : Int := if x.negative then -(x.magnitude : Int) else x.magnitude

/-- Numeric comparison; false when either side is not a number. -/
def lt (x y : Binary f) : Bool := !x.isNaN && !y.isNaN && x.rank < y.rank

/-- Numeric comparison, equality included; false when either side is not a number. -/
def le (x y : Binary f) : Bool := !x.isNaN && !y.isNaN && x.rank ≤ y.rank

/-- Numeric equality: the zeros are equal, and what is not a number equals nothing. -/
def agrees (x y : Binary f) : Bool := !x.isNaN && !y.isNaN && x.rank == y.rank

/-- The units denoted by a finite number, sign included. -/
def units (x : Binary f) : Int :=
  if x.negative then -(f.units x.magnitude : Int) else f.units x.magnitude

/-- The number nearest to an integer. -/
def ofInt (f : BinaryFormat) (i : Int) : Binary f :=
  round f (i < 0) (i.natAbs * Nat.pow 2 f.places) 1

/-- The nearest number of another format. Infinity and what is not a number stay what they are. -/
def convert (g : BinaryFormat) (x : Binary f) : Binary g :=
  if x.isNaN then notANumber g x.negative
  else if x.isFinite then
    round g x.negative (f.units x.magnitude * Nat.pow 2 g.places) (Nat.pow 2 f.places)
  else infinite g x.negative

/-- Is the number finite and without a fractional part? -/
def isWhole (x : Binary f) : Bool :=
  x.isFinite && f.units x.magnitude % Nat.pow 2 f.places == 0

/-- The integral part of a number, held to the range of 64-bit integers. -/
def toInt64 (x : Binary f) : Int64 :=
  if x.isNaN then 0
  else if x.negative then
    Int64.ofInt (-(min (f.units x.magnitude / Nat.pow 2 f.places) 0x8000000000000000 : Nat))
  else Int64.ofInt (min (f.units x.magnitude / Nat.pow 2 f.places) 0x7fffffffffffffff : Nat)

end Binary

end EmbeddedFilters
