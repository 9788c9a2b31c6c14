import EmbeddedFilters.Number.Decimal

/-!
# Shortest decimal digits

The decimal shown for a binary number is the one with the fewest digits that reads back as that
number, and the nearest of those. For each count of digits the two neighbours of the number on that
decimal grid are tried; if a point of the grid reads back, so does one of the two. The expansion to
all places is exact, so there is always a decimal that reads back.
-/

namespace EmbeddedFilters

/-- The way an exact tie between two shortest decimals is settled. -/
inductive TieRule where
  | even
  | up
  deriving DecidableEq, Repr

namespace BinaryFormat

variable (f : BinaryFormat)

/-- Is the number denoted by `n` at least the given power of ten? -/
def atLeastPower (n : Nat) : Int → Bool
  | .ofNat e => Nat.pow 10 e * Nat.pow 2 f.places ≤ f.units n
  | .negSucc e => Nat.pow 2 f.places ≤ f.units n * Nat.pow 10 (e + 1)

/-- The power of ten of the first digit, guessed from the binary logarithm and then corrected. -/
def leadingPlace (n : Nat) : Int :=
  let guess := (((f.units n).log2 : Int) - f.places) * 1233 / 4096
  if f.atLeastPower n (guess + 1) then guess + 1
  else if f.atLeastPower n guess then guess
  else guess - 1

/-- The number denoted by `n` as a fraction of the grid step `10 ^ place`. -/
def gridFraction (n : Nat) : Int → Nat × Nat
  | .ofNat e => (f.units n, Nat.pow 2 f.places * Nat.pow 10 e)
  | .negSucc e => (f.units n * Nat.pow 10 (e + 1), Nat.pow 2 f.places)

/-- The coefficient on the grid `10 ^ place` that reads back as `n`, the nearer one if there are
two. -/
def onGrid? (tie : TieRule) (n : Nat) (place : Int) : Option Nat :=
  let (num, den) := f.gridFraction n place
  let low := num / den
  let rest := num % den
  let lowReads := Decimal.magnitude f low place == n
  let highReads := Decimal.magnitude f (low + 1) place == n
  let lowFirst :=
    2 * rest < den || (2 * rest == den && (match tie with | .even => low % 2 == 0 | .up => false))
  if lowReads && (lowFirst || !highReads) then some low
  else if highReads then some (low + 1)
  else none

/-- The most digits tried; the shortest decimal of a number never has more. -/
def digitLimit : Nat := f.fractionBits / 3 + 2

/-- The exact expansion of the number denoted by `n`. -/
def expansion (n : Nat) : Nat × Int := (f.units n * Nat.pow 5 f.places, -(f.places : Int))

/-- Coefficient and exponent of the shortest decimal that reads back as the magnitude `n`. -/
def shortest (tie : TieRule) (n : Nat) : Nat × Int :=
  let lead := f.leadingPlace n
  let tried := (List.range f.digitLimit).findSome? fun (k : Nat) =>
    (f.onGrid? tie n (lead - k)).map fun c => (c, lead - (k : Int))
  tried.getD (f.expansion n)

end BinaryFormat

/-- Takes the zeros at the end of a coefficient into the exponent. -/
def Decimal.trim (coefficient : Nat) (exponent : Int) : Nat × Int :=
  if h : coefficient ≠ 0 ∧ coefficient % 10 = 0 then
    Decimal.trim (coefficient / 10) (exponent + 1)
  else (coefficient, exponent)
termination_by coefficient
decreasing_by omega

/-- The shortest decimal of a finite number, without zeros at its end. -/
def Binary.shortest {f : BinaryFormat} (tie : TieRule) (x : Binary f) : Decimal :=
  let (c, e) := if x.magnitude = 0 then (0, 0) else f.shortest tie x.magnitude
  let (c, e) := Decimal.trim c e
  ⟨x.negative, c, e⟩

end EmbeddedFilters
