import EmbeddedFilters.Number.Binary

/-!
# Decimal numbers

A decimal number is a sign, a coefficient and a power of ten. This module reads its written form
and rounds it to the nearest number of a binary format. Powers that lie beyond the reach of the
format are decided without being computed, so the cost follows the length of the text and not the
size of the exponent.
-/

namespace EmbeddedFilters

/-- The number `coefficient * 10 ^ exponent`, with a sign. -/
structure Decimal where
  negative : Bool
  coefficient : Nat
  exponent : Int
  deriving DecidableEq, Repr

/-- A power of ten that no finite nonzero number of the format reaches, upwards or downwards. -/
def BinaryFormat.reach (f : BinaryFormat) : Nat :=
  Nat.pow 2 (f.exponentBits - 1) + f.fractionBits + 2

namespace Decimal

/-- The magnitude nearest to a coefficient times a power of ten. -/
def magnitude (f : BinaryFormat) (coefficient : Nat) (exponent : Int) : Nat :=
  if coefficient = 0 then 0
  else match exponent with
    | .ofNat e =>
      if f.reach < e then f.infinity
      else f.nearest (coefficient * Nat.pow 10 e * Nat.pow 2 f.places) 1
    | .negSucc e =>
      if f.reach + coefficient.log2 < e then 0
      else f.nearest (coefficient * Nat.pow 2 f.places) (Nat.pow 10 (e + 1))

/-- Reading a decimal goes to infinity at most. -/
theorem magnitude_le_infinity (f : BinaryFormat) (c : Nat) (e : Int) :
    magnitude f c e ≤ f.infinity := by
  unfold magnitude
  split
  · exact Nat.zero_le _
  · split
    · split
      · exact Nat.le_refl _
      · exact f.nearest_le_infinity _ _
    · split
      · exact Nat.zero_le _
      · exact f.nearest_le_infinity _ _

/-- The nearest number of a binary format. -/
def toBinary (f : BinaryFormat) (d : Decimal) : Binary f where
  negative := d.negative
  magnitude := magnitude f d.coefficient d.exponent
  magnitude_lt := Nat.lt_of_le_of_lt (magnitude_le_infinity f _ _) f.infinity_lt_signWeight

end Decimal

/-- The written parts of a decimal number: `sign whole.fraction e sign digits`. -/
structure DecimalText where
  sign : Option Char
  whole : List Char
  fraction : Option (List Char)
  exponent : Option (Option Char × List Char)

namespace DecimalText

/-- An optional sign and the rest. -/
def takeSign : List Char → Option Char × List Char
  | '-' :: rest => (some '-', rest)
  | '+' :: rest => (some '+', rest)
  | rest => (none, rest)

/-- The fraction, if a point follows, and the rest. -/
def takeFraction : List Char → Option (List Char) × List Char
  | '.' :: rest => (some (rest.takeWhile Char.isDigit), rest.dropWhile Char.isDigit)
  | rest => (none, rest)

/-- The exponent, which ends the text; absent if nothing is left. -/
def takeExponent : List Char → Option (Option (Option Char × List Char))
  | [] => some none
  | mark :: rest =>
    let (sign, digits) := takeSign rest
    if (mark = 'e' ∨ mark = 'E') ∧ digits ≠ [] ∧ digits.all Char.isDigit then
      some (some (sign, digits))
    else none

/-- Splits a text into the parts of a decimal number, which must have a digit before its
exponent. -/
def scan (text : List Char) : Option DecimalText := do
  let (sign, rest) := takeSign text
  let whole := rest.takeWhile Char.isDigit
  let (fraction, rest) := takeFraction (rest.dropWhile Char.isDigit)
  guard (whole ≠ [] ∨ fraction.getD [] ≠ [])
  return { sign, whole, fraction, exponent := ← takeExponent rest }

/-- Is there neither fraction nor exponent? -/
def isInteger (t : DecimalText) : Bool := t.fraction.isNone && t.exponent.isNone

/-- The number in digits read to the base ten. -/
def digitsValue (digits : List Char) : Nat := Nat.ofDigitChars 10 digits 0

/-- The number that the text denotes. -/
def toDecimal (t : DecimalText) : Decimal where
  negative := t.sign == some '-'
  coefficient := digitsValue (t.whole ++ t.fraction.getD [])
  exponent :=
    (match t.exponent with
      | none => 0
      | some (sign, digits) =>
        if sign == some '-' then -(digitsValue digits : Int) else digitsValue digits)
    - (t.fraction.getD []).length

end DecimalText

/-- Reads a number from a decimal text, from `NaN` or from `inf`, whatever the case of the words. -/
def Binary.ofText? (f : BinaryFormat) (text : String) : Option (Binary f) :=
  let (sign, body) := DecimalText.takeSign text.toList
  let word := body.map Char.toLower
  if word = "nan".toList then some (.notANumber f (sign == some '-'))
  else if word = "inf".toList ∨ word = "infinity".toList then some (.infinite f (sign == some '-'))
  else (DecimalText.scan text.toList).map fun t => t.toDecimal.toBinary f

end EmbeddedFilters
