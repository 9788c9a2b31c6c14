import EmbeddedFilters.Number.Shortest

/-!
# Layouts of written numbers

A layout says how the shortest decimal of a binary number is written: where positional writing
ends, what marks a whole number, and how ties between digits are settled. The library has two
layouts, one for people and one for messages.
-/

namespace EmbeddedFilters

/-- The decisions that turn shortest digits into a text. -/
structure NumberLayout where
  /-- The powers of ten of a first digit for which all places are written out. -/
  positional : Int → Bool
  /-- What follows a whole number written out in full. -/
  wholeMark : List Char
  /-- The choice between two nearest decimals of the same length. -/
  tie : TieRule

namespace NumberLayout

/-- Texts for people write out every place and have no point after whole numbers. -/
def plain : NumberLayout where
  positional := fun _ => true
  wholeMark := []
  tie := .up

/-- Messages write places out from `0.00001` up to, and not including, `10 ^ 16`, and mark whole
numbers as fractional. -/
def message : NumberLayout where
  positional := fun lead => -5 ≤ lead && lead < 16
  wholeMark := ['.', '0']
  tie := .even

/-- All places of the digits `digits`, the point standing after the first `point` of them. -/
def writeOut (layout : NumberLayout) (digits : List Char) (point : Int) : List Char :=
  if point ≤ 0 then '0' :: '.' :: (List.replicate point.natAbs '0' ++ digits)
  else if digits.length ≤ point.natAbs then
    digits ++ List.replicate (point.natAbs - digits.length) '0' ++ layout.wholeMark
  else digits.take point.natAbs ++ '.' :: digits.drop point.natAbs

/-- One digit, the others after a point, and the power of ten with its sign. -/
def writeScaled (digits : List Char) (lead : Int) : List Char :=
  digits.take 1 ++ (if digits.length ≤ 1 then [] else '.' :: digits.drop 1)
    ++ 'e' :: (if lead < 0 then '-' else '+') :: Nat.toDigits 10 lead.natAbs

/-- A decimal without its sign. -/
def writeUnsigned (layout : NumberLayout) (coefficient : Nat) (exponent : Int) : List Char :=
  let digits := Nat.toDigits 10 coefficient
  let point := digits.length + exponent
  if coefficient = 0 then '0' :: layout.wholeMark
  else if layout.positional (point - 1) then layout.writeOut digits point
  else writeScaled digits (point - 1)

/-- A finite number in the given layout. -/
def write {f : BinaryFormat} (layout : NumberLayout) (x : Binary f) : List Char :=
  let d := x.shortest layout.tie
  (if d.negative then ['-'] else []) ++ layout.writeUnsigned d.coefficient d.exponent

end NumberLayout

/-- The text of a number for people. -/
def Binary.text {f : BinaryFormat} (x : Binary f) : String :=
  if x.isNaN then "NaN"
  else if x.isFinite then String.ofList (NumberLayout.plain.write x)
  else if x.negative then "-inf" else "inf"

end EmbeddedFilters
