/-!
# Hexadecimal text

Numbers and bytes written to the base sixteen, in lower case; reading takes either case.
-/

namespace EmbeddedFilters.Text

/-- A number to the base sixteen, with zeros in front up to a given width. -/
def hex (width n : Nat) : String :=
  let digits := Nat.toDigits 16 n
  String.ofList (List.replicate (width - digits.length) '0' ++ digits)

def hexValue? (c : Char) : Option Nat :=
  if '0' ≤ c ∧ c ≤ '9' then some (c.toNat - '0'.toNat)
  else if 'a' ≤ c ∧ c ≤ 'f' then some (c.toNat - 'a'.toNat + 10)
  else if 'A' ≤ c ∧ c ≤ 'F' then some (c.toNat - 'A'.toNat + 10)
  else none

def readHex (digits : List Char) : Option Nat :=
  digits.foldlM (fun n c => (hexValue? c).map fun d => n * 16 + d) 0

/-- Bytes, two digits for each. -/
def hexBytes (bytes : List UInt8) : String := String.join (bytes.map fun b => hex 2 b.toNat)

/-- The bytes that pairs of digits denote. -/
def readHexBytes : List Char → Option (List UInt8)
  | [] => some []
  | [_] => none
  | a :: b :: rest => do
    let byte ← readHex [a, b]
    return .ofNat byte :: (← readHexBytes rest)

end EmbeddedFilters.Text
