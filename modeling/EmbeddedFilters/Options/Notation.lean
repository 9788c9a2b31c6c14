import EmbeddedFilters.Number.Decimal
import EmbeddedFilters.Options.Assignment
import EmbeddedFilters.Text.Hex

/-!
# Notation of option values

A value is noted down with its form in front, so that `i:1` and `f:1` stay apart; a number of 32
bits is noted down by its bits.
-/

namespace EmbeddedFilters

/-- A value with its form in front. -/
def OptionValue.noted : OptionValue → String
  | .int i => "i:" ++ toString i.toInt
  | .float x => "f:" ++ x.text

/-- Reads a value with its form in front. -/
def OptionValue.ofNoted? (s : String) : Option OptionValue :=
  match s.toList with
  | 'i' :: ':' :: rest => (String.ofList rest).toInt?.map fun i => .int (.ofInt i)
  | 'f' :: ':' :: rest => (Binary.ofText? .double (String.ofList rest)).map .float
  | _ => none

def singleBits (x : Single) : String := "0x" ++ Text.hex 8 x.toBits

def singleOfBits? (s : String) : Option Single :=
  match s.toList with
  | '0' :: 'x' :: digits => (Text.readHex digits).map (.ofBits .single)
  | _ => none

end EmbeddedFilters
