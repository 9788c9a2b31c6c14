/-!
# Symbols of a payload

Payloads arrive as bytes that ought to be UTF-8. Reading goes over *symbols*: a character, or `none`
where the bytes form no character. So a reader may skip over broken text that it does not keep, and
must refuse it where it does.
-/

namespace EmbeddedFilters

/-- A character, or `none` for a byte that belongs to no character. -/
abbrev Symbol := Option Char

/-- The symbols of bytes from a position on; each byte that starts no character is one symbol. -/
def symbolsFrom (bytes : ByteArray) : Nat → Nat → List Symbol
  | 0, _ => []
  | fuel + 1, position =>
    if position < bytes.size then
      match bytes.utf8DecodeChar? position with
      | some c => some c :: symbolsFrom bytes fuel (position + c.utf8Size)
      | none => none :: symbolsFrom bytes fuel (position + 1)
    else []

def textSymbols (text : String) : List Symbol := text.toList.map some

def payloadSymbols (payload : ByteArray) : List Symbol :=
  match String.fromUTF8? payload with
  | some text => textSymbols text
  | none => symbolsFrom payload payload.size 0

end EmbeddedFilters
