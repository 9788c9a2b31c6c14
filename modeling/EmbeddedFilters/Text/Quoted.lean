import EmbeddedFilters.Text.Visible

/-!
# Quoted text for inspection

A text is shown between quotes. Quotes, backslashes and the usual control characters are escaped by
a letter, everything else that has no visible form of its own by its number to the base sixteen.
-/

namespace EmbeddedFilters.Text

/-- The form of one character between quotes. -/
def quoteChar (c : Char) : List Char :=
  if c = '"' ∨ c = '\\' then ['\\', c]
  else if c = '\t' then ['\\', 't']
  else if c = '\n' then ['\\', 'n']
  else if c = '\r' then ['\\', 'r']
  else if c.toNat = 0 then ['\\', '0']
  else if isVisible c then [c]
  else ['\\', 'u', '\x7b'] ++ Nat.toDigits 16 c.toNat ++ ['\x7d']

def quoted (s : String) : String :=
  String.ofList ('"' :: (s.toList.flatMap quoteChar ++ ['"']))

end EmbeddedFilters.Text
