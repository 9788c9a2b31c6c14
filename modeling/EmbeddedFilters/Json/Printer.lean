import EmbeddedFilters.Json.Value

/-!
# Printing JSON

The compact written form: no blanks, fields in their order, characters beyond ASCII as they are.
A number that is not finite has no JSON form and is written as `null`.
-/

namespace EmbeddedFilters.Json

/-- A digit to the base sixteen, in lower case. -/
def hexDigit (n : Nat) : Char := Nat.digitChar n

/-- The written form of one character of a string. -/
def escapeChar (c : Char) : List Char :=
  if c = '"' then ['\\', '"']
  else if c = '\\' then ['\\', '\\']
  else if c = '\x08' then ['\\', 'b']
  else if c = '\t' then ['\\', 't']
  else if c = '\n' then ['\\', 'n']
  else if c = '\x0c' then ['\\', 'f']
  else if c = '\r' then ['\\', 'r']
  else if c.toNat < 32 then ['\\', 'u', '0', '0', hexDigit (c.toNat / 16), hexDigit (c.toNat % 16)]
  else [c]

def quote (s : String) : List Char := '"' :: (s.toList.flatMap escapeChar ++ ['"'])

def printInt (i : Int) : List Char :=
  if i < 0 then '-' :: Nat.toDigits 10 i.natAbs else Nat.toDigits 10 i.natAbs

def printNumber (x : Double) : List Char :=
  if x.isFinite then NumberLayout.message.write x else ['n', 'u', 'l', 'l']

mutual

/-- The written form of a value. -/
def Value.print : Value → List Char
  | .null => ['n', 'u', 'l', 'l']
  | .bool true => ['t', 'r', 'u', 'e']
  | .bool false => ['f', 'a', 'l', 's', 'e']
  | .integer i => printInt i
  | .number x => printNumber x
  | .string s => quote s
  | .array [] => ['[', ']']
  | .array (item :: items) => '[' :: (item.print ++ printItems items)
  | .object [] => ['\x7b', '\x7d']
  | .object ((key, value) :: fields) =>
    '\x7b' :: (quote key ++ ':' :: (value.print ++ printFields fields))

/-- The items of an array after the first, and its end. -/
def printItems : List Value → List Char
  | [] => [']']
  | item :: items => ',' :: (item.print ++ printItems items)

/-- The fields of an object after the first, and its end. -/
def printFields : List (String × Value) → List Char
  | [] => ['\x7d']
  | (key, value) :: fields => ',' :: (quote key ++ ':' :: (value.print ++ printFields fields))

end

def Value.text (v : Value) : String := String.ofList v.print

def Value.bytes (v : Value) : ByteArray := v.text.toUTF8

end EmbeddedFilters.Json
