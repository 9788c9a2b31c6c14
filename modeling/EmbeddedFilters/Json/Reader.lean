import EmbeddedFilters.Json.Value
import EmbeddedFilters.Text.Symbols

/-!
# Reading JSON

Reading goes in two steps. The first follows the grammar and yields a *tree*, in which strings and
numbers stand as written. The second keeps a part of the tree as a value and refuses what cannot be
kept: broken text, numbers beyond the range of doubles, nesting that is too deep. What a reader of a
message ignores only has to follow the grammar.
-/

namespace EmbeddedFilters.Json

/-- A JSON text by its grammar. A string is `none` where its text cannot be kept. -/
inductive Tree where
  | null
  | bool (b : Bool)
  | number (text : DecimalText)
  | string (text : Option String)
  | array (items : List Tree)
  | object (fields : List (Option String × Tree))

/-- A piece of a written string: a character, an escaped 16-bit unit, or a byte that is neither. -/
inductive Piece where
  | char (c : Char)
  | unit (n : Nat)
  | broken

/-- The value of a digit to the base sixteen. -/
def hexValue (c : Char) : Option Nat :=
  if '0' ≤ c ∧ c ≤ '9' then some (c.toNat - 48)
  else if 'a' ≤ c ∧ c ≤ 'f' then some (c.toNat - 87)
  else if 'A' ≤ c ∧ c ≤ 'F' then some (c.toNat - 55)
  else none

/-- The 16-bit unit written in four digits. -/
def unitValue (a b c d : Char) : Option Nat := do
  return ((← hexValue a) * 16 + (← hexValue b)) * 256 + (← hexValue c) * 16 + (← hexValue d)

/-- The character meant by a letter after a backslash. -/
def escapedChar (c : Char) : Option Char :=
  if c = '"' ∨ c = '\\' ∨ c = '/' then some c
  else if c = 'b' then some '\x08'
  else if c = 'f' then some '\x0c'
  else if c = 'n' then some '\n'
  else if c = 'r' then some '\r'
  else if c = 't' then some '\t'
  else none

/-- The pieces of a string up to its closing quote, and what follows. -/
def readPieces : List Symbol → Option (List Piece × List Symbol)
  | [] => none
  | some '"' :: rest => some ([], rest)
  | some '\\' :: some 'u' :: some a :: some b :: some c :: some d :: rest => do
    let n ← unitValue a b c d
    let (pieces, rest) ← readPieces rest
    return (.unit n :: pieces, rest)
  | some '\\' :: some e :: rest => do
    let c ← escapedChar e
    let (pieces, rest) ← readPieces rest
    return (.char c :: pieces, rest)
  | some '\\' :: _ => none
  | some c :: rest =>
    if c.toNat < 32 then none
    else do
      let (pieces, rest) ← readPieces rest
      return (.char c :: pieces, rest)
  | none :: rest => do
    let (pieces, rest) ← readPieces rest
    return (.broken :: pieces, rest)

/-- Is the unit the first half of a pair? -/
def isLeading (n : Nat) : Bool := 0xD800 ≤ n && n < 0xDC00

/-- Is the unit the second half of a pair? -/
def isTrailing (n : Nat) : Bool := 0xDC00 ≤ n && n < 0xE000

/-- The characters of a string, unless it holds broken bytes or half of a pair. -/
def joinPieces : List Piece → Option (List Char)
  | [] => some []
  | .char c :: rest => (joinPieces rest).map (c :: ·)
  | .broken :: _ => none
  | .unit n :: rest =>
    if isLeading n then
      match rest with
      | .unit m :: rest =>
        if isTrailing m then
          (joinPieces rest).map (Char.ofNat (0x10000 + (n - 0xD800) * 0x400 + (m - 0xDC00)) :: ·)
        else none
      | _ => none
    else if isTrailing n then none
    else (joinPieces rest).map (Char.ofNat n :: ·)

/-- The text of a string and what follows its closing quote. -/
def readString (source : List Symbol) : Option (Option String × List Symbol) := do
  let (pieces, rest) ← readPieces source
  return ((joinPieces pieces).map String.ofList, rest)

/-- Blanks between tokens. -/
def isBlank (s : Symbol) : Bool :=
  s == some ' ' || s == some '\t' || s == some '\n' || s == some '\r'

/-- The source without its leading blanks. -/
def skipBlanks (source : List Symbol) : List Symbol := source.dropWhile isBlank

/-- Characters that a written number is made of. -/
def isNumeral (s : Symbol) : Bool :=
  match s with
  | some c => c.isDigit || c == '-' || c == '+' || c == '.' || c == 'e' || c == 'E'
  | none => false

/-- Does the text follow the stricter rules for numbers in JSON: no plus sign in front, digits on
both sides of a point, no leading zeros? -/
def isStrict (t : DecimalText) : Bool :=
  t.sign != some '+' && t.fraction != some [] &&
    (match t.whole with
      | [] => false
      | [_] => true
      | d :: _ => d != '0')

/-- The number at the front of the source and what follows it. -/
def readNumber (source : List Symbol) : Option (DecimalText × List Symbol) := do
  let text ← DecimalText.scan ((source.takeWhile isNumeral).filterMap id)
  guard (isStrict text)
  return (text, source.dropWhile isNumeral)

mutual

/-- The tree at the front of the source and what follows it. -/
def readTree : Nat → List Symbol → Option (Tree × List Symbol)
  | 0, _ => none
  | fuel + 1, source =>
    match skipBlanks source with
    | some 'n' :: some 'u' :: some 'l' :: some 'l' :: rest => some (.null, rest)
    | some 't' :: some 'r' :: some 'u' :: some 'e' :: rest => some (.bool true, rest)
    | some 'f' :: some 'a' :: some 'l' :: some 's' :: some 'e' :: rest => some (.bool false, rest)
    | some '"' :: rest => do
      let (text, rest) ← readString rest
      return (.string text, rest)
    | some '[' :: rest =>
      match skipBlanks rest with
      | some ']' :: rest => some (.array [], rest)
      | rest => do
        let (items, rest) ← readItems fuel rest
        return (.array items, rest)
    | some '\x7b' :: rest =>
      match skipBlanks rest with
      | some '\x7d' :: rest => some (.object [], rest)
      | rest => do
        let (fields, rest) ← readFields fuel rest
        return (.object fields, rest)
    | rest => do
      let (text, rest) ← readNumber rest
      return (.number text, rest)

/-- The items of an array, its closing bracket, and what follows. -/
def readItems : Nat → List Symbol → Option (List Tree × List Symbol)
  | 0, _ => none
  | fuel + 1, source => do
    let (item, rest) ← readTree fuel source
    match skipBlanks rest with
    | some ',' :: rest =>
      let (items, rest) ← readItems fuel rest
      return (item :: items, rest)
    | some ']' :: rest => return ([item], rest)
    | _ => none

/-- The fields of an object, its closing brace, and what follows. -/
def readFields : Nat → List Symbol → Option (List (Option String × Tree) × List Symbol)
  | 0, _ => none
  | fuel + 1, source =>
    match skipBlanks source with
    | some '"' :: rest => do
      let (key, rest) ← readString rest
      match skipBlanks rest with
      | some ':' :: rest =>
        let (value, rest) ← readTree fuel rest
        match skipBlanks rest with
        | some ',' :: rest =>
          let (fields, rest) ← readFields fuel rest
          return ((key, value) :: fields, rest)
        | some '\x7d' :: rest => return ([(key, value)], rest)
        | _ => none
      | _ => none
    | _ => none

end

/-- The tree of a whole text: one value with nothing but blanks around it. -/
def parseTree (source : List Symbol) : Option Tree := do
  let (tree, rest) ← readTree (source.length + 1) source
  guard ((skipBlanks rest).isEmpty)
  return tree

/-- The number of containers that may stand inside one another in what is kept. -/
def depthLimit : Nat := 127

/-- The value of a written number: an integer if it is written as one and fits into 64 bits, signed
or not; otherwise the nearest double, if it is finite. Minus zero is no integer. -/
def keepNumber (t : DecimalText) : Option Value :=
  let d := t.toDecimal
  let i : Int := if d.negative then -(d.coefficient : Int) else d.coefficient
  if t.isInteger && !(d.negative && d.coefficient == 0) && -0x8000000000000000 ≤ i &&
      i < 0x10000000000000000 then
    some (.integer i)
  else
    let x := d.toBinary .double
    if x.isFinite then some (.number x) else none

mutual

/-- The value of a tree with at most `depth` containers inside one another. The fields of an object
are sorted by key, and the last one of a key stays. -/
def Tree.keep (depth : Nat) : Tree → Option Value
  | .null => some .null
  | .bool b => some (.bool b)
  | .number t => keepNumber t
  | .string none => none
  | .string (some s) => some (.string s)
  | .array items =>
    match depth with
    | 0 => none
    | depth + 1 => (keepItems depth items).map .array
  | .object fields =>
    match depth with
    | 0 => none
    | depth + 1 => (keepFields depth fields).map fun fields => .object (sortFields fields)

/-- The values of all items. -/
def keepItems (depth : Nat) : List Tree → Option (List Value)
  | [] => some []
  | item :: items => do
    let value ← item.keep depth
    let values ← keepItems depth items
    return value :: values

/-- The keys and values of all fields. -/
def keepFields (depth : Nat) : List (Option String × Tree) → Option (List (String × Value))
  | [] => some []
  | (key, tree) :: rest => do
    let key ← key
    let value ← tree.keep depth
    let fields ← keepFields depth rest
    return (key, value) :: fields

end

/-- The value of a whole text. -/
def parse (text : String) : Option Value :=
  (parseTree (textSymbols text)).bind (Tree.keep depthLimit)

end EmbeddedFilters.Json
