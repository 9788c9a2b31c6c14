import EmbeddedFilters.Json.Record
import EmbeddedFilters.Proofs.Json.Strings
import EmbeddedFilters.Proofs.Number.Written

/-!
# Printed values are read back

The printer of JSON values and the reader of trees agree: what is printed for a value is read back
as the tree of the value (`parseTree_print`), in which numbers stand as they are written. A value
without a JSON form, that is, a number which is not finite, is printed as `null` and read back as
such.

The proof follows the printer, with the statement for values, items and fields at once. What follows
a value must not be taken for a part of a number (`NoNumeral`), and the fuel of the reader is
bounded by the length of what is still to be read.
-/

namespace EmbeddedFilters.Json

/-- The text of a number in a tree. -/
def numberTree (x : Double) : Tree :=
  if x.isFinite then .number (NumberLayout.messageParts (x.shortest .even)) else .null

mutual

/-- The tree of a printed value. -/
def Value.tree : Value → Tree
  | .null => .null
  | .bool b => .bool b
  | .integer i => .number (integerParts i)
  | .number x => numberTree x
  | .string s => .string (some s)
  | .array items => .array (itemTrees items)
  | .object fields => .object (fieldTrees fields)

/-- The trees of printed items. -/
def itemTrees : List Value → List Tree
  | [] => []
  | item :: items => item.tree :: itemTrees items

/-- The trees of printed fields. -/
def fieldTrees : List (String × Value) → List (Option String × Tree)
  | [] => []
  | (key, value) :: fields => (some key, value.tree) :: fieldTrees fields

end

/-- The rest of a source cannot be taken for a part of a number. -/
def NoNumeral (rest : List Symbol) : Prop := ∀ s ∈ rest.head?, isNumeral s = false

/-- The text of a number consists of the characters of numbers. -/
lemma isNumeral_of_mem_render {t : DecimalText} (ht : t.WellFormed) {c : Char} (hc : c ∈ t.render) :
    isNumeral (some c) = true := by
  have digit {c : Char} (h : c.isDigit = true) : isNumeral (some c) = true := by
    simp [isNumeral, h]
  unfold DecimalText.render at hc
  simp only [List.mem_append] at hc
  rcases hc with hc | hc | hc | hc
  · rcases ht.sign with hs | hs <;> simp [hs] at hc
    subst hc
    rfl
  · exact digit (ht.whole.2 c hc)
  · cases hf : t.fraction with
    | none => simp [hf] at hc
    | some digits =>
      rw [hf] at hc
      rcases List.mem_cons.1 hc with rfl | hc
      · rfl
      · exact digit ((ht.fraction digits hf).2 c hc)
  · cases he : t.exponent with
    | none => simp [he] at hc
    | some e =>
      obtain ⟨sign, digits⟩ := e
      obtain ⟨hs, hd⟩ := ht.exponent sign digits he
      rw [he] at hc
      rcases List.mem_cons.1 hc with rfl | hc
      · rfl
      · rcases List.mem_append.1 hc with hc | hc
        · rcases hs with rfl | rfl
          all_goals
            rw [List.mem_singleton.1 hc]
            rfl
        · exact digit (hd.2 c hc)

/-- The text of a number is read up to its end, and no further. -/
lemma readNumber_render {t : DecimalText} (ht : t.WellFormed) (hs : isStrict t = true)
    {rest : List Symbol} (hr : NoNumeral rest) :
    readNumber (t.render.map some ++ rest) = some (t, rest) := by
  have hall : ∀ s ∈ t.render.map some, isNumeral s = true := fun s hs => by
    obtain ⟨c, hc, rfl⟩ := List.mem_map.1 hs
    exact isNumeral_of_mem_render ht hc
  have htake : (t.render.map some ++ rest).takeWhile isNumeral = t.render.map some := by
    rw [List.takeWhile_append_of_pos hall]
    cases rest with
    | nil => simp
    | cons s rest => simp [hr s rfl]
  have hdrop : (t.render.map some ++ rest).dropWhile isNumeral = rest := by
    rw [List.dropWhile_append_of_pos hall]
    cases rest with
    | nil => rfl
    | cons s rest => simp [hr s rfl]
  simp [readNumber, htake, hdrop, DecimalText.scan_render ht, hs]

/-- The text of a number starts with a minus or with a digit. -/
lemma head_render {t : DecimalText} (ht : t.WellFormed) :
    ∃ c cs, t.render = c :: cs ∧ (c = '-' ∨ c.isDigit = true) := by
  obtain ⟨hne, hall⟩ := ht.whole
  cases hw : t.whole with
  | nil => exact absurd hw hne
  | cons c cs =>
    have hc := hall c (by simp [hw])
    rcases ht.sign with hs | hs
    · exact ⟨c, _, by simp only [DecimalText.render, hs, hw]; rfl, .inr hc⟩
    · exact ⟨'-', _, by simp only [DecimalText.render, hs, hw]; rfl, .inl rfl⟩

/-- A tree that starts with a sign or a digit is a number. -/
lemma readTree_numeral {c : Char} (hc : c = '-' ∨ c.isDigit = true) (fuel : Nat)
    (rest : List Symbol) :
    readTree (fuel + 1) (some c :: rest) =
      (readNumber (some c :: rest)).map fun p => (.number p.1, p.2) := by
  have hne (d : Char) (hd : d ≠ '-') (hdigit : d.isDigit = false) : c ≠ d := by
    rintro rfl
    rcases hc with rfl | hc
    · exact hd rfl
    · simp [hdigit] at hc
  have hblank : isBlank (some c) = false := by
    simp [isBlank, hne ' ' (by decide) rfl, hne '\t' (by decide) rfl, hne '\n' (by decide) rfl,
      hne '\r' (by decide) rfl]
  have hskip : skipBlanks (some c :: rest) = some c :: rest := by simp [skipBlanks, hblank]
  rw [readTree, hskip, Option.map_eq_bind]
  split
  all_goals first
    | rfl
    | simp_all

/-- A number that has been put together is read as a tree. -/
lemma readTree_render {t : DecimalText} (ht : t.WellFormed) (hs : isStrict t = true) (fuel : Nat)
    {rest : List Symbol} (hr : NoNumeral rest) :
    readTree (fuel + 1) (t.render.map some ++ rest) = some (.number t, rest) := by
  obtain ⟨c, cs, hcs, hc⟩ := head_render ht
  have hread := readNumber_render ht hs hr
  rw [hcs, List.map_cons, List.cons_append] at hread ⊢
  rw [readTree_numeral hc, hread]
  rfl

/-- A printed value starts with a character that is neither blank nor the end of an array. -/
lemma head_print (v : Value) :
    ∃ c cs, v.print = c :: cs ∧ isBlank (some c) = false ∧ c ≠ ']' := by
  have numeral {t : DecimalText} (ht : t.WellFormed) :
      ∃ c cs, t.render = c :: cs ∧ isBlank (some c) = false ∧ c ≠ ']' := by
    obtain ⟨c, cs, hcs, hc⟩ := head_render ht
    refine ⟨c, cs, hcs, ?_, ?_⟩
    · rcases hc with rfl | hc
      · rfl
      · simp only [isBlank, Bool.or_eq_false_iff, beq_eq_false_iff_ne, ne_eq, Option.some.injEq]
        refine ⟨⟨⟨?_, ?_⟩, ?_⟩, ?_⟩ <;> (rintro rfl; simp at hc)
    · rintro rfl
      simp at hc
  cases v with
  | null => exact ⟨'n', _, rfl, rfl, by decide⟩
  | bool b =>
    cases b with
    | true => exact ⟨'t', _, rfl, rfl, by decide⟩
    | false => exact ⟨'f', _, rfl, rfl, by decide⟩
  | integer i =>
    rw [Value.print, ← render_integerParts]
    exact numeral (wellFormed_integerParts i)
  | number x =>
    rw [Value.print, printNumber]
    split
    · rw [NumberLayout.write, ← NumberLayout.render_messageParts]
      exact numeral (NumberLayout.wellFormed_messageParts _)
    · exact ⟨'n', _, rfl, rfl, by decide⟩
  | string s => exact ⟨'"', _, by rw [Value.print, quote], rfl, by decide⟩
  | array items =>
    cases items with
    | nil => exact ⟨'[', _, by rw [Value.print], rfl, by decide⟩
    | cons item items => exact ⟨'[', _, by rw [Value.print], rfl, by decide⟩
  | object fields =>
    cases fields with
    | nil => exact ⟨'\x7b', _, by rw [Value.print], rfl, by decide⟩
    | cons field fields => exact ⟨'\x7b', _, by rw [Value.print], rfl, by decide⟩

/-- A printed value does not start with a blank. -/
lemma skipBlanks_print (v : Value) (rest : List Symbol) :
    skipBlanks (v.print.map some ++ rest) = v.print.map some ++ rest := by
  obtain ⟨c, cs, hcs, hblank, -⟩ := head_print v
  simp [hcs, skipBlanks, hblank]

/-- After a quote a string is read. -/
lemma readTree_string (fuel : Nat) (source : List Symbol) :
    readTree (fuel + 1) (some '"' :: source) =
      (readString source).bind fun p => some (.string p.1, p.2) := rfl

/-- After a bracket that is not closed at once items are read. -/
lemma readTree_array {fuel : Nat} {source : List Symbol} (hskip : skipBlanks source = source)
    (hne : ∀ rest, source ≠ some ']' :: rest) :
    readTree (fuel + 1) (some '[' :: source) =
      (readItems fuel source).bind fun p => some (.array p.1, p.2) := by
  have hbracket : skipBlanks (some '[' :: source) = some '[' :: source := rfl
  -- the array is not closed at once, so the simplifier is left with its items
  simp only [readTree, hbracket, hskip]
  rfl

/-- After a brace and a quote fields are read. -/
lemma readTree_object (fuel : Nat) (source : List Symbol) :
    readTree (fuel + 1) (some '\x7b' :: some '"' :: source) =
      (readFields fuel (some '"' :: source)).bind fun p => some (.object p.1, p.2) := rfl

/-- An item before a closing bracket is the last one. -/
lemma readItems_last {fuel : Nat} {source rest : List Symbol} {item : Tree}
    (h : readTree fuel source = some (item, some ']' :: rest)) :
    readItems (fuel + 1) source = some ([item], rest) := by
  rw [readItems, h]
  rfl

/-- An item before a comma is followed by others. -/
lemma readItems_more {fuel : Nat} {source rest : List Symbol} {item : Tree}
    (h : readTree fuel source = some (item, some ',' :: rest)) :
    readItems (fuel + 1) source =
      (readItems fuel rest).bind fun p => some (item :: p.1, p.2) := by
  rw [readItems, h]
  rfl

/-- A field before a closing brace is the last one. -/
lemma readFields_last {fuel : Nat} {source middle rest : List Symbol} {key : Option String}
    {value : Tree} (hkey : readString source = some (key, some ':' :: middle))
    (h : readTree fuel middle = some (value, some '\x7d' :: rest)) :
    readFields (fuel + 1) (some '"' :: source) = some ([(key, value)], rest) := by
  have hquote : skipBlanks (some '"' :: source) = some '"' :: source := rfl
  rw [readFields, hquote]
  simp only [hkey, Option.bind_eq_bind, Option.bind_some]
  have hcolon : skipBlanks (some ':' :: middle) = some ':' :: middle := rfl
  simp only [hcolon, h, Option.bind_some]
  rfl

/-- A field before a comma is followed by others. -/
lemma readFields_more {fuel : Nat} {source middle rest : List Symbol} {key : Option String}
    {value : Tree} (hkey : readString source = some (key, some ':' :: middle))
    (h : readTree fuel middle = some (value, some ',' :: rest)) :
    readFields (fuel + 1) (some '"' :: source) =
      (readFields fuel rest).bind fun p => some ((key, value) :: p.1, p.2) := by
  have hquote : skipBlanks (some '"' :: source) = some '"' :: source := rfl
  rw [readFields, hquote]
  simp only [hkey, Option.bind_eq_bind, Option.bind_some]
  have hcolon : skipBlanks (some ':' :: middle) = some ':' :: middle := rfl
  simp only [hcolon, h, Option.bind_some]
  rfl

/-- A text that starts with anything else does not go on a number. -/
lemma noNumeral_cons {c : Char} (h : isNumeral (some c) = false) (rest : List Symbol) :
    NoNumeral (some c :: rest) := fun s hs => by
  cases hs
  exact h

/-- A printed value is not empty. -/
lemma length_print_pos (v : Value) : 0 < v.print.length := by
  obtain ⟨c, cs, hcs, -⟩ := head_print v
  simp [hcs]

mutual

/-- What is printed for a value is read back as its tree. -/
lemma readTree_print : ∀ (v : Value) (fuel : Nat) (rest : List Symbol), v.print.length < fuel →
    NoNumeral rest → readTree fuel (v.print.map some ++ rest) = some (v.tree, rest)
  | _, 0, _, h, _ => absurd h (Nat.not_lt_zero _)
  | .null, fuel + 1, rest, _, _ => rfl
  | .bool true, fuel + 1, rest, _, _ => rfl
  | .bool false, fuel + 1, rest, _, _ => rfl
  | .integer i, fuel + 1, rest, _, hr => by
    rw [Value.print, ← render_integerParts]
    exact readTree_render (wellFormed_integerParts i) (isStrict_integerParts i) fuel hr
  | .number x, fuel + 1, rest, _, hr => by
    rw [Value.print, printNumber, Value.tree, numberTree]
    split
    · rw [NumberLayout.write, ← NumberLayout.render_messageParts]
      exact readTree_render (NumberLayout.wellFormed_messageParts _)
        (NumberLayout.isStrict_messageParts _) fuel hr
    · rfl
  | .string s, fuel + 1, rest, _, _ => by
    rw [Value.print, quote, List.map_cons, List.cons_append, readTree_string, readString_quote]
    rfl
  | .array [], fuel + 1, rest, _, _ => rfl
  | .array (item :: items), fuel + 1, rest, h, _ => by
    have hlen : (item.print ++ printItems items).length < fuel := by
      rw [Value.print, List.length_cons] at h
      omega
    have hitems := readItems_print item items fuel rest hlen
    have hskip := skipBlanks_print item ((printItems items).map some ++ rest)
    obtain ⟨c, cs, hcs, -, hc⟩ := head_print item
    rw [List.map_append, List.append_assoc] at hitems
    rw [Value.print, List.map_cons, List.cons_append, List.map_append, List.append_assoc,
      readTree_array hskip (fun rest he => hc (by simp [hcs] at he; exact he.1)), hitems]
    rfl
  | .object [], fuel + 1, rest, _, _ => rfl
  | .object ((key, value) :: fields), fuel + 1, rest, h, _ => by
    have hlen : (quote key ++ ':' :: (value.print ++ printFields fields)).length < fuel := by
      rw [Value.print, List.length_cons] at h
      omega
    have hfields := readFields_print key value fields fuel rest hlen
    rw [Value.print, List.map_cons, List.cons_append]
    rw [quote, List.cons_append, List.map_cons, List.cons_append] at hfields ⊢
    rw [readTree_object, hfields]
    rfl

/-- What is printed for items is read back as their trees. -/
lemma readItems_print : ∀ (item : Value) (items : List Value) (fuel : Nat) (rest : List Symbol),
    (item.print ++ printItems items).length < fuel →
    readItems fuel ((item.print ++ printItems items).map some ++ rest) =
      some (item.tree :: itemTrees items, rest)
  | _, _, 0, _, h => absurd h (Nat.not_lt_zero _)
  | item, [], fuel + 1, rest, h => by
    have hlen : item.print.length < fuel := by
      rw [List.length_append, printItems, List.length_singleton] at h
      omega
    have hitem := readTree_print item fuel (some ']' :: rest) hlen (noNumeral_cons rfl rest)
    rw [List.map_append, List.append_assoc, printItems]
    exact readItems_last hitem
  | item, next :: items, fuel + 1, rest, h => by
    have hpos := length_print_pos item
    rw [printItems, List.length_append, List.length_cons] at h
    have hitem := readTree_print item fuel
      (some ',' :: ((next.print ++ printItems items).map some ++ rest)) (by omega)
      (noNumeral_cons rfl _)
    have hitems := readItems_print next items fuel rest (by omega)
    rw [List.map_append, List.append_assoc, printItems, List.map_cons, List.cons_append,
      readItems_more hitem, hitems]
    rfl

/-- What is printed for fields is read back as their keys and trees. -/
lemma readFields_print : ∀ (key : String) (value : Value) (fields : List (String × Value))
    (fuel : Nat) (rest : List Symbol),
    (quote key ++ ':' :: (value.print ++ printFields fields)).length < fuel →
    readFields fuel ((quote key ++ ':' :: (value.print ++ printFields fields)).map some ++ rest) =
      some ((some key, value.tree) :: fieldTrees fields, rest)
  | _, _, _, 0, _, h => absurd h (Nat.not_lt_zero _)
  | key, value, [], fuel + 1, rest, h => by
    rw [printFields] at h ⊢
    have hkey := readString_quote key (some ':' :: (value.print.map some ++ some '\x7d' :: rest))
    have hvalue := readTree_print value fuel (some '\x7d' :: rest)
      (by simp only [List.length_append, List.length_cons] at h; omega) (noNumeral_cons rfl rest)
    have hread := readFields_last hkey hvalue
    refine Eq.trans ?_ hread
    simp [quote]
  | key, value, (nextKey, next) :: fields, fuel + 1, rest, h => by
    rw [printFields] at h ⊢
    have hkey := readString_quote key (some ':' :: (value.print.map some ++ some ',' ::
      ((quote nextKey ++ ':' :: (next.print ++ printFields fields)).map some ++ rest)))
    have hvalue := readTree_print value fuel (some ',' ::
      ((quote nextKey ++ ':' :: (next.print ++ printFields fields)).map some ++ rest))
      (by simp only [List.length_append, List.length_cons] at h; omega) (noNumeral_cons rfl _)
    have hfields := readFields_print nextKey next fields fuel rest
      (by simp only [List.length_append, List.length_cons] at h ⊢; omega)
    have hread := readFields_more hkey hvalue
    rw [hfields] at hread
    refine Eq.trans ?_ hread
    simp [quote]

end

/-- The text of a printed value is read as its tree. -/
lemma parseTree_print (v : Value) : parseTree (v.print.map some) = some v.tree := by
  have hread := readTree_print v ((v.print.map some).length + 1) [] (by simp) (by simp [NoNumeral])
  rw [List.append_nil] at hread
  rw [parseTree, hread]
  simp [skipBlanks]

/-- The bytes of a printed value are read as its characters. -/
lemma payloadSymbols_bytes (v : Value) : payloadSymbols v.bytes = v.print.map some := by
  have hutf8 : String.fromUTF8? v.bytes = some v.text := dif_pos v.text.isValidUTF8
  rw [payloadSymbols, hutf8]
  simp [textSymbols, Value.text, String.toList_ofList]

/-- A decoder of payloads sees the tree of the value that was sent. -/
lemma decodePayload_bytes {α : Type} (decode : Decoder α) (v : Value) :
    decodePayload decode v.bytes = decode depthLimit v.tree := by
  rw [decodePayload, decodeSymbols, payloadSymbols_bytes, parseTree_print]
  rfl

end EmbeddedFilters.Json
