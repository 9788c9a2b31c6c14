import EmbeddedFilters.Json.Printer
import EmbeddedFilters.Json.Reader
import EmbeddedFilters.Proofs.Number.Shortest

/-!
# Written numbers are read back

The reader of numbers takes a text apart that has been put together from well-formed parts
(`DecimalText.scan_render`). The layout of messages puts a finite number together from such parts
(`NumberLayout.messageParts`), and they denote the shortest decimal of the number, so what is kept
of the written number is the number itself (`Json.keepNumber_messageParts`). The digits of an
integer are read back as that integer (`Json.keepNumber_integerParts`).
-/

namespace EmbeddedFilters

namespace DecimalText

/-- The text with the given parts. -/
def render (t : DecimalText) : List Char :=
  t.sign.toList ++ (t.whole ++ ((t.fraction.map ('.' :: ·)).getD [] ++
    (t.exponent.map fun e => 'e' :: (e.1.toList ++ e.2)).getD []))

/-- Is there a digit, and nothing but digits? -/
def IsNumeral (digits : List Char) : Prop := digits ≠ [] ∧ ∀ c ∈ digits, c.isDigit = true

/-- Parts that can be told apart again once they are put together. -/
structure WellFormed (t : DecimalText) : Prop where
  sign : t.sign = none ∨ t.sign = some '-'
  whole : IsNumeral t.whole
  fraction : ∀ digits, t.fraction = some digits → IsNumeral digits
  exponent : ∀ sign digits, t.exponent = some (sign, digits) →
    (sign = some '+' ∨ sign = some '-') ∧ IsNumeral digits

/-- The rest of a text cannot be taken for further digits. -/
def NoDigit (rest : List Char) : Prop := ∀ c ∈ rest.head?, c.isDigit = false

/-- The digits at the front of a text are taken up to its first other character. -/
lemma takeWhile_isDigit {digits rest : List Char} (hd : IsNumeral digits) (hr : NoDigit rest) :
    (digits ++ rest).takeWhile Char.isDigit = digits := by
  rw [List.takeWhile_append_of_pos hd.2]
  cases rest with
  | nil => simp
  | cons c rest => simp [hr c rfl]

/-- What is left of a text is what stands behind its digits. -/
lemma dropWhile_isDigit {digits rest : List Char} (hd : IsNumeral digits) (hr : NoDigit rest) :
    (digits ++ rest).dropWhile Char.isDigit = rest := by
  rw [List.dropWhile_append_of_pos hd.2]
  cases rest with
  | nil => simp
  | cons c rest => simp [hr c rfl]

/-- A sign before digits is split off. -/
lemma takeSign_append {sign : Option Char} {digits : List Char} (rest : List Char)
    (hs : sign = none ∨ sign = some '+' ∨ sign = some '-') (hd : IsNumeral digits) :
    takeSign (sign.toList ++ (digits ++ rest)) = (sign, digits ++ rest) := by
  obtain ⟨hne, hall⟩ := hd
  cases digits with
  | nil => exact absurd rfl hne
  | cons d digits =>
    rcases hs with rfl | rfl | rfl
    · have hdigit := hall d List.mem_cons_self
      have hplus : d ≠ '+' := by rintro rfl; exact absurd hdigit (by decide)
      have hminus : d ≠ '-' := by rintro rfl; exact absurd hdigit (by decide)
      simp [takeSign, hplus, hminus]
    · rfl
    · rfl

/-- A written exponent is read back. -/
lemma takeExponent_render {t : DecimalText} (ht : t.WellFormed) :
    takeExponent ((t.exponent.map fun e => 'e' :: (e.1.toList ++ e.2)).getD []) =
      some t.exponent := by
  cases he : t.exponent with
  | none => rfl
  | some e =>
    obtain ⟨sign, digits⟩ := e
    obtain ⟨hs, hd⟩ := ht.exponent sign digits he
    have htake := takeSign_append [] (.inr hs) hd
    have hall : digits.all Char.isDigit = true := List.all_eq_true.2 hd.2
    rw [List.append_nil] at htake
    simp only [Option.map_some, Option.getD_some, takeExponent, htake]
    simp [hd.1, hall]

/-- A written fraction is read back. -/
lemma takeFraction_render {t : DecimalText} (ht : t.WellFormed) {rest : List Char}
    (hr : NoDigit rest) (hdot : rest.head? ≠ some '.') :
    takeFraction ((t.fraction.map ('.' :: ·)).getD [] ++ rest) = (t.fraction, rest) := by
  cases hf : t.fraction with
  | none =>
    cases rest with
    | nil => rfl
    | cons c rest =>
      have hc : c ≠ '.' := fun h => hdot (by simp [h])
      simp [takeFraction, hc]
  | some digits =>
    have hd := ht.fraction digits hf
    simp [takeFraction, takeWhile_isDigit hd hr, dropWhile_isDigit hd hr]

/-- A text that has been put together is taken apart into the same parts. -/
lemma scan_render {t : DecimalText} (ht : t.WellFormed) : scan t.render = some t := by
  set exponent := (t.exponent.map fun e => 'e' :: (e.1.toList ++ e.2)).getD [] with hexp
  have hE : NoDigit exponent ∧ exponent.head? ≠ some '.' := by
    rw [hexp]
    cases t.exponent <;> simp [NoDigit]
  have hF : NoDigit ((t.fraction.map ('.' :: ·)).getD [] ++ exponent) := by
    cases t.fraction with
    | none => exact hE.1
    | some digits => simp [NoDigit]
  have hs : t.sign = none ∨ t.sign = some '+' ∨ t.sign = some '-' := ht.sign.imp_right .inr
  have hguard : t.whole ≠ [] ∨ t.fraction.getD [] ≠ [] := .inl ht.whole.1
  simp only [scan, render, ← hexp, takeSign_append _ hs ht.whole, takeWhile_isDigit ht.whole hF,
    dropWhile_isDigit ht.whole hF, takeFraction_render ht hE.1 hE.2, hguard]
  rw [hexp, takeExponent_render ht]
  rfl

end DecimalText

/-- A natural number is written as a numeral. -/
lemma isNumeral_toDigits (n : Nat) : DecimalText.IsNumeral (Nat.toDigits 10 n) :=
  ⟨Nat.toDigits_ne_nil, fun _ hc => Nat.isDigit_of_mem_toDigits (by decide) (by decide) hc⟩

/-- A positive number is written without zeros at the front. -/
lemma head_toDigits_ne_zero {n : Nat} (hn : n ≠ 0) : (Nat.toDigits 10 n).head? ≠ some '0' := by
  induction n using Nat.strongRecOn with
  | ind n ih =>
    rw [Nat.toDigits_eq_if (by decide)]
    split
    · simp [hn]
    · have hdiv : n / 10 ≠ 0 := by omega
      have hhead := ih (n / 10) (by omega) hdiv
      cases h : Nat.toDigits 10 (n / 10) with
      | nil => exact absurd h Nat.toDigits_ne_nil
      | cons d ds => simpa [h] using hhead

namespace NumberLayout

/-- The digits before and after the point when all places are written out. -/
def places (digits : List Char) (point : Int) : List Char × List Char :=
  if point ≤ 0 then (['0'], List.replicate point.natAbs '0' ++ digits)
  else if digits.length ≤ point.natAbs then
    (digits ++ List.replicate (point.natAbs - digits.length) '0', ['0'])
  else (digits.take point.natAbs, digits.drop point.natAbs)

/-- Messages write all places out. -/
lemma writeOut_eq (digits : List Char) (point : Int) :
    message.writeOut digits point = (places digits point).1 ++ '.' :: (places digits point).2 := by
  unfold writeOut places
  split
  · rfl
  · split
    · rfl
    · rfl

/-- The digits before and behind the point are numerals. -/
lemma isNumeral_places {digits : List Char} (hd : DecimalText.IsNumeral digits) (point : Int) :
    DecimalText.IsNumeral (places digits point).1 ∧
    DecimalText.IsNumeral (places digits point).2 := by
  have hzeros (n : Nat) : ∀ c ∈ List.replicate n '0', c.isDigit = true := fun c hc => by
    rw [List.eq_of_mem_replicate hc]
    rfl
  have hzero : DecimalText.IsNumeral ['0'] := ⟨by simp, by simp⟩
  unfold places
  split
  · refine ⟨hzero, by simp [hd.1], fun c hc => ?_⟩
    exact (List.mem_append.1 hc).elim (hzeros _ c) (hd.2 c)
  · split
    · refine ⟨⟨by simp [hd.1], fun c hc => ?_⟩, hzero⟩
      exact (List.mem_append.1 hc).elim (hd.2 c) (hzeros _ c)
    · refine ⟨⟨?_, fun c hc => hd.2 c (List.mem_of_mem_take hc)⟩,
        ⟨?_, fun c hc => hd.2 c (List.mem_of_mem_drop hc)⟩⟩
      · simp only [ne_eq, List.take_eq_nil_iff, not_or]
        exact ⟨by omega, hd.1⟩
      · simp only [ne_eq, List.drop_eq_nil_iff]
        omega

/-- The digits before the point are a single zero or do not start with one. -/
lemma head_places {digits : List Char} (hd : digits ≠ []) (h : digits.head? ≠ some '0')
    (point : Int) :
    (places digits point).1 = ['0'] ∨ (places digits point).1.head? ≠ some '0' := by
  unfold places
  split
  · exact .inl rfl
  · split
    · refine .inr ?_
      rw [List.head?_append_of_ne_nil _ hd]
      exact h
    · refine .inr ?_
      rw [List.head?_take, if_neg (by omega)]
      exact h

/-- The parts of the text that messages show for a decimal. -/
def messageParts (d : Decimal) : DecimalText :=
  let digits := Nat.toDigits 10 d.coefficient
  let point := digits.length + d.exponent
  let sign := if d.negative then some '-' else none
  if d.coefficient = 0 then ⟨sign, ['0'], some ['0'], none⟩
  else if message.positional (point - 1) then
    ⟨sign, (places digits point).1, some (places digits point).2, none⟩
  else
    ⟨sign, digits.take 1, if digits.length ≤ 1 then none else some (digits.drop 1),
      some (some (if point - 1 < 0 then '-' else '+'), Nat.toDigits 10 (point - 1).natAbs)⟩

/-- Messages show a decimal by its parts. -/
lemma render_messageParts (d : Decimal) :
    (messageParts d).render =
      (if d.negative then ['-'] else []) ++ message.writeUnsigned d.coefficient d.exponent := by
  have hsign : (if d.negative then some '-' else none).toList =
      (if d.negative then ['-'] else []) := by
    split <;> rfl
  unfold messageParts writeUnsigned
  dsimp only
  split
  · simp [DecimalText.render, hsign, message]
  · split
    · simp [DecimalText.render, hsign, writeOut_eq]
    · unfold writeScaled
      by_cases hlen : (Nat.toDigits 10 d.coefficient).length ≤ 1
      · simp [DecimalText.render, hsign, hlen]
      · simp [DecimalText.render, hsign, hlen]

/-- The parts that a decimal is written with are well formed. -/
lemma wellFormed_messageParts (d : Decimal) : (messageParts d).WellFormed := by
  have hdigits := isNumeral_toDigits d.coefficient
  have hzero : DecimalText.IsNumeral ['0'] := ⟨by simp, by simp⟩
  have hsign : (if d.negative then some '-' else none) = none ∨
      (if d.negative then some '-' else none) = some '-' := by
    split
    · exact .inr rfl
    · exact .inl rfl
  unfold messageParts
  dsimp only
  split
  · exact ⟨hsign, hzero, fun _ h => by cases h; exact hzero, nofun⟩
  · split
    · have hplaces := isNumeral_places hdigits
        ((Nat.toDigits 10 d.coefficient).length + d.exponent)
      exact ⟨hsign, hplaces.1, fun _ h => by cases h; exact hplaces.2, nofun⟩
    · refine ⟨hsign, ⟨by simp [hdigits.1], fun c hc => hdigits.2 c (List.mem_of_mem_take hc)⟩,
        fun digits h => ?_, fun _ _ h => ?_⟩
      · by_cases hlen : (Nat.toDigits 10 d.coefficient).length ≤ 1
        · simp [hlen] at h
        · simp only [hlen, if_false, Option.some.injEq] at h
          subst h
          refine ⟨fun h => ?_, fun c hc => hdigits.2 c (List.mem_of_mem_drop hc)⟩
          exact hlen (List.drop_eq_nil_iff.1 h)
      · cases h
        refine ⟨?_, isNumeral_toDigits _⟩
        split
        · exact .inr rfl
        · exact .inl rfl

/-- The digits before the point of a written decimal are one zero or start with none. -/
lemma head_whole_messageParts (d : Decimal) :
    (messageParts d).whole = ['0'] ∨ (messageParts d).whole.head? ≠ some '0' := by
  unfold messageParts
  dsimp only
  split
  · exact .inl rfl
  · rename_i hc
    have hhead := head_toDigits_ne_zero hc
    split
    · exact head_places Nat.toDigits_ne_nil hhead _
    · refine .inr ?_
      rw [List.head?_take, if_neg (by omega)]
      exact hhead

/-- A decimal is written as messages allow. -/
lemma isStrict_messageParts (d : Decimal) : Json.isStrict (messageParts d) = true := by
  have hwf := wellFormed_messageParts d
  have hsign : (messageParts d).sign ≠ some '+' := by
    rcases hwf.sign with h | h <;> simp [h]
  have hfraction : (messageParts d).fraction ≠ some [] := fun h => (hwf.fraction [] h).1 rfl
  have hwhole := head_whole_messageParts d
  unfold Json.isStrict
  cases hw : (messageParts d).whole with
  | nil => exact absurd hw hwf.whole.1
  | cons c cs =>
    cases cs with
    | nil => simp [hsign, hfraction]
    | cons c' cs => simpa [hsign, hfraction, hw] using hwhole

/-- What messages show for a decimal is never an integer. -/
lemma isInteger_messageParts (d : Decimal) : (messageParts d).isInteger = false := by
  unfold messageParts
  dsimp only
  split
  · rfl
  · split
    · rfl
    · simp [DecimalText.isInteger]

variable (f : BinaryFormat)

/-- Writing all places out does not change the value of the digits. -/
lemma magnitude_places (digits : List Char) (point : Int) :
    Decimal.magnitude f
        (DecimalText.digitsValue ((places digits point).1 ++ (places digits point).2))
        (0 - (places digits point).2.length) =
      Decimal.magnitude f (DecimalText.digitsValue digits) (point - digits.length) := by
  unfold places DecimalText.digitsValue
  split
  · have hexp : (0 : Int) - (List.replicate point.natAbs '0' ++ digits).length =
        point - digits.length := by
      rw [List.length_append, List.length_replicate]
      omega
    rw [hexp]
    simp [Nat.ofDigitChars_cons, Nat.ofDigitChars_append]
  · split
    · rename_i hpoint hlen
      have hvalue : Nat.ofDigitChars 10
          (digits ++ List.replicate (point.natAbs - digits.length) '0' ++ ['0']) 0 =
            Nat.ofDigitChars 10 digits 0 * 10 ^ (point.natAbs - digits.length + 1) := by
        simp [Nat.ofDigitChars_append, Nat.ofDigitChars_cons, Nat.pow_succ]
        ring
      rw [hvalue, Decimal.magnitude_mul_pow]
      congr 1
      simp only [List.length_singleton]
      omega
    · rename_i hpoint hlen
      rw [List.take_append_drop, List.length_drop]
      congr 1
      omega

/-- A written exponent denotes what has been written. -/
lemma signedValue_toDigits (i : Int) :
    (if (some (if i < 0 then '-' else '+') == some '-') then
      -(DecimalText.digitsValue (Nat.toDigits 10 i.natAbs) : Int)
      else DecimalText.digitsValue (Nat.toDigits 10 i.natAbs)) = i := by
  rw [DecimalText.digitsValue, Nat.ofDigitChars_ten_toDigits]
  by_cases hi : i < 0
  · simp [hi, abs_of_neg hi]
  · simp [hi, abs_of_nonneg (not_lt.1 hi)]

/-- What messages show for a decimal has the same magnitude. -/
lemma magnitude_messageParts (negative : Bool) (c : Nat) (e : Int) :
    Decimal.magnitude f (messageParts ⟨negative, c, e⟩).toDecimal.coefficient
      (messageParts ⟨negative, c, e⟩).toDecimal.exponent = Decimal.magnitude f c e := by
  have hc : DecimalText.digitsValue (Nat.toDigits 10 c) = c := Nat.ofDigitChars_ten_toDigits
  unfold messageParts
  dsimp only
  split
  · rename_i h0
    subst h0
    have hzero : DecimalText.digitsValue ['0', '0'] = 0 := rfl
    simp [Decimal.magnitude, DecimalText.toDecimal, hzero]
  · split
    · have hplaces := magnitude_places f (Nat.toDigits 10 c) ((Nat.toDigits 10 c).length + e)
      rw [hc, show ((Nat.toDigits 10 c).length : Int) + e - (Nat.toDigits 10 c).length = e by ring]
        at hplaces
      exact hplaces
    · have hpos := List.length_pos_of_ne_nil (Nat.toDigits_ne_nil (n := c) (b := 10))
      simp only [DecimalText.toDecimal, signedValue_toDigits]
      -- a single digit is shown without a fraction
      by_cases hlen : (Nat.toDigits 10 c).length ≤ 1
      · simp only [hlen, if_true, Option.getD_none, List.append_nil, List.length_nil]
        rw [List.take_of_length_le hlen, hc]
        congr 1
        push_cast
        omega
      · simp only [hlen, if_false, Option.getD_some, List.take_append_drop, List.length_drop, hc]
        congr 1
        omega

/-- What messages show for a decimal denotes the same number. -/
lemma toBinary_messageParts (d : Decimal) :
    (messageParts d).toDecimal.toBinary f = d.toBinary f := by
  obtain ⟨negative, c, e⟩ := d
  have hsign : ((if negative then some '-' else none) == some '-') = negative := by
    cases negative <;> rfl
  have hneg : (messageParts ⟨negative, c, e⟩).toDecimal.negative = negative := by
    unfold messageParts
    dsimp only
    split
    · exact hsign
    · split <;> exact hsign
  simp only [Decimal.toBinary, magnitude_messageParts, hneg]

end NumberLayout

namespace Json

/-- What is kept of a finite number as messages show it is the number. -/
lemma keepNumber_messageParts {x : Double} (h : x.isFinite = true) :
    keepNumber (NumberLayout.messageParts (x.shortest .even)) = some (.number x) := by
  simp [keepNumber, NumberLayout.isInteger_messageParts, NumberLayout.toBinary_messageParts,
    Binary.toBinary_shortest _ h, h]

/-- The parts of the text of an integer. -/
def integerParts (i : Int) : DecimalText :=
  ⟨if i < 0 then some '-' else none, Nat.toDigits 10 i.natAbs, none, none⟩

/-- The parts of an integer make up its text. -/
lemma render_integerParts (i : Int) : (integerParts i).render = printInt i := by
  unfold integerParts printInt
  by_cases h : i < 0
  · simp [h, DecimalText.render]
  · simp [h, DecimalText.render]

/-- The parts that an integer is written with are well formed. -/
lemma wellFormed_integerParts (i : Int) : (integerParts i).WellFormed := by
  refine ⟨?_, isNumeral_toDigits _, nofun, nofun⟩
  unfold integerParts
  split
  · exact .inr rfl
  · exact .inl rfl

/-- An integer is written as messages allow. -/
lemma isStrict_integerParts (i : Int) : isStrict (integerParts i) = true := by
  have hsign : (integerParts i).sign ≠ some '+' := by
    rcases (wellFormed_integerParts i).sign with h | h <;> simp [h]
  have hfraction : (integerParts i).fraction = none := rfl
  have hwhole : (integerParts i).whole = Nat.toDigits 10 i.natAbs := rfl
  unfold isStrict
  rw [hwhole]
  by_cases h0 : i.natAbs = 0
  · simp [hsign, hfraction, h0]
  · have hhead := head_toDigits_ne_zero h0
    cases hd : Nat.toDigits 10 i.natAbs with
    | nil => exact absurd hd Nat.toDigits_ne_nil
    | cons c cs =>
      cases cs with
      | nil => simp [hsign, hfraction]
      | cons c' cs => simpa [hsign, hfraction, hd] using hhead

/-- What is kept of the digits of an integer of 64 bits is the integer. -/
lemma keepNumber_integerParts {i : Int} (hlow : -(2 : Int) ^ 63 ≤ i) (hhigh : i < 2 ^ 64) :
    keepNumber (integerParts i) = some (.integer i) := by
  have hc : DecimalText.digitsValue (Nat.toDigits 10 i.natAbs) = i.natAbs :=
    Nat.ofDigitChars_ten_toDigits
  by_cases hi : i < 0
  · have h0 : i.natAbs ≠ 0 := by omega
    simp [keepNumber, integerParts, DecimalText.isInteger, DecimalText.toDecimal, hc, hi, h0,
      abs_of_neg hi]
    exact ⟨hlow, hhigh⟩
  · simp [keepNumber, integerParts, DecimalText.isInteger, DecimalText.toDecimal, hc, hi,
      abs_of_nonneg (not_lt.1 hi)]
    exact ⟨hlow, hhigh⟩

end Json

end EmbeddedFilters
