import EmbeddedFilters.Proofs.Number.Widening
import EmbeddedFilters.Proofs.Parameters.Updates

/-!
# Bytes that are parameters

A buffer of either kind is laid out by rules in a fixed order: its length, the flag in its first
byte, and then the range of each further field (`Layout.rules`). The rules are about the bytes
alone, read as numbers, least significant byte first; the range of alpha is one of bit patterns. A
buffer that keeps all of them denotes the parameters of `Layout.denoted`, and any other one is
refused with the failure of the first rule that it breaks (`Parameters.decode_eq`).

What the checks do with a field is told for each of them by one equation in terms of its bytes
(`Check.flag_byte`, `Check.whole_int32`, `Temporal.checkAlpha_ofBits`).
-/

namespace EmbeddedFilters

open Outcome

namespace Layout

variable (bytes : List UInt8)

/-- The byte at an offset. -/
def byte (offset : Nat) : Nat := (bytes.getD offset 0).toNat

/-- The word at an offset, least significant byte first. -/
def word (offset : Nat) : Nat :=
  byte bytes offset + byte bytes (offset + 1) * 2 ^ 8 + byte bytes (offset + 2) * 2 ^ 16 +
    byte bytes (offset + 3) * 2 ^ 24

/-- The word at an offset as a number with a sign, in two's complement. -/
def signed (offset : Nat) : Int :=
  if word bytes offset < 2 ^ 31 then word bytes offset else (word bytes offset : Int) - 2 ^ 32

/-- A rule, applied to a buffer: is it kept, and which failure does it stand for if it is not? -/
structure Rule where
  kept : Bool
  failure : FilterError

/-- A buffer has the length of its kind. -/
def length (kind : FilterKind) : Rule where
  kept := bytes.length = kind.bufferLength
  failure := .bufferSize kind kind.bufferLength bytes.length

/-- The first byte is 0 or 1. -/
def flag : Rule where
  kept := byte bytes 0 = 0 ∨ byte bytes 0 = 1
  failure := .outOfRange "Toggle" (.ofInt .double (byte bytes 0)) .flag

/-- The bits of alpha are at most those of one, or those of the zero with a sign. Above infinity
they denote no number, and from the sign bit on a number below zero. -/
def alpha : Rule where
  kept := word bytes 1 ≤ 0x3F800000 ∨ word bytes 1 = 0x80000000
  failure :=
    let x : Double := (Binary.ofBits .single (word bytes 1)).convert .double
    if 0x7F800000 < word bytes 1 % 0x80000000 then .typeMismatch "Alpha" "float" "NaN"
    else if 0x80000000 ≤ word bytes 1 then .outOfRange "Alpha" x (.minimum (.ofInt .double 0))
    else .outOfRange "Alpha" x (.maximum (.ofInt .double 1))

/-- A whole number lies between zero and a bound. -/
def whole (field : String) (offset : Nat) (high : Int) : Rule where
  kept := 0 ≤ signed bytes offset ∧ signed bytes offset ≤ high
  failure :=
    if signed bytes offset < 0 then
      .outOfRange field (.ofInt .double (signed bytes offset)) (.minimum (.ofInt .double 0))
    else .outOfRange field (.ofInt .double (signed bytes offset)) (.maximum (.ofInt .double high))

/-- The factor is 2. -/
def magnitude : Rule where
  kept := byte bytes 1 = 2
  failure := .outOfRange "Magnitude" (.ofInt .double (byte bytes 1)) (.exactly (.ofInt .double 2))

/-- The rules of a kind, in the order in which they are looked at. -/
def rules : FilterKind → List Rule
  | .decimation => [length bytes .decimation, flag bytes, magnitude bytes]
  | .temporal => [length bytes .temporal, flag bytes, alpha bytes, whole bytes "Delta" 5 100,
      whole bytes "Persistency" 9 8]

/-- The failure of the first rule that is not kept. -/
def firstFailure (rules : List Rule) : Option FilterError :=
  (rules.find? fun rule => !rule.kept).map Rule.failure

/-- The parameters that the bytes of a kind denote, whatever their ranges. -/
def denoted : FilterKind → Parameters
  | .decimation => .decimation ⟨byte bytes 0 = 1, bytes.getD 1 0⟩
  | .temporal =>
    .temporal ⟨byte bytes 0 = 1, .ofBits .single (word bytes 1), .ofInt (signed bytes 5),
      .ofInt (signed bytes 9)⟩

/-- What is made of rules by a check that looks at them in turn. -/
def outcome (rules : List Rule) : Except FilterError Unit :=
  match firstFailure rules with
  | some e => .error e
  | none => .ok ()

/-- No rules are all kept. -/
lemma outcome_nil : outcome [] = .ok () := rfl

/-- Rules are looked at in their order, up to the first that is broken. -/
lemma outcome_cons (rule : Rule) (rules : List Rule) :
    outcome (rule :: rules) = if rule.kept then outcome rules else .error rule.failure := by
  cases h : rule.kept <;> simp [outcome, firstFailure, h]

/-- There is no failure exactly if all rules are kept. -/
lemma firstFailure_eq_none {rules : List Rule} :
    firstFailure rules = none ↔ ∀ rule ∈ rules, rule.kept = true := by
  simp [firstFailure]

/-- The rule of the length is kept by as many bytes as the layout has. -/
lemma kept_length {kind : FilterKind} {bytes : List UInt8} :
    (length bytes kind).kept = true ↔ bytes.length = kind.bufferLength := decide_eq_true_iff

/-- The rule of the flag is kept by zero and one. -/
lemma kept_flag {bytes : List UInt8} :
    (flag bytes).kept = true ↔ byte bytes 0 = 0 ∨ byte bytes 0 = 1 := decide_eq_true_iff

/-- The rule of the weight is kept by the words of numbers up to one and by that of minus zero. -/
lemma kept_alpha {bytes : List UInt8} : (alpha bytes).kept = true ↔
    word bytes 1 ≤ 0x3F800000 ∨ word bytes 1 = 0x80000000 := decide_eq_true_iff

/-- The rule of a whole number is kept from zero up to its bound. -/
lemma kept_whole {bytes : List UInt8} {field : String} {offset : Nat} {high : Int} :
    (whole bytes field offset high).kept = true ↔
      0 ≤ signed bytes offset ∧ signed bytes offset ≤ high := decide_eq_true_iff

/-- The rule of the magnitude is kept by two. -/
lemma kept_magnitude {bytes : List UInt8} : (magnitude bytes).kept = true ↔ byte bytes 1 = 2 :=
  decide_eq_true_iff

/-- A whole number can only be out of its range. -/
lemma failure_whole (field : String) (offset : Nat) (high : Int) :
    ∃ x bound, (whole bytes field offset high).failure = .outOfRange field x bound := by
  unfold whole
  dsimp only
  split <;> exact ⟨_, _, rfl⟩

/-- What is a number in place of alpha can only be out of its range. -/
lemma failure_alpha {bytes : List UInt8} (h : ¬ 0x7F800000 < word bytes 1 % 0x80000000) :
    ∃ x bound, (alpha bytes).failure = .outOfRange "Alpha" x bound := by
  unfold alpha
  dsimp only
  rw [if_neg h]
  split <;> exact ⟨_, _, rfl⟩

/-- The failure that is reported is that of a rule that is not kept. -/
lemma exists_of_firstFailure {rules : List Rule} {e : FilterError}
    (h : firstFailure rules = some e) :
    ∃ rule ∈ rules, rule.kept = false ∧ rule.failure = e := by
  obtain ⟨rule, hfind, rfl⟩ := Option.map_eq_some_iff.mp h
  refine ⟨rule, List.mem_of_find?_eq_some hfind, ?_, rfl⟩
  simpa using List.find?_some hfind

/-- A byte has eight bits. -/
lemma byte_lt (offset : Nat) : byte bytes offset < 2 ^ 8 := (bytes.getD offset 0).toNat_lt

/-- A word has 32 bits. -/
lemma word_lt (offset : Nat) : word bytes offset < 2 ^ 32 := by
  have h := byte_lt bytes
  have h₀ := h offset
  have h₁ := h (offset + 1)
  have h₂ := h (offset + 2)
  have h₃ := h (offset + 3)
  unfold word
  omega

/-- The word at an offset is the number with a sign, read modulo the size of words. -/
lemma toInt_word (offset : Nat) :
    (UInt32.ofNat (word bytes offset)).toInt32.toInt = signed bytes offset := by
  have hlt := word_lt bytes offset
  have hword : (UInt32.ofNat (word bytes offset)).toNat = word bytes offset :=
    UInt32.toNat_ofNat_of_lt' hlt
  have hbits : (UInt32.ofNat (word bytes offset)).toInt32.toInt =
      (word bytes offset : Int).bmod (2 ^ 32) := by
    show (UInt32.ofNat (word bytes offset)).toBitVec.toInt = _
    rw [BitVec.toInt_eq_toNat_bmod, UInt32.toNat_toBitVec, hword]
  rw [hbits, signed, Int.bmod_def]
  have hmod : (word bytes offset : Int) % 2 ^ 32 = word bytes offset :=
    Int.emod_eq_of_lt (by omega) (by omega)
  split <;> split <;> omega

/-- The integer of a word is the word, read with a sign. -/
lemma ofInt_signed (offset : Nat) :
    Int32.ofInt (signed bytes offset) = (UInt32.ofNat (word bytes offset)).toInt32 := by
  rw [← toInt_word, Int32.ofInt_toInt]

/-- The integer of a word fits into 32 bits. -/
lemma toInt_signed (offset : Nat) :
    (Int32.ofInt (signed bytes offset)).toInt = signed bytes offset := by
  rw [ofInt_signed, toInt_word]

end Layout

namespace Binary

variable {f : BinaryFormat}

/-- A number that is none stays none in the wide format, and no other becomes one. -/
lemma isNaN_convert_double (x : Binary f) : (x.convert .double).isNaN = x.isNaN := by
  unfold convert
  cases hnan : x.isNaN with
  | true =>
    rw [if_pos rfl]
    have hlt : BinaryFormat.double.infinity < BinaryFormat.double.signWeight - 1 := by
      decide +kernel
    exact decide_eq_true hlt
  | false =>
    rw [if_neg Bool.false_ne_true]
    refine decide_eq_false (not_lt.mpr ?_)
    split
    · exact BinaryFormat.double.nearest_le_infinity _ _
    · exact le_rfl

/-- A number lies between zero and one if it does so in the wide format. -/
lemma inUnit_of_convert_double {x : Single} (h : (x.convert .double).InUnit) : x.InUnit := by
  rw [← convert_convert (f := .single) (by decide) (by decide) h.isFinite]
  exact inUnit_convert_single h

/-- The bits of the numbers between zero and one. -/
lemma inUnit_ofBits {w : Nat} (h : w < 2 ^ 32) :
    (ofBits .single w).InUnit ↔ w ≤ 0x3F800000 ∨ w = 0x80000000 := by
  have hone : (ofInt .single 1).magnitude = 0x3F800000 := by decide +kernel
  have hsign : BinaryFormat.single.signWeight = 0x80000000 := by decide
  rw [inUnit_iff, hone]
  simp only [ofBits, hsign, beq_iff_eq]
  omega

/-- A number with a sign is not above one. -/
lemma not_one_lt_of_negative {x : Binary f} (h : x.negative = true) : (ofInt f 1).lt x = false := by
  have hrank : x.rank ≤ (ofInt f 1).rank := by
    rw [rank, if_pos h]
    show _ ≤ (((ofInt f 1).magnitude : Nat) : Int)
    omega
  rw [lt, decide_eq_false (not_lt.mpr hrank), Bool.and_false]

/-- A number without a sign is not below zero. -/
lemma not_lt_zero_of_positive {x : Binary f} (h : x.negative = false) :
    x.lt (ofInt f 0) = false := by
  have hzero : (ofInt f 0).magnitude = 0 := f.nearest_eq_zero (by simp)
  have hrank : (ofInt f 0).rank ≤ x.rank := by
    rw [rank, rank, hzero, h]
    simp
  rw [lt, decide_eq_false (not_lt.mpr hrank), Bool.and_false]

/-- A number keeps its sign in another format. -/
lemma negative_convert (g : BinaryFormat) (x : Binary f) : (x.convert g).negative = x.negative := by
  unfold convert
  split
  · rfl
  · split <;> rfl

/-- The bits above those of infinity denote no number, wherever the sign is. -/
lemma isNaN_widened (w : Nat) :
    ((ofBits .single w).convert .double).isNaN = decide (0x7F800000 < w % 0x80000000) := by
  have hsign : BinaryFormat.single.signWeight = 0x80000000 := by decide
  have hinfinity : BinaryFormat.single.infinity = 0x7F800000 := by decide
  rw [isNaN_convert_double]
  simp only [isNaN, ofBits, hsign, hinfinity]

/-- The bits from the sign bit on denote a number with a sign. -/
lemma negative_widened {w : Nat} (h : w < 2 ^ 32) :
    ((ofBits .single w).convert .double).negative = decide (0x80000000 ≤ w) := by
  have hsign : BinaryFormat.single.signWeight = 0x80000000 := by decide
  rw [negative_convert, Bool.eq_iff_iff]
  simp only [ofBits, hsign, beq_iff_eq, decide_eq_true_eq]
  omega

end Binary

namespace Check

open Layout

variable {filter : FilterKind} {bytes : List UInt8} {offset : Nat}

/-- A byte is read where there is one. -/
lemma byteAt_of_lt (h : offset < bytes.length) :
    byteAt filter bytes offset = .ok (bytes.getD offset 0) := by
  rw [byteAt, List.getD_eq_getElem?_getD, List.getElem?_eq_getElem h]
  rfl

/-- A word is read where there are four bytes. -/
lemma wordAt_of_le (h : offset + 4 ≤ bytes.length) :
    wordAt filter bytes offset = .ok (.ofNat (word bytes offset)) := by
  have hget : ∀ i, (bytes.drop offset).getD i 0 = bytes.getD (offset + i) 0 := by
    intro i
    rw [List.getD_eq_getElem?_getD, List.getElem?_drop, ← List.getD_eq_getElem?_getD]
  match hdrop : bytes.drop offset with
  | a :: b :: c :: d :: rest =>
    rw [hdrop] at hget
    have ha := hget 0
    have hb := hget 1
    have hc := hget 2
    have hd := hget 3
    simp only [List.getD_cons_zero, List.getD_cons_succ, Nat.add_zero] at ha hb hc hd
    simp only [wordAt, hdrop, word?, word, byte, ← ha, ← hb, ← hc, ← hd, Nat.reducePow]
  | [] | [_] | [_, _] | [_, _, _] =>
    have hlength := congrArg List.length hdrop
    rw [List.length_drop] at hlength
    simp only [List.length_nil, List.length_cons] at hlength
    omega

/-- A flag in a byte is 0 or 1. -/
lemma flag_byte (field : String) (b : UInt8) :
    flag field (.ofNat b.toNat) =
      if b.toNat = 0 ∨ b.toNat = 1 then .ok (b.toNat = 1)
      else .error (.outOfRange field (.ofInt .double b.toNat) .flag) := by
  have hvalue : (Int64.ofNat b.toNat).toInt = b.toNat :=
    Int64.toInt_ofNat_of_lt (b.toNat_lt.trans (by decide))
  have heq : ∀ i : Int64, Int64.ofNat b.toNat = i ↔ (b.toNat : Int) = i.toInt := by
    intro i
    rw [← Int64.toInt_inj, hvalue]
  have hzero : (0 : Int64).toInt = 0 := rfl
  have hone : (1 : Int64).toInt = 1 := rfl
  simp only [flag, heq, hvalue, hzero, hone]
  split
  · rename_i h
    have hb : b.toNat = 0 := by omega
    simp [hb]
  · split
    · rename_i h
      have hb : b.toNat = 1 := by omega
      simp [hb]
    · rw [if_neg (by omega)]

/-- The flag is the first byte. -/
lemma flag_outcome (bytes : List UInt8) :
    flag "Toggle" (.ofNat (bytes.getD 0 0).toNat) =
      (outcome [Layout.flag bytes]).map fun _ => decide (byte bytes 0 = 1) := by
  rw [flag_byte, outcome_cons, outcome_nil, Layout.flag, ← byte]
  simp only [decide_eq_true_eq]
  split <;> rfl

/-- A whole number of 32 bits lies between zero and a bound. -/
lemma whole_int32 (field : String) (i : Int32) (high : Int64) :
    whole field i.toInt64 0 high =
      if 0 ≤ i.toInt ∧ i.toInt ≤ high.toInt then .ok ()
      else .error (if i.toInt < 0 then
          .outOfRange field (.ofInt .double i.toInt) (.minimum (.ofInt .double 0))
        else
          .outOfRange field (.ofInt .double i.toInt) (.maximum (.ofInt .double high.toInt))) := by
  have hzero : (0 : Int64).toInt = 0 := rfl
  simp only [whole, Int64.lt_iff_toInt_lt, Int32.toInt_toInt64, hzero]
  split
  · rename_i hlow
    rw [if_neg (by omega)]
  · split
    · rw [if_neg (by omega)]
    · rw [if_pos (by omega)]

end Check

namespace Decimation

/-- Two is the only byte that passes for a magnitude. -/
lemma checkMagnitude_byte (b : UInt8) :
    checkMagnitude (.ofNat b.toNat) =
      if b.toNat = 2 then .ok b
      else .error (.outOfRange "Magnitude" (.ofInt .double b.toNat)
        (.exactly (.ofInt .double 2))) := by
  have hvalue : (Int64.ofNat b.toNat).toInt = b.toNat :=
    Int64.toInt_ofNat_of_lt (b.toNat_lt.trans (by decide))
  have htwo : Int64.ofNat b.toNat = 2 ↔ b.toNat = 2 := by
    rw [← Int64.toInt_inj, hvalue]
    exact Int.ofNat_inj (n := 2)
  rw [checkMagnitude, hvalue]
  split
  · rename_i h
    have hb : b.toNat = 2 := htwo.mp h
    rw [if_pos hb, UInt8.toNat.inj (b := 2) hb]
  · rename_i h
    rw [if_neg (htwo.not.mp h)]

end Decimation

namespace Temporal

open Layout

/-- Alpha in a word passes its check if the bits are those of a number between zero and one. -/
lemma checkAlpha_ofBits (bytes : List UInt8) :
    checkAlpha ((Binary.ofBits .single (word bytes 1)).convert .double) =
      if (Layout.alpha bytes).kept then .ok (.ofBits .single (word bytes 1))
      else .error (Layout.alpha bytes).failure := by
  have hlt := word_lt bytes 1
  have hnan := Binary.isNaN_widened (word bytes 1)
  have hneg := Binary.negative_widened hlt
  have hkept : (Layout.alpha bytes).kept = true ↔
      ((Binary.ofBits .single (word bytes 1)).convert .double).InUnit := by
    rw [Layout.alpha, decide_eq_true_eq, ← Binary.inUnit_ofBits hlt]
    exact ⟨Binary.inUnit_convert_double, Binary.inUnit_of_convert_double⟩
  by_cases hunit : ((Binary.ofBits .single (word bytes 1)).convert .double).InUnit
  · rw [if_pos (hkept.mpr hunit), checkAlpha, Check.number_unit.mpr hunit, ok_bind,
      Binary.convert_convert (by decide) (by decide) hunit.isFinite]
    rfl
  · rw [if_neg (hkept.not.mpr hunit), checkAlpha, Check.number, Layout.alpha]
    simp only [hnan, decide_eq_true_eq]
    split
    · rfl
    · rename_i hnumber
      rw [decide_eq_false hnumber] at hnan
      -- a number that is not between the bounds lies beyond the one on the side of its sign
      by_cases hsign : 0x80000000 ≤ word bytes 1
      · have hhigh := Binary.not_one_lt_of_negative (hneg.trans (decide_eq_true hsign))
        have hlow : ((Binary.ofBits .single (word bytes 1)).convert .double).lt (.ofInt .double 0) =
            true :=
          Bool.eq_true_of_not_eq_false fun hlow => hunit ⟨hnan, hlow, hhigh⟩
        rw [if_pos hlow, if_pos hsign]
        rfl
      · have hlow := Binary.not_lt_zero_of_positive (hneg.trans (decide_eq_false hsign))
        have hhigh : (Binary.ofInt .double 1).lt
            ((Binary.ofBits .single (word bytes 1)).convert .double) = true :=
          Bool.eq_true_of_not_eq_false fun hhigh => hunit ⟨hnan, hlow, hhigh⟩
        rw [if_neg (Bool.eq_false_iff.mp hlow), if_pos hhigh, if_neg hsign]
        rfl

/-- A whole number in a word passes its check if it lies between zero and the bound. -/
lemma checkWhole_signed (field : String) (bytes : List UInt8) (offset : Nat) (high : Int64) :
    (do Check.whole field (Int32.ofInt (signed bytes offset)).toInt64 0 high
        return (Int32.ofInt (signed bytes offset)).toInt64.toInt32 : Except FilterError Int32) =
      if (Layout.whole bytes field offset high.toInt).kept then .ok (.ofInt (signed bytes offset))
      else .error (Layout.whole bytes field offset high.toInt).failure := by
  rw [Check.whole_int32, toInt_signed, Layout.whole, Int32.toInt32_toInt64]
  simp only [decide_eq_true_eq]
  split <;> rfl

end Temporal

/-- Two bytes are read as what they denote, if the first one is a flag. -/
lemma Decimation.readFields_outcome {bytes : List UInt8} (h : bytes.length = 2) :
    readFields bytes = (Layout.outcome [Layout.flag bytes]).map fun _ =>
      ⟨Layout.byte bytes 0 = 1, bytes.getD 1 0⟩ := by
  have hbyte : ∀ offset < 2, Check.byteAt .decimation bytes offset = .ok (bytes.getD offset 0) :=
    fun offset hlt => Check.byteAt_of_lt (h ▸ hlt)
  rw [readFields, Check.length_eq_ok.mpr h, hbyte 0 (by omega), hbyte 1 (by omega)]
  simp only [ok_bind, Check.flag_outcome]
  cases Layout.outcome [Layout.flag bytes] <;> rfl

/-- Thirteen bytes are read as what they denote, if the first one is a flag. -/
lemma Temporal.readFields_outcome {bytes : List UInt8} (h : bytes.length = 13) :
    readFields bytes = (Layout.outcome [Layout.flag bytes]).map fun _ =>
      ⟨Layout.byte bytes 0 = 1, .ofBits .single (Layout.word bytes 1),
        .ofInt (Layout.signed bytes 5), .ofInt (Layout.signed bytes 9)⟩ := by
  have hbyte : Check.byteAt .temporal bytes 0 = .ok (bytes.getD 0 0) :=
    Check.byteAt_of_lt (by omega)
  have hword : ∀ offset, offset + 4 ≤ 13 → Check.wordAt .temporal bytes offset =
      .ok (.ofNat (Layout.word bytes offset)) := fun offset hle => Check.wordAt_of_le (h ▸ hle)
  have hbits : (UInt32.ofNat (Layout.word bytes 1)).toNat = Layout.word bytes 1 :=
    UInt32.toNat_ofNat_of_lt' (Layout.word_lt bytes 1)
  rw [readFields, Check.length_eq_ok.mpr h, hbyte, Check.singleAt, Check.int32At, Check.int32At,
    hword 1 (by omega), hword 5 (by omega), hword 9 (by omega)]
  simp only [ok_bind, Check.flag_outcome, Except.map, hbits, ← Layout.ofInt_signed]
  cases Layout.outcome [Layout.flag bytes] <;> rfl

namespace Parameters

open Layout

variable (bytes : List UInt8)

/-- The fields of the right number of bytes are read as what they denote, if the first byte is a
flag. -/
lemma readFields_outcome {kind : FilterKind} (h : bytes.length = kind.bufferLength) :
    readFields kind bytes = (outcome [Layout.flag bytes]).map fun _ => denoted bytes kind := by
  cases kind with
  | decimation =>
    rw [readFields, Decimation.readFields_outcome h]
    cases outcome [Layout.flag bytes] <;> rfl
  | temporal =>
    rw [readFields, Temporal.readFields_outcome h]
    cases outcome [Layout.flag bytes] <;> rfl

/-- The rules after those of the length and the flag are those that parameters are checked by. -/
lemma validate_denoted (kind : FilterKind) :
    (denoted bytes kind).validate = outcome ((rules bytes kind).drop 2) := by
  cases kind with
  | decimation =>
    show (do let _ ← Decimation.checkMagnitude (.ofNat (bytes.getD 1 0).toNat)) =
      outcome [magnitude bytes]
    rw [Decimation.checkMagnitude_byte, outcome_cons, outcome_nil, magnitude, byte]
    simp only [decide_eq_true_eq]
    split <;> rfl
  | temporal =>
    have hdelta : Temporal.checkDelta (Int32.ofInt (signed bytes 5)).toInt64 = _ :=
      Temporal.checkWhole_signed "Delta" bytes 5 100
    have hpersistency : Temporal.checkPersistency (Int32.ofInt (signed bytes 9)).toInt64 = _ :=
      Temporal.checkWhole_signed "Persistency" bytes 9 8
    have hhundred : (100 : Int64).toInt = 100 := rfl
    have height : (8 : Int64).toInt = 8 := rfl
    rw [hhundred] at hdelta
    rw [height] at hpersistency
    show Temporal.validate _ =
      outcome [Layout.alpha bytes, whole bytes "Delta" 5 100, whole bytes "Persistency" 9 8]
    rw [Temporal.validate, Temporal.checkAlpha_ofBits, hdelta, hpersistency]
    simp only [outcome_cons, outcome_nil]
    cases (Layout.alpha bytes).kept <;> cases (whole bytes "Delta" 5 100).kept <;>
      cases (whole bytes "Persistency" 9 8).kept <;> rfl

/-- The bytes of a kind are read as what they denote, or refused for the first rule that they
break. -/
lemma decode_eq (kind : FilterKind) :
    decode kind bytes = (outcome (rules bytes kind)).map fun _ => denoted bytes kind := by
  have hrules : rules bytes kind =
      Layout.length bytes kind :: Layout.flag bytes :: (rules bytes kind).drop 2 := by
    cases kind <;> rfl
  rw [hrules, outcome_cons, outcome_cons, Layout.length]
  by_cases hlength : bytes.length = kind.bufferLength
  · rw [decode, Check.length_eq_ok.mpr hlength, readFields_outcome bytes hlength,
      outcome_cons, outcome_nil,
      if_pos (decide_eq_true hlength)]
    cases (Layout.flag bytes).kept with
    | false => rfl
    | true =>
      show (do (denoted bytes kind).validate; return denoted bytes kind) = _
      rw [validate_denoted]
      cases outcome ((rules bytes kind).drop 2) <;> rfl
  · rw [decode, Check.length, if_neg hlength, if_neg (by simpa using hlength)]
    rfl

/-- Bytes are decoded exactly if they keep all rules, and then to what they denote. -/
lemma decode_eq_ok {kind : FilterKind} {p : Parameters} : decode kind bytes = .ok p ↔
    firstFailure (rules bytes kind) = none ∧ p = denoted bytes kind := by
  rw [decode_eq, outcome]
  cases firstFailure (rules bytes kind) <;> simp [Except.map, eq_comm]

/-- Bytes are refused exactly with the failure of the first rule that they break. -/
lemma decode_eq_error {kind : FilterKind} {e : FilterError} : decode kind bytes = .error e ↔
    firstFailure (rules bytes kind) = some e := by
  rw [decode_eq, outcome]
  cases firstFailure (rules bytes kind) <;> simp [Except.map]

/-- Bytes denote parameters exactly if they keep all rules. -/
lemma exists_decode_eq_ok {kind : FilterKind} : (∃ p, decode kind bytes = .ok p) ↔
    ∀ rule ∈ rules bytes kind, rule.kept = true := by
  simp only [decode_eq_ok, exists_and_left, exists_eq, and_true, firstFailure_eq_none]

/-- The length is the only rule whose failure tells the size of a buffer. -/
lemma failure_ne_bufferSize {kind : FilterKind} {rule : Rule}
    (h : rule ∈ (rules bytes kind).drop 1) (filter : FilterKind) (expected actual : Nat) :
    rule.failure ≠ .bufferSize filter expected actual := by
  have hwhole : ∀ field offset high,
      (whole bytes field offset high).failure ≠ .bufferSize filter expected actual := by
    intro field offset high
    obtain ⟨x, bound, heq⟩ := failure_whole bytes field offset high
    simp [heq]
  have halpha : (Layout.alpha bytes).failure ≠ .bufferSize filter expected actual := by
    by_cases hnan : 0x7F800000 < word bytes 1 % 0x80000000
    · simp [Layout.alpha, hnan]
    · obtain ⟨x, bound, heq⟩ := failure_alpha hnan
      simp [heq]
  cases kind <;> simp only [rules, List.drop_succ_cons, List.drop_zero, List.mem_cons,
    List.not_mem_nil, or_false] at h
  · rcases h with rfl | rfl
    · simp [Layout.flag]
    · simp [magnitude]
  · rcases h with rfl | rfl | rfl | rfl
    · simp [Layout.flag]
    · exact halpha
    · exact hwhole _ _ _
    · exact hwhole _ _ _

/-- A wrong length is reported with the length that the buffer has. -/
lemma decode_eq_bufferSize {kind : FilterKind} :
    decode kind bytes = .error (.bufferSize kind kind.bufferLength bytes.length) ↔
      bytes.length ≠ kind.bufferLength := by
  rw [decode_eq_error]
  have hrules : rules bytes kind = Layout.length bytes kind :: (rules bytes kind).drop 1 := by
    cases kind <;> rfl
  constructor
  · intro h hlength
    obtain ⟨rule, hmem, hkept, hfailure⟩ := exists_of_firstFailure h
    rw [hrules, List.mem_cons] at hmem
    rcases hmem with rfl | hmem
    · simp [Layout.length, hlength] at hkept
    · exact failure_ne_bufferSize bytes hmem _ _ _ hfailure
  · intro hlength
    rw [hrules, firstFailure, List.find?_cons]
    simp [Layout.length, hlength]

/-- What is no number in place of alpha has the wrong type, once the rules before it are kept. -/
lemma decode_eq_notANumber :
    decode .temporal bytes = .error (.typeMismatch "Alpha" "float" "NaN") ↔
      bytes.length = 13 ∧ (byte bytes 0 = 0 ∨ byte bytes 0 = 1) ∧
        0x7F800000 < word bytes 1 % 0x80000000 := by
  have hthirteen : FilterKind.temporal.bufferLength = 13 := rfl
  simp only [decode_eq, rules, outcome_cons, kept_length, kept_flag,
    kept_alpha, kept_whole, hthirteen]
  by_cases hlength : bytes.length = 13
  · by_cases hflag : byte bytes 0 = 0 ∨ byte bytes 0 = 1
    · by_cases hnan : 0x7F800000 < word bytes 1 % 0x80000000
      -- such bits are those of no number between zero and one
      · have halpha : ¬(word bytes 1 ≤ 0x3F800000 ∨ word bytes 1 = 0x80000000) := by omega
        simp [hlength, hflag, hnan, halpha, Layout.alpha, Except.map]
      · obtain ⟨x, bound, halpha⟩ := failure_alpha hnan
        obtain ⟨y, limit, hdelta⟩ := failure_whole bytes "Delta" 5 100
        obtain ⟨z, last, hpersistency⟩ := failure_whole bytes "Persistency" 9 8
        simp only [hlength, hflag, hnan, halpha, hdelta, hpersistency, outcome_nil,
          if_true, and_false, iff_false]
        split_ifs <;> simp [Except.map]
    · simp [hlength, hflag, Layout.flag, Except.map]
  · simp [hlength, Layout.length, Except.map]

/-- Bytes are accepted exactly if they are laid out as their kind asks for, and then they are what
they denote: thirteen bytes with a flag, the bits of a number between zero and one, and two numbers
in two's complement within their ranges, or two bytes with a flag and the factor. Any other bytes
are refused, with the failure of the first rule that they break: of a wrong length with that length,
and of a wrong type if alpha is no number. -/
theorem decode_accepts_layout :
    ((∃ p, decode .temporal bytes = .ok p) ↔
      bytes.length = 13 ∧ (byte bytes 0 = 0 ∨ byte bytes 0 = 1) ∧
        (word bytes 1 ≤ 0x3F800000 ∨ word bytes 1 = 0x80000000) ∧
        (0 ≤ signed bytes 5 ∧ signed bytes 5 ≤ 100) ∧ 0 ≤ signed bytes 9 ∧ signed bytes 9 ≤ 8) ∧
      ((∃ p, decode .decimation bytes = .ok p) ↔
        bytes.length = 2 ∧ (byte bytes 0 = 0 ∨ byte bytes 0 = 1) ∧ byte bytes 1 = 2) ∧
      (decode .temporal bytes = .error (.typeMismatch "Alpha" "float" "NaN") ↔
        bytes.length = 13 ∧ (byte bytes 0 = 0 ∨ byte bytes 0 = 1) ∧
          0x7F800000 < word bytes 1 % 0x80000000) ∧
      ∀ kind,
        (∀ p, decode kind bytes = .ok p ↔ firstFailure (rules bytes kind) = none ∧
          p = denoted bytes kind) ∧
        (∀ e, decode kind bytes = .error e ↔ firstFailure (rules bytes kind) = some e) ∧
        (decode kind bytes = .error (.bufferSize kind kind.bufferLength bytes.length) ↔
          bytes.length ≠ kind.bufferLength) := by
  refine ⟨?_, ?_, decode_eq_notANumber bytes, fun kind =>
    ⟨fun p => decode_eq_ok bytes, fun e => decode_eq_error bytes, decode_eq_bufferSize bytes⟩⟩
  · rw [exists_decode_eq_ok]
    simp only [rules, List.forall_mem_cons, kept_length, kept_flag, kept_alpha, kept_whole,
      List.not_mem_nil, false_imp_iff, implies_true, and_true]
    rfl
  · rw [exists_decode_eq_ok]
    simp only [rules, List.forall_mem_cons, kept_length, kept_flag, kept_magnitude,
      List.not_mem_nil, false_imp_iff, implies_true, and_true]
    rfl

end Parameters

end EmbeddedFilters
