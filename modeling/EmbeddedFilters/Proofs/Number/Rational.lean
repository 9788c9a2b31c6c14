import EmbeddedFilters.Proofs.Number.Widening
import Mathlib.Algebra.Order.Field.Basic
import Mathlib.Algebra.Order.Field.Rat

/-!
# Numbers as rational numbers

A finite number of a format denotes a rational number (`Binary.toRat`). What is asked of numbers bit
by bit is told here by the rational numbers that they denote: which of them are whole, and to which
integer they go (`Binary.isWhole_iff`, `Binary.toInt_toInt64`), which denote the integer that they
come from (`Binary.toRat_ofInt`), which lie between zero and one (`Binary.inUnit_iff_toRat`), and
which are equal (`Binary.agrees_of_toRat`).
-/

namespace EmbeddedFilters

namespace BinaryFormat

variable {f : BinaryFormat}

/-- Magnitudes are ordered as the numbers of units that they denote. -/
lemma units_le_units {m n : Nat} (hm : m ≤ f.infinity) (hn : n ≤ f.infinity) :
    f.units m ≤ f.units n ↔ m ≤ n := by
  constructor
  · intro h
    have hnear := f.nearest_mono_left h 1
    rwa [nearest_units, nearest_units, Nat.min_eq_right hm, Nat.min_eq_right hn] at hnear
  · intro h
    exact units_mono h hn

/-- Magnitudes with as many units are the same. -/
lemma units_inj {m n : Nat} (hm : m ≤ f.infinity) (hn : n ≤ f.infinity)
    (h : f.units m = f.units n) :
    m = n :=
  Nat.le_antisymm ((units_le_units hm hn).mp h.le) ((units_le_units hn hm).mp h.ge)

end BinaryFormat

namespace Binary

variable {f : BinaryFormat} {x : Binary f}

/-- The rational number that a finite number denotes. -/
def toRat (x : Binary f) : ℚ := x.units / 2 ^ f.places

/-- The rational that a number denotes is its units in parts of a power of two. -/
lemma toRat_eq (x : Binary f) : x.toRat = x.units / 2 ^ f.places := rfl

/-- A negative number has as many units as its magnitude, negated. -/
lemma units_of_negative (h : x.negative = true) : x.units = -(f.units x.magnitude : ℤ) :=
  if_pos h

/-- A positive number has as many units as its magnitude. -/
lemma units_of_positive (h : x.negative = false) : x.units = f.units x.magnitude :=
  if_neg (Bool.eq_false_iff.mp h)

/-- The sign does not change how many units there are. -/
lemma natAbs_units (x : Binary f) : x.units.natAbs = f.units x.magnitude := by
  cases hsign : x.negative with
  | true => rw [units_of_negative hsign, Int.natAbs_neg, Int.natAbs_natCast]
  | false => rw [units_of_positive hsign, Int.natAbs_natCast]

/-- The absolute value of a number is that of its magnitude. -/
lemma abs_toRat (x : Binary f) : |x.toRat| = f.units x.magnitude / 2 ^ f.places := by
  have hpos : (0 : ℚ) < 2 ^ f.places := by positivity
  rw [toRat_eq, abs_div, abs_of_pos hpos, ← natAbs_units, Nat.cast_natAbs, Int.cast_abs]

/-- A negative number denotes its absolute value, negated. -/
lemma toRat_of_negative (h : x.negative = true) : x.toRat = -|x.toRat| := by
  rw [abs_toRat, toRat_eq, units_of_negative h, Int.cast_neg, Int.cast_natCast, neg_div]

/-- A positive number denotes its absolute value. -/
lemma toRat_of_positive (h : x.negative = false) : x.toRat = |x.toRat| := by
  rw [abs_toRat, toRat_eq, units_of_positive h, Int.cast_natCast]

/-- A number of no magnitude denotes zero. -/
lemma toRat_of_zero (h : x.magnitude = 0) : x.toRat = 0 := by
  have hunits : f.units 0 = 0 := f.units_of_lt (Nat.two_pow_pos _)
  rw [← abs_eq_zero, abs_toRat, h, hunits, Nat.cast_zero, zero_div]

/-! ### Whole numbers -/

/-- A number denotes an integer if it has as many units as the integer. -/
lemma toRat_eq_intCast {n : ℤ} : x.toRat = n ↔ x.units = n * 2 ^ f.places := by
  have hpos : (2 : ℚ) ^ f.places ≠ 0 := by positivity
  rw [toRat_eq, div_eq_iff hpos]
  exact_mod_cast Iff.rfl

/-- A number that denotes an integer has as many units as the integer takes. -/
lemma units_of_toRat {n : ℤ} (h : x.toRat = n) : f.units x.magnitude = n.natAbs * 2 ^ f.places := by
  rw [toRat_eq_intCast] at h
  rw [← natAbs_units, h, Int.natAbs_mul, Int.natAbs_pow]
  rfl

/-- A finite number is whole if it denotes an integer. -/
lemma isWhole_iff : x.isWhole = true ↔ x.isFinite = true ∧ ∃ n : ℤ, x.toRat = n := by
  have hdvd : (f.units x.magnitude % Nat.pow 2 f.places == 0) = true ↔
      2 ^ f.places ∣ f.units x.magnitude := by
    rw [beq_iff_eq, Nat.dvd_iff_mod_eq_zero]
    rfl
  rw [isWhole, Bool.and_eq_true, hdvd]
  refine and_congr_right fun _ => ⟨?_, ?_⟩
  · rintro ⟨k, hk⟩
    cases hsign : x.negative with
    | true =>
      refine ⟨-k, ?_⟩
      rw [toRat_eq_intCast, units_of_negative hsign, hk]
      push_cast
      ring
    | false =>
      refine ⟨k, ?_⟩
      rw [toRat_eq_intCast, units_of_positive hsign, hk]
      push_cast
      ring
  · rintro ⟨n, hn⟩
    rw [units_of_toRat hn]
    exact Nat.dvd_mul_left _ _

/-- A number of the wide format that denotes an integer goes to it, or to the nearer end of the
range. -/
lemma toInt_toInt64 {n : ℤ} (hx : x.isFinite = true) (hn : x.toRat = n) :
    x.toInt64.toInt = max (-2 ^ 63) (min n (2 ^ 63 - 1)) := by
  have hunits := hn
  rw [toRat_eq_intCast] at hunits
  have hpos : (0 : ℤ) < 2 ^ f.places := by positivity
  have hwhole : f.units x.magnitude / Nat.pow 2 f.places = n.natAbs := by
    rw [units_of_toRat hn]
    exact Nat.mul_div_cancel _ (Nat.two_pow_pos _)
  rw [toInt64, isNaN_of_isFinite hx, if_neg Bool.false_ne_true, hwhole]
  cases hsign : x.negative with
  | true =>
    rw [units_of_negative hsign] at hunits
    have hnonpos : n ≤ 0 := by
      by_contra hneg
      have := Int.mul_pos (not_le.mp hneg) hpos
      omega
    rw [if_pos rfl, Int64.toInt_ofInt_of_le (by omega) (by omega)]
    omega
  | false =>
    rw [units_of_positive hsign] at hunits
    have hnonneg : 0 ≤ n := by
      by_contra hneg
      have := Int.mul_neg_of_neg_of_pos (not_le.mp hneg) hpos
      omega
    rw [if_neg Bool.false_ne_true, Int64.toInt_ofInt_of_le (by omega) (by omega)]
    omega

/-- An integer that is short enough for the fraction has the units of the number nearest to it. -/
lemma units_ofInt {i : ℤ} (hshort : i.natAbs < 2 ^ (f.fractionBits + 1))
    (hfinite : (ofInt f i).isFinite = true) : (ofInt f i).units = i * 2 ^ f.places := by
  obtain ⟨m, hm⟩ := f.exists_units hshort f.places
  have hmagnitude : (ofInt f i).magnitude = min f.infinity m := by
    rw [← f.nearest_units, hm]
    rfl
  have hlt : min f.infinity m < f.infinity := by
    rw [← hmagnitude]
    exact of_decide_eq_true hfinite
  have hunits : f.units (ofInt f i).magnitude = i.natAbs * 2 ^ f.places := by
    rw [hmagnitude, Nat.min_eq_right (by omega), hm]
  cases hsign : (ofInt f i).negative with
  | true =>
    have hneg : i < 0 := of_decide_eq_true hsign
    rw [units_of_negative hsign, hunits, Nat.cast_mul, Int.natCast_natAbs, abs_of_neg hneg]
    push_cast
    ring
  | false =>
    have hnonneg : 0 ≤ i := not_lt.mp (of_decide_eq_false hsign)
    rw [units_of_positive hsign, hunits, Nat.cast_mul, Int.natAbs_of_nonneg hnonneg]
    push_cast
    rfl

/-- A short integer is denoted by the number that is made of it. -/
lemma toRat_ofInt {i : ℤ} (hshort : i.natAbs < 2 ^ (f.fractionBits + 1))
    (hfinite : (ofInt f i).isFinite = true) : (ofInt f i).toRat = i := by
  rw [toRat_eq_intCast]
  exact units_ofInt hshort hfinite

/-- Short integers are ordered as the magnitudes of the numbers nearest to them. -/
lemma magnitude_ofInt_lt {m n : Nat} (h : m < n) (hshort : n < 2 ^ (f.fractionBits + 1))
    (hfinite : (ofInt f n).isFinite = true) : (ofInt f m).magnitude < (ofInt f n).magnitude := by
  have hle : (ofInt f m).magnitude ≤ (ofInt f n).magnitude :=
    f.nearest_mono_left (Nat.mul_le_mul_right _ h.le) 1
  have hm : (ofInt f m).isFinite = true := decide_eq_true (hle.trans_lt (of_decide_eq_true hfinite))
  refine hle.lt_of_ne fun heq => h.ne ?_
  have hunits := natAbs_units (ofInt f m)
  rw [heq, ← natAbs_units, units_ofInt (i := (m : ℤ)) (h.trans hshort) hm,
    units_ofInt (i := (n : ℤ)) hshort hfinite, Int.natAbs_mul, Int.natAbs_mul] at hunits
  exact Nat.eq_of_mul_eq_mul_right (Int.natAbs_pos.mpr (pow_ne_zero _ two_ne_zero)) hunits

/-! ### Zero to one -/

/-- The magnitude of a finite number is below that of infinity. -/
lemma magnitude_le_infinity (h : x.isFinite = true) : x.magnitude ≤ f.infinity :=
  (of_decide_eq_true h).le

/-- A double lies between zero and one if it is finite and the number that it denotes does. -/
lemma inUnit_iff_toRat {x : Double} : x.InUnit ↔ x.isFinite = true ∧ 0 ≤ x.toRat ∧ x.toRat ≤ 1 := by
  have hpos : (0 : ℚ) < 2 ^ BinaryFormat.double.places := by positivity
  have hone : BinaryFormat.double.units (ofInt .double 1).magnitude =
      2 ^ BinaryFormat.double.places := by
    have hunits : (ofInt .double 1).units = 1 * 2 ^ BinaryFormat.double.places :=
      units_ofInt (by decide) (isFinite_ofInt_of_le (by decide))
    have htwo : Int.natAbs 2 = 2 := rfl
    rw [← natAbs_units, hunits, one_mul, Int.natAbs_pow, htwo]
  have hlimit : (ofInt .double 1).magnitude ≤ BinaryFormat.double.infinity :=
    BinaryFormat.double.nearest_le_infinity _ _
  have hle : x.isFinite = true → (|x.toRat| ≤ 1 ↔ x.magnitude ≤ (ofInt .double 1).magnitude) := by
    intro hx
    rw [abs_toRat, div_le_one hpos,
      ← BinaryFormat.units_le_units (magnitude_le_infinity hx) hlimit, hone]
    exact_mod_cast Iff.rfl
  constructor
  · intro h
    have hx := h.isFinite
    obtain ⟨hsign, hmag⟩ := (inUnit_iff x).mp h
    have hnonneg : x.toRat = |x.toRat| := by
      cases hneg : x.negative with
      | true => rw [toRat_of_zero (hsign hneg), abs_zero]
      | false => exact toRat_of_positive hneg
    refine ⟨hx, ?_, ?_⟩
    · rw [hnonneg]
      exact abs_nonneg _
    · rw [hnonneg]
      exact (hle hx).mpr hmag
  · rintro ⟨hx, hnonneg, hupper⟩
    have habs : |x.toRat| = x.toRat := abs_of_nonneg hnonneg
    refine (inUnit_iff x).mpr ⟨fun hneg => ?_, (hle hx).mp (habs.trans_le hupper)⟩
    -- a number with a sign that is not below zero is zero
    have hzero : |x.toRat| = 0 := by
      have hopposite := toRat_of_negative hneg
      linarith [abs_nonneg x.toRat]
    rw [abs_toRat, div_eq_zero_iff, or_iff_left hpos.ne', Nat.cast_eq_zero] at hzero
    refine BinaryFormat.units_inj (magnitude_le_infinity hx) (Nat.zero_le _) ?_
    rw [hzero]
    exact (BinaryFormat.double.units_of_lt (Nat.two_pow_pos _)).symm

/-- The double that is nearest to an integer lies between zero and one only if the integer does. -/
lemma inUnit_ofInt {i : ℤ} : (ofInt .double i).InUnit ↔ 0 ≤ i ∧ i ≤ 1 := by
  constructor
  · intro h
    obtain ⟨hsign, hmag⟩ := (inUnit_iff _).mp h
    have hmono : ∀ k : Nat, k ≤ i.natAbs →
        (ofInt .double k).magnitude ≤ (ofInt .double i).magnitude := by
      intro k hk
      exact BinaryFormat.double.nearest_mono_left (Nat.mul_le_mul_right _ hk) 1
    have hlt : ∀ m n : Nat, m < n → n ≤ 2 →
        (ofInt .double m).magnitude < (ofInt .double n).magnitude :=
      fun m n hmn hn => magnitude_ofInt_lt hmn (hn.trans_lt (by decide))
        (isFinite_ofInt_of_le (hn.trans (by decide)))
    constructor
    · by_contra hneg
      have hzero := hsign (decide_eq_true (not_le.mp hneg))
      have hone := hmono 1 (by omega)
      have hpos := hlt 0 1 Nat.zero_lt_one (by omega)
      omega
    · by_contra hlarge
      have htwo := hmono 2 (by omega)
      have hstep : (ofInt .double 1).magnitude < (ofInt .double (2 : Nat)).magnitude :=
        hlt 1 2 Nat.one_lt_two le_rfl
      omega
  · rintro ⟨hlow, hhigh⟩
    have hfinite : (ofInt .double i).isFinite = true := isFinite_ofInt_of_le (by omega)
    rw [inUnit_iff_toRat, toRat_ofInt (by show i.natAbs < 2 ^ 53; omega) hfinite]
    exact ⟨hfinite, by exact_mod_cast hlow, by exact_mod_cast hhigh⟩

/-! ### Equal numbers -/

/-- Finite numbers that denote the same rational number are equal. -/
lemma agrees_of_toRat {y : Binary f} (hx : x.isFinite = true) (hy : y.isFinite = true)
    (h : x.toRat = y.toRat) : x.agrees y = true := by
  have hpos : (2 : ℚ) ^ f.places ≠ 0 := by positivity
  have hunits : x.units = y.units := by
    rw [toRat_eq, toRat_eq, div_left_inj' hpos] at h
    exact_mod_cast h
  have hmagnitude : x.magnitude = y.magnitude := by
    apply BinaryFormat.units_inj (magnitude_le_infinity hx) (magnitude_le_infinity hy)
    rw [← natAbs_units, ← natAbs_units, hunits]
  have hrank : x.rank = y.rank := by
    by_cases hzero : y.magnitude = 0
    · simp [rank, hmagnitude, hzero]
    · have hnonzero : f.units y.magnitude ≠ 0 := by
        intro hnone
        have hstart : f.units 0 = 0 := f.units_of_lt (Nat.two_pow_pos _)
        exact hzero (BinaryFormat.units_inj (magnitude_le_infinity hy) (Nat.zero_le _)
          (hnone.trans hstart.symm))
      -- the signs are the same, since the units are not zero
      have hsign : x.negative = y.negative := by
        unfold units at hunits
        rw [hmagnitude] at hunits
        cases hxs : x.negative <;> cases hys : y.negative <;> simp [hxs, hys] at hunits ⊢ <;> omega
      rw [rank, rank, hsign, hmagnitude]
  simp [agrees, isNaN_of_isFinite hx, isNaN_of_isFinite hy, hrank]

/-- A wider format has the same number. -/
lemma toRat_convert {g : BinaryFormat} (h : f.fractionBits ≤ g.fractionBits)
    (hplaces : f.places ≤ g.places) (hfinite : (x.convert g).isFinite = true) :
    (x.convert g).toRat = x.toRat := by
  have hx := isFinite_of_convert hfinite
  have hwide : x.convert g =
      round g x.negative (f.units x.magnitude * 2 ^ g.places) (2 ^ f.places) := by
    simp [convert, isNaN_of_isFinite hx, hx]
  have hsign : (x.convert g).negative = x.negative := by
    rw [hwide]
    rfl
  have hunits : g.units (x.convert g).magnitude * 2 ^ f.places =
      f.units x.magnitude * 2 ^ g.places := by
    rw [hwide] at hfinite ⊢
    exact BinaryFormat.units_nearest h hplaces x.magnitude (of_decide_eq_true hfinite)
  have habs : |(x.convert g).toRat| = |x.toRat| := by
    rw [abs_toRat, abs_toRat, div_eq_div_iff (by positivity) (by positivity)]
    exact_mod_cast hunits
  cases hnegative : x.negative with
  | true => rw [toRat_of_negative (hsign.trans hnegative), toRat_of_negative hnegative, habs]
  | false => rw [toRat_of_positive (hsign.trans hnegative), toRat_of_positive hnegative, habs]

end Binary

end EmbeddedFilters
