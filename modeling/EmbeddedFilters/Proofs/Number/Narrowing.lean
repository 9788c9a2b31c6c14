import EmbeddedFilters.Proofs.Number.Rounding

/-!
# Numbers between zero and one

A conversion between formats rounds, and rounding is monotone. As zero and one are numbers of either
format, a number between them stays there when it is narrowed (`Binary.inUnit_convert_single`) and
when it is widened again (`Binary.inUnit_convert_double`).
-/

namespace EmbeddedFilters

namespace BinaryFormat

variable {f : BinaryFormat}

/-- A greater magnitude has no fewer units. -/
lemma units_mono {m n : Nat} (h : m ≤ n) (hn : n ≤ f.infinity) : f.units m ≤ f.units n := by
  by_contra hlt
  have hnear := f.nearest_mono_left (Nat.le_of_lt (not_le.mp hlt)) 1
  rw [nearest_units, nearest_units, Nat.min_eq_right hn, Nat.min_eq_right (h.trans hn)] at hnear
  have he : m = n := Nat.le_antisymm h hnear
  rw [he] at hlt
  exact hlt le_rfl

end BinaryFormat

namespace Binary

variable {f : BinaryFormat}

/-- Is the number between zero and one, which it may equal? -/
structure InUnit (x : Binary f) : Prop where
  isNaN : x.isNaN = false
  lower : x.lt (.ofInt f 0) = false
  upper : (Binary.ofInt f 1).lt x = false

/-- Up to the sign of a zero, the numbers between zero and one have the magnitudes up to that of
one. -/
lemma inUnit_iff (x : Binary f) :
    x.InUnit ↔ (x.negative = true → x.magnitude = 0) ∧
      x.magnitude ≤ (Binary.ofInt f 1).magnitude := by
  have hzero : (Binary.ofInt f 0).magnitude = 0 := f.nearest_eq_zero (by simp)
  have hle : (Binary.ofInt f 1).magnitude ≤ f.infinity := f.nearest_le_infinity _ _
  have hsign : (Binary.ofInt f 1).negative = false := rfl
  constructor
  · rintro ⟨hnan, hlow, hhigh⟩
    simp only [isNaN, decide_eq_false_iff_not, not_lt] at hnan
    simp only [lt, isNaN, rank, hzero, hsign] at hlow hhigh
    cases hneg : x.negative
    · simp only [hneg] at hhigh
      simp [hnan, hle] at hhigh
      exact ⟨by simp, hhigh⟩
    · simp only [hneg] at hlow
      simp [hnan] at hlow
      exact ⟨fun _ => hlow, by omega⟩
  · rintro ⟨hneg, hmag⟩
    have hnan : x.isNaN = false := by
      simp only [isNaN, decide_eq_false_iff_not, not_lt]
      exact hmag.trans hle
    refine ⟨hnan, ?_, ?_⟩
    · simp only [lt, rank, hzero]
      cases hs : x.negative <;> simp [hneg, hs]
    · simp only [lt, rank, hsign]
      cases hs : x.negative <;> simp [hneg, hs, hmag]

/-- A conversion keeps a number between zero and one, if it takes one to one. -/
lemma inUnit_convert (g : BinaryFormat) {x : Binary f} (h : x.InUnit)
    (hfin : (Binary.ofInt f 1).isFinite = true)
    (hone : g.nearest (f.units (Binary.ofInt f 1).magnitude * 2 ^ g.places) (2 ^ f.places) =
      (Binary.ofInt g 1).magnitude) : (x.convert g).InUnit := by
  obtain ⟨hneg, hmag⟩ := (inUnit_iff x).mp h
  simp only [isFinite, decide_eq_true_eq] at hfin
  have hx : x.isFinite = true := decide_eq_true (lt_of_le_of_lt hmag hfin)
  have hconv : x.convert g =
      round g x.negative (f.units x.magnitude * 2 ^ g.places) (2 ^ f.places) := by
    simp [convert, h.isNaN, hx]
  rw [hconv, inUnit_iff]
  constructor
  -- a sign is left to a zero alone, and zero is converted to zero
  · intro hs
    have hz : f.units 0 = 0 := f.units_of_lt (Nat.two_pow_pos _)
    show g.nearest _ _ = 0
    rw [hneg hs, hz, Nat.zero_mul]
    exact g.nearest_eq_zero (Nat.zero_le _)
  · show g.nearest _ _ ≤ _
    rw [← hone]
    exact g.nearest_mono_left
      (Nat.mul_le_mul_right _ (BinaryFormat.units_mono hmag (Nat.le_of_lt hfin))) _

/-- A number between zero and one stays there as a single. -/
lemma inUnit_convert_single {x : Double} (h : x.InUnit) : (x.convert .single).InUnit :=
  inUnit_convert .single h (by decide +kernel) (by decide +kernel)

/-- A number between zero and one stays there as a double. -/
lemma inUnit_convert_double {x : Single} (h : x.InUnit) : (x.convert .double).InUnit :=
  inUnit_convert .double h (by decide +kernel) (by decide +kernel)

/-- A number between zero and one is finite. -/
lemma InUnit.isFinite {x : Double} (h : x.InUnit) : x.isFinite = true := by
  obtain ⟨-, hmag⟩ := (inUnit_iff x).mp h
  have hone : (Binary.ofInt .double 1).magnitude < BinaryFormat.double.infinity := by
    decide +kernel
  exact decide_eq_true (lt_of_le_of_lt hmag hone)

/-- A number is read back from its bits. -/
lemma ofBits_toBits (x : Binary f) : ofBits f x.toBits = x := by
  have hlt := x.magnitude_lt
  have hpos : 0 < f.signWeight := Nat.two_pow_pos _
  obtain ⟨negative, magnitude, _⟩ := x
  cases negative <;>
    simp [ofBits, toBits, Nat.div_eq_of_lt hlt, Nat.mod_eq_of_lt hlt, hpos]

/-- The bits of a number fit into the width of its format. -/
lemma toBits_lt (x : Binary f) : x.toBits < 2 * f.signWeight := by
  have hlt := x.magnitude_lt
  unfold toBits
  split <;> omega

end Binary

end EmbeddedFilters
