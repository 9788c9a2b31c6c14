import EmbeddedFilters.Number.Shortest
import EmbeddedFilters.Proofs.Number.Rounding

/-!
# Shortest decimals read back

A decimal is rounded as the fraction that it denotes (`magnitude_eq_nearest`); the powers of ten
that are decided without being computed are no exception. So decimals of equal value are rounded to
the same magnitude (`magnitude_mul_pow`), and the shortest decimal of a number reads back as that
number (`toBinary_shortest`): a point of a decimal grid is only taken if it reads back, and the
expansion to all places is exact.
-/

namespace EmbeddedFilters

namespace Decimal

variable (f : BinaryFormat)

/-- The numerator of `coefficient * 10 ^ exponent`, counted in units. -/
def numerator (coefficient : Nat) (exponent : Int) : Nat :=
  coefficient * 10 ^ exponent.toNat * 2 ^ f.places

/-- The denominator of `coefficient * 10 ^ exponent`. -/
def denominator (exponent : Int) : Nat := 10 ^ (-exponent).toNat

/-- A denominator is positive. -/
lemma denominator_pos (e : Int) : 0 < denominator e := Nat.pow_pos (by decide)

/-- The power of ten that no number of a format reaches. -/
lemma reach_eq : f.reach = 2 ^ (f.exponentBits - 1) + f.fractionBits + 2 := rfl

/-- Powers of two from here on lie beyond the finite numbers. -/
lemma infinity_le_nearest {num : Nat} (h : 2 ^ (f.fractionBits + 2 ^ f.exponentBits) ≤ num) :
    f.infinity ≤ f.nearest num 1 := by
  have hF := Nat.two_pow_pos f.fractionBits
  have hunits : f.units f.infinity ≤ num := by
    refine (f.units_lt f.infinity).le.trans (le_trans ?_ h)
    refine Nat.pow_le_pow_right Nat.two_pos (Nat.add_le_add_left ?_ _)
    rw [f.infinity_eq, Nat.mul_div_cancel _ hF]
    exact Nat.sub_le _ _
  calc f.infinity = f.nearest (f.units f.infinity) 1 := by rw [f.nearest_units, Nat.min_self]
    _ ≤ f.nearest num 1 := f.nearest_mono_left hunits 1

/-- A power of ten out of reach is rounded to infinity. -/
lemma nearest_of_reach_lt {c e : Nat} (hc : c ≠ 0) (h : f.reach < e) :
    f.nearest (c * 10 ^ e * 2 ^ f.places) 1 = f.infinity := by
  refine le_antisymm (f.nearest_le_infinity _ _) (infinity_le_nearest f ?_)
  have hexp : 2 ^ f.exponentBits ≤ 2 * 2 ^ (f.exponentBits - 1) := by
    rw [← Nat.pow_succ']
    exact Nat.pow_le_pow_right Nat.two_pos (by omega)
  have hplaces : f.fractionBits + 2 ^ f.exponentBits ≤ e + f.places := by
    rw [reach_eq] at h
    rw [f.places_eq]
    omega
  calc 2 ^ (f.fractionBits + 2 ^ f.exponentBits) ≤ 2 ^ (e + f.places) :=
        Nat.pow_le_pow_right Nat.two_pos hplaces
    _ = 2 ^ e * 2 ^ f.places := Nat.pow_add _ _ _
    _ ≤ 10 ^ e * 2 ^ f.places := Nat.mul_le_mul_right _ (Nat.pow_le_pow_left (by decide) _)
    _ ≤ c * 10 ^ e * 2 ^ f.places :=
        Nat.mul_le_mul_right _ (Nat.le_mul_of_pos_left _ (Nat.pos_of_ne_zero hc))

/-- A negative power of ten out of reach of a coefficient is rounded to zero. -/
lemma nearest_of_reach_add_lt {c e : Nat} (h : f.reach + c.log2 < e) :
    f.nearest (c * 2 ^ f.places) (10 ^ (e + 1)) = 0 := by
  refine f.nearest_eq_zero ?_
  have hexp := Nat.two_pow_pos (f.exponentBits - 1)
  have hplaces : c.log2 + f.places + 2 ≤ e + 1 := by
    rw [reach_eq] at h
    rw [f.places_eq]
    omega
  calc 2 * (c * 2 ^ f.places) ≤ 2 * (2 ^ (c.log2 + 1) * 2 ^ f.places) :=
        Nat.mul_le_mul_left _ (Nat.mul_le_mul_right _ Nat.lt_log2_self.le)
    _ = 2 ^ (c.log2 + f.places + 2) := by
      rw [Nat.pow_succ, Nat.pow_succ, Nat.pow_succ, Nat.pow_add]; ring
    _ ≤ 2 ^ (e + 1) := Nat.pow_le_pow_right Nat.two_pos hplaces
    _ ≤ 10 ^ (e + 1) := Nat.pow_le_pow_left (by decide) _

/-- A decimal is rounded as the fraction that it denotes. -/
lemma magnitude_eq_nearest (c : Nat) (e : Int) :
    magnitude f c e = f.nearest (numerator f c e) (denominator e) := by
  by_cases hc : c = 0
  · subst hc
    simp [magnitude, numerator, f.nearest_eq_zero]
  · cases e with
    | ofNat e =>
      have hd : denominator (.ofNat e) = 1 := by simp [denominator]
      have hn : numerator f c (.ofNat e) = c * 10 ^ e * 2 ^ f.places := rfl
      rw [magnitude, if_neg hc, hd, hn]
      split
      · rename_i h
        rw [nearest_of_reach_lt f hc h]
      · rfl
    | negSucc e =>
      have hd : denominator (.negSucc e) = 10 ^ (e + 1) := rfl
      have hn : numerator f c (.negSucc e) = c * 2 ^ f.places := by simp [numerator]
      rw [magnitude, if_neg hc, hd, hn]
      split
      · rename_i h
        rw [nearest_of_reach_add_lt f h]
      · rfl

/-- Shifting the point of a coefficient changes nothing. -/
lemma magnitude_mul_pow (c k : Nat) (e : Int) :
    magnitude f (c * 10 ^ k) e = magnitude f c (e + k) := by
  rw [magnitude_eq_nearest, magnitude_eq_nearest]
  refine f.nearest_congr (denominator_pos _) (denominator_pos _) ?_
  have hpow : 10 ^ k * 10 ^ e.toNat * 10 ^ (-(e + k)).toNat =
      10 ^ (e + k).toNat * 10 ^ (-e).toNat := by
    rw [← Nat.pow_add, ← Nat.pow_add, ← Nat.pow_add]
    congr 1
    omega
  unfold numerator denominator
  calc c * 10 ^ k * 10 ^ e.toNat * 2 ^ f.places * 10 ^ (-(e + k)).toNat
      = c * 2 ^ f.places * (10 ^ k * 10 ^ e.toNat * 10 ^ (-(e + k)).toNat) := by ring
    _ = c * 10 ^ (e + k).toNat * 2 ^ f.places * 10 ^ (-e).toNat := by rw [hpow]; ring

/-- Leaving out zeros at the end does not change the magnitude. -/
lemma magnitude_trim (c : Nat) (e : Int) :
    magnitude f (trim c e).1 (trim c e).2 = magnitude f c e := by
  fun_induction trim c e with
  | case1 c e h ih =>
    have hc : c / 10 * 10 ^ 1 = c := by omega
    rw [ih, ← Nat.cast_one, ← magnitude_mul_pow, hc]
  | case2 c e h => rfl

end Decimal

namespace BinaryFormat

variable (f : BinaryFormat)

/-- Of two candidates one is only chosen if it passes the test. -/
lemma test_of_choice (test : Nat → Bool) {low high c : Nat} {first : Bool}
    (h : (if test low && first then some low else if test high then some high else none) = some c) :
    test c = true := by
  split at h
  · rename_i hlow
    cases h
    exact (Bool.and_eq_true_iff.1 hlow).1
  · split at h
    · rename_i hhigh
      cases h
      exact hhigh
    · cases h

/-- A short decimal that has been found rounds to the magnitude that it was looked for. -/
lemma magnitude_of_onGrid? {tie : TieRule} {n c : Nat} {place : Int}
    (h : f.onGrid? tie n place = some c) : Decimal.magnitude f c place = n :=
  beq_iff_eq.1 (test_of_choice (fun c => Decimal.magnitude f c place == n) h)

/-- The expansion to all places is exact. -/
lemma magnitude_expansion {n : Nat} (h : n ≤ f.infinity) :
    Decimal.magnitude f (f.expansion n).1 (f.expansion n).2 = n := by
  have hnum : Decimal.numerator f (f.expansion n).1 (f.expansion n).2 =
      10 ^ f.places * f.units n := by
    rw [show 10 = 5 * 2 by rfl, Nat.mul_pow]
    simp [Decimal.numerator, expansion]
    ring
  have hden : Decimal.denominator (f.expansion n).2 = 10 ^ f.places * 1 := by
    simp [Decimal.denominator, expansion]
  rw [Decimal.magnitude_eq_nearest, hnum, hden, f.nearest_mul_left (Nat.pow_pos (by decide)),
    f.nearest_units, Nat.min_eq_right h]

/-- The shortest decimal of a magnitude reads back as the magnitude. -/
lemma magnitude_shortest (tie : TieRule) {n : Nat} (h : n ≤ f.infinity) :
    Decimal.magnitude f (f.shortest tie n).1 (f.shortest tie n).2 = n := by
  unfold shortest
  dsimp only
  cases htried : (List.range f.digitLimit).findSome? fun (k : Nat) =>
      (f.onGrid? tie n (f.leadingPlace n - k)).map fun c => (c, f.leadingPlace n - (k : Int)) with
  | none => exact f.magnitude_expansion h
  | some found =>
    obtain ⟨k, -, hk⟩ := List.exists_of_findSome?_eq_some htried
    obtain ⟨c, hc, rfl⟩ := Option.map_eq_some_iff.1 hk
    exact f.magnitude_of_onGrid? hc

end BinaryFormat

/-- The shortest decimal of a finite number reads back as that number. -/
lemma Binary.toBinary_shortest {f : BinaryFormat} (tie : TieRule) {x : Binary f}
    (h : x.isFinite = true) : (x.shortest tie).toBinary f = x := by
  have hx : x.magnitude < f.infinity := by simpa [Binary.isFinite] using h
  have hmag : Decimal.magnitude f (x.shortest tie).coefficient (x.shortest tie).exponent =
      x.magnitude := by
    unfold Binary.shortest
    dsimp only
    rw [Decimal.magnitude_trim]
    split
    · rename_i h0
      rw [h0]
      rfl
    · exact f.magnitude_shortest tie hx.le
  obtain ⟨negative, magnitude, hlt⟩ := x
  simp only [Decimal.toBinary, hmag]
  rfl

end EmbeddedFilters
