import EmbeddedFilters.Proofs.Number.Rational

/-!
# Nearest numbers

Rounding cuts places off until what is left fits into the fraction, and so the magnitude below a
number and the one above it denote neighbouring multiples of a power of two
(`BinaryFormat.units_below`). Of the two the nearer one is chosen, and in between the even one;
hence no finite number of the other format is nearer to a number than its conversion, and one that
is as near is the same or the conversion is even (`Binary.isNearest_convert`).
-/

namespace EmbeddedFilters

namespace BinaryFormat

variable {f : BinaryFormat}

/-- A coefficient with its leading bit in place, or any without an exponent, is denoted by the
magnitude that has it above the exponent. -/
lemma units_add (e : Nat) {q : Nat} (hq : q ≤ 2 ^ (f.fractionBits + 1))
    (h : 0 < e → 2 ^ f.fractionBits ≤ q) :
    f.units (e * 2 ^ f.fractionBits + q) = q * 2 ^ e := by
  have hpow : 2 ^ (f.fractionBits + 1) = 2 * 2 ^ f.fractionBits := by
    rw [Nat.pow_succ, Nat.mul_comm]
  induction e with
  | zero =>
    rw [Nat.zero_mul, Nat.zero_add, Nat.pow_zero, Nat.mul_one]
    rcases hq.lt_or_eq with hlt | rfl
    · exact f.units_of_lt_two hlt
    -- the first number beyond is twice the smallest one with a leading bit
    · have hpos := Nat.two_pow_pos f.fractionBits
      have hunits : f.units (2 ^ f.fractionBits) = 2 ^ f.fractionBits :=
        f.units_of_lt_two (by omega)
      have hdouble : f.doubled (2 ^ f.fractionBits) = 2 ^ (f.fractionBits + 1) := by
        rw [doubled, if_neg (lt_irrefl _), hpow, Nat.two_mul]
      rw [← hdouble, f.units_doubled, hunits, hdouble, hpow]
  | succ e ih =>
    have hlead := h (Nat.succ_pos e)
    have hdouble : f.doubled (e * 2 ^ f.fractionBits + q) = (e + 1) * 2 ^ f.fractionBits + q := by
      rw [doubled, if_neg (by omega), Nat.succ_mul]
      omega
    rw [← hdouble, f.units_doubled, ih fun _ => hlead, Nat.pow_succ]
    ring

variable {num den : Nat}

/-- What is left of a number once the places that the fraction has no room for are cut off. -/
def rest (f : BinaryFormat) (num den : Nat) : Nat := num % (den * 2 ^ f.excess num den)

/-- What the magnitudes next to a number denote lies as far below and above it as the rest tells. -/
lemma units_below (num : Nat) (hden : 0 < den) :
    f.units (f.below num den) * den + f.rest num den = num ∧
      f.units (f.below num den + 1) * den + f.rest num den = num + den * 2 ^ f.excess num den ∧
      f.rest num den < den * 2 ^ f.excess num den := by
  have hlt := f.quotient_lt num den
  have hlead : 0 < f.excess num den →
      2 ^ f.fractionBits ≤ num / (den * 2 ^ f.excess num den) := fun h => f.le_quotient h
  have hlow : f.units (f.below num den) =
      num / (den * 2 ^ f.excess num den) * 2 ^ f.excess num den := units_add _ hlt.le hlead
  have hhigh : f.units (f.below num den + 1) =
      (num / (den * 2 ^ f.excess num den) + 1) * 2 ^ f.excess num den :=
    units_add _ hlt fun h => (hlead h).trans (Nat.le_succ _)
  have hsum := Nat.div_add_mod num (den * 2 ^ f.excess num den)
  refine ⟨?_, ?_, Nat.mod_lt _ (Nat.mul_pos hden (Nat.two_pow_pos _))⟩
  · rw [hlow, rest]
    linarith [hsum]
  · rw [hhigh, rest]
    linarith [hsum]

/-- How far a magnitude is from `num / den` units, times the denominator. -/
def distance (f : BinaryFormat) (num den n : Nat) : Int := |(f.units n * den : Nat) - (num : Int)|

/-- A magnitude that is not above a number is at least as far from it as the one below. -/
lemma rest_le_distance (hden : 0 < den) {n : Nat} (hn : n ≤ f.infinity)
    (hfinite : f.below num den ≤ f.infinity) (hle : n ≤ f.below num den) :
    (f.rest num den : Int) ≤ f.distance num den n ∧
      (f.distance num den n = f.rest num den → n = f.below num den) := by
  obtain ⟨hlow, -, -⟩ := f.units_below num hden
  have hmono := Nat.mul_le_mul_right den ((units_le_units hn hfinite).mpr hle)
  have hdistance : f.distance num den n = num - f.units n * den := by
    rw [distance, abs_of_nonpos (by omega)]
    omega
  refine ⟨by omega, fun h => units_inj hn hfinite (Nat.eq_of_mul_eq_mul_right hden ?_)⟩
  omega

/-- A magnitude above a number is at least as far from it as the first one above. -/
lemma step_le_distance (hden : 0 < den) {n : Nat} (hn : n ≤ f.infinity)
    (hle : f.below num den + 1 ≤ n) :
    (den * 2 ^ f.excess num den : Nat) - (f.rest num den : Int) ≤ f.distance num den n ∧
      (f.distance num den n = (den * 2 ^ f.excess num den : Nat) - (f.rest num den : Int) →
        n = f.below num den + 1) := by
  obtain ⟨-, hhigh, hrest⟩ := f.units_below num hden
  have hfinite : f.below num den + 1 ≤ f.infinity := hle.trans hn
  have hmono := Nat.mul_le_mul_right den ((units_le_units hfinite hn).mpr hle)
  have hdistance : f.distance num den n = f.units n * den - num := by
    rw [distance, abs_of_nonneg (by omega)]
    omega
  refine ⟨by omega, fun h => units_inj hn hfinite (Nat.eq_of_mul_eq_mul_right hden ?_)⟩
  omega

/-- The magnitudes next to a number are as far from it as the rest tells. -/
lemma distance_below (num : Nat) (hden : 0 < den) :
    f.distance num den (f.below num den) = f.rest num den ∧
      f.distance num den (f.below num den + 1) =
        (den * 2 ^ f.excess num den : Nat) - (f.rest num den : Int) := by
  obtain ⟨hlow, hhigh, hrest⟩ := f.units_below num hden
  rw [distance, distance, abs_of_nonpos (by omega), abs_of_nonneg (by omega)]
  omega

/-- The nearest magnitude is the one below or the one above, and the even one where both are as
near. -/
lemma nearest_cases (hfinite : f.nearest num den < f.infinity) :
    f.nearest num den = f.below num den ∧ 2 * f.rest num den ≤ den * 2 ^ f.excess num den ∧
        (2 * f.rest num den = den * 2 ^ f.excess num den → f.nearest num den % 2 = 0) ∨
      f.nearest num den = f.below num den + 1 ∧ den * 2 ^ f.excess num den ≤ 2 * f.rest num den ∧
        (2 * f.rest num den = den * 2 ^ f.excess num den → f.nearest num den % 2 = 0) := by
  rw [nearest_eq] at hfinite ⊢
  by_cases hup : f.RoundsUp num den
  · rw [if_pos hup] at hfinite ⊢
    right
    have hmin : min f.infinity (f.below num den + 1) = f.below num den + 1 := by omega
    rw [hmin]
    rcases hup with hlt | ⟨htie, hodd⟩
    · exact ⟨rfl, hlt.le, fun h => absurd h hlt.ne'⟩
    · exact ⟨rfl, htie.le, fun _ => by omega⟩
  · rw [if_neg hup] at hfinite ⊢
    left
    have hmin : min f.infinity (f.below num den) = f.below num den := by omega
    rw [hmin]
    rw [RoundsUp, not_or, not_and, not_lt] at hup
    refine ⟨rfl, hup.1, fun h => ?_⟩
    have heven := hup.2 h.symm
    omega

/-- No magnitude is nearer to a number than the nearest one, and where another one is as near, the
nearest one is even. -/
lemma distance_nearest (hden : 0 < den) (hfinite : f.nearest num den < f.infinity) {n : Nat}
    (hn : n ≤ f.infinity) :
    f.distance num den (f.nearest num den) ≤ f.distance num den n ∧
      (f.distance num den (f.nearest num den) = f.distance num den n →
        n = f.nearest num den ∨ f.nearest num den % 2 = 0) := by
  obtain ⟨hlow, hhigh⟩ := f.distance_below num hden
  have hbelow : f.below num den ≤ f.infinity := by
    rcases nearest_cases hfinite with ⟨heq, -⟩ | ⟨heq, -⟩ <;> omega
  -- the other magnitude lies on one side of the number, the nearest one on the same side or the
  -- other
  rcases Nat.lt_or_ge (f.below num den) n with hside | hside
  · obtain ⟨hle, hsame⟩ := step_le_distance hden hn hside
    rcases nearest_cases hfinite with ⟨heq, hhalf, htie⟩ | ⟨heq, hhalf, htie⟩
    · rw [heq] at htie ⊢
      rw [hlow]
      refine ⟨by omega, fun h => .inr (htie (by omega))⟩
    · rw [heq, hhigh]
      exact ⟨hle, fun h => .inl (hsame h.symm)⟩
  · obtain ⟨hle, hsame⟩ := rest_le_distance hden hn hbelow hside
    rcases nearest_cases hfinite with ⟨heq, hhalf, htie⟩ | ⟨heq, hhalf, htie⟩
    · rw [heq, hlow]
      exact ⟨hle, fun h => .inl (hsame h.symm)⟩
    · rw [heq] at htie ⊢
      rw [hhigh]
      exact ⟨by omega, fun h => .inr (htie (by omega))⟩

end BinaryFormat

namespace Binary

variable {f g : BinaryFormat} {x y : Binary f}

/-- The number is finite and as near to a rational number as any finite number of the format, and
even where another one is as near. -/
structure IsNearest (x : Binary f) (q : ℚ) : Prop where
  isFinite : x.isFinite = true
  le : ∀ y : Binary f, y.isFinite = true → |x.toRat - q| ≤ |y.toRat - q|
  even : ∀ y : Binary f, y.isFinite = true → |x.toRat - q| = |y.toRat - q| →
    y.toRat = x.toRat ∨ x.magnitude % 2 = 0

variable {q : ℚ} {num den : Nat}

/-- A number is as far from a rational number on its own side of zero as the one without its sign
is. -/
lemma abs_sub_of_sign (hnegative : x.negative = true → q ≤ 0)
    (hpositive : x.negative = false → 0 ≤ q) :
    |x.toRat - q| = |(|x.toRat|) - (|q|)| := by
  cases hx : x.negative with
  | true =>
    have hxneg := toRat_of_negative hx
    have hqneg : q = -|q| := by rw [abs_of_nonpos (hnegative hx), neg_neg]
    calc |x.toRat - q| = |(-|x.toRat|) - (-|q|)| := by rw [← hxneg, ← hqneg]
      _ = |-((|x.toRat|) - (|q|))| := by rw [neg_sub_neg, neg_sub]
      _ = |(|x.toRat|) - (|q|)| := abs_neg _
  | false => rw [← toRat_of_positive hx, abs_of_nonneg (hpositive hx)]

/-- Magnitudes are as far from a rational number as they are in units. -/
lemma abs_sub_eq_distance (x : Binary f) (hden : 0 < den) (hq : |q| = num / (2 ^ f.places * den)) :
    |(|x.toRat|) - (|q|)| = (f.distance num den x.magnitude : ℚ) / (2 ^ f.places * den) := by
  have hden' : (0 : ℚ) < den := Nat.cast_pos.mpr hden
  have hf : (2 : ℚ) ^ f.places ≠ 0 := by positivity
  have hpos : (0 : ℚ) < 2 ^ f.places * den := by positivity
  have hx : (f.units x.magnitude : ℚ) / 2 ^ f.places =
      (f.units x.magnitude * den) / (2 ^ f.places * den) :=
    (mul_div_mul_right _ _ hden'.ne').symm
  rw [abs_toRat, hq, hx, ← sub_div, abs_div, abs_of_pos hpos, BinaryFormat.distance]
  push_cast
  rfl

/-- A finite number with the nearest magnitude and the right sign is the nearest number. -/
lemma isNearest_of_magnitude (hden : 0 < den) (hfinite : x.isFinite = true)
    (hmagnitude : x.magnitude = f.nearest num den) (hq : |q| = num / (2 ^ f.places * den))
    (hnegative : x.negative = true → q ≤ 0) (hpositive : x.negative = false → 0 ≤ q) :
    x.IsNearest q := by
  have hlt : f.nearest num den < f.infinity := hmagnitude ▸ of_decide_eq_true hfinite
  have hden' : (0 : ℚ) < den := Nat.cast_pos.mpr hden
  have hscale : (0 : ℚ) < 2 ^ f.places * den := by positivity
  have hnearest : ∀ y : Binary f, y.isFinite = true →
      |x.toRat - q| ≤ |(|y.toRat|) - (|q|)| ∧
        (|x.toRat - q| = |(|y.toRat|) - (|q|)| →
          y.magnitude = x.magnitude ∨ x.magnitude % 2 = 0) := by
    intro y hy
    obtain ⟨hle, htie⟩ := BinaryFormat.distance_nearest hden hlt (of_decide_eq_true hy).le
    rw [abs_sub_of_sign hnegative hpositive, abs_sub_eq_distance x hden hq,
      abs_sub_eq_distance y hden hq,
      hmagnitude]
    refine ⟨div_le_div_of_nonneg_right (by exact_mod_cast hle) hscale.le, fun h => htie ?_⟩
    have heq := (div_left_inj' hscale.ne').mp h
    exact_mod_cast heq
  have hleast : ∀ y : Binary f, y.isFinite = true → |x.toRat - q| ≤ |y.toRat - q| :=
    fun y hy => (hnearest y hy).1.trans (abs_abs_sub_abs_le _ _)
  refine ⟨hfinite, hleast, fun y hy h => ?_⟩
  have hsame := le_antisymm (hnearest y hy).1 (h ▸ abs_abs_sub_abs_le _ _)
  refine ((hnearest y hy).2 hsame).imp (fun hmag => ?_) id
  have habs : |y.toRat| = |x.toRat| := by
    rw [abs_toRat, abs_toRat, hmag]
  rcases abs_eq_abs.mp habs with heq | hopposite
  · exact heq
  -- of two numbers that differ in sign alone, both are as near to zero only
  · have hzero : x.toRat = 0 := by
      rw [hopposite] at h
      rcases abs_eq_abs.mp h with hdouble | hcancel
      · linarith
      · have hqzero : q = 0 := by linarith
        let zero : Binary f := ⟨false, 0, Nat.two_pow_pos _⟩
        have hle := hleast zero (decide_eq_true (Nat.zero_lt_of_lt (of_decide_eq_true hfinite)))
        rw [hqzero, toRat_of_zero (x := zero) rfl, sub_zero, sub_zero, abs_zero] at hle
        exact abs_nonpos_iff.mp hle
    rw [hopposite, hzero, neg_zero]

/-- A finite number is converted to the nearest one of the other format, if that is finite. -/
lemma isNearest_convert (hfinite : (x.convert g).isFinite = true) :
    (x.convert g).IsNearest x.toRat := by
  have hx := isFinite_of_convert hfinite
  have hconvert : x.convert g =
      round g x.negative (f.units x.magnitude * 2 ^ g.places) (2 ^ f.places) := by
    simp [convert, isNaN_of_isFinite hx, hx]
  have hsign : (x.convert g).negative = x.negative := by
    rw [hconvert]
    rfl
  have hg : (2 : ℚ) ^ g.places ≠ 0 := by positivity
  have habs : |x.toRat| =
      (f.units x.magnitude * 2 ^ g.places : Nat) / (2 ^ g.places * (2 ^ f.places : Nat)) := by
    rw [abs_toRat]
    push_cast
    rw [mul_comm (f.units x.magnitude : ℚ), mul_div_mul_left _ _ hg]
  refine isNearest_of_magnitude (Nat.two_pow_pos _) hfinite (hconvert ▸ rfl) habs
    (fun h => ?_) fun h => ?_
  · rw [toRat_of_negative (hsign ▸ h)]
    exact neg_nonpos.mpr (abs_nonneg _)
  · rw [toRat_of_positive (hsign ▸ h)]
    exact abs_nonneg _

/-- An integer goes to the number nearest to it, if that is finite. -/
lemma isNearest_ofInt {i : ℤ} (hfinite : (ofInt f i).isFinite = true) :
    (ofInt f i).IsNearest i := by
  have hf : (2 : ℚ) ^ f.places ≠ 0 := by positivity
  have habs : |(i : ℚ)| = (i.natAbs * 2 ^ f.places : Nat) / (2 ^ f.places * (1 : Nat)) := by
    push_cast
    rw [mul_one, mul_div_cancel_right₀ _ hf, Nat.cast_natAbs, Int.cast_abs]
  refine isNearest_of_magnitude Nat.one_pos hfinite rfl habs (fun h => ?_) fun h => ?_
  · exact_mod_cast (of_decide_eq_true h : i < 0).le
  · exact_mod_cast not_lt.mp (of_decide_eq_false h)

/-- A number that the format has is the only nearest one to itself. -/
lemma IsNearest.toRat_eq (h : x.IsNearest q) {y : Binary f} (hy : y.isFinite = true)
    (hq : y.toRat = q) :
    x.toRat = q := by
  have hle := h.le y hy
  rw [hq, sub_self, abs_zero] at hle
  exact sub_eq_zero.mp (abs_nonpos_iff.mp hle)

end Binary

end EmbeddedFilters
