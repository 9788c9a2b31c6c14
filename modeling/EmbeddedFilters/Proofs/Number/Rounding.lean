import EmbeddedFilters.Number.Binary
import Mathlib.Tactic.Linarith
import Mathlib.Tactic.Positivity
import Mathlib.Tactic.Ring

/-!
# Rounding

The rounding function `BinaryFormat.nearest` sees its argument as a number: a common factor of
numerator and denominator does not matter (`nearest_mul_left`), larger numbers are rounded to larger
magnitudes (`nearest_mono`), and equal numbers to the same magnitude (`nearest_congr`). A number
that the format has is rounded to itself (`nearest_units`).

The rounded magnitude is one of two neighbours, `below` and the next one. Everything about their
order follows from the bounds `quotient_lt` and `le_quotient` on what is left of a number once its
`excess` places have been cut off.
-/

namespace EmbeddedFilters.BinaryFormat

variable (f : BinaryFormat)

/-- Infinity has all bits of the exponent and none of the fraction. -/
lemma infinity_eq : f.infinity = (2 ^ f.exponentBits - 1) * 2 ^ f.fractionBits := rfl

/-- The places of a format behind the point. -/
lemma places_eq : f.places = 2 ^ (f.exponentBits - 1) + f.fractionBits - 2 := rfl

/-- The binary places of `num / den` for which the fraction has no room. -/
def excess (num den : Nat) : Nat := (num / den).log2 - f.fractionBits

/-- The magnitude below `num / den`, in a format without infinity. -/
def below (num den : Nat) : Nat :=
  f.excess num den * 2 ^ f.fractionBits + num / (den * 2 ^ f.excess num den)

/-- Is `num / den` nearer to the magnitude above it than to the one below? -/
def RoundsUp (num den : Nat) : Prop :=
  den * 2 ^ f.excess num den < 2 * (num % (den * 2 ^ f.excess num den)) ∨
    (den * 2 ^ f.excess num den = 2 * (num % (den * 2 ^ f.excess num den)) ∧
      f.below num den % 2 = 1)

instance (num den : Nat) : Decidable (f.RoundsUp num den) :=
  inferInstanceAs (Decidable (_ ∨ _))

/-- Rounding takes the magnitude below or the next one, and infinity at most. -/
lemma nearest_eq (num den : Nat) :
    f.nearest num den =
      min f.infinity (if f.RoundsUp num den then f.below num den + 1 else f.below num den) := rfl

/-- A common factor of numerator and denominator does not matter. -/
lemma nearest_mul_left {k : Nat} (hk : 0 < k) (num den : Nat) :
    f.nearest (k * num) (k * den) = f.nearest num den := by
  simp only [nearest, Nat.pow_eq, Nat.mul_div_mul_left _ _ hk, Nat.mul_assoc, Nat.mul_mod_mul_left]
  generalize (num / den).log2 - f.fractionBits = shift
  have hlt : k * (den * 2 ^ shift) < 2 * (k * (num % (den * 2 ^ shift))) ↔
      den * 2 ^ shift < 2 * (num % (den * 2 ^ shift)) := by
    rw [Nat.mul_left_comm 2 k, Nat.mul_lt_mul_left hk]
  have heq : k * (den * 2 ^ shift) = 2 * (k * (num % (den * 2 ^ shift))) ↔
      den * 2 ^ shift = 2 * (num % (den * 2 ^ shift)) := by
    rw [Nat.mul_left_comm 2 k, Nat.mul_right_inj hk.ne']
  simp only [hlt, heq]

/-- What is left of `num / den` fits into the fraction and its leading bit. -/
lemma quotient_lt (num den : Nat) :
    num / (den * 2 ^ f.excess num den) < 2 ^ (f.fractionBits + 1) := by
  rw [← Nat.div_div_eq_div_mul, Nat.div_lt_iff_lt_mul (Nat.two_pow_pos _), ← Nat.pow_add]
  have hlog := Nat.lt_log2_self (n := num / den)
  refine hlog.trans_le (Nat.pow_le_pow_right Nat.two_pos ?_)
  unfold excess
  omega

/-- Where places are cut off, the leading bit is set. -/
lemma le_quotient {num den : Nat} (h : 0 < f.excess num den) :
    2 ^ f.fractionBits ≤ num / (den * 2 ^ f.excess num den) := by
  have hq : num / den ≠ 0 := by
    intro h0
    simp [excess, h0] at h
  rw [← Nat.div_div_eq_div_mul, Nat.le_div_iff_mul_le (Nat.two_pow_pos _), ← Nat.pow_add]
  refine le_trans (Nat.pow_le_pow_right Nat.two_pos ?_) (Nat.log2_self_le hq)
  unfold excess at h ⊢
  omega

/-- A larger number has no fewer places to be cut off. -/
lemma excess_mono (den : Nat) {a b : Nat} (h : a ≤ b) : f.excess a den ≤ f.excess b den := by
  have hq : a / den ≤ b / den := Nat.div_le_div_right h
  unfold excess
  by_cases h0 : a / den = 0
  · simp [h0]
  · have hb : b / den ≠ 0 := ((Nat.pos_of_ne_zero h0).trans_le hq).ne'
    have hlog : (a / den).log2 ≤ (b / den).log2 :=
      (Nat.le_log2 hb).2 ((Nat.log2_self_le h0).trans hq)
    omega

/-- Where a further place of the larger of two numbers is cut off, it lies above the whole binade of
the other one. -/
lemma below_lt_below {a b den : Nat} (h : f.excess a den < f.excess b den) :
    f.below a den + 1 ≤ f.below b den := by
  have ha := f.quotient_lt a den
  have hb := @le_quotient f b den (by omega)
  have hstep : (f.excess a den + 2) * 2 ^ f.fractionBits ≤
      (f.excess b den + 1) * 2 ^ f.fractionBits := Nat.mul_le_mul_right _ (by omega)
  have hpow : 2 ^ (f.fractionBits + 1) = 2 * 2 ^ f.fractionBits := by rw [Nat.pow_succ]; ring
  unfold below
  rw [Nat.add_mul] at hstep
  rw [Nat.add_mul] at hstep
  omega

variable {f} in
/-- Of two numbers with the same neighbours, the larger one is rounded up if the other one is. -/
lemma RoundsUp.mono {a b den : Nat} (h : a ≤ b) (hexcess : f.excess a den = f.excess b den)
    (hq : a / (den * 2 ^ f.excess a den) = b / (den * 2 ^ f.excess b den))
    (ha : f.RoundsUp a den) : f.RoundsUp b den := by
  have hbelow : f.below a den = f.below b den := by
    unfold below
    rw [hq, hexcess]
  have hr : a % (den * 2 ^ f.excess a den) ≤ b % (den * 2 ^ f.excess b den) := by
    have hda := Nat.div_add_mod a (den * 2 ^ f.excess a den)
    have hdb := Nat.div_add_mod b (den * 2 ^ f.excess b den)
    rw [hq, hexcess] at hda
    rw [hexcess]
    omega
  unfold RoundsUp at ha ⊢
  rw [hbelow] at ha
  rw [← hexcess] at hr ⊢
  rcases ha with hlt | ⟨htie, hodd⟩
  · exact .inl (by omega)
  -- from a tie the larger number stays a tie or goes beyond it
  · rcases hr.lt_or_eq with h | h
    · exact .inl (by omega)
    · exact .inr ⟨by omega, hodd⟩

/-- Rounding keeps the order of numbers with the same denominator. -/
lemma nearest_mono_left {a b : Nat} (h : a ≤ b) (den : Nat) :
    f.nearest a den ≤ f.nearest b den := by
  rw [nearest_eq, nearest_eq]
  apply min_le_min_left
  rcases (f.excess_mono den h).lt_or_eq with hlt | heq
  · have hbelow := f.below_lt_below hlt
    split <;> split <;> omega
  · have hq : a / (den * 2 ^ f.excess a den) ≤ b / (den * 2 ^ f.excess b den) := by
      rw [heq]
      exact Nat.div_le_div_right h
    rcases hq.lt_or_eq with hq | hq
    · have hbelow : f.below a den + 1 ≤ f.below b den := by
        unfold below
        rw [heq] at hq ⊢
        omega
      split <;> split <;> omega
    · have hbelow : f.below a den = f.below b den := by
        unfold below
        rw [hq, heq]
      -- the neighbours are the same, so all depends on which of the two is nearer
      by_cases ha : f.RoundsUp a den
      · rw [if_pos ha, if_pos (ha.mono h heq hq), hbelow]
      · rw [if_neg ha, hbelow]
        split <;> omega

/-- Rounding keeps the order of fractions. -/
lemma nearest_mono {a b c d : Nat} (hb : 0 < b) (hd : 0 < d) (h : a * d ≤ c * b) :
    f.nearest a b ≤ f.nearest c d := by
  rw [← f.nearest_mul_left hd a b, ← f.nearest_mul_left hb c d, Nat.mul_comm b d]
  exact f.nearest_mono_left (by linarith [Nat.mul_comm a d, Nat.mul_comm c b]) _

/-- Equal fractions are rounded to the same magnitude. -/
lemma nearest_congr {a b c d : Nat} (hb : 0 < b) (hd : 0 < d) (h : a * d = c * b) :
    f.nearest a b = f.nearest c d :=
  le_antisymm (f.nearest_mono hb hd h.le) (f.nearest_mono hd hb h.ge)

/-- A number of less than half a unit is rounded to zero, and so is half a unit itself. -/
lemma nearest_eq_zero {num den : Nat} (h : 2 * num ≤ den) : f.nearest num den = 0 := by
  rcases Nat.eq_zero_or_pos num with rfl | hnum
  · simp [nearest]
  · have hq : num / den = 0 := Nat.div_eq_of_lt (by omega)
    have hr : num % den = num := Nat.mod_eq_of_lt (by omega)
    have hup : ¬ (den < 2 * num) := by omega
    simp [nearest, hq, hr, hup]

/-- Magnitudes below the first power of two are subnormal, and the others have a leading bit. -/
lemma units_eq (n : Nat) :
    f.units n = if n < 2 ^ f.fractionBits then n
      else (2 ^ f.fractionBits + n % 2 ^ f.fractionBits) * 2 ^ (n / 2 ^ f.fractionBits - 1) := rfl

/-- The units of a magnitude with an exponent. -/
lemma units_of_le {n : Nat} (h : 2 ^ f.fractionBits ≤ n) :
    f.units n =
      (2 ^ f.fractionBits + n % 2 ^ f.fractionBits) * 2 ^ (n / 2 ^ f.fractionBits - 1) := by
  rw [units_eq, if_neg (by omega)]

/-- A magnitude without an exponent has as many units as it says. -/
lemma units_of_lt {n : Nat} (h : n < 2 ^ f.fractionBits) : f.units n = n := if_pos h

/-- A whole number of units is rounded to the magnitude that denotes it. -/
lemma nearest_units (n : Nat) : f.nearest (f.units n) 1 = min f.infinity n := by
  have hF := Nat.two_pow_pos f.fractionBits
  rcases Nat.lt_or_ge n (2 ^ f.fractionBits) with hlt | hge
  · have hlog : n.log2 - f.fractionBits = 0 := by
      rcases Nat.eq_zero_or_pos n with rfl | hn
      · simp
      · have := (Nat.log2_lt hn.ne').2 hlt
        omega
    simp [nearest, f.units_of_lt hlt, hlog, Nat.mod_one]
  · have hexp : 1 ≤ n / 2 ^ f.fractionBits := (Nat.one_le_div_iff hF).2 hge
    have hrest := Nat.mod_lt n hF
    -- the exponent of a normal magnitude is the number of places that are cut off again
    set e := n / 2 ^ f.fractionBits - 1 with he
    have hlog : (f.units n).log2 = f.fractionBits + e := by
      rw [f.units_of_le hge, ← he]
      refine (Nat.log2_eq_iff (by positivity)).2 ⟨?_, ?_⟩
      · rw [Nat.pow_add]
        exact Nat.mul_le_mul_right _ (by omega)
      · rw [show f.fractionBits + e + 1 = (f.fractionBits + 1) + e by omega, Nat.pow_add,
          Nat.pow_succ]
        exact Nat.mul_lt_mul_of_pos_right (by omega) (Nat.two_pow_pos _)
    have hn : n = (e + 1) * 2 ^ f.fractionBits + n % 2 ^ f.fractionBits := by
      have := Nat.div_add_mod n (2 ^ f.fractionBits)
      rw [show e + 1 = n / 2 ^ f.fractionBits by omega, Nat.mul_comm]
      omega
    have hq : f.units n / 2 ^ e = 2 ^ f.fractionBits + n % 2 ^ f.fractionBits := by
      rw [f.units_of_le hge, Nat.mul_div_cancel _ (Nat.two_pow_pos _)]
    have hr : f.units n % 2 ^ e = 0 := by rw [f.units_of_le hge, Nat.mul_mod_left]
    have hlow : e * 2 ^ f.fractionBits + (2 ^ f.fractionBits + n % 2 ^ f.fractionBits) = n := by
      rw [Nat.add_mul] at hn
      omega
    simp [nearest, hlog, hq, hr, hlow]

/-- The units of a magnitude, as a bound by powers of two. -/
lemma units_lt (n : Nat) : f.units n < 2 ^ (f.fractionBits + n / 2 ^ f.fractionBits) := by
  have hF := Nat.two_pow_pos f.fractionBits
  rcases Nat.lt_or_ge n (2 ^ f.fractionBits) with hlt | hge
  · rw [f.units_of_lt hlt, Nat.div_eq_of_lt hlt]
    exact hlt
  · have hrest := Nat.mod_lt n hF
    obtain ⟨e, he⟩ : ∃ e, n / 2 ^ f.fractionBits = e + 1 :=
      Nat.exists_eq_add_of_le' ((Nat.one_le_div_iff hF).2 hge)
    rw [f.units_of_le hge, he, Nat.add_sub_cancel, ← Nat.add_assoc, Nat.add_right_comm, Nat.pow_add,
      Nat.pow_succ]
    exact Nat.mul_lt_mul_of_pos_right (by omega) (Nat.two_pow_pos _)

end EmbeddedFilters.BinaryFormat
