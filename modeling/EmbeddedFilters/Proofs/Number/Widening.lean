import EmbeddedFilters.Proofs.Number.Narrowing

/-!
# Numbers in a wider format

A format with at least as many places has every number of a narrower one: its magnitudes denote all
short coefficients times powers of two (`BinaryFormat.exists_units`), and a number that is there is
rounded to itself. So a number that is widened and narrowed again is the same number
(`Binary.convert_convert`), its sign and its subnormal digits included, and numbers that are equal
in the wider format are equal (`Binary.agrees_of_convert`). Integers go to numbers in the same order
(`Binary.rank_ofInt_mono`).
-/

namespace EmbeddedFilters

namespace BinaryFormat

variable (f : BinaryFormat)

/-- The magnitude that denotes twice as much. -/
def doubled (m : Nat) : Nat := if m < 2 ^ f.fractionBits then 2 * m else m + 2 ^ f.fractionBits

/-- Magnitudes below the second power of two denote themselves. -/
lemma units_of_lt_two {m : Nat} (h : m < 2 ^ (f.fractionBits + 1)) : f.units m = m := by
  rcases Nat.lt_or_ge m (2 ^ f.fractionBits) with hlt | hge
  · exact f.units_of_lt hlt
  · have hpow : 2 ^ (f.fractionBits + 1) = 2 ^ f.fractionBits + 2 ^ f.fractionBits := by
      rw [Nat.pow_succ]
      omega
    have hrest : m % 2 ^ f.fractionBits = m - 2 ^ f.fractionBits := by
      rw [Nat.mod_eq_sub_mod hge, Nat.mod_eq_of_lt (by omega)]
    have hexp : m / 2 ^ f.fractionBits = 1 :=
      Nat.div_eq_of_lt_le (by omega) (by omega)
    rw [f.units_of_le hge, hrest, hexp, Nat.sub_self, Nat.pow_zero]
    omega

/-- A doubled magnitude has twice as many units. -/
lemma units_doubled (m : Nat) : f.units (f.doubled m) = 2 * f.units m := by
  have hF := Nat.two_pow_pos f.fractionBits
  unfold doubled
  split
  · rename_i hlt
    have hdouble : 2 * m < 2 ^ (f.fractionBits + 1) := by
      rw [Nat.pow_succ]
      omega
    rw [f.units_of_lt_two hdouble, f.units_of_lt hlt]
  · rename_i hge
    rw [not_lt] at hge
    have hexp : 1 ≤ m / 2 ^ f.fractionBits := (Nat.one_le_div_iff hF).2 hge
    -- the fraction stays, and the exponent is one more
    obtain ⟨e, he⟩ := Nat.exists_eq_add_of_le' hexp
    rw [f.units_of_le (by omega), f.units_of_le hge, Nat.add_mod_right,
      Nat.add_div_right _ hF, he, Nat.add_sub_cancel, Nat.succ_sub_one, Nat.pow_succ]
    ring

/-- A short coefficient times a power of two is denoted by a magnitude. -/
lemma exists_units {k : Nat} (hk : k < 2 ^ (f.fractionBits + 1)) (e : Nat) :
    ∃ m, f.units m = k * 2 ^ e := by
  induction e with
  | zero => exact ⟨k, by rw [f.units_of_lt_two hk, Nat.pow_zero, Nat.mul_one]⟩
  | succ e ih =>
    obtain ⟨m, hm⟩ := ih
    refine ⟨f.doubled m, ?_⟩
    rw [f.units_doubled, hm, Nat.pow_succ]
    ring

/-- What a magnitude denotes is a short coefficient times a power of two. -/
lemma units_eq_mul (m : Nat) :
    ∃ k e, k < 2 ^ (f.fractionBits + 1) ∧ f.units m = k * 2 ^ e := by
  have hF := Nat.two_pow_pos f.fractionBits
  rcases Nat.lt_or_ge m (2 ^ f.fractionBits) with hlt | hge
  · refine ⟨m, 0, ?_, ?_⟩
    · rw [Nat.pow_succ]
      omega
    · rw [f.units_of_lt hlt, Nat.pow_zero, Nat.mul_one]
  · refine ⟨_, _, ?_, f.units_of_le hge⟩
    have hrest := Nat.mod_lt m hF
    rw [Nat.pow_succ]
    omega

variable {f} {g : BinaryFormat}

/-- A wider format has every number of a narrower one. -/
lemma exists_units_eq (h : f.fractionBits ≤ g.fractionBits) (m e : Nat) :
    ∃ n, g.units n = f.units m * 2 ^ e := by
  obtain ⟨k, i, hk, hm⟩ := f.units_eq_mul m
  have hlt : k < 2 ^ (g.fractionBits + 1) :=
    hk.trans_le (Nat.pow_le_pow_right Nat.two_pos (Nat.succ_le_succ h))
  obtain ⟨n, hn⟩ := g.exists_units hlt (i + e)
  refine ⟨n, ?_⟩
  rw [hn, hm, Nat.pow_add]
  ring

/-- Rounding to a wider format loses nothing, unless it goes to infinity. -/
lemma units_nearest (h : f.fractionBits ≤ g.fractionBits) (hplaces : f.places ≤ g.places) (m : Nat)
    (hfinite : g.nearest (f.units m * 2 ^ g.places) (2 ^ f.places) < g.infinity) :
    g.units (g.nearest (f.units m * 2 ^ g.places) (2 ^ f.places)) * 2 ^ f.places =
      f.units m * 2 ^ g.places := by
  obtain ⟨n, hn⟩ := exists_units_eq (g := g) h m (g.places - f.places)
  have hpow : 2 ^ g.places = 2 ^ (g.places - f.places) * 2 ^ f.places := by
    rw [← Nat.pow_add, Nat.sub_add_cancel hplaces]
  have hnearest : g.nearest (f.units m * 2 ^ g.places) (2 ^ f.places) = min g.infinity n := by
    rw [← g.nearest_units, hn]
    refine g.nearest_congr (Nat.two_pow_pos _) Nat.one_pos ?_
    rw [hpow]
    ring
  have hmin : min g.infinity n = n := by
    rw [hnearest] at hfinite
    omega
  rw [hnearest, hmin, hn, hpow]
  ring

end BinaryFormat

namespace Binary

variable {f g : BinaryFormat}

/-- A finite number is a number. -/
lemma isNaN_of_isFinite {x : Binary f} (h : x.isFinite = true) : x.isNaN = false := by
  simp only [isFinite, isNaN, decide_eq_true_eq, decide_eq_false_iff_not] at h ⊢
  omega

/-- The bits of a number are those that it has been read from. -/
lemma toBits_ofBits {bits : Nat} (h : bits < 2 * f.signWeight) : (ofBits f bits).toBits = bits := by
  have hpos : 0 < f.signWeight := Nat.two_pow_pos _
  have hdiv := Nat.div_add_mod bits f.signWeight
  rcases Nat.lt_or_ge bits f.signWeight with hlt | hge
  · simp [toBits, ofBits, Nat.div_eq_of_lt hlt, Nat.mod_eq_of_lt hlt]
  · have hone : bits / f.signWeight = 1 := Nat.div_eq_of_lt_le (by omega) (by omega)
    rw [hone, Nat.mul_one] at hdiv
    simp [toBits, ofBits, hone, hdiv]

/-- A conversion makes no number finite. -/
lemma isFinite_of_convert {x : Binary f} (h : (x.convert g).isFinite = true) :
    x.isFinite = true := by
  unfold convert at h
  split at h
  · have hlt : g.signWeight - 1 < g.infinity := of_decide_eq_true h
    have hnan := g.infinity_lt_signWeight
    omega
  · split at h
    · assumption
    · have hlt : g.infinity < g.infinity := of_decide_eq_true h
      omega

/-- A number that is finite in a wider format is the same when it is narrowed again. -/
lemma convert_convert (h : f.fractionBits ≤ g.fractionBits) (hplaces : f.places ≤ g.places)
    {x : Binary f} (hg : (x.convert g).isFinite = true) : (x.convert g).convert f = x := by
  have hx := isFinite_of_convert hg
  have hwide : x.convert g =
      round g x.negative (f.units x.magnitude * 2 ^ g.places) (2 ^ f.places) := by
    simp [convert, isNaN_of_isFinite hx, hx]
  have hfinite := hg
  rw [hwide] at hfinite
  have hunits := BinaryFormat.units_nearest h hplaces x.magnitude (of_decide_eq_true hfinite)
  have hmagnitude : x.magnitude ≤ f.infinity := (of_decide_eq_true hx).le
  have hback : f.nearest (g.units (x.convert g).magnitude * 2 ^ f.places) (2 ^ g.places) =
      x.magnitude := by
    rw [hwide]
    show f.nearest (g.units (g.nearest _ _) * 2 ^ f.places) _ = _
    rw [hunits]
    calc f.nearest (f.units x.magnitude * 2 ^ g.places) (2 ^ g.places)
      _ = f.nearest (f.units x.magnitude) 1 :=
        f.nearest_congr (Nat.two_pow_pos _) Nat.one_pos (by ring)
      _ = min f.infinity x.magnitude := f.nearest_units _
      _ = x.magnitude := Nat.min_eq_right hmagnitude
  have hnegative : (x.convert g).negative = x.negative := by
    rw [hwide]
    rfl
  obtain ⟨negative, magnitude, hlt⟩ := x
  rw [convert, isNaN_of_isFinite hg, hg]
  simp only [Bool.false_eq_true, if_false, if_true, round, hnegative]
  congr 1

/-- Numbers at one position are the same, but for the signs of zeros. -/
lemma eq_or_zero_of_rank {x y : Binary f} (h : x.rank = y.rank) :
    x = y ∨ x.magnitude = 0 ∧ y.magnitude = 0 := by
  obtain ⟨negative, m, hm⟩ := x
  obtain ⟨negative', n, hn⟩ := y
  cases negative <;> cases negative' <;>
    simp only [rank, if_true, Bool.false_eq_true, if_false] at h
  · left
    congr 1
    omega
  · right
    show m = 0 ∧ n = 0
    omega
  · right
    show m = 0 ∧ n = 0
    omega
  · left
    congr 1
    omega

/-- Zero is converted to zero. -/
lemma magnitude_convert_of_zero (g : BinaryFormat) {x : Binary f} (hx : x.isFinite = true)
    (h : x.magnitude = 0) : (x.convert g).magnitude = 0 := by
  have hzero : f.units 0 = 0 := f.units_of_lt (Nat.two_pow_pos _)
  rw [convert, isNaN_of_isFinite hx, hx]
  show g.nearest (f.units x.magnitude * 2 ^ g.places) _ = 0
  rw [h, hzero, Nat.zero_mul]
  exact g.nearest_eq_zero (Nat.zero_le _)

/-- Numbers that are equal in a wider format are equal. -/
lemma agrees_of_convert (h : f.fractionBits ≤ g.fractionBits) (hplaces : f.places ≤ g.places)
    {x y : Binary f} (hx : (x.convert g).isFinite = true) (hy : (y.convert g).isFinite = true)
    (hagrees : (x.convert g).agrees (y.convert g) = true) : x.agrees y = true := by
  have hrank : (x.convert g).rank = (y.convert g).rank := by
    simp only [agrees, Bool.and_eq_true, beq_iff_eq] at hagrees
    exact hagrees.2
  have hsame : x.rank = y.rank := by
    rcases eq_or_zero_of_rank hrank with heq | ⟨hzero, hzero'⟩
    · rw [← convert_convert h hplaces hx, heq, convert_convert h hplaces hy]
    · have hxzero := magnitude_convert_of_zero f hx hzero
      have hyzero := magnitude_convert_of_zero f hy hzero'
      rw [convert_convert h hplaces hx] at hxzero
      rw [convert_convert h hplaces hy] at hyzero
      simp [rank, hxzero, hyzero]
  simp [agrees, isNaN_of_isFinite (isFinite_of_convert hx),
    isNaN_of_isFinite (isFinite_of_convert hy),
    hsame]

/-- The numbers nearest to integers are ordered as the integers. -/
lemma rank_ofInt_mono (f : BinaryFormat) {i j : ℤ} (h : i ≤ j) :
    (ofInt f i).rank ≤ (ofInt f j).rank := by
  have hmono : ∀ m n : Nat, m ≤ n → f.nearest (m * Nat.pow 2 f.places) 1 ≤
      f.nearest (n * Nat.pow 2 f.places) 1 :=
    fun m n hmn => f.nearest_mono_left (Nat.mul_le_mul_right _ hmn) 1
  simp only [rank, ofInt, round, decide_eq_true_eq]
  rcases lt_or_ge i 0 with hi | hi
  · rcases lt_or_ge j 0 with hj | hj
    · have hle := hmono j.natAbs i.natAbs (by omega)
      rw [if_pos hi, if_pos hj]
      omega
    · rw [if_pos hi, if_neg (not_lt.mpr hj)]
      omega
  · have hj : 0 ≤ j := hi.trans h
    have hle := hmono i.natAbs j.natAbs (by omega)
    rw [if_neg (not_lt.mpr hi), if_neg (not_lt.mpr hj)]
    omega

/-- The number of a greater integer is not less. -/
lemma lt_ofInt_of_le (f : BinaryFormat) {i j : ℤ} (h : i ≤ j) :
    (ofInt f j).lt (ofInt f i) = false := by
  have hrank : ¬ (ofInt f j).rank < (ofInt f i).rank := not_lt.mpr (rank_ofInt_mono f h)
  rw [lt, decide_eq_false hrank, Bool.and_false]

/-- Every integer that is not beyond 64 bits is near a finite number. -/
lemma isFinite_ofInt_of_le {i : ℤ} (h : i.natAbs ≤ 2 ^ 64) : (ofInt .double i).isFinite = true := by
  have hmono := BinaryFormat.double.nearest_mono_left
    (Nat.mul_le_mul_right (Nat.pow 2 BinaryFormat.double.places) h) 1
  have hlimit : BinaryFormat.double.nearest (2 ^ 64 * Nat.pow 2 BinaryFormat.double.places) 1 <
      BinaryFormat.double.infinity := by decide +kernel
  exact decide_eq_true (Nat.lt_of_le_of_lt hmono hlimit)

/-- An integer of 64 bits becomes a finite double. -/
lemma isFinite_ofInt (i : Int64) : (ofInt .double i.toInt).isFinite = true := by
  have hlow := i.le_toInt
  have hhigh := i.toInt_lt
  exact isFinite_ofInt_of_le (by omega)

end Binary

end EmbeddedFilters
