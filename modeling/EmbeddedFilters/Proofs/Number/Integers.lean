import EmbeddedFilters.Proofs.Number.Nearest

/-!
# Integers among the doubles

Every whole number of 64 bits is near a double, and several of them may be near the same one. So
doubles tell two of them apart in the right order or not at all (`Binary.lt_ofInt`). Between `-2 ^
53` and `2 ^ 53` each integer is a double that no other integer is near
(`Binary.ofInt_inj_of_short`); `2 ^ 53` itself is the double nearest to the integer after it as
well.
-/

namespace EmbeddedFilters.Binary

/-- Integers farther from zero are near numbers that are no nearer to it. -/
lemma magnitude_ofInt_mono (f : BinaryFormat) {i j : ℤ} (h : i.natAbs ≤ j.natAbs) :
    (ofInt f i).magnitude ≤ (ofInt f j).magnitude :=
  f.nearest_mono_left (Nat.mul_le_mul_right _ h) 1

/-- Zero is the only integer near zero. -/
lemma magnitude_ofInt_pos {i : ℤ} (h : i ≠ 0) : 0 < (ofInt .double i).magnitude := by
  have hone : 0 < (ofInt .double 1).magnitude := by decide +kernel
  exact hone.trans_le (magnitude_ofInt_mono .double (by omega))

/-- Integers near doubles at one position are near the same double. -/
lemma ofInt_eq_of_rank {i j : ℤ} (h : (ofInt .double i).rank = (ofInt .double j).rank) :
    ofInt .double i = ofInt .double j := by
  rcases eq_or_zero_of_rank h with heq | ⟨hi, hj⟩
  · exact heq
  · have hzero : i = 0 ∧ j = 0 := by
      constructor
      · by_contra hne
        exact (magnitude_ofInt_pos hne).ne' hi
      · by_contra hne
        exact (magnitude_ofInt_pos hne).ne' hj
    rw [hzero.1, hzero.2]

/-- The double near one integer is below the one near another if the integer is below the other and
the doubles are not the same. -/
lemma lt_ofInt (i j : Int64) : (ofInt .double i.toInt).lt (ofInt .double j.toInt) = true ↔
    i.toInt < j.toInt ∧ ofInt .double i.toInt ≠ ofInt .double j.toInt := by
  have hi := isNaN_of_isFinite (isFinite_ofInt i)
  have hj := isNaN_of_isFinite (isFinite_ofInt j)
  simp only [lt, hi, hj, Bool.not_false, Bool.true_and, decide_eq_true_eq]
  constructor
  · intro h
    refine ⟨?_, fun heq => h.ne (congrArg rank heq)⟩
    by_contra hle
    exact h.not_ge (rank_ofInt_mono .double (not_lt.mp hle))
  · rintro ⟨hlt, hne⟩
    exact (rank_ofInt_mono .double hlt.le).lt_of_ne fun heq => hne (ofInt_eq_of_rank heq)

/-- An integer that is short enough is not near the same double as any other one. -/
lemma ofInt_inj_of_short {i j : ℤ} (hj : j.natAbs < 2 ^ 53)
    (h : ofInt .double i = ofInt .double j) :
    i = j := by
  have hfinite : (ofInt .double j).isFinite = true := isFinite_ofInt_of_le (by omega)
  rcases Nat.lt_or_ge i.natAbs (2 ^ 53) with hi | hi
  · have hirat := toRat_ofInt (f := .double) hi (h ▸ hfinite)
    have hjrat := toRat_ofInt (f := .double) hj hfinite
    rw [h, hjrat] at hirat
    exact_mod_cast hirat.symm
  -- an integer that is not short is at least as far from zero as the first of them
  · have hlarge : (ofInt .double (2 ^ 53)).magnitude ≤ (ofInt .double i).magnitude :=
      magnitude_ofInt_mono .double hi
    have hsmall : (ofInt .double j).magnitude ≤ (ofInt .double (2 ^ 53 - 1)).magnitude :=
      magnitude_ofInt_mono .double (Nat.le_sub_one_of_lt hj)
    have hstep : (ofInt .double (2 ^ 53 - 1)).magnitude < (ofInt .double (2 ^ 53)).magnitude := by
      decide +kernel
    rw [h] at hlarge
    omega

end EmbeddedFilters.Binary
