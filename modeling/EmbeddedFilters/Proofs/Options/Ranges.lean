import EmbeddedFilters.Proofs.Number.Widening
import EmbeddedFilters.Proofs.Options.Declarations
import EmbeddedFilters.Proofs.Parameters.Updates

/-!
# Ranges of options

A declaration checks a value against the bounds that it states, and shows a range in which open
sides are as wide as the finite numbers. A finite value that passes the check lies in the range, if
the bounds that are stated are numbers (`Declaration.contains_of_check`). Where a bound is none, the
check is passed by every value and the range contains nothing.
-/

namespace EmbeddedFilters

namespace Binary

variable {f : BinaryFormat} {x y : Binary f}

/-- If one number is not less than another, the other is not greater. -/
lemma le_of_not_lt (hx : x.isNaN = false) (hy : y.isNaN = false) (h : x.lt y = false) :
    y.le x = true := by
  simp only [lt, le, hx, hy, Bool.not_false, Bool.true_and, decide_eq_false_iff_not,
    decide_eq_true_eq] at h ⊢
  omega

/-- A finite number lies between the largest finite numbers. -/
lemma between_largest (h : x.isFinite = true) :
    (largest f true).le x = true ∧ x.le (largest f false) = true := by
  have hnan := isNaN_of_isFinite h
  have hlargest : ∀ negative, (largest f negative).isNaN = false := by
    intro negative
    refine decide_eq_false ?_
    show ¬ f.infinity < f.infinity - 1
    omega
  have hmagnitude : x.magnitude < f.infinity := of_decide_eq_true h
  have hrank : -((f.infinity - 1 : Nat) : Int) ≤ x.rank ∧
      x.rank ≤ ((f.infinity - 1 : Nat) : Int) := by
    unfold rank
    split <;> omega
  simp only [le, hnan, hlargest, Bool.not_false, Bool.true_and]
  exact ⟨decide_eq_true hrank.1, decide_eq_true hrank.2⟩

end Binary

/-- The value is a finite number as soon as it can be written down. -/
lemma OptionValue.isFinite_toDouble {v : OptionValue} (h : v.IsFinite) :
    v.toDouble.isFinite = true := by
  cases v with
  | int i => exact Binary.isFinite_ofInt i
  | float x => exact h

namespace Declaration

variable {d : Declaration} {v : OptionValue}

/-- The bounds that are stated are numbers. -/
structure Bounded (d : Declaration) : Prop where
  minimum : ∀ m, d.minimum = some m → m.toDouble.isNaN = false
  maximum : ∀ m, d.maximum = some m → m.toDouble.isNaN = false

/-- A value that passes the check as it is has the declared form. -/
lemma kind_of_check (h : d.check v = .ok v) : v.kind = d.kind :=
  OptionValue.kind_of_coerce (check_eq_ok.mp h).1

/-- A finite value that passes the check lies in the range. -/
lemma contains_of_check (hd : d.Bounded) (h : d.check v = .ok v) (hfinite : v.IsFinite) :
    d.range.contains v.toDouble = true := by
  have hadmits := (check_eq_ok.mp h).2
  obtain ⟨habove, hbelow⟩ := Binary.between_largest (OptionValue.isFinite_toDouble hfinite)
  rw [OptionRange.contains, Bool.and_eq_true]
  constructor
  · cases hmin : d.minimum with
    | none => simpa [range, hmin] using habove
    | some m =>
      have hle := Binary.le_of_not_lt hadmits.isNaN (hd.minimum m hmin) (hadmits.lower m hmin)
      simpa [range, hmin] using hle
  · cases hmax : d.maximum with
    | none => simpa [range, hmax] using hbelow
    | some m =>
      have hle := Binary.le_of_not_lt (hd.maximum m hmax) hadmits.isNaN (hadmits.upper m hmax)
      simpa [range, hmax] using hle

end Declaration

end EmbeddedFilters
