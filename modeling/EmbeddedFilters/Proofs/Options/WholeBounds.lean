import EmbeddedFilters.Options.Model
import EmbeddedFilters.Proofs.Number.Integers
import EmbeddedFilters.Proofs.Options.Declarations

/-!
# Bounds of whole numbers

A declaration of whole numbers compares a value with its bounds as doubles. So a value beyond a
bound is refused unless the double nearest to it is the one nearest to the bound
(`Declaration.Below`), and the refusal names the bound; a value within the bounds is never refused.
The comparison is exact as soon as the bounds that are stated lie strictly between `-2 ^ 53` and `2
^ 53`. All this is said by `Declaration.check_whole_bounds`, which follows from the three ways in
which a check can end (`Declaration.check_cases`). A maximum of `2 ^ 53` lets the number after it
pass (`Declaration.maximum_admits_next`).
-/

namespace EmbeddedFilters

open Outcome

namespace Declaration

variable {d : Declaration}

/-- A check of a value that can be coerced to a number ends at its lower bound, at its upper bound,
or with the coerced value. -/
lemma check_cases {v w : OptionValue} (hw : v.coerce d.kind d.name = .ok w)
    (hnan : w.toDouble.isNaN = false) :
    (∃ m, d.minimum = some m ∧ w.toDouble.lt m.toDouble = true ∧
        d.check v = .error (.outOfRange d.name w.toDouble (.minimum m.toDouble))) ∨
      (∃ m, d.maximum = some m ∧ m.toDouble.lt w.toDouble = true ∧
        d.check v = .error (.outOfRange d.name w.toDouble (.maximum m.toDouble))) ∨
      d.Admits w ∧ d.check v = .ok w := by
  by_cases hlow : ∃ m, d.minimum = some m ∧ w.toDouble.lt m.toDouble = true
  · obtain ⟨m, hm, hlt⟩ := hlow
    refine .inl ⟨m, hm, hlt, ?_⟩
    simp only [check, hw, ok_bind, hnan, hm, hlt, Bool.false_eq_true, if_false, if_true]
    rfl
  · have hlower : ∀ m, d.minimum = some m → w.toDouble.lt m.toDouble = false := fun m hm =>
      Bool.eq_false_iff.mpr fun hlt => hlow ⟨m, hm, hlt⟩
    by_cases hhigh : ∃ m, d.maximum = some m ∧ m.toDouble.lt w.toDouble = true
    · obtain ⟨m, hm, hlt⟩ := hhigh
      refine .inr (.inl ⟨m, hm, hlt, ?_⟩)
      cases hmin : d.minimum with
      | none =>
        simp only [check, hw, ok_bind, hnan, hmin, hm, hlt, Bool.false_eq_true, if_false, if_true]
        rfl
      | some n =>
        simp only [check, hw, ok_bind, hnan, hmin, hlower n hmin, hm, hlt,
          Bool.false_eq_true, if_false, if_true]
        rfl
    · have hadmits : d.Admits w := ⟨hnan, hlower, fun m hm =>
        Bool.eq_false_iff.mpr fun hlt => hhigh ⟨m, hm, hlt⟩⟩
      exact .inr (.inr ⟨hadmits, check_eq_ok.mpr ⟨hw, hadmits⟩⟩)

/-- The declaration is one of whole numbers, with whole bounds where it states any. -/
structure IsWhole (d : Declaration) (low high : Option Int64) : Prop where
  kind : d.kind = .int
  minimum : d.minimum = low.map .int
  maximum : d.maximum = high.map .int

/-- Is a whole number below another one, and not near the same double? -/
def Below (i j : Int64) : Prop :=
  i.toInt < j.toInt ∧ Binary.ofInt .double i.toInt ≠ Binary.ofInt .double j.toInt

instance (i j : Int64) : Decidable (Below i j) := inferInstanceAs (Decidable (_ ∧ _))

/-- Does a whole number lie within the bounds that are stated? -/
def Within (low high : Option Int64) (i : Int64) : Prop :=
  (∀ m ∈ low, m.toInt ≤ i.toInt) ∧ ∀ m ∈ high, i.toInt ≤ m.toInt

/-- Does a whole number lie within the bounds that are stated, as far as doubles tell? -/
def NearlyWithin (low high : Option Int64) (i : Int64) : Prop :=
  (∀ m ∈ low, ¬ Below i m) ∧ ∀ m ∈ high, ¬ Below m i

variable {low high : Option Int64} {i : Int64}

/-- What is within bounds is within them as doubles too. -/
lemma Within.nearly (h : Within low high i) : NearlyWithin low high i :=
  ⟨fun m hm hbelow => (h.1 m hm).not_gt hbelow.1, fun m hm hbelow => (h.2 m hm).not_gt hbelow.1⟩

/-- Doubles tell exactly which numbers lie within bounds that are short enough. -/
lemma NearlyWithin.exact (h : NearlyWithin low high i)
    (hlow : ∀ m ∈ low, m.toInt.natAbs < 2 ^ 53) (hhigh : ∀ m ∈ high, m.toInt.natAbs < 2 ^ 53) :
    Within low high i := by
  refine ⟨fun m hm => ?_, fun m hm => ?_⟩
  · by_contra hlt
    refine h.1 m hm ⟨not_le.mp hlt, fun heq => hlt ?_⟩
    exact (Binary.ofInt_inj_of_short (hlow m hm) heq).ge
  · by_contra hlt
    refine h.2 m hm ⟨not_le.mp hlt, fun heq => hlt ?_⟩
    exact (Binary.ofInt_inj_of_short (hhigh m hm) heq.symm).le

/-- The double near a whole number is below the one near another exactly if the number itself is
told to be. -/
lemma lt_toDouble (i j : Int64) :
    (OptionValue.int i).toDouble.lt (OptionValue.int j).toDouble = true ↔
    Below i j := Binary.lt_ofInt i j

/-- An option of whole numbers admits the integers that are within its bounds as doubles are. -/
lemma admits_int (h : d.IsWhole low high) (i : Int64) :
    d.Admits (.int i) ↔ NearlyWithin low high i := by
  constructor
  · intro hadmits
    refine ⟨fun m hm hbelow => ?_, fun m hm hbelow => ?_⟩
    · have hlow := hadmits.lower (.int m) (by rw [h.minimum, hm]; rfl)
      rw [(lt_toDouble i m).mpr hbelow] at hlow
      cases hlow
    · have hhigh := hadmits.upper (.int m) (by rw [h.maximum, hm]; rfl)
      rw [(lt_toDouble m i).mpr hbelow] at hhigh
      cases hhigh
  · rintro ⟨hlow, hhigh⟩
    refine ⟨Binary.isNaN_of_isFinite (Binary.isFinite_ofInt i), fun m hm => ?_, fun m hm => ?_⟩
    · rw [h.minimum, Option.map_eq_some_iff] at hm
      obtain ⟨j, hj, rfl⟩ := hm
      exact Bool.eq_false_iff.mpr fun hlt => hlow j hj ((lt_toDouble i j).mp hlt)
    · rw [h.maximum, Option.map_eq_some_iff] at hm
      obtain ⟨j, hj, rfl⟩ := hm
      exact Bool.eq_false_iff.mpr fun hlt => hhigh j hj ((lt_toDouble j i).mp hlt)

/-- A whole number is admitted exactly if it lies within the bounds that are stated, as far as
doubles tell, and then it is handed on as it is; so all numbers within the bounds are admitted, and
no others if the bounds are short enough. Any other one is refused, and the failure names the bound
that is violated. What a model of the option takes, in whichever form it is given, is a whole number
that is admitted. -/
theorem check_whole_bounds (h : d.IsWhole low high) (i : Int64) :
    (d.check (.int i) = .ok (.int i) ↔ NearlyWithin low high i) ∧
      (Within low high i → d.check (.int i) = .ok (.int i)) ∧
      ((∀ m ∈ low, m.toInt.natAbs < 2 ^ 53) → (∀ m ∈ high, m.toInt.natAbs < 2 ^ 53) →
        (d.check (.int i) = .ok (.int i) ↔ Within low high i)) ∧
      (d.check (.int i) ≠ .ok (.int i) →
        (∃ m ∈ low, i.toInt < m.toInt ∧ d.check (.int i) = .error
          (.outOfRange d.name (.ofInt .double i.toInt) (.minimum (.ofInt .double m.toInt)))) ∨
        ∃ m ∈ high, m.toInt < i.toInt ∧ d.check (.int i) = .error
          (.outOfRange d.name (.ofInt .double i.toInt) (.maximum (.ofInt .double m.toInt)))) ∧
      ∀ m : OptionModel, m.declaration = d → ∀ v w, m.accept v = .ok w →
        ∃ j, w = .int j ∧ NearlyWithin low high j := by
  have hself : (OptionValue.int i).coerce d.kind d.name = .ok (.int i) := by
    rw [h.kind]
    rfl
  have hok : d.check (.int i) = .ok (.int i) ↔ NearlyWithin low high i := by
    rw [check_eq_ok, and_iff_right hself, admits_int h]
  refine ⟨hok, fun hwithin => hok.mpr hwithin.nearly, fun hlow hhigh => hok.trans
    ⟨fun hnear => hnear.exact hlow hhigh, Within.nearly⟩, fun hrefused => ?_, fun m hm v w hw => ?_⟩
  · rcases check_cases hself (Binary.isNaN_of_isFinite (Binary.isFinite_ofInt i)) with
      ⟨m, hm, hlt, herror⟩ | ⟨m, hm, hlt, herror⟩ | ⟨-, hchecked⟩
    · rw [h.minimum, Option.map_eq_some_iff] at hm
      obtain ⟨j, hj, rfl⟩ := hm
      exact .inl ⟨j, hj, ((lt_toDouble i j).mp hlt).1, herror⟩
    · rw [h.maximum, Option.map_eq_some_iff] at hm
      obtain ⟨j, hj, rfl⟩ := hm
      exact .inr ⟨j, hj, ((lt_toDouble j i).mp hlt).1, herror⟩
    · exact absurd hchecked hrefused
  · obtain ⟨-, -, hcheck⟩ := OptionModel.of_accept hw
    rw [hm, check_eq_ok] at hcheck
    obtain ⟨hcoerce, hadmits⟩ := hcheck
    rw [h.kind] at hcoerce
    obtain ⟨j, -, rfl⟩ := map_eq_ok.mp hcoerce
    exact ⟨j, rfl, (admits_int h j).mp hadmits⟩

/-- A small maximum passes, and the number after it does not. -/
theorem small_maximum_is_exact :
    (int "Delta" 0 100 1 20 none).check (.int 100) = .ok (.int 100) ∧
      (int "Delta" 0 100 1 20 none).check (.int 101) ≠ .ok (.int 101) := by
  have h : (int "Delta" 0 100 1 20 none).IsWhole (some 0) (some 100) := ⟨rfl, rfl, rfl⟩
  refine ⟨(check_whole_bounds h 100).2.1 (by constructor <;> simp), fun hchecked => ?_⟩
  have hwithin := ((check_whole_bounds h 101).2.2.1 (by simp) (by simp)).mp hchecked
  exact absurd (hwithin.2 100 rfl) (by decide)

/-- The number after the maximum is near the same double and passes as well. -/
theorem maximum_admits_next :
    (int "Exposure" 0 9007199254740992 1 0 none).check (.int 9007199254740993) =
        .ok (.int 9007199254740993) ∧
      (⟨.toggle, int "Exposure" 0 9007199254740992 1 0 none, false, true⟩ : OptionModel).accept
        (.int 9007199254740993) = .ok (.int 9007199254740993) ∧
      ¬ Within (some 0) (some 9007199254740992) 9007199254740993 := by
  refine ⟨?_, ?_, ?_⟩
  · exact eq_ok_of_toOption (by decide +kernel)
  · exact eq_ok_of_toOption (by decide +kernel)
  · rintro ⟨-, hhigh⟩
    exact absurd (hhigh _ rfl) (by decide)

end Declaration

end EmbeddedFilters
