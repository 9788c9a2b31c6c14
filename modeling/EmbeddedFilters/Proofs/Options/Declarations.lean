import EmbeddedFilters.Options.Model
import EmbeddedFilters.Proofs.Outcome

/-!
# Values that a declaration admits

A check of a value coerces it to the declared kind and looks at the bounds of the outcome
(`Declaration.check_eq_ok`). A value in the declared form is coerced to itself, so what a check
gives out passes the same check unchanged (`Declaration.check_idem`). A model takes what its
declaration gives out, while it is open for writing (`OptionModel.of_accept`).
-/

namespace EmbeddedFilters

open Outcome

namespace OptionValue

/-- A value that has been coerced has the form that was asked for. -/
lemma kind_of_coerce {k : OptionKind} {field : String} {v w : OptionValue}
    (h : v.coerce k field = .ok w) : w.kind = k := by
  cases k with
  | int =>
    obtain ⟨i, -, rfl⟩ := map_eq_ok.mp h
    rfl
  | float =>
    cases h
    rfl

/-- A value is coerced to its own form as it is. -/
lemma coerce_self (field : String) (v : OptionValue) : v.coerce v.kind field = .ok v := by
  cases v <;> rfl

/-- Coercing a value again changes nothing. -/
lemma coerce_idem {k : OptionKind} {field : String} {v w : OptionValue}
    (h : v.coerce k field = .ok w) (other : String) : w.coerce k other = .ok w := by
  rw [← kind_of_coerce h]
  exact coerce_self other w

/-- A value that is a number agrees with itself. -/
lemma agrees_self {v : OptionValue} (h : v.toDouble.isNaN = false) : v.agrees v = true := by
  cases v with
  | int i => simp [agrees]
  | float x =>
    have hx : x.isNaN = false := h
    simp [agrees, Binary.agrees, hx]

end OptionValue

namespace Declaration

/-- Is the value a number within the stated bounds? -/
structure Admits (d : Declaration) (v : OptionValue) : Prop where
  isNaN : v.toDouble.isNaN = false
  lower : ∀ m, d.minimum = some m → v.toDouble.lt m.toDouble = false
  upper : ∀ m, d.maximum = some m → m.toDouble.lt v.toDouble = false

/-- A check succeeds with the coerced value, if that is admitted. -/
lemma check_eq_ok {d : Declaration} {v w : OptionValue} :
    d.check v = .ok w ↔ v.coerce d.kind d.name = .ok w ∧ d.Admits w := by
  constructor
  · intro h
    obtain ⟨c, hc, h⟩ := bind_eq_ok.mp h
    cases hnan : c.toDouble.isNaN
    -- which bounds are stated decides which comparisons are made
    · cases hmin : d.minimum <;> cases hmax : d.maximum <;>
        simp only [hnan, hmin, hmax, Bool.false_eq_true, if_false] at h
      · cases pure_eq_ok.mp h
        exact ⟨hc, hnan, by simp [hmin], by simp [hmax]⟩
      · split at h
        · cases h
        · cases pure_eq_ok.mp h
          exact ⟨hc, hnan, by simp [hmin], by simp_all⟩
      · split at h
        · cases h
        · cases pure_eq_ok.mp h
          exact ⟨hc, hnan, by simp_all, by simp [hmax]⟩
      · split at h
        · cases h
        · split at h
          · cases h
          · cases pure_eq_ok.mp h
            exact ⟨hc, hnan, by simp_all, by simp_all⟩
    · simp only [hnan, if_true] at h
      cases h
  · rintro ⟨hc, hnan, hlow, hhigh⟩
    refine bind_eq_ok.mpr ⟨w, hc, ?_⟩
    cases hmin : d.minimum <;> cases hmax : d.maximum <;> simp_all

/-- Checking what a check has let through changes nothing. -/
lemma check_idem {d : Declaration} {v w : OptionValue} (h : d.check v = .ok w) :
    d.check w = .ok w :=
  check_eq_ok.mpr ⟨OptionValue.coerce_idem (check_eq_ok.mp h).1 _, (check_eq_ok.mp h).2⟩

end Declaration

/-- What a model accepts, its declaration admits, and the model is open. -/
lemma OptionModel.of_accept {m : OptionModel} {v checked : OptionValue}
    (h : m.accept v = .ok checked) :
    m.readOnly = false ∧ m.enabled = true ∧ m.declaration.check v = .ok checked := by
  unfold OptionModel.accept at h
  split at h
  · cases h
  · split at h
    · cases h
    · exact ⟨by simp_all, by simp_all, h⟩

end EmbeddedFilters
