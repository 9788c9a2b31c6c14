import EmbeddedFilters.Proofs.Number.Integers
import EmbeddedFilters.Proofs.Options.Declarations
import EmbeddedFilters.Proofs.Parameters.Completeness

/-!
# What coercion makes of numbers

A value that is given in the other form than the declared one is coerced. A number that both forms
have is kept (`OptionValue.Becomes.number`); an integer that no double denotes becomes the nearest
double, and what is no integer never becomes a whole number. So what a declaration gives out, and
what a model of it takes, denotes the number that has been given wherever the declared kind has it
(`Declaration.check_keeps_number`).
-/

namespace EmbeddedFilters

open Outcome

/-- Does some value of the kind stand for the number? -/
def OptionKind.Holds (kind : OptionKind) (q : ℚ) : Prop :=
  ∃ v : OptionValue, v.kind = kind ∧ v.number? = some q

namespace OptionValue

/-- What a value may become in the form of a kind. A value in this form stays what it is, a number
that the kind has is kept, an integer becomes the nearest double, and only what stands for an
integer becomes a whole number. -/
structure Becomes (kind : OptionKind) (v w : OptionValue) : Prop where
  isNaN : v.toDouble.isNaN = false
  form : w.kind = kind
  same : v.kind = kind → w = v
  number : ∀ q, kind.Holds q → v.number? = some q → w.number? = some q
  nearest : ∀ i, v = .int i → kind = .float → ∃ y, w = .float y ∧ y.IsNearest i.toInt
  whole : kind = .int → ∃ n : ℤ, v.number? = some (n : ℚ)

variable {v w : OptionValue} {field : String}

/-- An integer becomes the nearest double, which is the same number if any double is. -/
lemma becomes_float (i : Int64) : Becomes .float (.int i) (.float (.ofInt .double i.toInt)) where
  isNaN := Binary.isNaN_of_isFinite (Binary.isFinite_ofInt i)
  form := rfl
  same := by
    intro h
    cases h
  number := by
    rintro q ⟨x, hx, hq⟩ hi
    cases x with
    | int j => cases hx
    | float x =>
      obtain ⟨hfinite, hxq⟩ := number?_float.mp hq
      obtain rfl := Option.some.inj hi
      have hnearest := Binary.isNearest_ofInt (Binary.isFinite_ofInt i)
      exact number?_float.mpr ⟨hnearest.isFinite, hnearest.toRat_eq hfinite hxq⟩
  nearest := by
    intro j hj _
    cases hj
    exact ⟨_, rfl, Binary.isNearest_ofInt (Binary.isFinite_ofInt i)⟩
  whole := by
    intro h
    cases h

/-- A double that becomes a whole number stands for an integer, which is kept unless it is beyond
the whole numbers. -/
lemma becomes_int {x : Double} {i : Int64} (h : toWhole field (.float x) = .ok i) :
    Becomes .int (.float x) (.int i) := by
  obtain ⟨n, hn, hclamp⟩ := toWhole_eq_ok.mp h
  refine ⟨?_, rfl, fun h => ?_, ?_, fun j hj => ?_, fun _ => ⟨n, hn⟩⟩
  · exact Binary.isNaN_of_isFinite (number?_float.mp hn).1
  · cases h
  · rintro q ⟨u, hu, hq⟩ hx
    cases u with
    | float u => cases hu
    | int j =>
      obtain rfl := Option.some.inj (hx.symm.trans hn)
      have hj : j.toInt = n := by
        have hcast := Option.some.inj hq
        exact_mod_cast hcast
      have hlow := j.le_toInt
      have hhigh := j.toInt_lt
      have hi : i.toInt = n := by omega
      show some (i.toInt : ℚ) = some (n : ℚ)
      rw [hi]
  · cases hj

/-- A value in the form of its kind stays what it is. -/
lemma becomes_self (h : v.toDouble.isNaN = false)
    (hwhole : v.kind = .int → ∃ n : ℤ, v.number? = some (n : ℚ)) :
    Becomes v.kind v v where
  isNaN := h
  form := rfl
  same _ := rfl
  number _ _ hq := hq
  nearest := by
    rintro i rfl hkind
    cases hkind
  whole := hwhole

/-- What comes out of a coercion as a number has become one of the value that went in. -/
lemma becomes_of_coerce {kind : OptionKind} (h : v.coerce kind field = .ok w)
    (hnan : w.toDouble.isNaN = false) : Becomes kind v w := by
  cases kind with
  | int =>
    obtain ⟨i, hi, rfl⟩ := map_eq_ok.mp h
    cases v with
    | int j =>
      obtain rfl := Except.ok.inj hi
      exact becomes_self hnan fun _ => ⟨j.toInt, rfl⟩
    | float x => exact becomes_int hi
  | float =>
    cases h
    cases v with
    | int i => exact becomes_float i
    | float x =>
      refine becomes_self hnan fun hkind => ?_
      cases hkind

end OptionValue

namespace Declaration

open OptionValue

/-- What a declaration gives out, and so what a model of it takes, is the value that has been given
in the declared form. It stands for the same number wherever the declared kind has this number; only
an integer that no double denotes becomes another number, the nearest double. What is no number is
refused, and for a declaration of whole numbers also what stands for no integer. -/
theorem check_keeps_number {d : Declaration} {v w : OptionValue}
    (h : d.check v = .ok w ∨ ∃ m : OptionModel, m.declaration = d ∧ m.accept v = .ok w) :
    Becomes d.kind v w := by
  have hcheck : d.check v = .ok w := by
    rcases h with h | ⟨m, rfl, h⟩
    · exact h
    · exact (OptionModel.of_accept h).2.2
  obtain ⟨hcoerce, hadmits⟩ := check_eq_ok.mp hcheck
  exact becomes_of_coerce hcoerce hadmits.isNaN

/-- A whole number that stands for an integer of 64 bits goes through as this integer. -/
theorem whole_double_keeps_number :
    (int "Delta" 0 100 1 20 none).check (.float (.ofInt .double 20)) = .ok (.int 20) ∧
      Becomes .int (.float (.ofInt .double 20)) (.int 20) := by
  have h : (int "Delta" 0 100 1 20 none).check (.float (.ofInt .double 20)) = .ok (.int 20) :=
    eq_ok_of_toOption (by decide +kernel)
  exact ⟨h, check_keeps_number (.inl h)⟩

/-- The integer after `2 ^ 53` becomes `2 ^ 53` as a double, and the double `2 ^ 63` becomes the
integer before it as a whole number. -/
theorem coercion_changes_number :
    let wide : Declaration :=
      { name := "Gain", kind := .float, default := .float (.ofInt .double 0) }
    let whole : Declaration := { name := "Count", kind := .int, default := .int 0 }
    (wide.check (.int 9007199254740993) = .ok (.float (.ofInt .double 9007199254740992)) ∧
        number? (.float (.ofInt .double 9007199254740992)) ≠ number? (.int 9007199254740993)) ∧
      whole.check (.float (.ofInt .double 9223372036854775808)) = .ok (.int 9223372036854775807) ∧
        number? (.int 9223372036854775807) ≠
        number? (.float (.ofInt .double 9223372036854775808)) := by
  have hfloat : ∀ {n : ℤ}, n.natAbs ≤ 2 ^ 64 →
      (Binary.ofInt .double n).units = n * 2 ^ BinaryFormat.double.places →
      number? (.float (.ofInt .double n)) = some (n : ℚ) := fun hn hunits =>
    number?_float.mpr ⟨Binary.isFinite_ofInt_of_le hn, Binary.toRat_eq_intCast.mpr hunits⟩
  have hint : ∀ {n : ℤ} {i : Int64}, n ≠ i.toInt → some (n : ℚ) ≠ number? (.int i) :=
    fun hne heq => hne (by exact_mod_cast Option.some.inj heq)
  refine ⟨⟨eq_ok_of_toOption (by decide +kernel), ?_⟩, eq_ok_of_toOption (by decide +kernel), ?_⟩
  · rw [hfloat (by decide) (by decide +kernel)]
    exact hint (by decide)
  · rw [hfloat (by decide) (by decide +kernel)]
    exact (hint (by decide)).symm

end Declaration

end EmbeddedFilters
