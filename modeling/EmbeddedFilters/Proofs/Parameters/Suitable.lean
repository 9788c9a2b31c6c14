import EmbeddedFilters.Proofs.Parameters.Overlays
import EmbeddedFilters.Proofs.Parameters.Rules

/-!
# Values that suit an option

The parameters of a filter and the declarations of its options state the same ranges. A value that
suits an option passes the check of the declaration, which makes of it a value that suits the option
as well (`Parameters.check_of_suits`), and whatever passes the check is finite
(`Parameters.isFinite_of_check`).
-/

namespace EmbeddedFilters

open Outcome Assignment

/-- The field that a value is meant for only matters where the value is not whole. -/
lemma OptionValue.toWhole_congr {field : String} {v : OptionValue} {i : Int64}
    (h : v.toWhole field = .ok i) (other : String) : v.toWhole other = .ok i := by
  cases v with
  | int j => exact h
  | float x =>
    cases hwhole : x.isWhole with
    | true => simpa only [toWhole, hwhole, if_true] using h
    | false => simp [toWhole, hwhole] at h

/-- A value that denotes a whole number is checked as that number, where a whole number is
declared. -/
lemma Declaration.check_of_toWhole {d : Declaration} (hkind : d.kind = .int) {field : String}
    {v : OptionValue} {i : Int64} (h : v.toWhole field = .ok i) : d.check v = d.check (.int i) := by
  have hcoerce : v.coerce d.kind d.name = OptionValue.coerce d.kind d.name (.int i) := by
    rw [hkind]
    simp only [OptionValue.coerce, OptionValue.toWhole_congr h d.name]
    rfl
  rw [check, check, hcoerce]

namespace Parameters

variable {kind : FilterKind} {name : String} {v c : OptionValue} {d : Declaration}

/-- A value that denotes a whole number is made that number by a declaration that takes it. -/
lemma check_of_whole (hkind : d.kind = .int) {i : Int64} (hi : v.toWhole name = .ok i)
    (hcheck : d.check (.int i) = .ok (.int i)) (hsuits : (OptionValue.int i).Suits name) :
    ∃ c, d.check v = .ok c ∧ c.Suits name :=
  ⟨.int i, (Declaration.check_of_toWhole hkind hi).trans hcheck, hsuits⟩

/-- A flag passes the check of the option that switches a filter on. -/
lemma check_of_flag (h : v.Suits "Toggle") (description : Option String) :
    ∃ c, (Declaration.int "Toggle" 0 1 1 0 description).check v = .ok c ∧ c.Suits "Toggle" := by
  obtain ⟨i, b, hi, hb⟩ := h
  obtain rfl := Check.flag_eq_ok.mp hb
  exact check_of_whole rfl hi (check_toggle b description) ⟨_, b, rfl, hb⟩

/-- A value that suits an option passes the check of the declaration, and is made a value that suits
it. -/
lemma check_of_suits (hname : name ∈ kind.optionNames) (h : v.Suits name) :
    ∃ d, (declarations kind).find? (fun d => d.name == name) = some d ∧
      ∃ c, d.check v = .ok c ∧ c.Suits name := by
  cases kind with
  | decimation =>
    obtain rfl | rfl := mem_decimation.mp hname
    · exact ⟨_, rfl, check_of_flag h _⟩
    · obtain ⟨i, m, hi, hm⟩ := h
      obtain ⟨rfl, -⟩ := Decimation.checkMagnitude_eq_ok.mp hm
      exact ⟨_, rfl,
        check_of_whole rfl hi (check_whole (by decide) (by decide) _ _ _ _) ⟨2, m, rfl, hm⟩⟩
  | temporal =>
    obtain rfl | rfl | rfl | rfl := mem_temporal.mp hname
    · exact ⟨_, rfl, check_of_flag h _⟩
    · obtain ⟨alpha, halpha⟩ := h
      have hunit := (Temporal.checkAlpha_ok halpha).1
      -- alpha is made a double, whichever form the value has
      exact ⟨_, rfl, .float v.toDouble, check_alpha hunit _ _ _, alpha, halpha⟩
    · obtain ⟨i, delta, hi, hdelta⟩ := h
      obtain ⟨⟨⟩, hwhole, -⟩ := bind_eq_ok.mp hdelta
      obtain ⟨hlow, hhigh⟩ := Check.whole_eq_ok.mp hwhole
      exact ⟨_, rfl, check_of_whole rfl hi (check_whole hlow hhigh _ _ _ _)
        ⟨i, delta, rfl, hdelta⟩⟩
    · obtain ⟨i, persistency, hi, hpersistency⟩ := h
      obtain ⟨⟨⟩, hwhole, -⟩ := bind_eq_ok.mp hpersistency
      obtain ⟨hlow, hhigh⟩ := Check.whole_eq_ok.mp hwhole
      exact ⟨_, rfl, check_of_whole rfl hi (check_whole hlow hhigh _ _ _ _)
        ⟨i, persistency, rfl, hpersistency⟩⟩

/-- What passes the check of a declaration is finite. -/
lemma isFinite_of_check (hd : d ∈ declarations kind) (h : d.check v = .ok c) : v.IsFinite := by
  obtain ⟨hcoerce, hadmits⟩ := Declaration.check_eq_ok.mp h
  have hwhole : d.kind = .int → v.IsFinite := by
    intro hkind
    rw [hkind] at hcoerce
    obtain ⟨i, hi, -⟩ := map_eq_ok.mp hcoerce
    exact OptionValue.isFinite_of_toWhole hi
  cases kind with
  | decimation =>
    simp only [declarations, Decimation.declarations, List.mem_cons,
      List.not_mem_nil, or_false] at hd
    obtain rfl | rfl := hd <;> exact hwhole rfl
  | temporal =>
    simp only [declarations, Temporal.declarations, List.mem_cons, List.not_mem_nil, or_false] at hd
    obtain rfl | rfl | rfl | rfl := hd
    · exact hwhole rfl
    · cases v with
      | int i => trivial
      | float x =>
        cases hcoerce
        have hunit : x.InUnit := ⟨hadmits.isNaN, hadmits.lower (.float (.ofInt .double 0)) rfl,
          hadmits.upper (.float (.ofInt .double 1)) rfl⟩
        exact hunit.isFinite
    · exact hwhole rfl
    · exact hwhole rfl

end Parameters

end EmbeddedFilters
