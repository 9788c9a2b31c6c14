import EmbeddedFilters.Proofs.Parameters.Updates

/-!
# Updates option by option

Whether an update denotes parameters is decided for each option by itself: no rule relates two
options (`Parameters.exists_ofOptions`). So an update whose values come from two accepted ones,
option by option, is accepted as well (`Parameters.exists_ofOptions_of_either`).
-/

namespace EmbeddedFilters

open Outcome Assignment

/-- Is the value one that the parameters of a filter can have for the option of a name? -/
def OptionValue.Suits (v : OptionValue) : String → Prop
  | "Toggle" => ∃ i b, v.toWhole "Toggle" = .ok i ∧ Check.flag "Toggle" i = .ok b
  | "Magnitude" => ∃ i m, v.toWhole "Magnitude" = .ok i ∧ Decimation.checkMagnitude i = .ok m
  | "Alpha" => ∃ alpha, Temporal.checkAlpha v.toDouble = .ok alpha
  | "Delta" => ∃ i delta, v.toWhole "Delta" = .ok i ∧ Temporal.checkDelta i = .ok delta
  | "Persistency" => ∃ i persistency, v.toWhole "Persistency" = .ok i ∧
      Temporal.checkPersistency i = .ok persistency
  | _ => False

namespace Parameters

variable {kind : FilterKind} {list : List Assignment}

/-- An update is accepted if it is complete and every value suits its option. -/
lemma exists_ofOptions :
    (∃ p, ofOptions kind list = .ok p) ↔ (names list).Perm kind.optionNames ∧
      ∀ name ∈ kind.optionNames, ∃ v, find? name list = some v ∧ v.Suits name := by
  rw [← checkComplete_eq_ok]
  cases kind with
  | decimation =>
    simp only [ofOptions, map_eq_ok, Decimation.ofOptions, bind_eq_ok, pure_eq_ok, require_eq_ok,
      FilterKind.optionNames, List.forall_mem_cons]
    constructor
    · rintro ⟨-, -, ⟨⟨⟩, hcomplete, v, hv, i, hi, u, hu, j, hj, b, hb, m, hm, -⟩, -⟩
      exact ⟨hcomplete, ⟨v, hv, i, b, hi, hb⟩, ⟨u, hu, j, m, hj, hm⟩, by simp⟩
    · rintro ⟨hcomplete, ⟨v, hv, i, b, hi, hb⟩, ⟨u, hu, j, m, hj, hm⟩, -⟩
      exact ⟨_, _, ⟨(), hcomplete, v, hv, i, hi, u, hu, j, hj, b, hb, m, hm, rfl⟩, rfl⟩
  | temporal =>
    simp only [ofOptions, map_eq_ok, Temporal.ofOptions, bind_eq_ok, pure_eq_ok, require_eq_ok,
      FilterKind.optionNames, List.forall_mem_cons]
    constructor
    · rintro ⟨-, -,
        ⟨⟨⟩, hcomplete, v, hv, i, hi, u, hu, x, hx, j, hj, y, hy, k, hk, b, hb, a, ha, d,
        hd, c, hc, -⟩, -⟩
      exact ⟨hcomplete, ⟨v, hv, i, b, hi, hb⟩, ⟨u, hu, a, ha⟩, ⟨x, hx, j, d, hj, hd⟩,
        ⟨y, hy, k, c, hk, hc⟩, by simp⟩
    · rintro ⟨hcomplete, ⟨v, hv, i, b, hi, hb⟩, ⟨u, hu, a, ha⟩, ⟨x, hx, j, d, hj, hd⟩,
        ⟨y, hy, k, c, hk, hc⟩, -⟩
      exact ⟨_, _, ⟨(), hcomplete, v, hv, i, hi, u, hu, x, hx, j, hj, y, hy, k, hk, b, hb, a, ha, d,
        hd, c, hc, rfl⟩, rfl⟩

/-- An update is accepted if for every option it has the value of one of two accepted updates. -/
lemma exists_ofOptions_of_either {first second : List Assignment}
    (hfirst : ∃ p, ofOptions kind first = .ok p) (hsecond : ∃ p, ofOptions kind second = .ok p)
    (hperm : (names list).Perm kind.optionNames)
    (h : ∀ name ∈ kind.optionNames,
      find? name list = find? name first ∨ find? name list = find? name second) :
    ∃ p, ofOptions kind list = .ok p := by
  refine exists_ofOptions.mpr ⟨hperm, fun name hname => ?_⟩
  cases h name hname with
  | inl hvalue => exact hvalue ▸ (exists_ofOptions.mp hfirst).2 name hname
  | inr hvalue => exact hvalue ▸ (exists_ofOptions.mp hsecond).2 name hname

end Parameters

end EmbeddedFilters
