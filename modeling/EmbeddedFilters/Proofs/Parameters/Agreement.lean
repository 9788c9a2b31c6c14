import EmbeddedFilters.Proofs.Options.Ranges
import EmbeddedFilters.Proofs.Parameters.Overlays

/-!
# Parameters that agree

Parameters agree if they are of one kind and have the same values, numbers being compared as
numbers. They do so as soon as the values that they state for every option agree
(`Parameters.agrees_of_options`). Values that valid parameters state lie in the ranges of their
options (`Parameters.in_range`).
-/

namespace EmbeddedFilters

open Outcome Assignment

/-- The single-precision numbers that two values stand for are equal if the values are. -/
lemma OptionValue.agrees_of_ofSingle {x y : Single} (hx : (x.convert .double).isFinite = true)
    (hy : (y.convert .double).isFinite = true) (h : (ofSingle x).agrees (ofSingle y) = true) :
    x.agrees y = true :=
  Binary.agrees_of_convert (g := .double) (by decide) (by decide) hx hy h

/-- Flags that agree as values are the same. -/
lemma OptionValue.eq_of_ofBool {b c : Bool} (h : (ofBool b).agrees (ofBool c) = true) : b = c := by
  cases b <;> cases c <;> first | rfl | cases h

/-- Integers that agree as values are the same. -/
lemma OptionValue.eq_of_ofInt32 {i j : Int32} (h : (ofInt32 i).agrees (ofInt32 j) = true) :
    i = j := by
  have hwide : i.toInt64 = j.toInt64 := beq_iff_eq.mp h
  rw [← Int32.toInt32_toInt64 i, hwide, Int32.toInt32_toInt64]

namespace Parameters

variable {p q r : Parameters} {name : String}

/-- Are the parameters of one kind and their values equal as numbers? -/
def agrees : Parameters → Parameters → Bool
  | .decimation p, .decimation q => p == q
  | .temporal p, .temporal q =>
    p.enabled == q.enabled && p.alpha.agrees q.alpha && p.delta == q.delta &&
      p.persistency == q.persistency
  | _, _ => false

/-- The parameters have the value for an option that others have. -/
def AgreesOn (p q : Parameters) (name : String) : Prop :=
  ∃ v u, find? name p.toOptions = some v ∧ find? name q.toOptions = some u ∧ v.agrees u = true

/-- Parameters have a value for each option of their kind. -/
lemma exists_find? (h : name ∈ p.kind.optionNames) : ∃ v, find? name p.toOptions = some v := by
  rw [← names_toOptions, ← isSome_find?] at h
  exact Option.isSome_iff_exists.mp h

/-- Valid parameters state numbers. -/
lemma agrees_self {v : OptionValue} (hp : p.validate = .ok ())
    (hv : find? name p.toOptions = some v) :
    v.agrees v = true := by
  obtain ⟨d, -, hcheck⟩ := check_toOptions hp (mem_of_find? hv)
  exact OptionValue.agrees_self (Declaration.check_eq_ok.mp hcheck).2.isNaN

/-- The weight of valid parameters is finite. -/
lemma isFinite_alpha {p : Temporal} (hp : p.validate = .ok ()) :
    (p.alpha.convert .double).isFinite = true := by
  obtain ⟨a, ha, -⟩ := bind_eq_ok.mp hp
  obtain ⟨⟨⟩, hnumber, -⟩ := bind_eq_ok.mp ha
  exact (Check.number_unit.mp hnumber).isFinite

/-- Valid parameters agree if all values that they state do. -/
lemma agrees_of_options (hp : p.validate = .ok ()) (hq : q.validate = .ok ())
    (hkind : p.kind = q.kind) (h : ∀ name ∈ p.kind.optionNames, p.AgreesOn q name) :
    p.agrees q = true := by
  cases p with
  | decimation p =>
    cases q with
    | temporal q => cases hkind
    | decimation q =>
      simp only [kind, FilterKind.optionNames, List.forall_mem_cons] at h
      obtain ⟨⟨_, _, ⟨⟩, ⟨⟩, htoggle⟩, ⟨_, _, ⟨⟩, ⟨⟩, hmagnitude⟩, -⟩ := h
      have henabled := OptionValue.eq_of_ofBool htoggle
      have hmagnitude := byte_inj (beq_iff_eq.mp hmagnitude)
      obtain ⟨enabled, magnitude⟩ := p
      exact beq_iff_eq.mpr (congr (congrArg Decimation.mk henabled) hmagnitude)
  | temporal p =>
    cases q with
    | decimation q => cases hkind
    | temporal q =>
      simp only [kind, FilterKind.optionNames, List.forall_mem_cons] at h
      obtain ⟨⟨_, _, ⟨⟩, ⟨⟩, htoggle⟩, ⟨_, _, ⟨⟩, ⟨⟩, halpha⟩, ⟨_, _, ⟨⟩, ⟨⟩, hdelta⟩,
        ⟨_, _, ⟨⟩, ⟨⟩, hpersistency⟩, -⟩ := h
      have henabled := OptionValue.eq_of_ofBool htoggle
      have halpha := OptionValue.agrees_of_ofSingle (isFinite_alpha hp) (isFinite_alpha hq) halpha
      have hdelta := OptionValue.eq_of_ofInt32 hdelta
      have hpersistency := OptionValue.eq_of_ofInt32 hpersistency
      simp [agrees, henabled, halpha, hdelta, hpersistency]

/-! ### Flags -/

/-- Switching a filter on or off keeps its kind. -/
lemma kind_withEnabled (p : Parameters) (on : Bool) : (p.withEnabled on).kind = p.kind := by
  cases p <;> rfl

/-- Switching a filter on or off does not change whether it is valid. -/
lemma validate_withEnabled (p : Parameters) (on : Bool) :
    (p.withEnabled on).validate = p.validate := by
  cases p <;> rfl

/-- A filter is switched as asked for. -/
lemma enabled_withEnabled (p : Parameters) (on : Bool) : (p.withEnabled on).enabled = on := by
  cases p <;> rfl

/-- Switching a filter as it is changes nothing. -/
lemma withEnabled_self (p : Parameters) : p.withEnabled p.enabled = p := by
  cases p <;> rfl

/-- The value of the flag says whether a filter is on. -/
lemma find?_toggle (p : Parameters) : find? "Toggle" p.toOptions = some (.ofBool p.enabled) := by
  cases p <;> rfl

/-- Switching a filter on or off leaves its other values. -/
lemma find?_withEnabled (p : Parameters) (on : Bool) (h : name ≠ "Toggle") :
    find? name (p.withEnabled on).toOptions = find? name p.toOptions := by
  cases p <;> simp [withEnabled, toOptions, Decimation.toOptions,
    Temporal.toOptions, find?_cons, Ne.symm h]

/-- Parameters whose flag is stated alike have the same flag. -/
lemma enabled_of_find? (h : find? "Toggle" p.toOptions = find? "Toggle" q.toOptions) :
    p.enabled = q.enabled := by
  rw [find?_toggle, find?_toggle] at h
  refine OptionValue.eq_of_ofBool ?_
  rw [Option.some.inj h]
  cases q.enabled <;> rfl

/-- Parameters that have the values of others for all options but the flag agree with these,
switched as they are themselves. -/
lemma agrees_withEnabled (hp : p.validate = .ok ()) (hq : q.validate = .ok ())
    (hkind : p.kind = q.kind)
    (h : ∀ name ∈ p.kind.optionNames, name ≠ "Toggle" → p.AgreesOn q name) :
    p.agrees (q.withEnabled p.enabled) = true := by
  refine agrees_of_options hp ((validate_withEnabled q _).trans hq)
    (hkind.trans (kind_withEnabled q _).symm)
    fun name hname => ?_
  by_cases htoggle : name = "Toggle"
  · subst htoggle
    refine ⟨_, _, find?_toggle p, find?_toggle _, ?_⟩
    rw [enabled_withEnabled]
    exact agrees_self hp (find?_toggle p)
  · obtain ⟨v, u, hv, hu, hagrees⟩ := h name hname htoggle
    exact ⟨v, u, hv, (find?_withEnabled q _ htoggle).trans hu, hagrees⟩

/-! ### Ranges -/

/-- The bounds that the kinds declare are numbers. -/
lemma bounded_declarations {kind : FilterKind} {d : Declaration} (hd : d ∈ declarations kind) :
    d.Bounded := by
  have hint : ∀ name low high step default description,
      (Declaration.int name low high step default description).Bounded := by
    intro name low high step default description
    constructor <;> rintro m ⟨⟩ <;> exact Binary.isNaN_of_isFinite (Binary.isFinite_ofInt _)
  have hunit : ∀ step default description,
      (Declaration.float "Alpha" (.ofInt .double 0)
        (.ofInt .double 1) step default description).Bounded := by
    intro step default description
    constructor <;> rintro m ⟨⟩ <;> decide +kernel
  cases kind with
  | decimation =>
    simp only [declarations, Decimation.declarations, List.mem_cons,
      List.not_mem_nil, or_false] at hd
    obtain rfl | rfl := hd <;> exact hint _ _ _ _ _ _
  | temporal =>
    simp only [declarations, Temporal.declarations, List.mem_cons, List.not_mem_nil, or_false] at hd
    obtain rfl | rfl | rfl | rfl := hd
    · exact hint _ _ _ _ _ _
    · exact hunit _ _ _
    · exact hint _ _ _ _ _ _
    · exact hint _ _ _ _ _ _

/-- Values that valid parameters state lie in the ranges of their options. -/
lemma in_range (hp : p.validate = .ok ()) {v : OptionValue} (hv : find? name p.toOptions = some v)
    {d : Declaration} (hd : (declarations p.kind).find? (fun d => d.name == name) = some d) :
    d.range.contains v.toDouble = true := by
  obtain ⟨d', hd', hcheck⟩ := check_toOptions hp (mem_of_find? hv)
  cases hd.symm.trans hd'
  exact Declaration.contains_of_check (bounded_declarations (List.mem_of_find?_eq_some hd)) hcheck
    (isFinite_of_ofOptions (ofOptions_of_valid hp) _ (mem_of_find? hv))

end Parameters

end EmbeddedFilters
