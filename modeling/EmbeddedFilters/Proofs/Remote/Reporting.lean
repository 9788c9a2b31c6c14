import EmbeddedFilters.Proofs.Remote.Proxy

/-!
# Values that a device reports

A proxy takes reported values over as a whole or not at all. It refuses them because of one that it
has no use for, or because of what they come to together (`RemoteProxy.Refuses`); otherwise it has
afterwards what the declarations make of the last value that is reported for each option, and its
former value for every other option (`RemoteProxy.Takes`).
-/

namespace EmbeddedFilters.RemoteProxy

open Outcome Assignment

/-- A reason to refuse reported values as a whole: an option that is not declared or has no value, a
value that its declaration does not admit, or values that together do not denote parameters. -/
inductive Refuses (p : RemoteProxy) (options : List Assignment) : Prop where
  | unknown (a : Assignment) : a ∈ options →
      (p.record.declaration? a.name = none ∨ a.name ∉ names p.record.current) → Refuses p options
  | inadmissible (a : Assignment) (d : Declaration) (e : FilterError) : a ∈ options →
      p.record.declaration? a.name = some d → d.check a.value = .error e → Refuses p options
  | invalid (merged : List Assignment) (e : FilterError) : p.record.merge options = .ok merged →
      Parameters.ofOptions p.kind merged = .error e → Refuses p options

/-- What a proxy has after it has taken over reported values. -/
structure Takes (p : RemoteProxy) (options merged : List Assignment) : Prop where
  names : names merged = names p.record.current
  reported : ∀ name v, find? name options.reverse = some v → ∃ d checked,
    p.record.declaration? name = some d ∧ d.check v = .ok checked ∧ find? name merged = some checked
  kept : ∀ name, name ∉ Assignment.names options →
    find? name merged = find? name p.record.current
  valid : ∃ params, Parameters.ofOptions p.kind merged = .ok params

variable {p : RemoteProxy} {options merged : List Assignment}

/-- A report that merges is taken over. -/
lemma takes_of_merge (h : p.merge options = .ok merged) : p.Takes options merged := by
  obtain ⟨hrecord, hvalid⟩ := merge_eq_ok.mp h
  exact ⟨FilterRecord.names_of_merge hrecord,
    fun _ _ hlast => FilterRecord.last_of_merge hrecord hlast,
    fun _ hname => FilterRecord.find?_of_merge hrecord hname, hvalid⟩

/-- There is no reason to refuse what is taken over. -/
lemma not_refuses_of_merge (h : p.merge options = .ok merged) : ¬ p.Refuses options := by
  obtain ⟨hrecord, params, hvalid⟩ := merge_eq_ok.mp h
  intro hrefuses
  cases hrefuses with
  | unknown a ha hunknown =>
    obtain ⟨hname, d, v, hd, -⟩ := FilterRecord.check_of_merge hrecord ha
    rcases hunknown with hundeclared | hvalueless
    · rw [hundeclared] at hd
      cases hd
    · exact hvalueless hname
  | inadmissible a d e ha hd hcheck =>
    obtain ⟨-, d', v, hd', hv⟩ := FilterRecord.check_of_merge hrecord ha
    rw [hd] at hd'
    obtain rfl := Option.some.inj hd'
    rw [hcheck] at hv
    cases hv
  | invalid merged' e hmerge hinvalid =>
    rw [hrecord] at hmerge
    obtain rfl := Except.ok.inj hmerge
    rw [hvalid] at hinvalid
    cases hinvalid

/-- Nothing is refused without a reason. -/
lemma refuses_of_merge (hp : p.Valid) {e : FilterError} (h : p.merge options = .error e) :
    p.Refuses options := by
  by_contra hnone
  obtain ⟨merged, hmerge⟩ : ∃ merged, p.record.merge options = .ok merged := by
    refine FilterRecord.exists_merge hp.kind fun a ha => ⟨?_, ?_⟩
    · by_contra hvalueless
      exact hnone (.unknown a ha (.inr hvalueless))
    · cases hd : p.record.declaration? a.name with
      | none => exact absurd (.unknown a ha (.inl hd)) hnone
      | some d =>
        cases hv : d.check a.value with
        | error e => exact absurd (.inadmissible a d e ha hd hv) hnone
        | ok v => exact ⟨d, v, rfl, hv⟩
  cases hparams : Parameters.ofOptions p.kind merged with
  | error e => exact hnone (.invalid merged e hmerge hparams)
  | ok params =>
    rw [merge_eq_ok.mpr ⟨hmerge, params, hparams⟩] at h
    cases h

end EmbeddedFilters.RemoteProxy
