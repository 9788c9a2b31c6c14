import EmbeddedFilters.Proofs.Filter.Twins
import EmbeddedFilters.Proofs.Parameters.Agreement

/-!
# Offline filters that are written

An offline filter that nobody has torn down, subscribed to or closed for writing is usable. Whatever
is written to it, it stays usable, with other parameters at most
(`OfflineFilter.Usable.of_setOption`, `OfflineFilter.Usable.of_setBytes`). A value that another
filter of its kind has for an option can be written to it, and is the only one that changes
(`OfflineFilter.Usable.setOption_of_valid`); in this way it can be switched
(`OfflineFilter.Usable.switch`).
-/

namespace EmbeddedFilters

open Outcome Assignment

namespace Parameters

variable {p q : Parameters}

/-- The parameters with a field of other parameters. -/
lemma assign_of_valid (hp : p.validate = .ok ()) (hkind : q.kind = p.kind) {name : String}
    {v : OptionValue} (hv : find? name p.toOptions = some v) :
    ∃ r, q.assign v name = .ok r ∧ r.toOptions = replace name v q.toOptions := by
  have hname : name ∈ p.kind.optionNames := by
    rw [← names_toOptions, ← isSome_find?, hv]
    rfl
  cases p with
  | decimation p =>
    cases q with
    | temporal q => cases hkind
    | decimation q =>
      obtain rfl | rfl := mem_decimation.mp hname
      · cases hv
        refine ⟨.decimation { q with enabled := p.enabled }, ?_, rfl⟩
        simp only [assign, Decimation.assign, OptionValue.ofBool, OptionValue.toWhole, ok_bind,
          Check.flag_ofBool]
        rfl
      · cases hv
        obtain ⟨m, hm, -⟩ := bind_eq_ok.mp hp
        obtain rfl := Decimation.eq_of_checkMagnitude hm
        refine ⟨.decimation { q with magnitude := p.magnitude }, ?_, rfl⟩
        simp only [assign, Decimation.assign, OptionValue.toWhole, ok_bind, hm]
        rfl
  | temporal p =>
    cases q with
    | decimation q => cases hkind
    | temporal q =>
      obtain ⟨a, ha, hp⟩ := bind_eq_ok.mp hp
      obtain ⟨d, hd, hp⟩ := bind_eq_ok.mp hp
      obtain ⟨c, hc, -⟩ := bind_eq_ok.mp hp
      obtain rfl := Temporal.eq_of_checkAlpha ha
      obtain rfl := Temporal.eq_of_whole hd
      obtain rfl := Temporal.eq_of_whole hc
      obtain rfl | rfl | rfl | rfl := mem_temporal.mp hname
      · cases hv
        refine ⟨.temporal { q with enabled := p.enabled }, ?_, rfl⟩
        simp only [assign, Temporal.assign, OptionValue.ofBool, OptionValue.toWhole, ok_bind,
          Check.flag_ofBool]
        rfl
      · cases hv
        refine ⟨.temporal { q with alpha := p.alpha }, ?_, rfl⟩
        simp only [assign, Temporal.assign, OptionValue.ofSingle, OptionValue.toDouble, ok_bind, ha]
        rfl
      · cases hv
        refine ⟨.temporal { q with delta := p.delta }, ?_, rfl⟩
        simp only [assign, Temporal.assign, OptionValue.ofInt32, OptionValue.toWhole, ok_bind, hd]
        rfl
      · cases hv
        refine ⟨.temporal { q with persistency := p.persistency }, ?_, rfl⟩
        simp only [assign, Temporal.assign, OptionValue.ofInt32, OptionValue.toWhole, ok_bind, hc]
        rfl

end Parameters

namespace OfflineFilter

variable {f : OfflineFilter}

/-- The name and the kind of a filter, which it keeps. -/
def make (f : OfflineFilter) : String × FilterKind := (f.name, f.kind)

/-- Nobody has torn the filter down, subscribed to it or closed any of its options. -/
structure Usable (f : OfflineFilter) : Prop where
  valid : f.params.validate = .ok ()
  models : f.models = OptionModel.ofDeclarations (Parameters.declarations f.kind)
  alive : f.destroyed = false
  unwatched : f.watcher = {}

/-- The filter has other valid parameters of its kind, and is the same otherwise. -/
def Written (f g : OfflineFilter) : Prop :=
  ∃ p : Parameters, p.kind = f.kind ∧ p.validate = .ok () ∧ g = { f with params := p }

/-- The filter has taken a write, of which nobody had to be told. -/
def Takes (f : OfflineFilter) (t : Told OfflineFilter) : Prop :=
  ∃ g, f.Written g ∧ t = ⟨g, [], false⟩

/-- A filter that has been built with parameters is usable. -/
lemma usable_withParams {name : String} {params : Parameters} (h : withParams name params = .ok f) :
    f.Usable ∧ f.name = name ∧ f.params = params := by
  obtain ⟨⟨⟩, hvalid, rfl⟩ := map_eq_ok.mp h
  exact ⟨⟨hvalid, rfl, rfl, rfl⟩, rfl, rfl⟩

/-- A write keeps the kind of a filter. -/
lemma Written.kind {g : OfflineFilter} (h : f.Written g) : g.kind = f.kind := by
  obtain ⟨p, hkind, -, rfl⟩ := h
  exact hkind

/-- A write keeps the make of a filter. -/
lemma Written.make {g : OfflineFilter} (h : f.Written g) : g.make = f.make := by
  obtain ⟨p, hkind, -, rfl⟩ := h
  exact congrArg (Prod.mk f.name) hkind

/-- Two writes in a row come to one. -/
lemma Written.trans {g k : OfflineFilter} (h : f.Written g) (h' : g.Written k) : f.Written k := by
  obtain ⟨p, hp, -, rfl⟩ := h
  obtain ⟨q, hq, hvalid, rfl⟩ := h'
  exact ⟨q, hq.trans hp, hvalid, rfl⟩

namespace Usable

/-- A filter that has not been written is as after a write of what it has. -/
lemma written_self (h : f.Usable) : f.Written f := ⟨f.params, rfl, h.valid, rfl⟩

/-- A usable filter is usable after a write. -/
lemma of_written (h : f.Usable) {g : OfflineFilter} (hg : f.Written g) : g.Usable := by
  obtain ⟨p, hkind, hp, rfl⟩ := hg
  exact {
    valid := hp
    models := h.models.trans (congrArg
      (OptionModel.ofDeclarations <| Parameters.declarations ·) hkind.symm)
    alive := h.alive
    unwatched := h.unwatched }

/-- A usable filter takes an update that ends with parameters of its kind. -/
lemma of_update (h : f.Usable) {next : Parameters → Except FilterError Parameters}
    (hnext : ∀ p, next f.params = .ok p → p.kind = f.kind ∧ p.validate = .ok ())
    {t : Told OfflineFilter} (ht : f.update next = .ok t) : f.Takes t := by
  rw [update_unwatched h.alive h.unwatched] at ht
  obtain ⟨p, hp, rfl⟩ := map_eq_ok.mp ht
  exact ⟨_, ⟨p, (hnext p hp).1, (hnext p hp).2, rfl⟩, rfl⟩

/-- A usable filter takes a write of an option that succeeds. -/
lemma of_setOption (h : f.Usable) {id : OptionId} {v : OptionValue} {t : Told OfflineFilter}
    (ht : f.setOption id v = .ok t) : f.Takes t := by
  obtain ⟨m, -, ht⟩ := bind_eq_ok.mp ht
  obtain ⟨v, -, ht⟩ := bind_eq_ok.mp ht
  refine h.of_update (fun p hp => ?_) ht
  obtain ⟨list, -, hp⟩ := bind_eq_ok.mp hp
  exact ⟨Parameters.kind_of_ofOptions hp, Parameters.validate_of_ofOptions hp⟩

/-- A usable filter takes bytes that it does not refuse. -/
lemma of_setBytes (h : f.Usable) {bytes : List UInt8} {t : Told OfflineFilter}
    (ht : f.setBytes bytes = .ok t) : f.Takes t := by
  obtain ⟨params, hparams, ht⟩ := bind_eq_ok.mp ht
  obtain ⟨hkind, hvalid⟩ := Parameters.decode_ok hparams
  refine h.of_update (fun p hp => ?_) ht
  obtain ⟨⟨⟩, -, rfl⟩ := map_eq_ok.mp hp
  exact ⟨hkind, hvalid⟩

/-- The parameters of a usable filter are read back from their options. -/
lemma ofOptions_toOptions (h : f.Usable) :
    Parameters.ofOptions f.kind f.params.toOptions = .ok f.params :=
  Parameters.ofOptions_of_valid h.valid

end Usable

/-- An option that a kind declares is found under its number and its name. -/
lemma model_of_name {kind : FilterKind} {name : String} (hname : name ∈ kind.optionNames) :
    ∃ id d, OptionId.ofName? name = some id ∧
      findModel (OptionModel.ofDeclarations (Parameters.declarations kind)) id =
        .ok { id, declaration := d } ∧
      (Parameters.declarations kind).find? (fun d => d.name == name) = some d := by
  cases kind with
  | decimation =>
    obtain rfl | rfl := mem_decimation.mp hname <;> exact ⟨_, _, rfl, rfl, rfl⟩
  | temporal =>
    obtain rfl | rfl | rfl | rfl := mem_temporal.mp hname <;> exact ⟨_, _, rfl, rfl, rfl⟩

/-- A value that valid parameters have for an option can be written to a filter of their kind, and
nothing else changes. -/
lemma Usable.setOption_of_valid (h : f.Usable) {p : Parameters} (hp : p.validate = .ok ())
    (hkind : p.kind = f.kind) {name : String} {id : OptionId} {v : OptionValue}
    (hid : OptionId.ofName? name = some id) (hv : find? name p.toOptions = some v) :
    ∃ g, f.Written g ∧ g.params.toOptions = replace name v f.params.toOptions ∧
      f.setOption id v = .ok ⟨g, [], false⟩ := by
  have hname : name ∈ f.kind.optionNames := by
    rw [← hkind, ← Parameters.names_toOptions, ← isSome_find?, hv]
    rfl
  obtain ⟨id', d, hid', hmodel, hd⟩ := model_of_name hname
  cases hid.symm.trans hid'
  obtain ⟨d', hd', hcheck⟩ := Parameters.check_toOptions hp (mem_of_find? hv)
  rw [hkind] at hd'
  cases hd.symm.trans hd'
  obtain ⟨r, hr, hstates⟩ := Parameters.assign_of_valid hp (q := f.params) hkind.symm hv
  rw [← Parameters.ofOptions_replace h.ofOptions_toOptions hname] at hr
  have hwritten : f.Written { f with params := r } :=
    ⟨r, Parameters.kind_of_ofOptions hr, Parameters.validate_of_ofOptions hr, rfl⟩
  refine ⟨_, hwritten, hstates, ?_⟩
  have hdname : d.name = name := by simpa using List.find?_some hd
  have hoverlay : overlay f.kind d.name v f.params.toOptions =
      .ok (replace name v f.params.toOptions) := by
    rw [hdname]
    refine overlay_eq_ok.mpr ⟨?_, rfl⟩
    rw [Parameters.names_toOptions]
    exact hname
  have hfound : findModel f.models id = .ok { id, declaration := d } := h.models ▸ hmodel
  rw [setOption, hfound, ok_bind]
  show (d.check v >>= fun v => f.setValue d.name v) = _
  rw [hcheck, ok_bind, setValue, update_unwatched h.alive h.unwatched, hoverlay, ok_bind, hr]
  rfl

/-- A usable filter can be switched, and its other options stay. -/
lemma Usable.switch (hf : f.Usable) (on : Bool) :
    ∃ g, f.Written g ∧ g.params.enabled = on ∧
      (∀ name, name ≠ "Toggle" → find? name g.params.toOptions = find? name f.params.toOptions) ∧
      f.setOption .toggle (.ofBool on) = .ok ⟨g, [], false⟩ := by
  have hvalid : (f.params.withEnabled on).validate = .ok () :=
    (Parameters.validate_withEnabled _ _).trans hf.valid
  have htoggle : find? "Toggle" (f.params.withEnabled on).toOptions = some (.ofBool on) := by
    rw [Parameters.find?_toggle, Parameters.enabled_withEnabled]
  obtain ⟨g, hwritten, hvalues, hset⟩ :=
    hf.setOption_of_valid hvalid (Parameters.kind_withEnabled _ _) OptionId.ofName?_toggle htoggle
  refine ⟨g, hwritten, ?_, fun name hne => ?_, hset⟩
  · rw [← Parameters.enabled_withEnabled f.params on]
    refine Parameters.enabled_of_find? ?_
    rw [hvalues, htoggle]
    refine find?_replace_self ?_ _
    rw [← isSome_find?, Parameters.find?_toggle]
    rfl
  · rw [hvalues, find?_replace_of_ne hne]

end OfflineFilter

end EmbeddedFilters
