import EmbeddedFilters.Proofs.Workbench.Commands

/-!
# Writes to remote filters

The ways in which options of a remote filter are set: through a model, through a proxy, by the
switch, by a typed setter, or by a whole buffer. They all come down to the same: something is
prepared from the options that the write names, and what has been prepared is carried over the link
(`RemoteWrite.resolves`). What has been prepared has passed every check there is
(`RemoteWrite.Admitted`) and is the complete set of values that follows from the options named
(`Submission.Updates`).
-/

namespace EmbeddedFilters

open Outcome Assignment

/-- A write to a remote filter. -/
inductive RemoteWrite where
  | option (filter : Nat) (id : OptionId) (value : OptionValue)
  | enable (filter : Nat) (on : Bool)
  | temporal (filter : String) (id : OptionId) (value : OptionValue)
  | bytes (filter : Nat) (bytes : List UInt8)
  | sensorBytes (sensor : String) (kind : FilterKind) (bytes : List UInt8)
  | proxyOption (proxy option : String) (value : OptionValue)
  | proxyParameters (proxy : String) (params : Parameters)

namespace RemoteWrite

/-- What a write does. -/
def act : RemoteWrite → Bench Unit
  | .option n id value => Bench.writeOption n id value
  | .enable n on => Bench.enable n on
  | .temporal name id value => do let _ ← Bench.writeTemporal name id value
  | .bytes n buffer => Bench.writeBytes n buffer
  | .sensorBytes sensor kind buffer => Bench.writeSensorBytes sensor kind buffer
  | .proxyOption proxy name value => Bench.proxySetOption proxy name value
  | .proxyParameters proxy params => Bench.proxyApply proxy params

/-- What a write goes to. -/
def holder? (w : Workbench) : RemoteWrite → Option Holder
  | .option n _ _ => some (.filter n)
  | .enable n _ => some (.filter n)
  | .temporal name _ _ => (w.names.filters.get? name).map fun h => .filter h.number
  | .bytes n _ => some (.filter n)
  | .sensorBytes sensor kind _ => do
    let s ← w.sensors.get? (← w.names.sensors.get? sensor)
    return .filter (← (s.slot kind).toOption).filter
  | .proxyOption proxy _ _ => (w.names.proxies.get? proxy).map .proxy
  | .proxyParameters proxy _ => (w.names.proxies.get? proxy).map .proxy

/-- The remote filter that a write goes to. -/
def filter? (w : Workbench) (c : RemoteWrite) : Option RemoteFilter :=
  match c.holder? w with
  | some (.filter n) => w.remote? n
  | _ => none

/-- The proxy that a write goes to. -/
def proxy? (w : Workbench) (c : RemoteWrite) : Option RemoteProxy :=
  (c.holder? w).bind (·.proxy? w)

/-- The number of the option that a write names, if it goes through a model. -/
def optionId? : RemoteWrite → Option OptionId
  | .option _ id _ => some id
  | .enable _ _ => some .toggle
  | .temporal _ id _ => some id
  | _ => none

/-- The parameters that a write for a kind of filter states as a whole. -/
def parameters? (kind : FilterKind) : RemoteWrite → Option (Except FilterError Parameters)
  | .bytes _ buffer => some (Parameters.decode kind buffer)
  | .sensorBytes _ _ buffer => some (Parameters.decode kind buffer)
  | .proxyParameters _ params => some (params.validate.map fun _ => params)
  | _ => none

/-- The options that a write for a kind of filter names, with the values it gives them. -/
def assigned (kind : FilterKind) (c : RemoteWrite) : List Assignment :=
  let named (id : OptionId) (value : OptionValue) : List Assignment :=
    ((IdTable.name? {} id).map fun name => ⟨name, value⟩).toList
  match c with
  | .option _ id value => named id value
  | .enable _ on => named .toggle (.ofBool on)
  | .temporal _ id value => named id value
  | .proxyOption _ name value => [⟨name, value⟩]
  | c =>
    match c.parameters? kind with
    | some (.ok params) => params.toOptions
    | _ => []

/-- The write passes every check on this side: the filter has not been torn down and its proxy is
sound and wired; a model is there and open; stated parameters are valid; every option that is named
is declared, and its declaration admits the value; and the outcome as a whole denotes parameters. -/
structure Admitted (w : Workbench) (c : RemoteWrite) (p : RemoteProxy) : Prop where
  live : ∀ f, c.filter? w = some f → f.destroyed = false
  sound : p.spoiled = false
  wired : p.isWired = true
  model : ∀ f id, c.filter? w = some f → c.optionId? = some id → ∃ models m,
    f.models? = some models ∧ findModel models id = .ok m ∧ m.readOnly = false ∧ m.enabled = true
  parameters : ∀ x, c.parameters? p.kind = some x → ∃ params, x = .ok params
  declared : ∀ a ∈ c.assigned p.kind, ∃ d v,
    p.record.declaration? a.name = some d ∧ d.check a.value = .ok v
  accepted : ∃ merged params, p.record.merge (c.assigned p.kind) = .ok merged ∧
    Parameters.ofOptions p.kind merged = .ok params

end RemoteWrite

/-- A submission for a proxy that follows from what options are assigned. -/
structure Submission.Updates (s : Submission) (p : RemoteProxy) (assigned : List Assignment) :
    Prop where
  link : p.link? = some s.link
  topic : s.topic = p.topic
  request : s.request = .setOptions p.name p.kind s.merged
  merged : p.record.merge assigned = .ok s.merged
  params : ∃ params, Parameters.ofOptions p.kind s.merged = .ok params
  nodup : (Assignment.names assigned).Nodup
  settled : p.merge s.updates = .ok s.merged

namespace RemoteWrite

variable {w : Workbench} {c : RemoteWrite} {p : RemoteProxy} {f : RemoteFilter} {s : Submission}

/-- A submission that has been prepared of updates holds them. -/
lemma updates_of_prepare {updates : List Assignment} (hnd : (names updates).Nodup)
    (h : p.prepare updates = .ok s) : s.Updates p updates := by
  obtain ⟨-, merged, link, hmerge, hlink, rfl⟩ := RemoteProxy.prepare_eq_ok.mp h
  obtain ⟨hrecord, hvalid⟩ := RemoteProxy.merge_eq_ok.mp hmerge
  exact ⟨hlink, rfl, rfl, hrecord, hvalid, hnd, hmerge⟩

/-- What follows from what is assigned has passed the checks of the declarations. -/
lemma declared_of_updates {assigned : List Assignment} (h : s.Updates p assigned) :
    ∀ a ∈ assigned, ∃ d v, p.record.declaration? a.name = some d ∧ d.check a.value = .ok v :=
  fun _ ha => (FilterRecord.check_of_merge h.merged ha).2

/-- Only a proxy that is wired and not spoiled prepares a submission. -/
lemma wired_of_prepare {updates : List Assignment} (h : p.prepare updates = .ok s) :
    p.spoiled = false ∧ p.isWired = true := by
  obtain ⟨hsound, merged, link, -, hlink, -⟩ := RemoteProxy.prepare_eq_ok.mp h
  exact ⟨hsound, by simp [RemoteProxy.isWired, hlink]⟩

/-- To merge a value comes to merging what its check makes of it. -/
lemma merge_checked {r : FilterRecord} {name : String} {d : Declaration} {v checked : OptionValue}
    (hd : r.declaration? name = some d) (hv : d.check v = .ok checked) :
    r.merge [⟨name, checked⟩] = r.merge [⟨name, v⟩] := by
  have hlay : ∀ k list, r.lay k list ⟨name, checked⟩ = r.lay k list ⟨name, v⟩ := by
    intro k list
    simp only [FilterRecord.lay, hd, hv, Declaration.check_idem hv]
  simp only [FilterRecord.merge, List.foldlM_cons, List.foldlM_nil, hlay]

/-- A write through a model is one to the option that the model is of. -/
lemma of_prepareOption (hf : f.Valid) {id : OptionId} {value : OptionValue}
    (h : f.prepareOption id value = .ok s) :
    s.Updates f.proxy (((IdTable.name? {} id).map fun name => ⟨name, value⟩).toList) ∧
      f.destroyed = false ∧ f.proxy.spoiled = false ∧ f.proxy.isWired = true ∧
      ∃ models m, f.models? = some models ∧ findModel models id = .ok m ∧ m.readOnly = false ∧
        m.enabled = true := by
  obtain ⟨models, m, v, hmodels, hm, haccept, hlive, hprepare⟩ :=
    RemoteFilter.prepareOption_eq_ok.mp h
  obtain ⟨hopen, henabled, hcheck⟩ := OptionModel.of_accept haccept
  obtain ⟨hsound, hwired⟩ := wired_of_prepare hprepare
  have hupdates := updates_of_prepare (by simp) hprepare
  obtain ⟨hid, hdeclaration⟩ := hf.of_model hmodels hm
  refine ⟨?_, hlive, hsound, hwired, models, m, hmodels, hm, hopen, henabled⟩
  rw [OptionId.name?_of_ofName? hid]
  refine { hupdates with merged := ?_, nodup := by simp }
  exact (merge_checked hdeclaration hcheck).symm.trans hupdates.merged

/-- A write of a buffer is one of the parameters in it. -/
lemma of_prepareBytes {bytes : List UInt8} (h : f.prepareBytes bytes = .ok s) :
    ∃ params, Parameters.decode f.proxy.kind bytes = .ok params ∧
      s.Updates f.proxy params.toOptions ∧
      f.destroyed = false ∧ f.proxy.spoiled = false ∧ f.proxy.isWired = true := by
  obtain ⟨hlive, params, hparams, hprepare⟩ := RemoteFilter.prepareBytes_eq_ok.mp h
  obtain ⟨⟨⟩, -, hprepare⟩ := bind_eq_ok.mp hprepare
  obtain ⟨hsound, hwired⟩ := wired_of_prepare hprepare
  have hupdates := updates_of_prepare (Parameters.nodup_toOptions params) hprepare
  exact ⟨params, hparams, hupdates, hlive, hsound, hwired⟩

/-- A write of all parameters through a proxy is one of what they stand for. -/
lemma of_prepareAll {params : Parameters} (h : p.prepareAll params = .ok s) :
    params.validate = .ok () ∧ s.Updates p params.toOptions ∧ p.spoiled = false ∧
      p.isWired = true := by
  obtain ⟨⟨⟩, hvalid, hprepare⟩ := bind_eq_ok.mp h
  obtain ⟨hsound, hwired⟩ := wired_of_prepare hprepare
  exact ⟨hvalid, updates_of_prepare (Parameters.nodup_toOptions params) hprepare, hsound, hwired⟩

/-- A write of which something has been prepared is admitted, if the filter and what the write
states for it are as they should be. -/
lemma admitted_of_updates (h : s.Updates p (c.assigned p.kind)) (hsound : p.spoiled = false)
    (hwired : p.isWired = true) (hlive : ∀ f, c.filter? w = some f → f.destroyed = false)
    (hmodel : ∀ f id, c.filter? w = some f → c.optionId? = some id → ∃ models m,
      f.models? = some models ∧ findModel models id = .ok m ∧ m.readOnly = false ∧ m.enabled = true)
    (hparams : ∀ x, c.parameters? p.kind = some x → ∃ params, x = .ok params) :
    c.Admitted w p where
  live := hlive
  sound := hsound
  wired := hwired
  model := hmodel
  parameters := hparams
  declared := declared_of_updates h
  accepted := by
    obtain ⟨params, hvalid⟩ := h.params
    exact ⟨s.merged, params, h.merged, hvalid⟩

/-- What becomes of a write: it has nothing to do, it is refused at once, or what has been prepared
of it is carried over the link. -/
inductive Resolves (w : Workbench) (c : RemoteWrite) (p : RemoteProxy) : Prop where
  | idle (exec : c.act.exec w = (.ok (), w))
  | refused (e : Fault) (exec : c.act.exec w = (.error e, w))
  | carried (holder : Holder) (s : Submission) (held : c.holder? w = some holder)
    (admitted : c.Admitted w p) (updates : s.Updates p (c.assigned p.kind))
    (exec : c.act.exec w = (Bench.carry holder.change s).exec w)

/-- What is prepared of a write is refused or carried. -/
lemma resolves_of_prepared (holder : Holder) {x : Except FilterError Submission}
    (hexec : c.act.exec w = (Bench.ofFilter x >>= Bench.carry holder.change).exec w)
    (hheld : c.holder? w = some holder)
    (h : ∀ s, x = .ok s → c.Admitted w p ∧ s.Updates p (c.assigned p.kind)) : c.Resolves w p := by
  cases x with
  | error e => exact .refused _ hexec
  | ok s =>
    obtain ⟨hadmitted, hupdates⟩ := h s rfl
    exact .carried holder s hheld hadmitted hupdates hexec

/-- What a write goes to is a remote filter, if it is a filter. -/
lemma filter_of_holder {n : Nat} (hheld : c.holder? w = some (.filter n))
    (hp : c.proxy? w = some p) :
    ∃ f, w.filters.get? n = some (.remote f) ∧ c.filter? w = some f ∧ f.proxy = p := by
  rw [proxy?, hheld] at hp
  obtain ⟨f, hf, hproxy⟩ := Holder.proxy?_filter.mp hp
  refine ⟨f, hf, ?_, hproxy⟩
  rw [filter?, hheld]
  exact Workbench.remote?_eq_some.mpr hf

/-- The write of an option through a model is refused or carried. -/
lemma resolves_option (hw : w.Sound) {n : Nat} {id : OptionId} {value : OptionValue}
    (hheld : c.holder? w = some (.filter n)) (hp : c.proxy? w = some p)
    (hid : c.optionId? = some id) (hparams : c.parameters? p.kind = none)
    (hassigned : c.assigned p.kind =
      ((IdTable.name? {} id).map fun name => (⟨name, value⟩ : Assignment)).toList)
    (hexec : c.act.exec w = (Bench.writeOption n id value).exec w) : c.Resolves w p := by
  obtain ⟨f, hget, hfilter, rfl⟩ := filter_of_holder hheld hp
  have hwrite := Bench.exec_writeOption hget id value
  refine resolves_of_prepared (.filter n) (hexec.trans hwrite) hheld fun s hs => ?_
  obtain ⟨hupdates, hlive, hsound, hwired, hmodel⟩ := of_prepareOption (hw.filters n _ hget).2 hs
  rw [← hassigned] at hupdates
  refine ⟨admitted_of_updates hupdates hsound hwired ?_ ?_ ?_, hupdates⟩
  · intro g hg
    rw [hfilter] at hg
    exact Option.some.inj hg ▸ hlive
  · intro g other hg hother
    rw [hfilter] at hg
    rw [hid] at hother
    obtain rfl := Option.some.inj hg
    obtain rfl := Option.some.inj hother
    exact hmodel
  · intro x hx
    rw [hparams] at hx
    cases hx

/-- The write of a buffer is refused or carried. -/
lemma resolves_bytes {n : Nat} {buffer : List UInt8}
    (hheld : c.holder? w = some (.filter n)) (hp : c.proxy? w = some p) (hid : c.optionId? = none)
    (hparams : c.parameters? p.kind = some (Parameters.decode p.kind buffer))
    (hassigned : ∀ params, Parameters.decode p.kind buffer = .ok params →
      c.assigned p.kind = params.toOptions)
    (hexec : c.act.exec w = (Bench.writeBytes n buffer).exec w) : c.Resolves w p := by
  obtain ⟨f, hget, hfilter, rfl⟩ := filter_of_holder hheld hp
  have hwrite := Bench.exec_writeBytes hget buffer
  refine resolves_of_prepared (.filter n) (hexec.trans hwrite) hheld fun s hs => ?_
  obtain ⟨params, hdecode, hupdates, hlive, hsound, hwired⟩ := of_prepareBytes hs
  rw [← hassigned params hdecode] at hupdates
  refine ⟨admitted_of_updates hupdates hsound hwired ?_ ?_ ?_, hupdates⟩
  · intro g hg
    rw [hfilter] at hg
    exact Option.some.inj hg ▸ hlive
  · intro g other _ hother
    rw [hid] at hother
    cases hother
  · intro x hx
    rw [hparams] at hx
    exact ⟨params, (Option.some.inj hx).symm.trans hdecode⟩

/-- The write through a proxy that stands by itself is refused or carried. -/
lemma resolves_proxy {proxy : String} (prepare : RemoteProxy → Except FilterError Submission)
    (hheld : c.holder? w = (w.names.proxies.get? proxy).map .proxy) (hp : c.proxy? w = some p)
    (hid : c.optionId? = none)
    (hprepare : ∀ s, prepare p = .ok s → s.Updates p (c.assigned p.kind) ∧ p.spoiled = false ∧
      p.isWired = true ∧ ∀ x, c.parameters? p.kind = some x → ∃ params, x = .ok params)
    (hexec : ∀ n, w.names.proxies.get? proxy = some n → w.proxies.get? n = some p →
      c.act.exec w = (Bench.ofFilter (prepare p) >>= Bench.carry (Bench.alterProxy n)).exec w) :
    c.Resolves w p := by
  rw [proxy?, hheld, Option.bind_map, Option.bind_eq_some_iff] at hp
  obtain ⟨n, hname, hget⟩ := hp
  rw [hname, Option.map_some] at hheld
  refine resolves_of_prepared (.proxy n) (hexec n hname hget) hheld fun s hs => ?_
  obtain ⟨hupdates, hsound, hwired, hparams⟩ := hprepare s hs
  have hnone : c.filter? w = none := by rw [filter?, hheld]
  refine ⟨admitted_of_updates hupdates hsound hwired ?_ ?_ hparams, hupdates⟩
  · intro g hg
    rw [hnone] at hg
    cases hg
  · intro g id _ hother
    rw [hid] at hother
    cases hother

/-- The write of an option through a temporal filter has nothing to do where the filter is of
another kind, and is the write of the option through its model otherwise. -/
lemma exec_temporal {name : String} {h : FilterHandle} {f : Filter}
    (hname : w.names.filters.get? name = some h) (hget : w.filters.get? h.number = some f)
    (id : OptionId) (value : OptionValue) :
    (do let _ ← Bench.writeTemporal name id value : Bench Unit).exec w =
      if f.kind = .temporal then (Bench.writeOption h.number id value).exec w else (.ok (), w) := by
  have hfound : (Bench.writeTemporal name id value).exec w =
      (if f.kind = .temporal then do
          Bench.writeOption h.number id value
          return true
        else return false : Bench Bool).exec w := by
    rw [Bench.writeTemporal, Bench.exec_bind_ok (Bench.exec_filterNumber hname),
      Bench.exec_bind_ok (Bench.exec_filter hget)]
  by_cases hkind : f.kind = .temporal
  · rw [if_pos hkind] at hfound ⊢
    rw [Bench.exec_bind, hfound, ← Bench.exec_bind, Bench.exec_unit]
  · rw [if_neg hkind] at hfound ⊢
    rw [Bench.exec_bind_ok hfound]
    rfl

/-- A write of a temporal option leads to the proxy of its filter. -/
lemma resolves_temporal (hw : w.Sound) {name : String} {id : OptionId} {value : OptionValue}
    (hp : (temporal name id value).proxy? w = some p) : (temporal name id value).Resolves w p := by
  obtain ⟨holder, hheld, -⟩ := Option.bind_eq_some_iff.mp hp
  obtain ⟨h, hname, rfl⟩ := Option.map_eq_some_iff.mp hheld
  obtain ⟨f, hget, -, -⟩ := filter_of_holder hheld hp
  have hexec := exec_temporal hname hget id value
  by_cases hkind : (Filter.remote f).kind = .temporal
  · rw [if_pos hkind] at hexec
    exact resolves_option hw hheld hp rfl rfl rfl hexec
  · rw [if_neg hkind] at hexec
    exact .idle hexec

/-- The write of a buffer through a sensor is the write to the filter in the sensor's slot. -/
lemma resolves_sensorBytes {sensor : String} {kind : FilterKind} {buffer : List UInt8}
    (hp : (sensorBytes sensor kind buffer).proxy? w = some p) :
    (sensorBytes sensor kind buffer).Resolves w p := by
  obtain ⟨holder, hheld, -⟩ := Option.bind_eq_some_iff.mp hp
  have hslots := hheld
  simp only [holder?, Option.bind_eq_bind, Option.bind_eq_some_iff, Option.pure_def,
    Option.some.injEq] at hslots
  obtain ⟨n, hname, s, hget, slot, hslot, rfl⟩ := hslots
  have hok : s.slot kind = .ok slot := by
    cases h : s.slot kind with
    | ok other =>
      rw [h] at hslot
      exact congrArg Except.ok (Option.some.inj hslot)
    | error e =>
      rw [h] at hslot
      cases hslot
  refine resolves_bytes hheld hp rfl rfl (fun params h => ?_) ?_
  · simp only [assigned, parameters?, h]
  · exact Bench.exec_slot (fun slot => Bench.writeBytes slot.filter buffer) hname hget hok

/-- Every write has nothing to do, is refused at once, or is carried over the link. -/
lemma resolves (hw : w.Sound) (hp : c.proxy? w = some p) : c.Resolves w p := by
  cases c with
  | option n id value => exact resolves_option hw rfl hp rfl rfl rfl rfl
  | enable n on => exact resolves_option hw rfl hp rfl rfl rfl rfl
  | temporal name id value => exact resolves_temporal hw hp
  | bytes n buffer =>
    refine resolves_bytes rfl hp rfl rfl (fun params h => ?_) rfl
    simp only [assigned, parameters?, h]
  | sensorBytes sensor kind buffer => exact resolves_sensorBytes hp
  | proxyOption proxy name value =>
    refine resolves_proxy (fun p => p.prepare [⟨name, value⟩]) rfl hp rfl ?_ ?_
    · intro s hs
      obtain ⟨hsound, hwired⟩ := wired_of_prepare hs
      exact ⟨updates_of_prepare (List.nodup_singleton _) hs, hsound, hwired, fun _ h => by cases h⟩
    · intro n hname hget
      exact Bench.exec_proxyAt (fun n p => Bench.ofFilter (p.prepare [⟨name, value⟩]) >>=
        Bench.carry (Bench.alterProxy n)) hname hget
  | proxyParameters proxy params =>
    refine resolves_proxy (fun p => p.prepareAll params) rfl hp rfl ?_ ?_
    · intro s hs
      obtain ⟨hvalid, hupdates, hsound, hwired⟩ := of_prepareAll hs
      have hparams : (RemoteWrite.proxyParameters proxy params).parameters? p.kind =
          some (.ok params) := by simp [parameters?, hvalid, Except.map]
      refine ⟨?_, hsound, hwired, fun x h => ⟨params, ?_⟩⟩
      · simpa only [assigned, hparams] using hupdates
      · exact (Option.some.inj (hparams.symm.trans h)).symm
    · intro n hname hget
      exact Bench.exec_proxyAt (fun n p => Bench.ofFilter (p.prepareAll params) >>=
        Bench.carry (Bench.alterProxy n)) hname hget

end RemoteWrite

end EmbeddedFilters
