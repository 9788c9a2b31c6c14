import EmbeddedFilters.Proofs.Filter.Remote
import EmbeddedFilters.Proofs.Parameters.Overlays

/-!
# Offline and remote twins

An offline filter and a remote one are twins if they have the same options and the values that the
host has of the remote one denote the parameters of the offline one (`Twins`). They take a write in
different ways: one lays it over its parameters, the other merges it into values that may have other
forms, and checks it against the declarations once more. Yet both refuse it with the same error, or
both take it and are twins afterwards (`Twins.setOption`, `Twins.setBytes`).
-/

namespace EmbeddedFilters

open Outcome Assignment

/-- A filter without subscribers moves to new parameters and tells nobody. -/
lemma OfflineFilter.update_unwatched {f : OfflineFilter} (halive : f.destroyed = false)
    (hwatcher : f.watcher = {}) (next : Parameters → Except FilterError Parameters) :
    f.update next = (next f.params).map fun params => ⟨{ f with params }, [], false⟩ := by
  have hdue : ∀ changes, ({} : Watcher).due changes = [] := fun changes =>
    List.flatMap_eq_nil_iff.mpr fun _ _ => rfl
  have hquiet : ∀ changes, f.watcher.announce changes = ⟨f.watcher, [], false⟩ := fun changes =>
    Watcher.announce_of_due (hwatcher ▸ hdue changes)
  simp only [update, halive, hquiet]
  cases next f.params <;> rfl

/-- A value that its declaration gives back as it is replaces the one that the record has. -/
lemma FilterRecord.merge_one {r : FilterRecord} {kind : FilterKind} (hkind : r.kind? = some kind)
    {name : String} {d : Declaration} {v : OptionValue} (hd : r.declaration? name = some d)
    (hv : d.check v = .ok v) (hname : name ∈ names r.current) :
    r.merge [⟨name, v⟩] = .ok (replace name v r.current) := by
  refine merge_eq_ok.mpr ⟨kind, hkind, ?_⟩
  rw [List.foldlM_cons, lay_eq_ok.mpr ⟨d, v, hd, hv, hname, rfl⟩]
  rfl

namespace RemoteProxy

variable {p : RemoteProxy} {link : LinkNumber} {updates merged : List Assignment}

/-- What a sound proxy prepares for its link once the values have been merged. -/
def submission (p : RemoteProxy) (link : LinkNumber) (updates merged : List Assignment) :
    Submission :=
  ⟨link, p.topic, .setOptions p.name p.kind merged, updates, merged⟩

/-- A sound proxy with a link prepares what denotes parameters, and refuses what does not. -/
lemma prepare_of_merge (hsound : p.spoiled = false) (hlink : p.link? = some link)
    (hmerge : p.record.merge updates = .ok merged) :
    p.prepare updates =
      (Parameters.ofOptions p.kind merged).map fun _ => p.submission link updates merged := by
  have hchecked : p.checkSound = .ok () := by rw [checkSound, if_neg (by simp [hsound])]
  have hopen : p.link = .ok link := by rw [RemoteProxy.link, hlink]
  simp only [prepare, merge, hchecked, hmerge, hopen, ok_bind]
  cases Parameters.ofOptions p.kind merged <;> rfl

/-- Settling a submission that merges lays its updates over the values. -/
lemma settle_submission (link : LinkNumber) (hmerge : p.merge updates = .ok merged) :
    p.settle (p.submission link updates merged) = p.withValues merged := by
  rw [settle, submission, hmerge]

end RemoteProxy

/-- An offline and a remote filter with the same options that stand for the same parameters. Both
are alive, nobody has subscribed to the offline one, and the proxy of the remote one is sound and
wired. -/
structure Twins (f : OfflineFilter) (g : RemoteFilter) (link : LinkNumber) : Prop where
  valid : g.Valid
  kind : g.proxy.kind = f.kind
  params : g.proxy.params = .ok f.params
  models : g.models? = some f.models
  declarations : g.proxy.record.declarations = Parameters.declarations f.kind
  alive : f.destroyed = false
  live : g.destroyed = false
  unwatched : f.watcher = {}
  sound : g.proxy.spoiled = false
  wired : g.proxy.link? = some link

/-- What twins make of a write: both refuse it, or both take it and are twins once it is settled. -/
inductive Twins.Agree (f : OfflineFilter) (g : RemoteFilter) (link : LinkNumber) :
    Except FilterError (Told OfflineFilter) → Except FilterError Submission → Prop where
  | refused (e : FilterError) : Agree f g link (.error e) (.error e)
  | taken {params : Parameters} {s : Submission}
    (twins : Twins { f with params } (g.settle s) link) :
    Agree f g link (.ok ⟨{ f with params }, [], false⟩) (.ok s)

namespace Twins

variable {f : OfflineFilter} {g : RemoteFilter} {link : LinkNumber}

/-- The offline twin has valid parameters. -/
lemma validate (h : Twins f g link) : f.params.validate = .ok () :=
  Parameters.validate_of_ofOptions h.params

/-- The values of the remote twin denote the parameters of the offline one. -/
lemma ofOptions (h : Twins f g link) :
    Parameters.ofOptions f.kind g.proxy.record.current = .ok f.params := h.kind ▸ h.params

/-- The parameters of the offline twin are those that they state as an update. -/
lemma ofOptions_toOptions (h : Twins f g link) :
    Parameters.ofOptions f.kind f.params.toOptions = .ok f.params :=
  Parameters.ofOptions_of_valid h.validate

/-- Declared options have values on both sides. -/
lemma mem_names (h : Twins f g link) {name : String} (hname : name ∈ f.kind.optionNames) :
    name ∈ names f.params.toOptions ∧ name ∈ names g.proxy.record.current := by
  refine ⟨?_, (Parameters.perm_of_ofOptions h.ofOptions).symm.subset hname⟩
  rw [Parameters.names_toOptions]
  exact hname

/-- The models of twins are of options that both have, and check what is merged. -/
lemma of_model (h : Twins f g link) {id : OptionId} {m : OptionModel}
    (hm : findModel f.models id = .ok m) :
    m.name ∈ f.kind.optionNames ∧ g.proxy.record.declaration? m.name = some m.declaration := by
  have hdeclaration := (h.valid.of_model h.models hm).2
  have hmem : m.declaration ∈ Parameters.declarations f.kind := by
    rw [← h.declarations]
    exact List.mem_of_find?_eq_some hdeclaration
  have hnames : (Parameters.declarations f.kind).map (·.name) = f.kind.optionNames := by
    cases f.kind <;> rfl
  exact ⟨hnames ▸ List.mem_map_of_mem hmem, hdeclaration⟩

/-- Twins with merged values that denote the new parameters are twins. -/
lemma withValues (h : Twins f g link) {updates merged : List Assignment} {params : Parameters}
    (hmerge : g.proxy.record.merge updates = .ok merged)
    (hparams : Parameters.ofOptions f.kind merged = .ok params) :
    Twins { f with params } { g with proxy := g.proxy.withValues merged } link := by
  have hkind : params.kind = f.kind := Parameters.kind_of_ofOptions hparams
  have hmerged : Parameters.ofOptions g.proxy.kind merged = .ok params := h.kind ▸ hparams
  have hevolves : g.Evolves { g with proxy := g.proxy.withValues merged } :=
    RemoteFilter.evolves_withProxy
      (RemoteProxy.evolves_of_merge (RemoteProxy.merge_eq_ok.mpr ⟨hmerge, params, hmerged⟩))
      (.inl h.live)
  exact {
    valid := hevolves.models h.valid
    kind := h.kind.trans hkind.symm
    params := hmerged
    models := h.models
    declarations := h.declarations.trans (congrArg _ hkind.symm)
    alive := h.alive
    live := h.live
    unwatched := h.unwatched
    sound := h.sound
    wired := h.wired }

/-- A write leads to the same on both sides if what it makes of the parameters is what it makes of
the values that it is merged into. -/
lemma agree (h : Twins f g link) (next : Parameters → Except FilterError Parameters)
    {updates merged : List Assignment} (hmerge : g.proxy.record.merge updates = .ok merged)
    (hnext : Parameters.ofOptions f.kind merged = next f.params) :
    Agree f g link (f.update next) (g.proxy.prepare updates) := by
  rw [RemoteProxy.prepare_of_merge h.sound h.wired hmerge,
    h.kind, hnext, OfflineFilter.update_unwatched h.alive h.unwatched]
  cases hparams : next f.params with
  | error e => exact .refused e
  | ok params =>
    rw [hparams] at hnext
    have htwins := h.withValues hmerge hnext
    have hvalues : g.proxy.merge updates = .ok merged :=
      RemoteProxy.merge_eq_ok.mpr ⟨hmerge, params, h.kind ▸ hnext⟩
    rw [← RemoteProxy.settle_submission link hvalues] at htwins
    exact .taken htwins

/-- Twins take or refuse the write of an option alike. -/
lemma setOption (h : Twins f g link) (id : OptionId) (value : OptionValue) :
    Agree f g link (f.setOption id value) (g.prepareOption id value) := by
  have hmodels : g.models = .ok f.models := by rw [RemoteFilter.models, h.models]
  have hlive : g.ensureLive = .ok () := RemoteFilter.ensureLive_eq_ok.mpr h.live
  simp only [OfflineFilter.setOption, RemoteFilter.prepareOption, hmodels, ok_bind]
  cases hm : findModel f.models id with
  | error e => exact .refused e
  | ok m =>
    rw [ok_bind, ok_bind]
    cases hv : m.accept value with
    | error e => exact .refused e
    | ok v =>
      simp only [hlive, ok_bind]
      obtain ⟨hname, hdeclaration⟩ := h.of_model hm
      obtain ⟨hoffline, hremote⟩ := h.mem_names hname
      have hcheck := Declaration.check_idem (OptionModel.of_accept hv).2.2
      have hmerge := FilterRecord.merge_one h.valid.proxy.kind hdeclaration hcheck hremote
      refine h.agree _ hmerge ?_
      rw [overlay_eq_ok.mpr ⟨hoffline, rfl⟩, ok_bind,
        Parameters.ofOptions_replace h.ofOptions hname,
        Parameters.ofOptions_replace h.ofOptions_toOptions hname]

/-- All options can be merged at once from what valid parameters state as an update, and then denote
these parameters. -/
lemma merge_toOptions (h : Twins f g link) {params : Parameters} (hkind : params.kind = f.kind)
    (hvalid : params.validate = .ok ()) : ∃ merged,
      g.proxy.record.merge params.toOptions = .ok merged ∧
        Parameters.ofOptions f.kind merged = .ok params := by
  have hchecked : ∀ a ∈ params.toOptions, a.name ∈ f.kind.optionNames ∧ ∃ d,
      g.proxy.record.declaration? a.name = some d ∧ d.check a.value = .ok a.value := by
    intro a ha
    rw [← hkind, ← Parameters.names_toOptions, FilterRecord.declaration?, h.declarations, ← hkind]
    exact ⟨List.mem_map_of_mem ha, Parameters.check_toOptions hvalid ha⟩
  obtain ⟨merged, hmerge⟩ := FilterRecord.exists_merge h.valid.proxy.kind fun a ha => by
    obtain ⟨hname, d, hd, hv⟩ := hchecked a ha
    exact ⟨(h.mem_names hname).2, d, a.value, hd, hv⟩
  have hself : Parameters.ofOptions f.kind params.toOptions = .ok params :=
    hkind ▸ Parameters.ofOptions_of_valid hvalid
  refine ⟨merged, hmerge, ?_⟩
  rw [← hself]
  refine Parameters.ofOptions_congr ?_ (Parameters.ofOptions_ok hself).2.1 fun name hname => ?_
  · rw [checkComplete_eq_ok, FilterRecord.names_of_merge hmerge]
    exact Parameters.perm_of_ofOptions h.ofOptions
  · obtain ⟨a, ha, rfl⟩ := List.mem_map.mp ((Parameters.perm_of_ofOptions hself).symm.subset hname)
    obtain ⟨-, d, hd, hv⟩ := hchecked a ha
    obtain ⟨d', v, hd', hv', hfind⟩ :=
      FilterRecord.checked_of_merge hmerge params.nodup_toOptions ha
    cases hd.symm.trans hd'
    cases hv.symm.trans hv'
    rw [hfind, find?_of_mem params.nodup_toOptions ha]

/-- Twins take or refuse the write of a buffer alike. -/
lemma setBytes (h : Twins f g link) (bytes : List UInt8) :
    Agree f g link (f.setBytes bytes) (g.prepareBytes bytes) := by
  have hlive : g.ensureLive = .ok () := RemoteFilter.ensureLive_eq_ok.mpr h.live
  simp only [OfflineFilter.setBytes, RemoteFilter.prepareBytes, hlive, ok_bind, RemoteFilter.kind,
    h.kind]
  cases hparams : Parameters.decode f.kind bytes with
  | error e => exact .refused e
  | ok params =>
    obtain ⟨hkind, hvalid⟩ := Parameters.decode_ok hparams
    obtain ⟨merged, hmerge, hmerged⟩ := h.merge_toOptions hkind hvalid
    have hnext : Parameters.ofOptions f.kind merged = params.validate.map fun _ => params := by
      rw [hmerged, hvalid]
      rfl
    rw [ok_bind, ok_bind, RemoteProxy.prepareAll, hvalid, ok_bind]
    exact h.agree (fun _ => params.validate.map fun _ => params) hmerge hnext

end Twins

end EmbeddedFilters
