import EmbeddedFilters.Filter
import EmbeddedFilters.Proofs.Options.Ids
import EmbeddedFilters.Proofs.Parameters.Overlays
import EmbeddedFilters.Proofs.Remote.Proxy
import EmbeddedFilters.Proofs.Watching.Watcher

/-!
# The life of a filter

A remote filter lives as long as its proxy does, and its models are those of the declarations that
the proxy has had from the start, each perhaps closed for writing (`RemoteFilter.Valid`). The
operations on a filter make a later filter of it (`RemoteFilter.Evolves`). A filter that has been
torn down is at rest, and whatever is done to it later leaves it at rest, with the values that it
had (`RemoteFilter.Evolves.rest`). Because models and declarations agree, the declaration that a
write through a model is checked against is the one that it is merged by
(`RemoteFilter.Valid.of_model`).

An offline filter has valid parameters and the options of their kind (`OfflineFilter.Valid`), and
keeps both (`OfflineFilter.Evolves`).
-/

namespace EmbeddedFilters

open Outcome

/-- An option is found exactly if some option of the list has the number. -/
lemma findModel_eq_ok {models : List OptionModel} {id : OptionId} {m : OptionModel} :
    findModel models id = .ok m ↔ models.find? (fun m => m.id == id) = some m := by
  unfold findModel
  split
  · rename_i h
    rw [h, Except.ok.injEq, Option.some.injEq]
  · rename_i h
    simp [h]

namespace RemoteFilter

/-- What of a model is never changed: its number and its declaration. -/
def core (m : OptionModel) : OptionId × Declaration := (m.id, m.declaration)

/-- A filter with a valid proxy whose models are those of its declarations. -/
structure Valid (f : RemoteFilter) : Prop where
  proxy : f.proxy.Valid
  models : ∀ models, f.models? = some models →
    models.map core = (OptionModel.ofDeclarations f.proxy.record.declarations).map core

/-- A filter that has been torn down: nobody is subscribed to it or can subscribe any more, and it
has no route. -/
structure AtRest (f : RemoteFilter) : Prop where
  destroyed : f.destroyed = true
  closing : f.watcher.closing = true
  unwatched : f.watcher.subscribers = []
  unrouted : f.route? = none

/-- The second filter is the first one at a later time. Models stay once they are there, and so does
everything that is known of a filter at rest. -/
structure Evolves (f g : RemoteFilter) : Prop where
  proxy : f.proxy.Evolves g.proxy
  models : f.Valid → g.Valid
  kept : ∀ models, f.models? = some models →
    ∃ later, g.models? = some later ∧ later.map core = models.map core
  rest : f.AtRest → g.AtRest ∧ g.proxy.record = f.proxy.record

variable {f g k : RemoteFilter}

/-- A filter is a later state of itself. -/
lemma Evolves.refl (f : RemoteFilter) : f.Evolves f :=
  ⟨.refl _, id, fun models h => ⟨models, h, rfl⟩, fun h => ⟨h, rfl⟩⟩

/-- A later state of a later state is a later state. -/
lemma Evolves.trans (h : f.Evolves g) (h' : g.Evolves k) : f.Evolves k where
  proxy := h.proxy.trans h'.proxy
  models := h'.models ∘ h.models
  kept models hmodels := by
    obtain ⟨later, hlater, hcore⟩ := h.kept models hmodels
    obtain ⟨last, hlast, hcore'⟩ := h'.kept later hlater
    exact ⟨last, hlast, hcore'.trans hcore⟩
  rest hf := by
    obtain ⟨hg, hrecord⟩ := h.rest hf
    obtain ⟨hk, hrecord'⟩ := h'.rest hg
    exact ⟨hk, hrecord'.trans hrecord⟩

/-- A live filter is not at rest. -/
lemma not_atRest (hlive : f.destroyed = false) : ¬ f.AtRest :=
  fun h => absurd (hlive.symm.trans h.destroyed) Bool.false_ne_true

/-- A filter evolves with its proxy if it keeps its options and stays at rest once it is. -/
lemma evolves_of_proxy (h : f.proxy.Evolves g.proxy) (hmodels : g.models? = f.models?)
    (hrest : f.AtRest → g.AtRest ∧ g.proxy.record = f.proxy.record) : f.Evolves g where
  proxy := h
  models hf := by
    refine ⟨h.valid hf.proxy, fun models hg => ?_⟩
    rw [hf.models models (hmodels ▸ hg), FilterRecord.declarations, FilterRecord.declarations,
      h.declarations?]
  kept models hf := ⟨models, hmodels.trans hf, rfl⟩
  rest := hrest

/-- A filter with a later proxy is a later filter, if it is alive or its record stays. -/
lemma evolves_withProxy {p : RemoteProxy} (h : f.proxy.Evolves p)
    (hrecord : f.destroyed = false ∨ p.record = f.proxy.record) :
    f.Evolves { f with proxy := p } := by
  refine evolves_of_proxy h rfl fun hrest => ?_
  have hsame := hrecord.resolve_left fun hlive => not_atRest hlive hrest
  exact ⟨⟨hrest.destroyed, hrest.closing, hrest.unwatched, hrest.unrouted⟩, hsame⟩

/-- A filter that has been declared is valid, of the kind that was asked for, and over that
record. -/
lemma declare_ok {kind : FilterKind} {r : FilterRecord} {topic : String}
    (h : declare kind r topic = .ok f) : f.Valid ∧ f.proxy.kind = kind ∧ f.proxy.record = r := by
  obtain ⟨p, hp, h⟩ := bind_eq_ok.mp h
  obtain rfl := pure_eq_ok.mp h
  obtain ⟨hvalid, hkind, hrecord⟩ := RemoteProxy.new_ok hp
  exact ⟨⟨hvalid, fun _ h => by cases h⟩, hkind, hrecord⟩

/-- A filter that has just been declared has no route. -/
lemma route_of_declare {kind : FilterKind} {r : FilterRecord} {topic : String}
    (h : declare kind r topic = .ok f) : f.route? = none := by
  obtain ⟨p, -, h⟩ := bind_eq_ok.mp h
  obtain rfl := pure_eq_ok.mp h
  rfl

/-- Populating a filter makes a later state of it. -/
lemma evolves_populate (h : f.populate = .ok g) : f.Evolves g := by
  unfold populate at h
  split at h
  · cases h
  · rename_i hnone
    cases h
    refine ⟨.refl _, fun hf => ⟨hf.proxy, fun models hmodels => ?_⟩, fun models hmodels => ?_,
      fun hf => ⟨⟨hf.destroyed, hf.closing, hf.unwatched, hf.unrouted⟩, rfl⟩⟩
    · rw [← Option.some.inj hmodels]
    · exact absurd (Option.isSome_of_eq_some hmodels) hnone

/-- A filter that is made for an advertisement is valid, and has the advertised declarations. -/
lemma ofAdvertisement_ok {kind : FilterKind} {a : Advertisement} {topic : String}
    (h : ofAdvertisement kind a topic = .ok f) :
    f.Valid ∧ f.proxy.kind = kind ∧ FilterRecord.ofAdvertisement a = .ok f.proxy.record := by
  obtain ⟨r, hr, h⟩ := bind_eq_ok.mp h
  obtain ⟨d, hd, h⟩ := bind_eq_ok.mp h
  obtain ⟨hvalid, hkind, hrecord⟩ := declare_ok hd
  have hevolves := evolves_populate h
  have hproxy : f.proxy = d.proxy := by
    unfold populate at h
    split at h
    · cases h
    · cases h
      rfl
  rw [hproxy, hrecord]
  exact ⟨hevolves.models hvalid, hkind, hr⟩

/-- A filter passes for live exactly if it has not been torn down. -/
lemma ensureLive_eq_ok : f.ensureLive = .ok () ↔ f.destroyed = false := by
  unfold ensureLive
  cases f.destroyed <;> simp

/-- A live filter evolves with its proxy when changes are announced. -/
lemma evolves_announce {changed : List ChangedOption} {p : RemoteProxy} (h : f.proxy.Evolves p)
    (hlive : f.destroyed = false) : f.Evolves (f.announce changed p).state :=
  evolves_of_proxy h rfl fun hrest => absurd hrest (not_atRest hlive)

/-- A report makes a later state of a filter. -/
lemma evolves_notify {options : List Assignment} {t : Told RemoteFilter}
    (h : f.notify options = .ok t) : f.Evolves t.state := by
  obtain ⟨⟨⟩, hlive, h⟩ := bind_eq_ok.mp h
  obtain ⟨⟨changed, p⟩, habsorb, h⟩ := bind_eq_ok.mp h
  obtain rfl := pure_eq_ok.mp h
  exact evolves_announce (RemoteProxy.evolves_absorb habsorb) (ensureLive_eq_ok.mp hlive)

/-- A report does not tear a filter down. -/
lemma destroyed_of_notify {options : List Assignment} {t : Told RemoteFilter}
    (h : f.notify options = .ok t) : t.state.destroyed = f.destroyed := by
  obtain ⟨⟨⟩, -, h⟩ := bind_eq_ok.mp h
  obtain ⟨⟨changed, p⟩, -, h⟩ := bind_eq_ok.mp h
  obtain rfl := pure_eq_ok.mp h
  rfl

/-- A report leaves the route of a filter. -/
lemma route_of_notify {options : List Assignment} {t : Told RemoteFilter}
    (h : f.notify options = .ok t) : t.state.route? = f.route? := by
  obtain ⟨⟨⟩, -, h⟩ := bind_eq_ok.mp h
  obtain ⟨⟨changed, p⟩, -, h⟩ := bind_eq_ok.mp h
  obtain rfl := pure_eq_ok.mp h
  rfl

/-- An answer makes a later state of a live filter. -/
lemma evolves_accept {reply : ByteArray} {t : Told RemoteFilter} (hlive : f.destroyed = false)
    (h : f.accept reply = .ok t) : f.Evolves t.state := by
  obtain ⟨⟨changed, p⟩, haccept, h⟩ := bind_eq_ok.mp h
  obtain rfl := pure_eq_ok.mp h
  exact evolves_announce (RemoteProxy.evolves_accept haccept) hlive

/-- An answer leaves the route of a filter. -/
lemma route_of_accept {reply : ByteArray} {t : Told RemoteFilter} (h : f.accept reply = .ok t) :
    t.state.route? = f.route? := by
  obtain ⟨⟨changed, p⟩, -, h⟩ := bind_eq_ok.mp h
  obtain rfl := pure_eq_ok.mp h
  rfl

/-- Populating a filter leaves its route. -/
lemma route_of_populate (h : f.populate = .ok g) : g.route? = f.route? := by
  unfold populate at h
  split at h
  · cases h
  · cases h
    rfl

/-- A filter that is made for an advertisement has no route yet. -/
lemma route_of_ofAdvertisement {kind : FilterKind} {a : Advertisement} {topic : String}
    (h : ofAdvertisement kind a topic = .ok f) : f.route? = none := by
  obtain ⟨r, -, h⟩ := bind_eq_ok.mp h
  obtain ⟨d, hd, h⟩ := bind_eq_ok.mp h
  rw [route_of_populate h]
  exact route_of_declare hd

/-- A filter that has been torn down is at rest. -/
lemma atRest_destroy (f : RemoteFilter) : f.destroy.AtRest := ⟨rfl, rfl, rfl, rfl⟩

/-- Tearing a filter down makes a later state of it. -/
lemma evolves_destroy : f.Evolves f.destroy :=
  evolves_of_proxy (.refl _) rfl fun _ => ⟨f.atRest_destroy, rfl⟩

/-- The options are there exactly if they have been populated. -/
lemma models_eq_ok {models : List OptionModel} :
    f.models = .ok models ↔ f.models? = some models := by
  unfold RemoteFilter.models
  cases f.models? <;> simp

/-- A write through a model is prepared if the model is there and open, admits the value, and the
proxy prepares what the model makes of it. -/
lemma prepareOption_eq_ok {id : OptionId} {value : OptionValue} {s : Submission} :
    f.prepareOption id value = .ok s ↔ ∃ models m v, f.models? = some models ∧
      findModel models id = .ok m ∧ m.accept value = .ok v ∧ f.destroyed = false ∧
      f.proxy.prepare [⟨m.name, v⟩] = .ok s := by
  simp only [prepareOption, bind_eq_ok, models_eq_ok]
  constructor
  · rintro ⟨list, hlist, m, hm, v, hv, ⟨⟩, hlive, hs⟩
    exact ⟨list, m, v, hlist, hm, hv, ensureLive_eq_ok.mp hlive, hs⟩
  · rintro ⟨list, m, v, hlist, hm, hv, hlive, hs⟩
    exact ⟨list, hlist, m, hm, v, hv, (), ensureLive_eq_ok.mpr hlive, hs⟩

/-- A write of a buffer is prepared if the buffer denotes parameters and the proxy prepares
these. -/
lemma prepareBytes_eq_ok {bytes : List UInt8} {s : Submission} :
    f.prepareBytes bytes = .ok s ↔ f.destroyed = false ∧ ∃ params,
      Parameters.decode f.kind bytes = .ok params ∧ f.proxy.prepareAll params = .ok s := by
  simp only [prepareBytes, bind_eq_ok]
  constructor
  · rintro ⟨⟨⟩, hlive, params, hparams, hs⟩
    exact ⟨ensureLive_eq_ok.mp hlive, params, hparams, hs⟩
  · rintro ⟨hlive, params, hparams, hs⟩
    exact ⟨(), ensureLive_eq_ok.mpr hlive, params, hparams, hs⟩

/-- Only a live filter prepares a write of an option. -/
lemma live_of_prepareOption {id : OptionId} {value : OptionValue} {s : Submission}
    (h : f.prepareOption id value = .ok s) : f.destroyed = false := by
  obtain ⟨_, _, _, -, -, -, hlive, -⟩ := prepareOption_eq_ok.mp h
  exact hlive

/-- Only a live filter prepares a write of bytes. -/
lemma live_of_prepareBytes {bytes : List UInt8} {s : Submission}
    (h : f.prepareBytes bytes = .ok s) :
    f.destroyed = false := (prepareBytes_eq_ok.mp h).1

/-- Only a live filter asks its device. -/
lemma live_of_inquire {i : Inquiry} (h : f.inquire = .ok i) : f.destroyed = false := by
  obtain ⟨⟨⟩, hlive, -⟩ := bind_eq_ok.mp h
  exact ensureLive_eq_ok.mp hlive

/-- A write of an option that has been prepared fits the proxy. -/
lemma fits_of_prepareOption {id : OptionId} {value : OptionValue} {s : Submission}
    (h : f.prepareOption id value = .ok s) : s.Fits f.proxy := by
  obtain ⟨_, _, _, -, -, -, -, hs⟩ := prepareOption_eq_ok.mp h
  exact RemoteProxy.fits_of_prepare (by simp) hs

/-- A write of bytes that has been prepared fits the proxy. -/
lemma fits_of_prepareBytes {bytes : List UInt8} {s : Submission}
    (h : f.prepareBytes bytes = .ok s) :
    s.Fits f.proxy := by
  obtain ⟨-, _, -, hs⟩ := prepareBytes_eq_ok.mp h
  exact RemoteProxy.fits_of_prepareAll hs

/-- Allowing an option changes nothing but whether it is enabled. -/
lemma core_allow (id : OptionId) (enabled : Bool) (m : OptionModel) :
    core (Filter.withOptionEnabled.allow id enabled m) = core m := by
  unfold Filter.withOptionEnabled.allow
  split <;> rfl

/-- A filter with a model opened or closed is a later filter. -/
lemma evolves_withOptionEnabled (id : OptionId) (enabled : Bool) :
    f.Evolves { f with
      models? := f.models?.map (List.map (Filter.withOptionEnabled.allow id enabled)) } where
  proxy := .refl _
  models hf := by
    refine ⟨hf.proxy, fun models hmodels => ?_⟩
    obtain ⟨old, hold, rfl⟩ := Option.map_eq_some_iff.mp hmodels
    rw [List.map_map, ← hf.models old hold]
    exact List.map_congr_left fun m _ => core_allow id enabled m
  kept models hmodels := by
    refine ⟨_, congrArg (Option.map _) hmodels, ?_⟩
    rw [List.map_map]
    exact List.map_congr_left fun m _ => core_allow id enabled m
  rest hf := ⟨⟨hf.destroyed, hf.closing, hf.unwatched, hf.unrouted⟩, rfl⟩

/-- The first model with a number is that of the first declaration with its name. -/
lemma find?_ofDeclarations {list : List Declaration} {id : OptionId} {m : OptionModel}
    (h : (OptionModel.ofDeclarations list).find? (fun m => m.id == id) = some m) :
    OptionId.ofName? m.name = some id ∧
      list.find? (fun d => d.name == m.name) = some m.declaration := by
  induction list with
  | nil => cases h
  | cons d list ih =>
    cases hid : OptionId.ofName? d.name with
    | none =>
      -- a declaration whose name has no number has no model
      simp only [OptionModel.ofDeclarations, List.filterMap_cons, hid, Option.map_none] at h
      obtain ⟨hm, hfind⟩ := ih h
      refine ⟨hm, ?_⟩
      have hne : d.name ≠ m.name := by
        intro heq
        rw [heq, hm] at hid
        cases hid
      rwa [List.find?_cons_of_neg (by simpa using hne)]
    | some other =>
      simp only [OptionModel.ofDeclarations, List.filterMap_cons, hid, Option.map_some,
        List.find?_cons] at h
      split at h
      · rename_i heq
        obtain rfl := Option.some.inj h
        rw [beq_iff_eq] at heq
        subst heq
        exact ⟨hid, by simp [OptionModel.name]⟩
      · rename_i hneid
        obtain ⟨hm, hfind⟩ := ih h
        refine ⟨hm, ?_⟩
        have hne : d.name ≠ m.name := by
          intro heq
          rw [heq, hm] at hid
          simp [Option.some.inj hid] at hneid
        rwa [List.find?_cons_of_neg (by simpa using hne)]

/-- What is found by number depends on the cores alone. -/
lemma find?_core {models others : List OptionModel} (h : models.map core = others.map core)
    {id : OptionId} {m : OptionModel} (hm : models.find? (fun m => m.id == id) = some m) :
    ∃ o, others.find? (fun m => m.id == id) = some o ∧ core o = core m := by
  induction models generalizing others with
  | nil => cases hm
  | cons first models ih =>
    cases others with
    | nil => cases h
    | cons other others =>
      simp only [List.map_cons, List.cons.injEq] at h
      have hid : other.id = first.id := congrArg Prod.fst h.1.symm
      by_cases heq : first.id = id
      · rw [List.find?_cons_of_pos (by simpa using heq)] at hm
        refine ⟨other, List.find?_cons_of_pos (by simpa [hid] using heq), ?_⟩
        rw [← Option.some.inj hm, h.1]
      · rw [List.find?_cons_of_neg (by simpa using heq)] at hm
        rw [List.find?_cons_of_neg (by simpa [hid] using heq)]
        exact ih h.2 hm

/-- The model with a number is that of a declaration: its name has the number, and finds the
declaration. -/
lemma Valid.of_model (hf : f.Valid) {models : List OptionModel} (hmodels : f.models? = some models)
    {id : OptionId} {m : OptionModel} (hm : findModel models id = .ok m) :
    OptionId.ofName? m.name = some id ∧
      f.proxy.record.declaration? m.name = some m.declaration := by
  obtain ⟨o, ho, hcore⟩ := find?_core (hf.models models hmodels) (findModel_eq_ok.mp hm)
  have hdecl : o.declaration = m.declaration := congrArg Prod.snd hcore
  have hname : o.name = m.name := congrArg Declaration.name hdecl
  rw [← hdecl, ← hname]
  exact find?_ofDeclarations ho

/-- A filter at rest gives later what it has given before. -/
lemma Evolves.query (h : f.Evolves g) (hf : f.AtRest) {id : OptionId} {value : OptionValue}
    (hquery : (Filter.remote f).query id = .ok value) : (Filter.remote g).query id = .ok value := by
  obtain ⟨m, hmodel, hvalue⟩ := bind_eq_ok.mp hquery
  obtain ⟨models, hmodels, hfind⟩ := bind_eq_ok.mp hmodel
  obtain ⟨later, hlater, hcore⟩ := h.kept models (models_eq_ok.mp hmodels)
  obtain ⟨o, ho, hsame⟩ := find?_core hcore.symm (findModel_eq_ok.mp hfind)
  have hname : o.name = m.name := congrArg (fun c => c.2.name) hsame
  refine bind_eq_ok.mpr
    ⟨o, bind_eq_ok.mpr ⟨later, models_eq_ok.mpr hlater, findModel_eq_ok.mpr ho⟩, ?_⟩
  have hvalue : f.proxy.value m.name = .ok value := hvalue
  show g.proxy.value o.name = .ok value
  rw [RemoteProxy.value_eq_ok] at hvalue ⊢
  rw [hname, (h.rest hf).2, hvalue]

/-- A filter at rest gives out the same parameters later. -/
lemma Evolves.params (h : f.Evolves g) (hf : f.AtRest) :
    (Filter.remote g).params = (Filter.remote f).params := by
  show Parameters.ofOptions g.proxy.kind g.proxy.record.current = _
  rw [h.proxy.kind, (h.rest hf).2]
  rfl

/-- No changes, no announcement. -/
lemma announce_nil (f : RemoteFilter) : f.announce [] f.proxy = ⟨f, [], false⟩ := by
  show (f.watcher.announce []).map _ = _
  rw [Watcher.announce_of_due rfl]
  rfl

end RemoteFilter

namespace OfflineFilter

variable {f g k : OfflineFilter}

/-- A filter whose parameters pass their checks and whose options are those of their kind, each
perhaps closed for writing. -/
structure Valid (f : OfflineFilter) : Prop where
  params : f.params.validate = .ok ()
  models : f.models.map RemoteFilter.core =
    (OptionModel.ofDeclarations (Parameters.declarations f.kind)).map RemoteFilter.core

/-- The second filter is the first one at a later time. It is of the same kind and has the same
options. -/
structure Evolves (f g : OfflineFilter) : Prop where
  kind : g.kind = f.kind
  models : g.models.map RemoteFilter.core = f.models.map RemoteFilter.core
  params : f.params.validate = .ok () → g.params.validate = .ok ()

/-- An offline filter is a later state of itself. -/
lemma Evolves.refl (f : OfflineFilter) : f.Evolves f := ⟨rfl, rfl, id⟩

/-- A later state of a later state of an offline filter is a later state. -/
lemma Evolves.trans (h : f.Evolves g) (h' : g.Evolves k) : f.Evolves k :=
  ⟨h'.kind.trans h.kind, h'.models.trans h.models, fun hf => h'.params (h.params hf)⟩

/-- A valid offline filter stays valid as it evolves. -/
lemma Evolves.valid (h : f.Evolves g) (hf : f.Valid) : g.Valid where
  params := h.params hf.params
  models := by
    rw [h.kind]
    exact h.models.trans hf.models

/-- A filter that is built with parameters that pass their checks is valid. -/
lemma valid_build (name : String) {params : Parameters} (h : params.validate = .ok ()) :
    (build name params).Valid := ⟨h, rfl⟩

/-- A new offline filter is valid. -/
lemma valid_new (kind : FilterKind) (name : String) : (new kind name).Valid := by
  apply valid_build
  cases kind <;> exact eq_ok_of_toOption (by decide +kernel)

/-- An offline filter that is made with parameters is valid. -/
lemma valid_withParams {name : String} {params : Parameters} (h : withParams name params = .ok f) :
    f.Valid := by
  obtain ⟨⟨⟩, hparams, rfl⟩ := map_eq_ok.mp h
  exact valid_build name hparams

/-- A filter that moves to new parameters of its kind is a later filter. -/
lemma evolves_update {next : Parameters → Except FilterError Parameters} {t : Told OfflineFilter}
    (h : f.update next = .ok t)
    (hnext : ∀ p, next f.params = .ok p → p.kind = f.kind ∧ p.validate = .ok ()) :
    f.Evolves t.state := by
  unfold update at h
  split at h
  · cases h
  · obtain ⟨p, hp, h⟩ := bind_eq_ok.mp h
    obtain rfl := pure_eq_ok.mp h
    exact ⟨(hnext p hp).1, rfl, fun _ => (hnext p hp).2⟩

/-- Setting an option makes a later state of an offline filter. -/
lemma evolves_setOption {id : OptionId} {value : OptionValue} {t : Told OfflineFilter}
    (h : f.setOption id value = .ok t) : f.Evolves t.state := by
  obtain ⟨m, -, h⟩ := bind_eq_ok.mp h
  obtain ⟨v, -, h⟩ := bind_eq_ok.mp h
  refine evolves_update h fun p hp => ?_
  obtain ⟨list, -, hp⟩ := bind_eq_ok.mp hp
  exact ⟨Parameters.kind_of_ofOptions hp, Parameters.validate_of_ofOptions hp⟩

/-- Setting bytes makes a later state of an offline filter. -/
lemma evolves_setBytes {bytes : List UInt8} {t : Told OfflineFilter}
    (h : f.setBytes bytes = .ok t) :
    f.Evolves t.state := by
  obtain ⟨p, hdecode, h⟩ := bind_eq_ok.mp h
  refine evolves_update h fun q hq => ?_
  obtain ⟨-, -, rfl⟩ := map_eq_ok.mp hq
  exact Parameters.decode_ok hdecode

/-- A filter with a model opened or closed is a later filter. -/
lemma evolves_withOptionEnabled (id : OptionId) (enabled : Bool) :
    f.Evolves { f with models := f.models.map (Filter.withOptionEnabled.allow id enabled) } := by
  refine ⟨rfl, ?_, fun h => h⟩
  rw [List.map_map]
  exact List.map_congr_left fun m _ => RemoteFilter.core_allow id enabled m

end OfflineFilter

namespace Filter

/-- A filter of either sort that is valid. -/
def Valid : Filter → Prop
  | .offline f => f.Valid
  | .remote f => f.Valid

/-- The second filter is the first one at a later time. -/
inductive Evolves : Filter → Filter → Prop where
  | offline {f g : OfflineFilter} : f.Evolves g → Evolves (.offline f) (.offline g)
  | remote {f g : RemoteFilter} : f.Evolves g → Evolves (.remote f) (.remote g)

variable {f g k : Filter}

/-- A filter of either make is a later state of itself. -/
lemma Evolves.refl : (f : Filter) → f.Evolves f
  | .offline f => .offline (.refl f)
  | .remote f => .remote (.refl f)

/-- For filters of either make, a later state of a later state is a later state. -/
lemma Evolves.trans (h : f.Evolves g) (h' : g.Evolves k) : f.Evolves k := by
  cases h with
  | offline h =>
    cases h' with
    | offline h' => exact .offline (h.trans h')
  | remote h =>
    cases h' with
    | remote h' => exact .remote (h.trans h')

/-- A valid filter stays valid as it evolves. -/
lemma Evolves.valid (h : f.Evolves g) (hf : f.Valid) : g.Valid := by
  cases h with
  | offline h => exact OfflineFilter.Evolves.valid h hf
  | remote h => exact h.models hf

/-- A filter with other subscribers is a later filter, if a closed watcher stays as it is. -/
lemma evolves_withWatcher {watcher : Watcher} (h : f.watcher.closing = true →
    f.watcher.subscribers = [] → watcher = f.watcher) : f.Evolves (f.withWatcher watcher) := by
  cases f with
  | offline f => exact .offline ⟨rfl, rfl, id⟩
  | remote f =>
    refine .remote (RemoteFilter.evolves_of_proxy (.refl _) rfl fun hrest => ?_)
    obtain rfl : watcher = f.watcher := h hrest.closing hrest.unwatched
    exact ⟨hrest, rfl⟩

/-- Another watcher leaves the route of a filter. -/
lemma route_withWatcher (f : Filter) (watcher : Watcher) :
    (f.withWatcher watcher).route? = f.route? := by
  cases f <;> rfl

/-- Allowing an option leaves the route of a filter. -/
lemma route_withOptionEnabled (f : Filter) (id : OptionId) (enabled : Bool) :
    (f.withOptionEnabled id enabled).route? = f.route? := by
  cases f <;> rfl

/-- Ending a subscription makes a later state of a filter. -/
lemma evolves_cancel (s : Subscription) : f.Evolves (f.withWatcher (f.watcher.cancel s)) := by
  refine evolves_withWatcher fun hclosing hempty => Watcher.cancel_silent ?_ (fun _ => hempty) s
  rw [hclosing, Bool.or_true]

/-- A new subscription makes a later state of a filter. -/
lemma evolves_subscribe {id : OptionId} {listener : Listener} {out : Subscription × Watcher}
    (h : f.watcher.subscribe id listener = .ok out) : f.Evolves (f.withWatcher out.2) := by
  refine evolves_withWatcher fun hclosing _ => ?_
  obtain ⟨-, hopen, -⟩ := Watcher.subscribe_ok h
  cases hopen.symm.trans hclosing

/-- Allowing an option makes a later state of a filter. -/
lemma evolves_withOptionEnabled (id : OptionId) (enabled : Bool) :
    f.Evolves (f.withOptionEnabled id enabled) := by
  cases f with
  | offline f => exact .offline (OfflineFilter.evolves_withOptionEnabled id enabled)
  | remote f => exact .remote (RemoteFilter.evolves_withOptionEnabled id enabled)

/-- Tearing down a filter of either make makes a later state of it. -/
lemma evolves_destroy : f.Evolves f.destroy := by
  cases f with
  | offline f => exact .offline ⟨rfl, rfl, id⟩
  | remote f => exact .remote RemoteFilter.evolves_destroy

end Filter

end EmbeddedFilters
