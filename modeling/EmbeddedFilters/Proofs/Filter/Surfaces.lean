import EmbeddedFilters.Proofs.Filter.Offline
import EmbeddedFilters.Proofs.Parameters.Numbers
import EmbeddedFilters.Sensor

/-!
# The two surfaces of a filter

A filter gives its parameters as a buffer, and the values of its options one by one. Both show the
same parameters (`Filter.Shows`) if the filter offers the options of their kind and no others
(`Filter.Serves`), and if what its values are taken from has the numbers of the parameters
(`Filter.shows_of_tells`). An offline filter takes its values from the parameters themselves, a
remote one from the record of its proxy.

The filters of a sensor offer the options of the advertised kind, whether they are offline or remote
(`Sensor.serves_filterFor`), and whatever happens to a filter, it goes on to offer them
(`Filter.Serves.of_evolves`).
-/

namespace EmbeddedFilters

open Outcome Assignment

/-- A declaration whose name has a number can be found by it, though perhaps an earlier one of the
name is found. -/
lemma OptionModel.exists_find? {list : List Declaration} {d : Declaration} (hd : d ∈ list)
    {id : OptionId} (hid : OptionId.ofName? d.name = some id) :
    ∃ m, (ofDeclarations list).find? (fun m => m.id == id) = some m := by
  have hmem : { id, declaration := d } ∈ ofDeclarations list :=
    List.mem_filterMap.mpr ⟨d, hd, by rw [hid, Option.map_some]⟩
  apply Option.isSome_iff_exists.mp
  rw [List.find?_isSome]
  exact ⟨_, hmem, beq_self_eq_true id⟩

namespace Filter

/-- The filter is of a kind, and its models are of declarations of the kind's options. -/
structure Serves (f : Filter) (served : FilterKind) : Prop where
  kind : f.kind = served
  models : ∃ models list, f.models = .ok models ∧
    models.map RemoteFilter.core = (OptionModel.ofDeclarations list).map RemoteFilter.core ∧
    (list.map (·.name)).Perm served.optionNames

/-- Both surfaces of a filter show the same parameters, with alpha compared as a number: the filter
gives a buffer that denotes them, it is switched on or off as they are, and each option of their
kind can be queried under its number and has the number of the field. No other option can be
queried. -/
structure Shows (f : Filter) (p : Parameters) : Prop where
  bytes : ∃ b q, f.bytes = .ok b ∧ Parameters.decode p.kind b.bytes = .ok q ∧ p.agrees q = true
  enabled : f.isEnabled = p.enabled
  values : ∀ name ∈ p.kind.optionNames, ∃ id field value, OptionId.ofName? name = some id ∧
    find? name p.toOptions = some field ∧ f.query id = .ok value ∧ field.SameNumber value
  others : ∀ id value, f.query id = .ok value →
    ∃ name ∈ p.kind.optionNames, OptionId.ofName? name = some id

variable {f g : Filter} {kind : FilterKind} {p q : Parameters}

/-- A filter offers a model for each option of the kind that it serves. -/
lemma Serves.exists_model (h : f.Serves kind) {name : String} (hname : name ∈ kind.optionNames) :
    ∃ id m, OptionId.ofName? name = some id ∧ f.model id = .ok m ∧ m.name = name := by
  obtain ⟨models, list, hmodels, hcore, hnames⟩ := h.models
  obtain ⟨d, hd, rfl⟩ := List.mem_map.mp (hnames.symm.subset hname)
  obtain ⟨id, hid⟩ := FilterKind.exists_id hname
  obtain ⟨o, ho⟩ := OptionModel.exists_find? hd hid
  obtain ⟨m, hm, hsame⟩ := RemoteFilter.find?_core hcore.symm ho
  have hmname : m.name = o.name := congrArg (fun c => c.2.name) hsame
  have hoid := (RemoteFilter.find?_ofDeclarations ho).1
  refine ⟨id, m, hid, ?_, hmname.trans (OptionId.ofName?_inj hoid hid)⟩
  exact bind_eq_ok.mpr ⟨models, hmodels, findModel_eq_ok.mpr hm⟩

/-- A filter offers no other models. -/
lemma Serves.of_model (h : f.Serves kind) {id : OptionId} {m : OptionModel}
    (hm : f.model id = .ok m) :
    m.name ∈ kind.optionNames ∧ OptionId.ofName? m.name = some id := by
  obtain ⟨models, list, hmodels, hcore, hnames⟩ := h.models
  obtain ⟨models', hmodels', hfind⟩ := bind_eq_ok.mp hm
  cases hmodels.symm.trans hmodels'
  obtain ⟨o, ho, hsame⟩ := RemoteFilter.find?_core hcore (findModel_eq_ok.mp hfind)
  have hname : o.name = m.name := congrArg (fun c => c.2.name) hsame
  obtain ⟨hid, hdeclared⟩ := RemoteFilter.find?_ofDeclarations ho
  rw [hname] at hid
  refine ⟨hnames.subset (List.mem_map.mpr ⟨o.declaration, ?_, hname⟩), hid⟩
  exact List.mem_of_find?_eq_some hdeclared

/-- Whatever happens to a filter, it serves the same kind. -/
lemma Serves.of_evolves (hf : f.Serves kind) (h : f.Evolves g) : g.Serves kind := by
  obtain ⟨models, list, hmodels, hcore, hnames⟩ := hf.models
  cases h with
  | offline h =>
    cases hmodels
    exact ⟨h.kind.trans hf.kind, _, list, rfl, h.models.trans hcore, hnames⟩
  | remote h =>
    obtain ⟨later, hlater, hsame⟩ := h.kept models (RemoteFilter.models_eq_ok.mp hmodels)
    refine ⟨h.proxy.kind.trans hf.kind, later, list, ?_, hsame.trans hcore, hnames⟩
    exact RemoteFilter.models_eq_ok.mpr hlater

/-- Parameters are shown by a filter of their kind whose values are taken from assignments that
denote its parameters and have the numbers of those to be shown. -/
lemma shows_of_tells (hserves : f.Serves p.kind) (hp : p.validate = .ok ())
    {list : List Assignment} (hvalue : ∀ name v, find? name list = some v → f.value name = .ok v)
    (hparams : f.params = .ok q) (hdenotes : Parameters.ofOptions p.kind list = .ok q)
    (htells : p.Tells list) : f.Shows p where
  bytes := by
    have hkind : q.kind = p.kind := Parameters.kind_of_ofOptions hdenotes
    obtain ⟨b, hb, -⟩ := Parameters.encode_of_validate (Parameters.validate_of_ofOptions hdenotes)
    refine ⟨b, q, bind_eq_ok.mpr ⟨q, hparams, hb⟩, ?_,
      Parameters.agrees_of_tells hp htells hdenotes⟩
    rw [← hkind]
    exact (Parameters.decode_encode hb).2
  enabled := by
    rw [isEnabled, hparams]
    exact (Parameters.enabled_of_agrees (Parameters.agrees_of_tells hp htells hdenotes)).symm
  values name hname := by
    obtain ⟨field, value, hfield, hfind, hsame⟩ := htells name hname
    obtain ⟨id, m, hid, hm, rfl⟩ := hserves.exists_model hname
    exact ⟨id, field, value, hid, hfield, bind_eq_ok.mpr ⟨m, hm, hvalue _ _ hfind⟩, hsame⟩
  others id value hquery := by
    obtain ⟨m, hm, -⟩ := bind_eq_ok.mp hquery
    obtain ⟨hname, hid⟩ := hserves.of_model hm
    exact ⟨m.name, hname, hid⟩

/-- An offline filter shows the parameters that it has. -/
lemma shows_offline {f : OfflineFilter} (hserves : (Filter.offline f).Serves f.kind)
    (hvalid : f.params.validate = .ok ()) : (Filter.offline f).Shows f.params := by
  apply shows_of_tells hserves hvalid ?_ rfl (Parameters.ofOptions_of_valid hvalid)
    (Parameters.tells_self hvalid)
  intro name v hv
  show f.value name = .ok v
  rw [OfflineFilter.value, hv]

/-- A remote filter shows the parameters that have been laid over its record. -/
lemma shows_remote {f : RemoteFilter} (hserves : (Filter.remote f).Serves p.kind) (hf : f.Valid)
    (hp : p.validate = .ok ()) (htells : p.Tells f.proxy.record.current) :
    (Filter.remote f).Shows p := by
  obtain ⟨q, hq⟩ := hf.proxy.params
  have hkind : f.proxy.kind = p.kind := hserves.kind
  have hdenotes : Parameters.ofOptions p.kind f.proxy.record.current = .ok q := by
    rw [← hkind]
    exact hq
  apply shows_of_tells hserves hp ?_ hq hdenotes htells
  intro name v hv
  exact RemoteProxy.value_eq_ok.mpr hv

end Filter

namespace RemoteFilter

/-- A filter that is made for an advertisement is populated. -/
lemma models_of_ofAdvertisement {f : RemoteFilter} {kind : FilterKind} {a : Advertisement}
    {topic : String} (h : ofAdvertisement kind a topic = .ok f) :
    ∃ models, f.models? = some models := by
  obtain ⟨r, -, h⟩ := bind_eq_ok.mp h
  obtain ⟨d, -, h⟩ := bind_eq_ok.mp h
  unfold populate at h
  split at h
  · cases h
  · cases h
    exact ⟨_, rfl⟩

/-- A filter that is made for an advertisement serves the kind that it is made for. -/
lemma serves_ofAdvertisement {f : RemoteFilter} {kind : FilterKind} {a : Advertisement}
    {topic : String} (h : ofAdvertisement kind a topic = .ok f) :
    (Filter.remote f).Serves kind := by
  obtain ⟨hvalid, hkind, hrecord⟩ := ofAdvertisement_ok h
  obtain ⟨models, hmodels⟩ := models_of_ofAdvertisement h
  obtain ⟨-, -, hdeclarations, hnames⟩ := FilterRecord.ofAdvertisement_ok hrecord
  obtain ⟨q, hq⟩ := hvalid.proxy.params
  refine ⟨hkind, models, f.proxy.record.declarations, models_eq_ok.mpr hmodels,
    hvalid.models models hmodels, ?_⟩
  rw [FilterRecord.declarations, hdeclarations, Option.getD_some, ← hnames, ← hkind]
  exact Parameters.perm_of_ofOptions hq

end RemoteFilter

/-- An offline filter that nobody has torn down or subscribed to serves the kind of its
parameters. -/
lemma OfflineFilter.Usable.serves {f : OfflineFilter} (h : f.Usable) :
    (Filter.offline f).Serves f.kind := by
  have hnames : (Parameters.declarations f.kind).map (·.name) = f.kind.optionNames := by
    cases f.kind <;> rfl
  exact ⟨rfl, f.models, Parameters.declarations f.kind, rfl, by rw [h.models], .of_eq hnames⟩

end EmbeddedFilters
