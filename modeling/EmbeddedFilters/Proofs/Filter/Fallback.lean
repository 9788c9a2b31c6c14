import EmbeddedFilters.Proofs.Filter.OfflineWrites
import EmbeddedFilters.Proofs.Parameters.Admission

/-!
# Offline filters in place of remote ones

An advertisement can stand for an offline filter or for a remote one. Both start from the same
parameters. The offline filter takes a value for an option exactly if the number that it stands for
obeys the rule of the option (`OfflineFilter.takes_iff`); what the advertisement declares of the
option does not matter. The remote one takes it exactly if, besides, the advertised declaration
admits it (`RemoteFilter.takes_iff`). So the remote filter takes nothing that the offline one
refuses, and what the offline one takes lies within the fixed rules of the options
(`Sensor.offline_obeys_kind`), though not always within the advertised bounds
(`Sensor.offline_exceeds_advertised_bounds`).
-/

namespace EmbeddedFilters

open Outcome Assignment

/-- An integer that is nearest to a number between zero and a hundred is this number. -/
lemma Binary.toRat_ofInt_of_bounds {i : Int64} (hlow : 0 ≤ (ofInt .double i.toInt).toRat)
    (hhigh : (ofInt .double i.toInt).toRat ≤ 100) : (ofInt .double i.toInt).toRat = i.toInt := by
  have hnearest := isNearest_ofInt (isFinite_ofInt i)
  have hsmall : ∀ j : ℤ, j.natAbs ≤ 101 →
      |(ofInt .double i.toInt).toRat - i.toInt| ≤ |(j : ℚ) - i.toInt| := by
    intro j hj
    have hfinite : (ofInt .double j).isFinite = true := isFinite_ofInt_of_le (by omega)
    have hle := hnearest.le _ hfinite
    rwa [toRat_ofInt (by show j.natAbs < 2 ^ 53; omega) hfinite] at hle
  have hupper : i.toInt ≤ 100 := by
    by_contra hlt
    have hcast : (101 : ℚ) ≤ i.toInt := by exact_mod_cast not_le.mp hlt
    have hle := hsmall 101 (by decide)
    rw [abs_of_nonpos (by linarith), abs_of_nonpos (by push_cast; linarith)] at hle
    push_cast at hle
    linarith
  have hlower : 0 ≤ i.toInt := by
    by_contra hlt
    have hcast : (i.toInt : ℚ) ≤ -1 := by exact_mod_cast Int.le_sub_one_of_lt (not_le.mp hlt)
    have hle := hsmall (-1) (by decide)
    rw [abs_of_nonneg (by linarith), abs_of_nonneg (by push_cast; linarith)] at hle
    push_cast at hle
    linarith
  exact toRat_ofInt (by show i.toInt.natAbs < 2 ^ 53; omega) (isFinite_ofInt i)

/-- A value that has become the number of an option stood for this number. -/
lemma OptionValue.number_of_coerce {kind : OptionKind} {field name : String} {v c : OptionValue}
    {q : ℚ} (h : v.coerce kind field = .ok c) (hq : c.number? = some q)
    (hrule : OptionRule name q) :
    v.number? = some q := by
  obtain ⟨hlow, hhigh⟩ := hrule.bounds
  cases kind with
  | int =>
    obtain ⟨i, hi, rfl⟩ := map_eq_ok.mp h
    obtain rfl := Option.some.inj hq
    have hlow : 0 ≤ i.toInt := by exact_mod_cast hlow
    have hhigh : i.toInt ≤ 100 := by exact_mod_cast hhigh
    -- a number beyond the whole numbers would have become one of their ends
    obtain ⟨n, hn, hclamp⟩ := toWhole_eq_ok.mp hi
    have hsame : n = i.toInt := by omega
    rw [hn, hsame]
  | float =>
    cases h
    obtain ⟨hfinite, rfl⟩ := number?_float.mp hq
    cases v with
    | float x => exact hq
    | int i =>
      show some (i.toInt : ℚ) = _
      rw [← Binary.toRat_ofInt_of_bounds hlow hhigh]
      rfl

namespace Parameters

variable {kind : FilterKind} {list : List Assignment} {p : Parameters}
  {name : String} {v c : OptionValue}
  {d : Declaration}

/-- What a declaration of whatever form and bounds gives out suits an option exactly if what it
takes does. -/
lemma suits_iff_of_check (hname : name ∈ kind.optionNames) (h : d.check v = .ok c) :
    c.Suits name ↔ v.Suits name := by
  rw [OptionValue.suits_iff hname, OptionValue.suits_iff hname]
  constructor
  · rintro ⟨q, hq, hrule⟩
    exact ⟨q, OptionValue.number_of_coerce (Declaration.check_eq_ok.mp h).1 hq hrule, hrule⟩
  · rintro ⟨q, hq, hrule⟩
    exact ⟨q, Declaration.number_of_check h hq hrule, hrule⟩

/-- An update with another value for an option denotes parameters exactly if the value suits the
option. -/
lemma exists_ofOptions_replace (h : ofOptions kind list = .ok p) (hname : name ∈ kind.optionNames) :
    (∃ r, ofOptions kind (replace name v list) = .ok r) ↔ v.Suits name := by
  obtain ⟨hperm, hsuits⟩ := exists_ofOptions.mp ⟨p, h⟩
  rw [exists_ofOptions, names_replace, and_iff_right hperm]
  have hself := find?_replace_self (hperm.symm.subset hname) v
  constructor
  · intro hall
    obtain ⟨u, hu, hsuited⟩ := hall name hname
    cases hself.symm.trans hu
    exact hsuited
  · intro hv other hother
    by_cases hsame : other = name
    · subst hsame
      exact ⟨v, hself, hv⟩
    · rw [find?_replace_of_ne hsame]
      exact hsuits other hother

end Parameters

/-- All options are open for writing. -/
def OptionModel.AllOpen (models : List OptionModel) : Prop :=
  ∀ m ∈ models, m.readOnly = false ∧ m.enabled = true

/-- The options of declarations are open to writes. -/
lemma OptionModel.allOpen_ofDeclarations (list : List Declaration) :
    AllOpen (ofDeclarations list) := by
  intro m hm
  obtain ⟨d, -, hd⟩ := List.mem_filterMap.mp hm
  obtain ⟨id, -, rfl⟩ := Option.map_eq_some_iff.mp hd
  exact ⟨rfl, rfl⟩

/-- A model that is open takes what its declaration admits. -/
lemma OptionModel.AllOpen.accept {models : List OptionModel} (h : AllOpen models) {id : OptionId}
    {m : OptionModel} (hm : findModel models id = .ok m) (v : OptionValue) :
    m.accept v = m.declaration.check v := by
  obtain ⟨hwritable, henabled⟩ := h m (List.mem_of_find?_eq_some (findModel_eq_ok.mp hm))
  rw [OptionModel.accept, hwritable, henabled]
  rfl

namespace OfflineFilter

variable {f : OfflineFilter} {id : OptionId} {v : OptionValue}

/-- A filter that can be written to: it is alive, and its options are open. -/
structure Ready (f : OfflineFilter) : Prop where
  live : f.destroyed = false
  opened : OptionModel.AllOpen f.models

/-- An offline filter takes what suits the option. -/
lemma takes_iff (hf : f.Valid) (hready : f.Ready) (id : OptionId) (v : OptionValue) :
    (∃ t, f.setOption id v = .ok t) ↔
      ∃ name ∈ f.kind.optionNames, OptionId.ofName? name = some id ∧ v.Suits name := by
  have hself : Parameters.ofOptions f.kind f.params.toOptions = .ok f.params :=
    Parameters.ofOptions_of_valid hf.params
  have hassign : ∀ {name}, name ∈ f.kind.optionNames → ∀ c : OptionValue,
      (∃ r, f.params.assign c name = .ok r) ↔ c.Suits name := by
    intro name hname c
    rw [← Parameters.ofOptions_replace hself hname]
    exact Parameters.exists_ofOptions_replace hself hname
  rw [setOption_of_live hf hready.live]
  constructor
  · rintro ⟨t, h⟩
    obtain ⟨m, hm, h⟩ := bind_eq_ok.mp h
    obtain ⟨c, hc, h⟩ := bind_eq_ok.mp h
    obtain ⟨r, hr, -⟩ := map_eq_ok.mp h
    obtain ⟨hid, hname, hd⟩ := hf.of_model hm
    have hsuits := (hassign hname c).mp ⟨r, hr⟩
    rw [hready.opened.accept hm] at hc
    exact ⟨m.name, hname, hid, (Parameters.suits_iff_of_check hname hc).mp hsuits⟩
  · rintro ⟨name, hname, hid, hsuits⟩
    obtain ⟨id', m, hid', hm, rfl⟩ := hf.serves.exists_model hname
    cases hid.symm.trans hid'
    have hm : findModel f.models id = .ok m := hm
    obtain ⟨-, -, hd⟩ := hf.of_model hm
    obtain ⟨c, hc⟩ := (Parameters.exists_check_iff hname hd).mpr hsuits
    obtain ⟨r, hr⟩ := (hassign hname c).mpr ((Parameters.suits_iff_of_check hname hc).mpr hsuits)
    refine ⟨f.moved r, bind_eq_ok.mpr ⟨m, hm, bind_eq_ok.mpr ⟨c, ?_, ?_⟩⟩⟩
    · rw [hready.opened.accept hm, hc]
    · rw [hr]
      rfl

end OfflineFilter

namespace RemoteFilter

variable {g : RemoteFilter} {models : List OptionModel} {id : OptionId} {v : OptionValue}

/-- A filter that can be written to: it is alive and its options are open, and its proxy is sound
and wired. -/
structure Ready (g : RemoteFilter) : Prop where
  live : g.destroyed = false
  opened : ∀ models, g.models? = some models → OptionModel.AllOpen models
  sound : g.proxy.spoiled = false
  wired : ∃ link, g.proxy.link? = some link

/-- A value that the declaration of an option has checked is taken if it suits the option. What is
prepared is this one value, laid over those of the record. -/
lemma takes_checked_iff (hg : g.Valid) (hready : g.Ready) (hmodels : g.models? = some models)
    (hnames : (g.proxy.record.declarations.map (·.name)).Perm g.proxy.kind.optionNames)
    {m : OptionModel} {c : OptionValue} (hm : findModel models id = .ok m)
    (hc : m.declaration.check v = .ok c) :
    (∃ s, g.prepareOption id v = .ok s) ↔ c.Suits m.name := by
  obtain ⟨link, hlink⟩ := hready.wired
  obtain ⟨p, hp⟩ := hg.proxy.params
  have hdenotes : Parameters.ofOptions g.proxy.kind g.proxy.record.current = .ok p := hp
  obtain ⟨-, hd⟩ := hg.of_model hmodels hm
  have hmem : m.declaration ∈ g.proxy.record.declarations := List.mem_of_find?_eq_some hd
  have hname : m.name ∈ g.proxy.kind.optionNames := hnames.subset (List.mem_map_of_mem hmem)
  have hcurrent := (Parameters.perm_of_ofOptions hdenotes).symm.subset hname
  have hmerge := FilterRecord.merge_one hg.proxy.kind hd (Declaration.check_idem hc) hcurrent
  have hsubmit : g.prepareOption id v = g.proxy.prepare [⟨m.name, c⟩] := by
    rw [prepareOption, models_eq_ok.mpr hmodels, ok_bind, hm, ok_bind,
      (hready.opened models hmodels).accept hm, hc,
      ok_bind, ensureLive_eq_ok.mpr hready.live, ok_bind]
  rw [hsubmit, RemoteProxy.prepare_of_merge hready.sound hlink hmerge,
    ← Parameters.exists_ofOptions_replace hdenotes hname]
  constructor
  · rintro ⟨s, hs⟩
    obtain ⟨r, hr, -⟩ := map_eq_ok.mp hs
    exact ⟨r, hr⟩
  · rintro ⟨r, hr⟩
    exact ⟨_, map_eq_ok.mpr ⟨r, hr, rfl⟩⟩

/-- A remote filter of which the options of its kind are declared takes what the declaration of an
option admits and suits the option. -/
lemma takes_iff (hg : g.Valid) (hready : g.Ready) (hmodels : g.models? = some models)
    (hnames : (g.proxy.record.declarations.map (·.name)).Perm g.proxy.kind.optionNames)
    (id : OptionId) (v : OptionValue) : (∃ s, g.prepareOption id v = .ok s) ↔
      ∃ d ∈ g.proxy.record.declarations, OptionId.ofName? d.name = some id ∧ v.Suits d.name ∧
        ∃ c, d.check v = .ok c := by
  constructor
  · rintro ⟨s, h⟩
    have hbind := h
    rw [prepareOption, models_eq_ok.mpr hmodels, ok_bind] at hbind
    obtain ⟨m, hm, hbind⟩ := bind_eq_ok.mp hbind
    obtain ⟨c, hc, -⟩ := bind_eq_ok.mp hbind
    rw [(hready.opened models hmodels).accept hm] at hc
    obtain ⟨hid, hd⟩ := hg.of_model hmodels hm
    have hmem : m.declaration ∈ g.proxy.record.declarations := List.mem_of_find?_eq_some hd
    have hname : m.name ∈ g.proxy.kind.optionNames := hnames.subset (List.mem_map_of_mem hmem)
    have htaken := (takes_checked_iff hg hready hmodels hnames hm hc).mp ⟨s, h⟩
    exact ⟨m.declaration, hmem, hid, (Parameters.suits_iff_of_check hname hc).mp htaken, c, hc⟩
  · rintro ⟨d, hd, hid, hsuits, c, hc⟩
    have hname : d.name ∈ g.proxy.kind.optionNames := hnames.subset (List.mem_map_of_mem hd)
    obtain ⟨o, ho⟩ := OptionModel.exists_find? hd hid
    obtain ⟨m, hm, hcore⟩ := find?_core (hg.models models hmodels).symm ho
    have hm := findModel_eq_ok.mpr hm
    obtain ⟨hid', hfind⟩ := hg.of_model hmodels hm
    have hsame : m.name = d.name := OptionId.ofName?_inj hid' hid
    have hnodup : (g.proxy.record.declarations.map (·.name)).Nodup :=
      hnames.nodup_iff.mpr (nodup_optionNames _)
    have hdeclaration : m.declaration = d :=
      List.inj_on_of_nodup_map hnodup (List.mem_of_find?_eq_some hfind) hd hsame
    refine (takes_checked_iff hg hready hmodels hnames hm (hdeclaration ▸ hc)).mpr ?_
    rw [hsame]
    exact (Parameters.suits_iff_of_check hname hc).mpr hsuits

/-- A filter that is made for an advertisement can be written to as soon as it is wired. -/
lemma ready_of_ofAdvertisement {kind : FilterKind} {a : Advertisement} {topic : String}
    (h : ofAdvertisement kind a topic = .ok g) (link : LinkNumber) :
    ({ g with proxy := g.proxy.wire link } : RemoteFilter).Ready := by
  obtain ⟨r, -, h⟩ := bind_eq_ok.mp h
  obtain ⟨d, hd, h⟩ := bind_eq_ok.mp h
  obtain ⟨p, hp, hd⟩ := bind_eq_ok.mp hd
  obtain rfl := pure_eq_ok.mp hd
  have hsound : p.spoiled = false := by
    obtain ⟨stated, -, hp⟩ := bind_eq_ok.mp hp
    dsimp only at hp
    split at hp
    · cases hp
    · obtain ⟨q, -, hp⟩ := bind_eq_ok.mp hp
      obtain ⟨name, -, hp⟩ := bind_eq_ok.mp hp
      obtain rfl := pure_eq_ok.mp hp
      rfl
  obtain rfl := Except.ok.inj h
  exact {
    live := rfl
    opened := by
      rintro models ⟨⟩
      exact OptionModel.allOpen_ofDeclarations _
    sound := hsound
    wired := ⟨link, rfl⟩ }

end RemoteFilter

namespace Sensor

variable {a : Advertisement} {topic : String} {f : OfflineFilter} {g : RemoteFilter}

/-- An offline filter that stands in for an advertised one has the parameters that the advertised
values denote. -/
lemma of_offlineFilter_ok (h : offlineFilter a = .ok f) :
    f.Valid ∧ f.Ready ∧ ∃ r, FilterRecord.ofAdvertisement a = .ok r ∧
      Parameters.ofOptions a.kind r.current = .ok f.params := by
  obtain ⟨r, hr, h⟩ := bind_eq_ok.mp h
  obtain ⟨name, -, h⟩ := bind_eq_ok.mp h
  obtain ⟨kind, hkind, h⟩ := bind_eq_ok.mp h
  obtain ⟨params, hparams, hbuild⟩ := bind_eq_ok.mp h
  obtain ⟨-, hstated, -⟩ := FilterRecord.ofAdvertisement_ok hr
  rw [FilterRecord.kind, hstated] at hkind
  obtain rfl : a.kind = kind := Except.ok.inj hkind
  have hvalid := OfflineFilter.valid_withParams hbuild
  obtain ⟨⟨⟩, -, rfl⟩ := map_eq_ok.mp hbuild
  exact ⟨hvalid, ⟨rfl, OptionModel.allOpen_ofDeclarations _⟩, r, hr, hparams⟩

/-- The offline filter and the remote one for an advertisement start from the same parameters, and
both can be written to, the remote one once it is wired. At any later time at which they can be
written to, the offline filter takes a value for an option exactly if the number that it stands for
obeys the rule of the option, whatever has been advertised; and the remote filter takes it exactly
if the offline one does and what has been declared of the option admits it. -/
theorem offline_obeys_kind (hf : filterFor true topic a = .ok (.offline f))
    (hg : filterFor false topic a = .ok (.remote g)) :
    g.proxy.params = .ok f.params ∧ f.Ready ∧
      (∀ link, ({ g with proxy := g.proxy.wire link } : RemoteFilter).Ready) ∧
      ∀ (later : OfflineFilter) (last : RemoteFilter), f.Evolves later → later.Ready →
        g.Evolves last → last.Ready →
        ∀ (id : OptionId) (v : OptionValue),
          ((∃ t, later.setOption id v = .ok t) ↔ ∃ name ∈ a.kind.optionNames,
            OptionId.ofName? name = some id ∧ ∃ q, v.number? = some q ∧ OptionRule name q) ∧
          ((∃ s, last.prepareOption id v = .ok s) ↔ (∃ t, later.setOption id v = .ok t) ∧
            ∃ d ∈ a.options, OptionId.ofName? d.name = some id ∧ ∃ c, d.check v = .ok c) := by
  obtain ⟨f', hoff, hsame⟩ := map_eq_ok.mp hf
  obtain rfl := Filter.offline.inj hsame
  obtain ⟨g', hrem, hsame⟩ := map_eq_ok.mp hg
  obtain rfl := Filter.remote.inj hsame
  obtain ⟨hvalid, hready, r, hr, hparams⟩ := of_offlineFilter_ok hoff
  obtain ⟨hgvalid, hgkind, hrecord⟩ := RemoteFilter.ofAdvertisement_ok hrem
  cases hr.symm.trans hrecord
  have hgparams : g'.proxy.params = .ok f'.params := by
    rw [RemoteProxy.params, hgkind]
    exact hparams
  refine ⟨hgparams, hready, RemoteFilter.ready_of_ofAdvertisement hrem,
    fun k l hk hkready hl hlready id v => ?_⟩
  have hkind : k.kind = a.kind := hk.kind.trans (Parameters.kind_of_ofOptions hparams)
  have hlkind : l.proxy.kind = a.kind := hl.proxy.kind.trans hgkind
  obtain ⟨-, -, hstated, hnames⟩ := FilterRecord.ofAdvertisement_ok hr
  have hperm : (a.options.map (·.name)).Perm a.kind.optionNames :=
    hnames ▸ Parameters.perm_of_ofOptions hparams
  have hdeclarations : l.proxy.record.declarations = a.options := by
    rw [FilterRecord.declarations, hl.proxy.declarations?, hstated]
    rfl
  obtain ⟨models, hmodels⟩ := RemoteFilter.models_of_ofAdvertisement hrem
  obtain ⟨last, hlast, -⟩ := hl.kept models hmodels
  have hoffline := OfflineFilter.takes_iff (hk.valid hvalid) hkready id v
  have hremote := RemoteFilter.takes_iff (hl.models hgvalid) hlready hlast
    (by rw [hdeclarations, hlkind]; exact hperm) id v
  rw [hkind] at hoffline
  rw [hdeclarations] at hremote
  refine ⟨hoffline.trans ?_, hremote.trans ?_⟩
  · refine exists_congr fun name => and_congr_right fun hname => and_congr_right fun _ => ?_
    exact OptionValue.suits_iff hname
  · rw [hoffline]
    constructor
    · rintro ⟨d, hd, hid, hsuits, hcheck⟩
      exact ⟨⟨d.name, hperm.subset (List.mem_map_of_mem hd), hid, hsuits⟩, d, hd, hid, hcheck⟩
    · rintro ⟨⟨name, -, hid, hsuits⟩, d, hd, hid', hcheck⟩
      obtain rfl := OptionId.ofName?_inj hid hid'
      exact ⟨d, hd, hid', hsuits, hcheck⟩

/-- An advertisement that declares delta between 0 and 50. -/
def narrow : Advertisement where
  name := "depth"
  kind := .temporal
  options := [.int "Toggle" 0 1 1 0 none,
    .float "Alpha" (.ofInt .double 0) (.ofInt .double 1) (.ofInt .double 1)
      (.ofInt .double 1) none, .int "Delta" 0 50 1 20 none, .int "Persistency" 0 8 1 3 none]
  stream := .null
  current := []

/-- Is there an offline filter for an advertisement, and a remote one, both as asked for? -/
def standIn? (topic : String) (a : Advertisement) (p : OfflineFilter → RemoteFilter → Bool) :
    Bool :=
  match filterFor true topic a, filterFor false topic a with
  | .ok (.offline f), .ok (.remote g) => p f g
  | _, _ => false

/-- What the search for a stand-in reports holds of the two filters it has built. -/
lemma of_standIn? {p : OfflineFilter → RemoteFilter → Bool} (h : standIn? topic a p = true) :
    ∃ f g, filterFor true topic a = .ok (.offline f) ∧ filterFor false topic a = .ok (.remote g) ∧
      p f g = true := by
  unfold standIn? at h
  split at h
  · rename_i f g hf hg
    exact ⟨f, g, hf, hg, h⟩
  · cases h

/-- Delta can be set to 80 offline although the advertisement declares it to be 50 at most. -/
theorem offline_exceeds_advertised_bounds :
    ¬ ∀ (topic : String) (a : Advertisement) (f : OfflineFilter)
    (g : RemoteFilter) (link : LinkNumber), filterFor true topic a = .ok (.offline f) →
    filterFor false topic a = .ok (.remote g) → g.proxy.params = .ok f.params ∧
      ∀ (id : OptionId) (v : OptionValue), (∃ t, f.setOption id v = .ok t) ↔
        ∃ s, ({ g with proxy := g.proxy.wire link } : RemoteFilter).prepareOption id v = .ok s := by
  intro hall
  have hfound : standIn? "control" narrow (fun f g => (f.setOption .delta (.int 80)).toBool &&
      !(({ g with proxy := g.proxy.wire 0 } : RemoteFilter).prepareOption .delta
        (.int 80)).toBool) = true := by
    decide +kernel
  obtain ⟨f, g, hf, hg, hfound⟩ := of_standIn? hfound
  rw [Bool.and_eq_true, Bool.not_eq_true'] at hfound
  obtain ⟨htaken, hrefused⟩ := hfound
  obtain ⟨s, hs⟩ :=
    ((hall "control" narrow f g 0 hf hg).2 .delta (.int 80)).mp (Outcome.exists_of_toBool htaken)
  rw [hs] at hrefused
  cases hrefused

/-- The filters for the narrow advertisement. -/
theorem narrow_obeys_kind : ∃ f g, filterFor true "control" narrow = .ok (.offline f) ∧
    filterFor false "control" narrow = .ok (.remote g) ∧ g.proxy.params = .ok f.params ∧ f.Ready ∧
    (∀ link, ({ g with proxy := g.proxy.wire link } : RemoteFilter).Ready) ∧
    ∀ (later : OfflineFilter) (last : RemoteFilter), f.Evolves later → later.Ready →
      g.Evolves last → last.Ready →
      ∀ (id : OptionId) (v : OptionValue),
        ((∃ t, later.setOption id v = .ok t) ↔ ∃ name ∈ narrow.kind.optionNames,
          OptionId.ofName? name = some id ∧ ∃ q, v.number? = some q ∧ OptionRule name q) ∧
        ((∃ s, last.prepareOption id v = .ok s) ↔ (∃ t, later.setOption id v = .ok t) ∧
          ∃ d ∈ narrow.options, OptionId.ofName? d.name = some id ∧ ∃ c, d.check v = .ok c) := by
  have hfound : standIn? "control" narrow (fun _ _ => true) = true := by decide +kernel
  obtain ⟨f, g, hf, hg, -⟩ := of_standIn? hfound
  exact ⟨f, g, hf, hg, offline_obeys_kind hf hg⟩

end Sensor

end EmbeddedFilters
