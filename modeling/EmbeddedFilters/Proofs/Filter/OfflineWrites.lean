import EmbeddedFilters.Proofs.Filter.Announcing
import EmbeddedFilters.Proofs.Filter.Surfaces

/-!
# What a write does to an offline filter

The write of an option that an offline filter takes sets the one field of its parameters that the
option stands for, to the value in the declared form, and leaves the others alone
(`Parameters.Sets`, `OfflineFilter.of_setOption`). The subscribers of each option that can be
queried with another value than before are told this value, in wire order (`OfflineFilter.news`,
`OfflineFilter.moved_calm`). So a subscriber who starts from what can be queried and remembers what
it was told last has what can be queried (`OfflineFilter.remembers_news`).
-/

namespace EmbeddedFilters

open Outcome Assignment

namespace OptionValue

variable {u v w : OptionValue}

/-- Two values agree in either order. -/
lemma agrees_symm (h : u.agrees v = true) : v.agrees u = true := by
  cases u <;> cases v <;> simp_all [agrees, Binary.agrees]

/-- Values that agree with one value agree with each other. -/
lemma agrees_trans (h : u.agrees v = true) (h' : v.agrees w = true) : u.agrees w = true := by
  cases u <;> cases v <;> cases w <;> simp_all [agrees, Binary.agrees]

end OptionValue

/-- Two lists with the same names that are gone through side by side are gone through name by
name. -/
lemma Assignment.flatMap_zip {β : Type} {list other : List Assignment}
    (hnames : names list = names other)
    (hnd : (names list).Nodup) (g : String → OptionValue → OptionValue → List β) :
    (list.zip other).flatMap (fun x => g x.1.name x.1.value x.2.value) =
      (names list).flatMap fun name => match find? name list, find? name other with
        | some u, some v => g name u v
        | _, _ => [] := by
  induction list generalizing other with
  | nil => rfl
  | cons a list ih =>
    cases other with
    | nil => cases hnames
    | cons b other =>
      obtain ⟨hname, hrest⟩ : a.name = b.name ∧ names list = names other := List.cons.inj hnames
      obtain ⟨hnew, hnd⟩ := List.nodup_cons.mp hnd
      rw [List.zip_cons_cons, List.flatMap_cons, names_cons, List.flatMap_cons,
        find?_cons, find?_cons, if_pos rfl,
        if_pos hname.symm, ih hrest hnd]
      congr 1
      refine List.flatMap_congr fun name hmem => ?_
      have hne : a.name ≠ name := by
        rintro rfl
        exact hnew hmem
      rw [find?_cons, if_neg hne, find?_cons, if_neg (hname ▸ hne)]

namespace Parameters

/-- One field of the parameters takes a value in the form that its option declares, and alpha the
number of 32 bits that is nearest to it. The other fields stay. -/
inductive Sets : Parameters → String → OptionValue → Parameters → Prop where
  | decimationFlag (p : Decimation) (on : Bool) :
    Sets (.decimation p) "Toggle" (.ofBool on) (.decimation { p with enabled := on })
  | magnitude (p : Decimation) (m : UInt8) :
    Sets (.decimation p) "Magnitude" (.int (.ofNat m.toNat)) (.decimation { p with magnitude := m })
  | temporalFlag (p : Temporal) (on : Bool) :
    Sets (.temporal p) "Toggle" (.ofBool on) (.temporal { p with enabled := on })
  | alpha (p : Temporal) (x : Double) (nearest : (x.convert .single).IsNearest x.toRat) :
    Sets (.temporal p) "Alpha" (.float x) (.temporal { p with alpha := x.convert .single })
  | delta (p : Temporal) (i : Int32) :
    Sets (.temporal p) "Delta" (.ofInt32 i) (.temporal { p with delta := i })
  | persistency (p : Temporal) (i : Int32) :
    Sets (.temporal p) "Persistency" (.ofInt32 i) (.temporal { p with persistency := i })

variable {p r : Parameters} {name : String} {c v : OptionValue} {d : Declaration}

/-- A whole number that is narrowed after a check is the one that the outcome is widened to. -/
lemma ofInt32_of_checked {field : String} {i high : Int64} {out : Int32} (hhigh : high.toInt ≤ 100)
    (h : (do Check.whole field i 0 high; return i.toInt32 : Except FilterError Int32) = .ok out) :
    OptionValue.int i = .ofInt32 out := by
  obtain ⟨⟨⟩, hwhole, hpure⟩ := bind_eq_ok.mp h
  obtain rfl := pure_eq_ok.mp hpure
  obtain ⟨hlow, hle⟩ := Check.whole_eq_ok.mp hwhole
  have hzero : (0 : Int64).toInt = 0 := rfl
  rw [OptionValue.ofInt32, toInt64_toInt32 (by omega) (by omega)]

/-- A value of the integer form is an integer. -/
lemma int_of_kind (h : c.kind = .int) : ∃ i, c = .int i := by
  cases c with
  | int i => exact ⟨i, rfl⟩
  | float x => cases h

/-- A flag that is read from a whole number is the one that the number stands for. -/
lemma ofBool_of_flag {field : String} {i : Int64} {on : Bool} (h : Check.flag field i = .ok on) :
    OptionValue.int i = .ofBool on := by
  rw [Check.flag_eq_ok.mp h]
  rfl

/-- Assigning an option of a decimation filter sets this option and no other. -/
lemma sets_of_assign_decimation {p r : Decimation}
    (hname : name ∈ FilterKind.optionNames .decimation) (hc : c.kind = .int)
    (h : p.assign c name = .ok r) : Sets (.decimation p) name c (.decimation r) := by
  obtain ⟨i, rfl⟩ := int_of_kind hc
  obtain rfl | rfl := mem_decimation.mp hname
  · simp only [Decimation.assign, OptionValue.toWhole, ok_bind, bind_eq_ok, pure_eq_ok] at h
    obtain ⟨on, hon, rfl⟩ := h
    rw [ofBool_of_flag hon]
    exact .decimationFlag p on
  · simp only [Decimation.assign, OptionValue.toWhole, ok_bind, bind_eq_ok, pure_eq_ok] at h
    obtain ⟨m, hm, rfl⟩ := h
    obtain ⟨rfl, rfl⟩ := Decimation.checkMagnitude_eq_ok.mp hm
    exact .magnitude p 2

/-- Assigning an option of a temporal filter sets this option and no other. -/
lemma sets_of_assign_temporal {p r : Temporal} (hname : name ∈ FilterKind.optionNames .temporal)
    (hc : c.kind = if name = "Alpha" then .float else .int) (h : p.assign c name = .ok r) :
    Sets (.temporal p) name c (.temporal r) := by
  obtain rfl | rfl | rfl | rfl := mem_temporal.mp hname
  · obtain ⟨i, rfl⟩ := int_of_kind hc
    simp only [Temporal.assign, OptionValue.toWhole, ok_bind, bind_eq_ok, pure_eq_ok] at h
    obtain ⟨on, hon, rfl⟩ := h
    rw [ofBool_of_flag hon]
    exact .temporalFlag p on
  · cases c with
    | int i => cases hc
    | float x =>
      simp only [Temporal.assign, OptionValue.toDouble, bind_eq_ok, pure_eq_ok] at h
      obtain ⟨alpha, halpha, rfl⟩ := h
      have hfinite := (Temporal.checkAlpha_ok halpha).1.isFinite
      have hnearest :=
        alpha_nearest (v := .float x) halpha (OptionValue.number?_float.mpr ⟨hfinite, rfl⟩)
      obtain ⟨⟨⟩, -, hpure⟩ := bind_eq_ok.mp halpha
      obtain rfl := pure_eq_ok.mp hpure
      exact .alpha p x hnearest
  · obtain ⟨i, rfl⟩ := int_of_kind hc
    simp only [Temporal.assign, OptionValue.toWhole, ok_bind, bind_eq_ok, pure_eq_ok] at h
    obtain ⟨delta, hdelta, rfl⟩ := h
    rw [ofInt32_of_checked (by decide) hdelta]
    exact .delta p delta
  · obtain ⟨i, rfl⟩ := int_of_kind hc
    simp only [Temporal.assign, OptionValue.toWhole, ok_bind, bind_eq_ok, pure_eq_ok] at h
    obtain ⟨persistency, hpersistency, rfl⟩ := h
    rw [ofInt32_of_checked (by decide) hpersistency]
    exact .persistency p persistency

/-- The option of a kind that is no whole number is alpha. -/
lemma kind_of_declaration {kind : FilterKind} (hd : d ∈ declarations kind) :
    d.kind = if d.name = "Alpha" then .float else .int := by
  cases kind with
  | decimation =>
    simp only [declarations, Decimation.declarations, List.mem_cons,
      List.not_mem_nil, or_false] at hd
    obtain rfl | rfl := hd <;> rfl
  | temporal =>
    simp only [declarations, Temporal.declarations, List.mem_cons, List.not_mem_nil, or_false] at hd
    obtain rfl | rfl | rfl | rfl := hd <;> rfl

/-- A value in the declared form that is assigned to an option is what the field of the option
takes. -/
lemma sets_of_assign (hname : name ∈ p.kind.optionNames)
    (hd : (declarations p.kind).find? (fun d => d.name == name) = some d) (hc : c.kind = d.kind)
    (h : p.assign c name = .ok r) : p.Sets name c r := by
  have hdname : d.name = name := by simpa using List.find?_some hd
  have hform := hc.trans (kind_of_declaration (List.mem_of_find?_eq_some hd))
  rw [hdname] at hform
  cases p with
  | decimation p =>
    obtain ⟨q, hq, rfl⟩ := map_eq_ok.mp h
    refine sets_of_assign_decimation hname ?_ hq
    obtain rfl | rfl := mem_decimation.mp hname <;> exact hform
  | temporal p =>
    obtain ⟨q, hq, rfl⟩ := map_eq_ok.mp h
    exact sets_of_assign_temporal hname hform hq

end Parameters

namespace OfflineFilter

variable {f g : OfflineFilter} {id : OptionId} {m : OptionModel} {name : String} {v : OptionValue}

/-- None of the subscribers that are told of changes fails badly. -/
def Calm (f : OfflineFilter) : Prop := ∀ m ∈ f.watcher.active, m.listener.panics = false

/-- The filter with new parameters, of which it has told its subscribers. -/
def moved (f : OfflineFilter) (p : Parameters) : Told OfflineFilter :=
  (f.watcher.announce (changes f.params p)).map fun watcher => { f with params := p, watcher }

/-- The parameters of an option that is set by a value in the declared form. -/
def SetsOption (f : OfflineFilter) (id : OptionId) (v : OptionValue) (p : Parameters) : Prop :=
  ∃ d c, d ∈ Parameters.declarations f.kind ∧ OptionId.ofName? d.name = some id ∧
    v.coerce d.kind d.name = .ok c ∧ f.params.Sets d.name c p

/-- The deliveries that a change of a filter into another one calls for: for one option after
another in wire order, if it can be queried with another value then, this value to every active
subscriber of the option, in the order of subscription. -/
def news (f g : OfflineFilter) : List Delivery :=
  f.kind.optionNames.flatMap fun name =>
    match OptionId.ofName? name with
    | none => []
    | some id =>
      match (Filter.offline f).query id, (Filter.offline g).query id with
      | .ok old, .ok new =>
        if new.agrees old then []
        else (f.watcher.active.filter (·.id == id)).map fun m => ⟨m.listener, id, new⟩
      | _, _ => []

/-! ### Options -/

/-- A valid filter stays valid with other valid parameters of its kind. -/
lemma Valid.withParams (hf : f.Valid) {p : Parameters} (hkind : p.kind = f.kind)
    (hp : p.validate = .ok ()) :
    ({ f with params := p } : OfflineFilter).Valid where
  params := hp
  models := by
    show f.models.map RemoteFilter.core =
      (OptionModel.ofDeclarations (Parameters.declarations p.kind)).map _
    rw [hkind]
    exact hf.models

/-- A valid filter serves the options of its kind. -/
lemma Valid.serves (hf : f.Valid) : (Filter.offline f).Serves f.kind := by
  have hnames : (Parameters.declarations f.kind).map (·.name) = f.kind.optionNames := by
    cases f.kind <;> rfl
  exact ⟨rfl, f.models, Parameters.declarations f.kind, rfl, hf.models, .of_eq hnames⟩

/-- The model with a number is that of an option of the kind, which it declares as the kind does. -/
lemma Valid.of_model (hf : f.Valid) (hm : findModel f.models id = .ok m) :
    OptionId.ofName? m.name = some id ∧ m.name ∈ f.kind.optionNames ∧
      (Parameters.declarations f.kind).find? (fun d => d.name == m.name) = some m.declaration := by
  have hserved : (Filter.offline f).model id = .ok m := hm
  obtain ⟨hname, hid⟩ := hf.serves.of_model hserved
  obtain ⟨o, ho, hcore⟩ := RemoteFilter.find?_core hf.models (findModel_eq_ok.mp hm)
  have hdeclaration : o.declaration = m.declaration := congrArg Prod.snd hcore
  have hfound := (RemoteFilter.find?_ofDeclarations ho).2
  rw [OptionModel.name, hdeclaration] at hfound
  exact ⟨hid, hname, hfound⟩

/-- An option is queried as the value that the parameters state for it. -/
lemma Valid.query (hf : f.Valid) (hname : name ∈ f.kind.optionNames)
    (hid : OptionId.ofName? name = some id) (hv : find? name f.params.toOptions = some v) :
    (Filter.offline f).query id = .ok v := by
  obtain ⟨id', m, hid', hm, rfl⟩ := hf.serves.exists_model hname
  cases hid.symm.trans hid'
  refine bind_eq_ok.mpr ⟨m, hm, ?_⟩
  show f.value m.name = .ok v
  rw [OfflineFilter.value, hv]

/-- What can be queried is the value of an option. -/
lemma Valid.of_query (hf : f.Valid) (h : (Filter.offline f).query id = .ok v) :
    ∃ name ∈ f.kind.optionNames, OptionId.ofName? name = some id ∧
      find? name f.params.toOptions = some v := by
  obtain ⟨m, hm, hvalue⟩ := bind_eq_ok.mp h
  obtain ⟨hname, hid⟩ := hf.serves.of_model hm
  obtain ⟨u, hu⟩ := Parameters.exists_find? (p := f.params) hname
  refine ⟨m.name, hname, hid, hu.trans ?_⟩
  have hvalue : f.value m.name = .ok v := hvalue
  rw [OfflineFilter.value, hu] at hvalue
  cases hvalue
  rfl

/-! ### Writes -/

/-- A live filter is moved to the new parameters, if there are any. -/
lemma update_of_live (hlive : f.destroyed = false)
    (next : Parameters → Except FilterError Parameters) :
    f.update next = (next f.params).map f.moved := by
  have hopen : ¬ f.destroyed = true := by simp [hlive]
  rw [update, if_neg hopen]
  cases next f.params <;> rfl

/-- The write of an option through its model assigns the value in the declared form to one field. -/
lemma setOption_of_live (hf : f.Valid) (hlive : f.destroyed = false)
    (id : OptionId) (v : OptionValue) :
    f.setOption id v = (do
      let m ← findModel f.models id
      (f.params.assign (← m.accept v) m.name).map f.moved) := by
  rw [setOption]
  cases hm : findModel f.models id with
  | error e => rfl
  | ok m =>
    rw [ok_bind, ok_bind]
    cases m.accept v with
    | error e => rfl
    | ok c =>
      obtain ⟨-, hname, -⟩ := hf.of_model hm
      have hnames : m.name ∈ names f.params.toOptions := by
        rw [Parameters.names_toOptions]
        exact hname
      have hself : Parameters.ofOptions f.kind f.params.toOptions = .ok f.params :=
        Parameters.ofOptions_of_valid hf.params
      rw [ok_bind, ok_bind, setValue, update_of_live hlive,
        overlay_eq_ok.mpr ⟨hnames, rfl⟩, ok_bind,
        Parameters.ofOptions_replace hself hname]

/-- Only a live filter is updated. -/
lemma live_of_update {next : Parameters → Except FilterError Parameters} {t : Told OfflineFilter}
    (h : f.update next = .ok t) : f.destroyed = false := by
  unfold update at h
  split at h
  · cases h
  · rename_i hlive
    exact Bool.not_eq_true _ ▸ hlive

/-- Only a live filter has an option set. -/
lemma live_of_setOption {t : Told OfflineFilter} (h : f.setOption id v = .ok t) :
    f.destroyed = false := by
  obtain ⟨m, -, h⟩ := bind_eq_ok.mp h
  obtain ⟨c, -, h⟩ := bind_eq_ok.mp h
  exact live_of_update h

/-- Only a live filter takes bytes. -/
lemma live_of_setBytes {bytes : List UInt8} {t : Told OfflineFilter}
    (h : f.setBytes bytes = .ok t) :
    f.destroyed = false := by
  obtain ⟨p, -, h⟩ := bind_eq_ok.mp h
  exact live_of_update h

/-- A write that has been taken has set the option, and the filter has moved to what has come of
it. -/
lemma of_setOption (hf : f.Valid) {t : Told OfflineFilter} (h : f.setOption id v = .ok t) :
    ∃ p, f.SetsOption id v p ∧ p.kind = f.kind ∧ p.validate = .ok () ∧ t = f.moved p := by
  have hlater := evolves_setOption h
  rw [setOption_of_live hf (live_of_setOption h)] at h
  obtain ⟨m, hm, h⟩ := bind_eq_ok.mp h
  obtain ⟨c, haccept, h⟩ := bind_eq_ok.mp h
  obtain ⟨p, hp, rfl⟩ := map_eq_ok.mp h
  obtain ⟨hid, hname, hd⟩ := hf.of_model hm
  have hcoerce := (Declaration.check_eq_ok.mp (OptionModel.of_accept haccept).2.2).1
  refine ⟨p, ⟨m.declaration, c, List.mem_of_find?_eq_some hd, hid, hcoerce, ?_⟩, hlater.kind,
    hlater.params hf.params, rfl⟩
  exact Parameters.sets_of_assign hname hd (OptionValue.kind_of_coerce hcoerce) hp

/-- A buffer that has been taken denotes the parameters that the filter has moved to. -/
lemma of_setBytes {bytes : List UInt8} {t : Told OfflineFilter} (h : f.setBytes bytes = .ok t) :
    ∃ p, Parameters.decode f.kind bytes = .ok p ∧ p.kind = f.kind ∧
      p.validate = .ok () ∧ t = f.moved p := by
  have hlive := live_of_setBytes h
  obtain ⟨p, hp, h⟩ := bind_eq_ok.mp h
  obtain ⟨hkind, hvalid⟩ := Parameters.decode_ok hp
  rw [apply, update_of_live hlive, hvalid] at h
  cases h
  exact ⟨p, hp, hkind, hvalid, rfl⟩

/-! ### News -/

/-- A calm filter that moves to other parameters of its kind tells its news, and is the same
otherwise. -/
lemma moved_calm (hf : f.Valid) (hcalm : f.Calm) {p : Parameters} (hkind : p.kind = f.kind)
    (hp : p.validate = .ok ()) :
    f.moved p = ⟨{ f with params := p }, f.news { f with params := p }, false⟩ := by
  have hg := hf.withParams hkind hp
  have hnames : names p.toOptions = names f.params.toOptions := by
    rw [Parameters.names_toOptions, Parameters.names_toOptions, hkind]
    rfl
  let told : Change → List Delivery := fun c =>
    (f.watcher.active.filter (·.id == c.1)).map fun m => ⟨m.listener, c.1, c.2⟩
  have hnews : (changes f.params p).flatMap told = f.news { f with params := p } := by
    rw [changes, List.filterMap_eq_flatMap_toList, List.flatMap_assoc]
    refine (flatMap_zip hnames p.nodup_toOptions fun name new old =>
      (if new.agrees old then none else
        (OptionId.ofName? name).map fun id => (id, new)).toList.flatMap
        told).trans ?_
    rw [Parameters.names_toOptions, hkind, news]
    refine List.flatMap_congr fun name hname => ?_
    obtain ⟨id, hid⟩ := FilterKind.exists_id hname
    obtain ⟨old, hold⟩ := Parameters.exists_find? (p := f.params) hname
    have hname' : name ∈ p.kind.optionNames := by
      rw [hkind]
      exact hname
    obtain ⟨new, hnew⟩ := Parameters.exists_find? hname'
    have hbefore := hf.query hname hid hold
    have hafter := hg.query hname' hid hnew
    simp only [hid, hold, hnew, hbefore, hafter]
    cases new.agrees old <;> simp [told]
  rw [moved, Watcher.announce_calm hcalm, ← hnews]
  rfl

end OfflineFilter

/-- What a subscriber remembers who starts from a value and keeps what it was told last. -/
def Subscriber.remembers (m : Subscriber) (start : OptionValue) (told : List Delivery) :
    OptionValue :=
  told.foldl (fun v d => if d.listener = m.listener ∧ d.id = m.id then d.value else v) start

namespace Subscriber

variable {m : Subscriber} {start v : OptionValue} {told : List Delivery}

/-- What is remembered after two runs of deliveries is remembered after one and then the other. -/
lemma remembers_append (m : Subscriber) (start : OptionValue) (first last : List Delivery) :
    m.remembers start (first ++ last) = m.remembers (m.remembers start first) last :=
  List.foldl_append

/-- Deliveries of other options leave the memory of a subscriber as it is. -/
lemma remembers_of_unconcerned (h : ∀ d ∈ told, d.id ≠ m.id) : m.remembers start told = start := by
  induction told with
  | nil => rfl
  | cons d told ih =>
    obtain ⟨hd, hrest⟩ := List.forall_mem_cons.mp h
    have hskip : m.remembers start (d :: told) = m.remembers start told :=
      congrArg (m.remembers · told) (if_neg fun hsame => hd hsame.2)
    rw [hskip, ih hrest]

/-- A subscriber who is told one value remembers it, and so does one who has it already. -/
lemma remembers_of_same (hvalue : ∀ d ∈ told, d.listener = m.listener → d.id = m.id → d.value = v)
    (h : start = v ∨ ∃ d ∈ told, d.listener = m.listener ∧ d.id = m.id) :
    m.remembers start told = v := by
  induction told generalizing start with
  | nil =>
    obtain rfl | ⟨d, hd, -⟩ := h
    · rfl
    · cases hd
  | cons d told ih =>
    obtain ⟨hfirst, hrest⟩ := List.forall_mem_cons.mp hvalue
    apply ih hrest
    by_cases hsame : d.listener = m.listener ∧ d.id = m.id
    · exact .inl ((if_pos hsame).trans (hfirst hsame.1 hsame.2))
    · obtain rfl | ⟨e, he, hme⟩ := h
      · exact .inl (if_neg hsame)
      · obtain rfl | he := List.mem_cons.mp he
        · exact absurd hme hsame
        · exact .inr ⟨e, he, hme⟩

end Subscriber

namespace OfflineFilter

variable {f g : OfflineFilter} {d : Delivery} {m : Subscriber} {v u : OptionValue}

/-- A delivery that is called for goes to an active subscriber of an option, with the value that the
option can be queried with then, which is another one than before. -/
lemma mem_news (hf : f.Valid) (hg : g.Valid) (hkind : g.kind = f.kind) : d ∈ f.news g ↔
    ∃ old, (Filter.offline f).query d.id = .ok old ∧ (Filter.offline g).query d.id = .ok d.value ∧
      d.value.agrees old = false ∧ ∃ m ∈ f.watcher.active, m.id = d.id ∧
      m.listener = d.listener := by
  constructor
  · intro h
    obtain ⟨name, hname, hd⟩ := List.mem_flatMap.mp h
    obtain ⟨id, hid⟩ := FilterKind.exists_id hname
    obtain ⟨old, hold⟩ := Parameters.exists_find? (p := f.params) hname
    obtain ⟨new, hnew⟩ :=
      Parameters.exists_find? (p := g.params) (hkind.symm ▸ hname : name ∈ g.kind.optionNames)
    have hbefore := hf.query hname hid hold
    have hafter := hg.query (hkind.symm ▸ hname) hid hnew
    simp only [hid, hbefore, hafter] at hd
    split at hd
    · cases hd
    · rename_i hdiffers
      obtain ⟨m, hm, rfl⟩ := List.mem_map.mp hd
      obtain ⟨hactive, hsame⟩ := List.mem_filter.mp hm
      exact ⟨old, hbefore, hafter, Bool.not_eq_true _ ▸ hdiffers, m, hactive,
        beq_iff_eq.mp hsame, rfl⟩
  · rintro ⟨old, hbefore, hafter, hdiffers, m, hactive, hid, hlistener⟩
    obtain ⟨name, hname, hnumber, -⟩ := hf.of_query hbefore
    refine List.mem_flatMap.mpr ⟨name, hname, ?_⟩
    simp only [hnumber, hbefore, hafter, hdiffers, Bool.false_eq_true, if_false]
    refine List.mem_map.mpr ⟨m, List.mem_filter.mpr ⟨hactive, beq_iff_eq.mpr hid⟩, ?_⟩
    rw [hlistener]

/-- A subscriber who has what can be queried has it after it has been told the news. -/
lemma remembers_news (hf : f.Valid) (hg : g.Valid) (hkind : g.kind = f.kind)
    (hm : m ∈ f.watcher.active) (hu : (Filter.offline f).query m.id = .ok u)
    (hv : v.agrees u = true) :
    ∃ u', (Filter.offline g).query m.id = .ok u' ∧ (m.remembers v (f.news g)).agrees u' = true := by
  obtain ⟨name, hname, hid, -⟩ := hf.of_query hu
  obtain ⟨u', hfind⟩ :=
    Parameters.exists_find? (p := g.params) (hkind.symm ▸ hname : name ∈ g.kind.optionNames)
  have hu' := hg.query (hkind.symm ▸ hname) hid hfind
  refine ⟨u', hu', ?_⟩
  cases hsame : u'.agrees u with
  | true =>
    -- nothing is told of the option
    have hnone : ∀ d ∈ f.news g, d.id ≠ m.id := by
      intro d hd heq
      obtain ⟨old, hbefore, hafter, hdiffers, -⟩ := (mem_news hf hg hkind).mp hd
      rw [heq] at hbefore hafter
      cases hbefore.symm.trans hu
      cases hafter.symm.trans hu'
      rw [hsame] at hdiffers
      cases hdiffers
    rw [Subscriber.remembers_of_unconcerned hnone]
    exact OptionValue.agrees_trans hv (OptionValue.agrees_symm hsame)
  | false =>
    have htold : ⟨m.listener, m.id, u'⟩ ∈ f.news g :=
      (mem_news hf hg hkind).mpr ⟨u, hu, hu', hsame, m, hm, rfl, rfl⟩
    have hvalue : ∀ d ∈ f.news g, d.listener = m.listener → d.id = m.id → d.value = u' := by
      intro d hd _ heq
      obtain ⟨-, -, hafter, -⟩ := (mem_news hf hg hkind).mp hd
      rw [heq, hu'] at hafter
      cases hafter
      rfl
    rw [Subscriber.remembers_of_same hvalue (.inr ⟨_, htold, rfl, rfl⟩)]
    exact Parameters.agrees_self hg.params hfind

end OfflineFilter

end EmbeddedFilters
