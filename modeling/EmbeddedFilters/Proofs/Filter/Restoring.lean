import EmbeddedFilters.Proofs.Filter.OfflineWrites
import EmbeddedFilters.Proofs.Parameters.Admission
import EmbeddedFilters.Proofs.Settings

/-!
# Restoring an offline filter

A stored value is not written to an option if it lies outside of the range of the option, or if the
option has it already. Neither can be told from trying to write it: in the one case the filter
refuses the value, and in the other nobody is told of anything and the parameters agree afterwards
(`Settings.candidate?_cases`). Filters that agree but for the sign of a zero do the same with every
write (`OfflineFilter.setOption_alike`). So the stored values leave filters that agree, and the same
has been told, whether those are passed over or tried (`Settings.restores_alike`).
-/

namespace EmbeddedFilters

open Outcome Assignment

namespace Binary

variable {f g : BinaryFormat} {x y : Binary f}

/-- A finite number agrees with itself. -/
lemma agrees_refl (h : x.isFinite = true) : x.agrees x = true := by
  simp [agrees, isNaN_of_isFinite h]

/-- Numbers that agree with one number agree with each other. -/
lemma agrees_trans {z : Binary f} (h : x.agrees y = true) (h' : y.agrees z = true) :
    x.agrees z = true := by
  simp_all [agrees]

/-- The two zeros agree. -/
lemma agrees_of_zero (hx : x.isFinite = true) (hy : y.isFinite = true) (hxzero : x.magnitude = 0)
    (hyzero : y.magnitude = 0) : x.agrees y = true := by
  simp [agrees, isNaN_of_isFinite hx, isNaN_of_isFinite hy, rank, hxzero, hyzero]

/-- Finite numbers that are equal are the same, but for the signs of zeros. -/
lemma eq_or_zero_of_agrees (h : x.agrees y = true) : x = y ∨ x.magnitude = 0 ∧ y.magnitude = 0 := by
  simp only [agrees, Bool.and_eq_true, beq_iff_eq] at h
  exact eq_or_zero_of_rank h.2

/-- A number of a wider format that equals a widened one is narrowed to a number that equals this
one. -/
lemma agrees_of_convert_agrees (h : f.fractionBits ≤ g.fractionBits) (hplaces : f.places ≤ g.places)
    {z : Binary g} (hx : (x.convert g).isFinite = true) (hz : z.isFinite = true)
    (hzf : (z.convert f).isFinite = true) (hagrees : (x.convert g).agrees z = true) :
    x.agrees (z.convert f) = true := by
  have hxf := isFinite_of_convert hx
  rcases eq_or_zero_of_agrees hagrees with rfl | ⟨hzero, hzero'⟩
  · rw [convert_convert h hplaces hx]
    exact agrees_refl hxf
  · have hxzero := magnitude_convert_of_zero f hx hzero
    rw [convert_convert h hplaces hx] at hxzero
    exact agrees_of_zero hxf hzf hxzero (magnitude_convert_of_zero f hz hzero')

end Binary

namespace OptionValue

/-- Numbers of 32 bits that are equal stand for equal values. -/
lemma agrees_ofSingle {x y : Single} (hx : (x.convert .double).isFinite = true)
    (hy : (y.convert .double).isFinite = true) (h : x.agrees y = true) :
    (ofSingle x).agrees (ofSingle y) = true := by
  rcases Binary.eq_or_zero_of_agrees h with rfl | ⟨hxzero, hyzero⟩
  · exact Binary.agrees_refl hx
  · exact Binary.agrees_of_zero hx hy
      (Binary.magnitude_convert_of_zero _ (Binary.isFinite_of_convert hx) hxzero)
      (Binary.magnitude_convert_of_zero _ (Binary.isFinite_of_convert hy) hyzero)

/-- Values that agree have one form. -/
lemma kind_of_agrees {u v : OptionValue} (h : u.agrees v = true) : u.kind = v.kind := by
  cases u <;> cases v <;> first | rfl | cases h

/-- A whole number agrees with itself. -/
lemma agrees_int (i : Int64) : (int i).agrees (int i) = true := beq_self_eq_true i

/-- Values that agree with each other agree with the same values. -/
lemma agrees_congr {u v w : OptionValue} (h : u.agrees v = true) : w.agrees u = w.agrees v :=
  Bool.eq_iff_iff.mpr ⟨fun hu => agrees_trans hu h, fun hv => agrees_trans hv (agrees_symm h)⟩

end OptionValue

namespace Temporal

/-- What is assigned to another option leaves alpha as it is. -/
lemma assign_of_ne (p : Temporal) (a : Single) (v : OptionValue) {name : String}
    (h : name ≠ "Alpha") :
    ({ p with alpha := a } : Temporal).assign v name = (p.assign v name).map fun r =>
      { r with alpha := a } := by
  unfold assign
  split
  · cases hi : v.toWhole "Toggle" with
    | error e => rfl
    | ok i =>
      simp only [ok_bind]
      cases Check.flag "Toggle" i <;> rfl
  · exact absurd rfl h
  · cases hi : v.toWhole "Delta" with
    | error e => rfl
    | ok i =>
      simp only [ok_bind]
      cases checkDelta i <;> rfl
  · cases hi : v.toWhole "Persistency" with
    | error e => rfl
    | ok i =>
      simp only [ok_bind]
      cases checkPersistency i <;> rfl
  · rfl

end Temporal

namespace Parameters

variable {p q r s : Parameters} {name : String} {u v c : OptionValue}

/-- Parameters that agree are the same, but for alpha, which is the same number. -/
inductive Alike : Parameters → Parameters → Prop where
  | decimation (p : Decimation) : Alike (.decimation p) (.decimation p)
  | temporal (p : Temporal) (a : Single) (h : p.alpha.agrees a = true) :
    Alike (.temporal p) (.temporal { p with alpha := a })

/-- Parameters agree exactly if they are the same but for alpha, which is the same number. -/
lemma agrees_iff_alike : p.agrees q = true ↔ p.Alike q := by
  constructor
  · intro h
    cases p with
    | decimation p =>
      cases q with
      | decimation q =>
        obtain rfl := eq_of_beq h
        exact .decimation p
      | temporal q => cases h
    | temporal p =>
      cases q with
      | decimation q => cases h
      | temporal q =>
        simp only [agrees, Bool.and_eq_true, beq_iff_eq] at h
        obtain ⟨⟨⟨henabled, halpha⟩, hdelta⟩, hpersistency⟩ := h
        have hq : q = { p with alpha := q.alpha } := by rw [henabled, hdelta, hpersistency]
        rw [hq]
        exact .temporal p q.alpha halpha
  · rintro (p | ⟨p, a, h⟩)
    · exact beq_self_eq_true p
    · simp [agrees, h]

/-- Valid parameters agree with themselves. -/
lemma agrees_refl (hp : p.validate = .ok ()) : p.agrees p = true := by
  cases p with
  | decimation p => exact beq_self_eq_true p
  | temporal p => exact agrees_iff_alike.mpr (.temporal p p.alpha (Binary.agrees_refl
      (Binary.isFinite_of_convert (isFinite_alpha hp))))

/-- Parameters that agree with the same ones agree with each other. -/
lemma agrees_trans (h : p.agrees q = true) (h' : q.agrees r = true) : p.agrees r = true := by
  cases agrees_iff_alike.mp h with
  | decimation p => exact h'
  | temporal p a ha =>
    cases agrees_iff_alike.mp h' with
    | temporal _ b hb => exact agrees_iff_alike.mpr (.temporal p b (Binary.agrees_trans ha hb))

/-- Parameters that agree are of one kind. -/
lemma kind_of_agrees (h : p.agrees q = true) : q.kind = p.kind := by
  cases agrees_iff_alike.mp h <;> rfl

/-- Of parameters that agree nobody is told. -/
lemma changes_of_agrees (hp : p.validate = .ok ()) (hq : q.validate = .ok ())
    (h : p.agrees q = true) :
    OfflineFilter.changes p q = [] := by
  cases agrees_iff_alike.mp h with
  | decimation p =>
    simp [OfflineFilter.changes, toOptions, Decimation.toOptions,
      OptionValue.ofBool, OptionValue.agrees_int]
  | temporal p a ha =>
    have hsame := OptionValue.agrees_symm (OptionValue.agrees_ofSingle
      (isFinite_alpha hp) (isFinite_alpha hq) ha)
    simp [OfflineFilter.changes, toOptions, Temporal.toOptions,
      OptionValue.ofBool, OptionValue.ofInt32,
      OptionValue.agrees_int, hsame]

/-- A field that is assigned in valid parameters makes valid parameters. -/
lemma of_assign (hp : p.validate = .ok ()) (hname : name ∈ p.kind.optionNames)
    (h : p.assign v name = .ok r) :
    r.kind = p.kind ∧ r.validate = .ok () := by
  rw [← ofOptions_replace (ofOptions_of_valid hp) hname v] at h
  exact ⟨kind_of_ofOptions h, validate_of_ofOptions h⟩

/-- Only alpha can agree without being the same, and what becomes of alpha and of other options is
the same then. -/
lemma assign_alike (hp : p.validate = .ok ()) (hq : q.validate = .ok ()) (h : p.agrees q = true)
    (hname : name ∈ p.kind.optionNames) (v : OptionValue) :
    (∃ e, p.assign v name = .error e ∧ q.assign v name = .error e) ∨
      ∃ r s, p.assign v name = .ok r ∧ q.assign v name = .ok s ∧ r.agrees s = true ∧
        OfflineFilter.changes q s = OfflineFilter.changes p r := by
  have hself : ∀ r, p.assign v name = .ok r → r.agrees r = true :=
    fun r hr => agrees_refl (of_assign hp hname hr).2
  cases agrees_iff_alike.mp h with
  | decimation p =>
    cases hr : assign v name (.decimation p) with
    | error e => exact .inl ⟨e, rfl, rfl⟩
    | ok r => exact .inr ⟨r, r, rfl, rfl, hself r hr, rfl⟩
  | temporal p a ha =>
    have hpa := OptionValue.agrees_ofSingle (isFinite_alpha hp) (isFinite_alpha hq) ha
    by_cases halpha : name = "Alpha"
    · -- both are assigned the same alpha, and it is compared with numbers that are equal
      subst halpha
      have hsame : assign v "Alpha" (.temporal { p with alpha := a }) =
        assign v "Alpha" (.temporal p) := rfl
      cases hr : assign v "Alpha" (.temporal p) with
      | error e => exact .inl ⟨e, rfl, hsame.trans hr⟩
      | ok r =>
        refine .inr ⟨r, r, rfl, hsame.trans hr, hself r hr, ?_⟩
        obtain ⟨r, -, rfl⟩ := map_eq_ok.mp hr
        simp only [OfflineFilter.changes, toOptions, Temporal.toOptions,
          List.zip_cons_cons, List.filterMap_cons,
          OptionValue.agrees_congr hpa]
    · -- alpha stays as it is, so nothing is told of it
      have hsame : assign v name (.temporal { p with alpha := a }) =
          (p.assign v name).map fun r => .temporal { r with alpha := a } := by
        rw [assign, p.assign_of_ne a v halpha]
        cases p.assign v name <;> rfl
      have hstays : p.assign v name = (p.assign v name).map fun r => { r with alpha := p.alpha } :=
        p.assign_of_ne p.alpha v halpha
      cases hr : p.assign v name with
      | error e => exact .inl ⟨e, by rw [assign, hr]; rfl, by rw [hsame, hr]; rfl⟩
      | ok r =>
        rw [hr] at hstays
        have hstays : r = { r with alpha := p.alpha } := Except.ok.inj hstays
        have hstays : r.alpha = p.alpha := by rw [hstays]
        refine .inr ⟨.temporal r, .temporal { r with alpha := a },
          by rw [assign, hr]; rfl, by rw [hsame, hr]; rfl,
          agrees_iff_alike.mpr (.temporal r a (hstays ▸ ha)), ?_⟩
        have hself := OptionValue.agrees_trans hpa (OptionValue.agrees_symm hpa)
        have hself' := OptionValue.agrees_trans (OptionValue.agrees_symm hpa) hpa
        simp only [OfflineFilter.changes, toOptions, Temporal.toOptions,
          List.zip_cons_cons, List.filterMap_cons,
          hstays, hself, hself', if_true]

/-- An option that is set to a value which it has already leaves parameters that agree. -/
lemma Sets.agrees (hp : p.validate = .ok ()) (h : p.Sets name c r)
    (hu : find? name p.toOptions = some u) (huc : u.agrees c = true) : p.agrees r = true := by
  have hself := agrees_refl hp
  cases h with
  | decimationFlag p on =>
    cases hu
    obtain rfl := OptionValue.eq_of_ofBool huc
    exact hself
  | magnitude p m =>
    cases hu
    obtain rfl := byte_inj (beq_iff_eq.mp huc)
    exact hself
  | temporalFlag p on =>
    cases hu
    obtain rfl := OptionValue.eq_of_ofBool huc
    exact hself
  | alpha p x hnearest =>
    cases hu
    have hx : x.isFinite = true := Binary.isFinite_of_convert hnearest.isFinite
    exact agrees_iff_alike.mpr
      (.temporal p _ (Binary.agrees_of_convert_agrees (by decide) (by decide)
      (isFinite_alpha hp) hx hnearest.isFinite huc))
  | delta p i =>
    cases hu
    obtain rfl := OptionValue.eq_of_ofInt32 huc
    exact hself
  | persistency p i =>
    cases hu
    obtain rfl := OptionValue.eq_of_ofInt32 huc
    exact hself

/-- Setting any option but the flag leaves the flag. -/
lemma Sets.enabled (h : p.Sets name c r) (hname : name ≠ "Toggle") : r.enabled = p.enabled := by
  cases h with
  | decimationFlag => exact absurd rfl hname
  | temporalFlag => exact absurd rfl hname
  | _ => rfl

end Parameters

namespace OfflineFilter

variable {f g k : OfflineFilter} {id : OptionId} {v u : OptionValue} {t : Told OfflineFilter}

/-- Filters that are the same, but for the sign of a zero. -/
structure Alike (f g : OfflineFilter) : Prop where
  rest : g = { f with params := g.params }
  params : f.params.agrees g.params = true

/-- Two writes have left filters that are alike, and have told the same. -/
structure ToldAlike (t u : Told OfflineFilter) : Prop where
  state : t.state.Alike u.state
  deliveries : u.deliveries = t.deliveries
  panicked : u.panicked = t.panicked

/-- The filter is the first one at a later time: alive if it was, with the same flag, and with the
same subscribers if none of them fails badly. -/
structure Keeps (f g : OfflineFilter) : Prop where
  valid : g.Valid
  kind : g.kind = f.kind
  destroyed : g.destroyed = f.destroyed
  enabled : g.params.enabled = f.params.enabled
  watcher : f.Calm → g.watcher = f.watcher

/-- A filter with nobody told. -/
def quiet (f : OfflineFilter) : Told OfflineFilter := ⟨f, [], false⟩

/-- What comes of the write of an option whose failure is passed over. -/
def tries (f : OfflineFilter) (id : OptionId) (v : OptionValue) : Told OfflineFilter :=
  match f.setOption id v with
  | .ok t => t
  | .error _ => f.quiet

/-- What comes of trying a value on an option, if there is any. -/
def triesAny (f : OfflineFilter) (id : OptionId) : Option OptionValue → Told OfflineFilter
  | some v => f.tries id v
  | none => f.quiet

/-- A valid filter is alike to itself. -/
lemma Alike.refl (hf : f.Valid) : f.Alike f := ⟨rfl, Parameters.agrees_refl hf.params⟩

/-- Filters that are alike to one filter are alike. -/
lemma Alike.trans (h : f.Alike g) (h' : g.Alike k) : f.Alike k := by
  refine ⟨?_, Parameters.agrees_trans h.params h'.params⟩
  rw [h'.rest, h.rest]

/-- Filters that are alike are of one kind. -/
lemma Alike.kind (h : f.Alike g) : g.kind = f.kind := Parameters.kind_of_agrees h.params

/-- Filters that are alike have the same options. -/
lemma Alike.model (h : f.Alike g) (id : OptionId) :
    (Filter.offline g).model id = (Filter.offline f).model id := by
  rw [h.rest]
  rfl

/-- A valid filter keeps what it has. -/
lemma Keeps.refl (hf : f.Valid) : f.Keeps f := ⟨hf, rfl, rfl, rfl, fun _ => rfl⟩

/-- Whether a filter is calm depends on its watcher alone. -/
lemma Calm.of_watcher (hcalm : f.Calm) (h : g.watcher = f.watcher) : g.Calm := by
  rw [Calm, h]
  exact hcalm

/-- What is kept twice is kept. -/
lemma Keeps.trans (h : f.Keeps g) (h' : g.Keeps k) : f.Keeps k where
  valid := h'.valid
  kind := h'.kind.trans h.kind
  destroyed := h'.destroyed.trans h.destroyed
  enabled := h'.enabled.trans h.enabled
  watcher hcalm := (h'.watcher (hcalm.of_watcher (h.watcher hcalm))).trans (h.watcher hcalm)

/-- Filters that are alike and announce nothing have been told alike. -/
lemma toldAlike_quiet (h : f.Alike g) : ToldAlike f.quiet g.quiet := ⟨h, rfl, rfl⟩

/-- Writes that tell the same as one write tell the same. -/
lemma ToldAlike.trans {r s t : Told OfflineFilter} (h : ToldAlike r s) (h' : ToldAlike s t) :
    ToldAlike r t :=
  ⟨h.state.trans h'.state, h'.deliveries.trans h.deliveries, h'.panicked.trans h.panicked⟩

/-- Filters that are alike and move to parameters that agree stay alike, if they tell of the same
changes. -/
lemma moved_alike (h : f.Alike g) {p q : Parameters} (hpq : p.agrees q = true)
    (hchanges : changes g.params q = changes f.params p) : ToldAlike (f.moved p) (g.moved q) := by
  have hwatcher : g.watcher = f.watcher := by rw [h.rest]
  refine ⟨⟨?_, hpq⟩, ?_, ?_⟩
  · show { g with params := q, watcher := (g.watcher.announce (changes g.params q)).state } =
      { f with params := q, watcher := (f.watcher.announce (changes f.params p)).state }
    rw [hchanges, hwatcher, h.rest]
  · show (g.watcher.announce (changes g.params q)).deliveries = _
    rw [hchanges, hwatcher]
    rfl
  · show (g.watcher.announce (changes g.params q)).panicked = _
    rw [hchanges, hwatcher]
    rfl

/-- Filters that are alike do the same with the write of an option. -/
lemma setOption_alike (hf : f.Valid) (hg : g.Valid) (hlive : f.destroyed = false) (h : f.Alike g)
    (id : OptionId) (v : OptionValue) :
    (∃ e, f.setOption id v = .error e ∧ g.setOption id v = .error e) ∨
      ∃ t u, f.setOption id v = .ok t ∧ g.setOption id v = .ok u ∧ ToldAlike t u := by
  have hglive : g.destroyed = false := by
    rw [h.rest]
    exact hlive
  have hmodels : g.models = f.models := by rw [h.rest]
  rw [setOption_of_live hf hlive, setOption_of_live hg hglive, hmodels]
  cases hm : findModel f.models id with
  | error e => exact .inl ⟨e, rfl, rfl⟩
  | ok m =>
    cases hc : m.accept v with
    | error e => exact .inl ⟨e, by rw [ok_bind, hc]; rfl, by rw [ok_bind, hc]; rfl⟩
    | ok c =>
      simp only [ok_bind, hc]
      obtain ⟨-, hname, -⟩ := hf.of_model hm
      obtain ⟨e, hp, hq⟩ | ⟨p, q, hp, hq, hpq, hchanges⟩ :=
        Parameters.assign_alike hf.params hg.params h.params hname c
      · exact .inl ⟨e, by rw [hp]; rfl, by rw [hq]; rfl⟩
      · exact .inr ⟨f.moved p, g.moved q, by rw [hp]; rfl, by rw [hq]; rfl,
          moved_alike h hpq hchanges⟩

/-- Filters that are alike do the same with a value that is tried. -/
lemma tries_alike (hf : f.Valid) (hg : g.Valid) (hlive : f.destroyed = false) (h : f.Alike g)
    (id : OptionId) (v : OptionValue) : ToldAlike (f.tries id v) (g.tries id v) := by
  obtain ⟨e, hft, hgt⟩ | ⟨t, u, hft, hgt, htu⟩ := setOption_alike hf hg hlive h id v
  · rw [tries, tries, hft, hgt]
    exact toldAlike_quiet h
  · rw [tries, tries, hft, hgt]
    exact htu

/-- What is tried on an option other than the flag leaves the flag. -/
lemma keeps_tries (hf : f.Valid) (hid : id ≠ .toggle) (v : OptionValue) :
    f.Keeps (f.tries id v).state ∧ (f.Calm → (f.tries id v).panicked = false) := by
  rw [tries]
  cases hset : f.setOption id v with
  | error e => exact ⟨.refl hf, fun _ => rfl⟩
  | ok t =>
    have hvalid := (evolves_setOption hset).valid hf
    obtain ⟨p, ⟨d, c, -, hname, -, hsets⟩, hkind, hp, rfl⟩ := of_setOption hf hset
    have hflag : d.name ≠ "Toggle" := by
      rintro heq
      rw [heq] at hname
      exact hid (Option.some.inj hname).symm
    refine ⟨⟨hvalid, hkind, rfl, hsets.enabled hflag, fun hcalm => ?_⟩, fun hcalm => ?_⟩
    · rw [moved_calm hf hcalm hkind hp]
    · rw [moved_calm hf hcalm hkind hp]

/-- A filter keeps its flag over a value that is tried, if there is one, and calls nobody who
panics. -/
lemma keeps_triesAny (hf : f.Valid) (hid : id ≠ .toggle) (value? : Option OptionValue) :
    f.Keeps (f.triesAny id value?).state ∧ (f.Calm → (f.triesAny id value?).panicked = false) := by
  cases value? with
  | none => exact ⟨.refl hf, fun _ => rfl⟩
  | some v => exact keeps_tries hf hid v

/-- A value that an option has already is refused, or nobody is told of it and the parameters agree
afterwards. -/
lemma tries_present (hf : f.Valid) (hu : (Filter.offline f).query id = .ok u)
    (huv : u.agrees v = true) :
    ToldAlike f.quiet (f.tries id v) := by
  rw [tries]
  cases hset : f.setOption id v with
  | error e => exact toldAlike_quiet (.refl hf)
  | ok t =>
    obtain ⟨p, ⟨d, c, hd, hid, hcoerce, hsets⟩, hkind, hp, rfl⟩ := of_setOption hf hset
    obtain ⟨name, hname, hid', hfind⟩ := hf.of_query hu
    obtain rfl := OptionId.ofName?_inj hid hid'
    -- the value has the form of the one that is there, which is the declared one
    have hform : v.kind = d.kind := by
      obtain ⟨d', hd', hcheck⟩ := Parameters.check_toOptions hf.params (mem_of_find? hfind)
      have hdname : d'.name = d.name := by simpa using List.find?_some hd'
      have hdform := Parameters.kind_of_declaration (List.mem_of_find?_eq_some hd')
      rw [← OptionValue.kind_of_agrees huv, Declaration.kind_of_check hcheck, hdform, hdname]
      exact (Parameters.kind_of_declaration hd).symm
    have hc : c = v := by
      rw [← hform, OptionValue.coerce_self] at hcoerce
      exact (Except.ok.inj hcoerce).symm
    have hagrees := hsets.agrees hf.params hfind (hc ▸ huv)
    have hnone := Parameters.changes_of_agrees hf.params hp hagrees
    rw [moved, hnone, Watcher.announce_of_due rfl]
    exact ⟨⟨rfl, hagrees⟩, rfl, rfl⟩

/-- Steps for options one after another, up to the first in which a subscriber fails badly. -/
def inTurn (step : OfflineFilter → OptionId → Told OfflineFilter) (f : OfflineFilter) :
    List OptionId → Told OfflineFilter
  | [] => f.quiet
  | id :: ids =>
    let t := step f id
    if t.panicked then t
    else
      let u := t.state.inTurn step ids
      ⟨u.state, t.deliveries ++ u.deliveries, u.panicked⟩

/-- Filters that stay alike in every step are alike in the end, and the same has been told. -/
lemma inTurn_alike {step other : OfflineFilter → OptionId → Told OfflineFilter}
    {ids : List OptionId}
    (hkeeps : ∀ id ∈ ids, ∀ f : OfflineFilter, f.Valid →
      f.Keeps (step f id).state ∧ f.Keeps (other f id).state)
    (halike : ∀ id ∈ ids, ∀ f g : OfflineFilter, f.Valid → g.Valid → f.destroyed = false →
      f.Alike g → ToldAlike (step f id) (other g id))
    (hf : f.Valid) (hg : g.Valid) (hlive : f.destroyed = false) (h : f.Alike g) :
    ToldAlike (f.inTurn step ids) (g.inTurn other ids) := by
  induction ids generalizing f g with
  | nil => exact toldAlike_quiet h
  | cons id ids ih =>
    obtain ⟨hfirst, hkeeps⟩ := List.forall_mem_cons.mp hkeeps
    obtain ⟨hstep, halike⟩ := List.forall_mem_cons.mp halike
    have htold := hstep f g hf hg hlive h
    have hrest := ih hkeeps halike (hfirst f hf).1.valid (hfirst g hg).2.valid
      ((hfirst f hf).1.destroyed.trans hlive) htold.state
    rw [inTurn, inTurn, htold.panicked]
    cases (step f id).panicked with
    | true => exact htold
    | false =>
      refine ⟨hrest.state, ?_, hrest.panicked⟩
      show (other g id).deliveries ++ _ = _
      rw [htold.deliveries, hrest.deliveries]
      rfl

/-- What each step keeps is kept by all of them in turn. -/
lemma keeps_inTurn {step : OfflineFilter → OptionId → Told OfflineFilter} {ids : List OptionId}
    (hkeeps : ∀ id ∈ ids, ∀ f : OfflineFilter, f.Valid →
      f.Keeps (step f id).state ∧ (f.Calm → (step f id).panicked = false)) (hf : f.Valid) :
    f.Keeps (f.inTurn step ids).state ∧ (f.Calm → (f.inTurn step ids).panicked = false) := by
  induction ids generalizing f with
  | nil => exact ⟨.refl hf, fun _ => rfl⟩
  | cons id ids ih =>
    obtain ⟨hfirst, hkeeps⟩ := List.forall_mem_cons.mp hkeeps
    obtain ⟨hstep, hcalm⟩ := hfirst f hf
    obtain ⟨hrest, hlater⟩ := ih hkeeps hstep.valid
    rw [inTurn]
    cases hpanicked : (step f id).panicked with
    | true => exact ⟨hstep, hcalm⟩
    | false => exact ⟨hstep.trans hrest, fun h => hlater (h.of_watcher (hstep.watcher h))⟩

/-- A value that a filter takes is in the range of the option. -/
lemma contains_of_setOption (hf : f.Valid) {m : OptionModel}
    (hm : (Filter.offline f).model id = .ok m) (hset : f.setOption id v = .ok t) :
    m.declaration.range.contains v.toDouble = true := by
  obtain ⟨m', hm', hset⟩ := bind_eq_ok.mp hset
  obtain ⟨c, haccept, -⟩ := bind_eq_ok.mp hset
  cases hm.symm.trans hm'
  obtain ⟨-, -, hd⟩ := hf.of_model hm'
  exact Parameters.contains_of_check (List.mem_of_find?_eq_some hd)
    (OptionModel.of_accept haccept).2.2

end OfflineFilter

/-- The numbers of options depend on the numbers of the models only. -/
lemma modelIds_congr {models others : List OptionModel}
    (h : models.map (·.id) = others.map (·.id)) : modelIds models = modelIds others := by
  have hfold : ∀ list : List OptionModel, modelIds list =
      ((list.map (·.id)).foldl (fun ids id => modelIds.insertId id.value.toNat ids) []).map
        fun n => ⟨.ofNat n⟩ := by
    intro list
    rw [modelIds, List.foldl_map]
  rw [hfold, hfold, h]

namespace Settings

open OfflineFilter

variable {f g : OfflineFilter} {s : Settings} {full : String} {id : OptionId}

/-- The value that is stored for an option of a filter. -/
def stored? (s : Settings) (full : String) (f : Filter) (id : OptionId) : Option OptionValue := do
  let model ← (f.model id).toOption
  s.get? (optionKey full model.name)

/-- What comes of restoring one option of a filter. -/
def restores (s : Settings) (full : String) (f : OfflineFilter) (id : OptionId) :
    Told OfflineFilter :=
  f.triesAny id (s.candidate? full (.offline f) id)

/-- What comes of trying the value that is stored for one option of a filter. -/
def triesStored (s : Settings) (full : String) (f : OfflineFilter) (id : OptionId) :
    Told OfflineFilter :=
  f.triesAny id (s.stored? full (.offline f) id)

/-- The options that are restored are those of the kind but the flag. -/
lemma ordinaryOptions_of_valid (hf : f.Valid) :
    ordinaryOptions (.offline f) = f.kind.settingNames.filterMap OptionId.ofName? := by
  have hids : f.models.map (·.id) =
      (OptionModel.ofDeclarations (Parameters.declarations f.kind)).map (·.id) := by
    have hcores := congrArg (List.map Prod.fst) hf.models
    rwa [List.map_map, List.map_map] at hcores
  show (modelIds f.models).filter (· ≠ .toggle) = _
  rw [modelIds_congr hids]
  cases f.kind <;> decide

/-- The options that are restored are all that the filter has but the flag, in the order of their
numbers. -/
lemma mem_ordinaryOptions (hf : f.Valid) : id ∈ ordinaryOptions (.offline f) ↔
    id ≠ .toggle ∧ ∃ m, (Filter.offline f).model id = .ok m := by
  rw [ordinaryOptions_of_valid hf, List.mem_filterMap]
  constructor
  · rintro ⟨name, hname, hid⟩
    obtain ⟨hname, hflag⟩ := FilterKind.mem_settingNames.mp hname
    obtain ⟨id', m, hid', hm, -⟩ := hf.serves.exists_model hname
    cases hid.symm.trans hid'
    refine ⟨?_, m, hm⟩
    rintro rfl
    exact hflag (OptionId.ofName?_inj hid rfl)
  · rintro ⟨hflag, m, hm⟩
    obtain ⟨hname, hid⟩ := hf.serves.of_model hm
    refine ⟨m.name, FilterKind.mem_settingNames.mpr ⟨hname, ?_⟩, hid⟩
    rintro heq
    rw [heq] at hid
    exact hflag (Option.some.inj hid).symm

/-- The ordinary options of a filter are sorted by their numbers. -/
lemma sorted_ordinaryOptions (hf : f.Valid) :
    (ordinaryOptions (.offline f)).Pairwise fun i j => i.value < j.value := by
  rw [ordinaryOptions_of_valid hf]
  cases f.kind <;> decide

/-- A stored value is passed over only if nothing would come of trying it. -/
lemma candidate?_cases (hf : f.Valid) (s : Settings) (full : String) (id : OptionId) :
    s.candidate? full (.offline f) id = s.stored? full (.offline f) id ∨
      s.candidate? full (.offline f) id = none ∧
        ∃ v, s.stored? full (.offline f) id = some v ∧ ToldAlike f.quiet (f.tries id v) := by
  rw [candidate?, stored?]
  cases hm : (Filter.offline f).model id with
  | error e => exact .inl rfl
  | ok m =>
    simp only [Except.toOption, Option.bind_eq_bind, Option.bind_some]
    cases hv : s.get? (optionKey full m.name) with
    | none => exact .inl rfl
    | some v =>
      rw [Option.bind_some]
      cases hrange : m.declaration.range.contains v.toDouble with
      | false =>
        refine .inr ⟨rfl, v, rfl, ?_⟩
        rw [tries]
        cases hset : f.setOption id v with
        | ok t => cases hrange.symm.trans (OfflineFilter.contains_of_setOption hf hm hset)
        | error e => exact toldAlike_quiet (.refl hf)
      | true =>
        cases hu : (Filter.offline f).query id with
        | error e => exact .inl rfl
        | ok u =>
          cases huv : u.agrees v with
          | true => exact .inr ⟨by simp [guard, huv], v, rfl, tries_present hf hu huv⟩
          | false => exact .inl (by simp [guard, huv])

/-- Restoring an option of a filter comes to the same as trying what is stored for it, for filters
that are alike. -/
lemma restores_alike (hf : f.Valid) (hg : g.Valid) (hlive : f.destroyed = false) (h : f.Alike g) :
    ToldAlike (s.restores full f id) (s.triesStored full g id) := by
  have hstored : s.stored? full (.offline g) id = s.stored? full (.offline f) id := by
    rw [stored?, stored?, h.model]
  rw [restores, triesStored, hstored]
  obtain hsame | ⟨hnone, v, hv, hquiet⟩ := candidate?_cases hf s full id
  · rw [hsame]
    cases s.stored? full (.offline f) id with
    | none => exact toldAlike_quiet h
    | some v => exact tries_alike hf hg hlive h id v
  · rw [hnone, hv]
    exact hquiet.trans (tries_alike hf hg hlive h id v)

/-- A value is taken for zero exactly if it stands for the number zero. -/
lemma agrees_zero_iff (v : OptionValue) :
    v.toDouble.agrees (.ofInt .double 0) = true ↔ v.number? = some 0 := by
  have hzero : (Binary.ofInt .double 0).magnitude = 0 := by decide +kernel
  have hfinite : (Binary.ofInt .double 0).isFinite = true := by decide +kernel
  cases v with
  | int i =>
    have hcast : OptionValue.number? (.int i) = some 0 ↔ i.toInt = 0 := by
      rw [OptionValue.number?, Option.some.injEq]
      exact_mod_cast Iff.rfl
    rw [hcast]
    constructor
    · intro h
      by_contra hne
      have hpos := Binary.magnitude_ofInt_pos hne
      rcases Binary.eq_or_zero_of_agrees h with heq | ⟨hi, -⟩
      · have heq : Binary.ofInt .double i.toInt = .ofInt .double 0 := heq
        rw [heq, hzero] at hpos
        exact Nat.lt_irrefl 0 hpos
      · exact hpos.ne' hi
    · intro h
      show (Binary.ofInt .double i.toInt).agrees _ = true
      rw [h]
      exact Binary.agrees_refl hfinite
  | float x =>
    rw [OptionValue.number?_float]
    constructor
    · intro h
      have hx : x.magnitude = 0 := by
        rcases Binary.eq_or_zero_of_agrees h with heq | ⟨hx, -⟩
        · have heq : x = .ofInt .double 0 := heq
          rw [heq, hzero]
        · exact hx
      refine ⟨decide_eq_true ?_, Binary.toRat_of_zero hx⟩
      rw [hx]
      decide
    · rintro ⟨hx, hq⟩
      exact Binary.agrees_of_toRat hx hfinite (hq.trans (Binary.toRat_of_zero hzero).symm)

/-- The stored flag is whether a number other than zero is stored, and the default if nothing is. -/
lemma flag_iff {default : Bool} : s.flag full default = true ↔
    (∃ v, s.get? (enabledKey full) = some v ∧ v.number? ≠ some 0) ∨
      s.get? (enabledKey full) = none ∧ default = true := by
  rw [flag]
  cases s.get? (enabledKey full) with
  | none => simp
  | some v => simp [← agrees_zero_iff]

end Settings

end EmbeddedFilters
