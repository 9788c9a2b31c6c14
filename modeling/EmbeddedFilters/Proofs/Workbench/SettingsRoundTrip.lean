import EmbeddedFilters.Proofs.Settings
import EmbeddedFilters.Proofs.Workbench.OfflineSensors

/-!
# Settings of sensors

The settings of one sensor are restored to another one with the same filters. What is saved and
restored for one slot after another is what is saved and restored for each filter
(`Bench.exec_saveSensor`, `Bench.exec_restoreSensor`). So every filter has the parameters that its
counterpart had when it was saved, but for the flag, which is that of the last filter of the same
name (`Workbench.settings_survive_sensors`); where two filters have one name, the flag of the first
is lost (`Workbench.settings_lose_flag`).
-/

namespace EmbeddedFilters

open Assignment

namespace Workbench

/-- The workbench with settings under a name. -/
def withStore (w : Workbench) (name : String) (s : Settings) : Workbench :=
  { w with names := { w.names with stores := w.names.stores.put name s } }

/-- Of two stores under a name the last one stays. -/
lemma withStore_withStore (w : Workbench) (name : String) (first last : Settings) :
    (w.withStore name first).withStore name last = w.withStore name last := by
  have hstores := w.names.stores.put_put name first last
  rw [withStore, withStore, withStore, hstores]

/-- Putting a store where it is changes nothing. -/
lemma withStore_self {w : Workbench} {name : String} {s : Settings}
    (h : w.names.stores.get? name = some s) : w.withStore name s = w := by
  rw [withStore, Table.put_of_get? h]

/-- The workbench with an offline filter in a place. -/
def withOffline (w : Workbench) (n : Nat) (f : OfflineFilter) : Workbench :=
  { w with filters := w.filters.put n (.offline f) }

/-- Of two offline filters under a number the last one stays. -/
lemma withOffline_withOffline (w : Workbench) (n : Nat) (first last : OfflineFilter) :
    (w.withOffline n first).withOffline n last = w.withOffline n last := by
  have hfilters := w.filters.put_put n (.offline first) (.offline last)
  rw [withOffline, withOffline, withOffline, hfilters]

/-- Putting an offline filter where it is changes nothing. -/
lemma withOffline_self {w : Workbench} {n : Nat} {f : OfflineFilter}
    (h : w.filters.get? n = some (.offline f)) : w.withOffline n f = w := by
  rw [withOffline, Pool.put_of_get? h]

end Workbench

namespace Bench

variable {w : Workbench} {n : Nat} {f : OfflineFilter} {s : Settings}

/-! ### Saving -/

/-- A store is looked up under its name. -/
lemma exec_store {name : String} (h : w.names.stores.get? name = some s) :
    (store name).exec w = (.ok s, w) := exec_lookup (fun w => w.names.stores.get? name) h _

/-- An offline filter is saved in the store. -/
lemma exec_saveFilter (hget : w.filters.get? n = some (.offline f)) (hf : f.Usable) {name : String}
    (hstore : w.names.stores.get? name = some s) (full : String) (enabled : Bool) :
    ∃ k, (saveFilter n name full enabled).exec w =
      (.ok k, w.withStore name (s.save full (.offline f) enabled).2) := by
  obtain ⟨k, s', hsave, -⟩ := Settings.save_offline hf s full enabled
  refine ⟨k, ?_⟩
  rw [saveFilter, exec_bind_ok (exec_store hstore), exec_bind_ok (exec_filter hget), hsave]
  rfl

/-- Filters that are held by slots are saved one after another. -/
lemma exec_saveSlots {p : Pool Filter} {slots : List SensorSlot} {fs : List OfflineFilter}
    (hheld : List.Forall₂ (fun slot f => p.get? slot.filter = some (.offline f)) slots fs)
    (hfs : ∀ f ∈ fs, f.Usable) (hw : w.filters = p) {name : String}
    (hstore : w.names.stores.get? name = some s) (a : Sensor) (count : Nat) :
    ∃ k, (slots.foldlM (fun count slot => do
        let f ← filter slot.filter
        return count + (← saveFilter slot.filter name (a.fullName f.name) f.isEnabled)) count :
          Bench Nat).exec w = (.ok k, w.withStore name (Settings.saveAll a.name fs s)) := by
  induction hheld generalizing s count w with
  | nil =>
    refine ⟨count, ?_⟩
    rw [Settings.saveAll, List.foldl_nil, Workbench.withStore_self hstore]
    rfl
  | @cons slot f slots fs hget hheld ih =>
    obtain ⟨hf, hfs⟩ := List.forall_mem_cons.mp hfs
    have hget : w.filters.get? slot.filter = some (.offline f) := hw ▸ hget
    obtain ⟨k, hsave⟩ := exec_saveFilter hget hf hstore (a.fullName f.name) f.params.enabled
    have hfirst : (do
        let f ← filter slot.filter
        return count + (← saveFilter slot.filter name (a.fullName f.name) f.isEnabled) :
        Bench Nat).exec w =
      (.ok (count + k),
        w.withStore name (s.save (a.fullName f.name) (.offline f) f.params.enabled).2) := by
      rw [exec_bind_ok (exec_filter hget)]
      exact exec_bind_ok hsave _
    obtain ⟨k', hrest⟩ :=
      ih (w := w.withStore name _) hfs hw (Table.get?_put_self _ _ _) (count + k)
    refine ⟨k', ?_⟩
    rw [List.foldlM_cons, exec_bind_ok hfirst, hrest, Workbench.withStore_withStore]
    rfl

/-- A sensor saves its filters in their order. -/
lemma exec_saveSensor {name storeName : String} {a : Sensor} {fs : List OfflineFilter}
    (ha : w.Stocks name a fs) (hstore : w.names.stores.get? storeName = some s) :
    ∃ k, (saveSensor name storeName).exec w =
      (.ok k, w.withStore storeName (Settings.saveAll a.name fs s)) := by
  obtain ⟨k, hsave⟩ := exec_saveSlots ha.held ha.usable rfl hstore a 0
  refine ⟨k, ?_⟩
  rw [saveSensor, exec_bind_ok ha.exec_sensor, exec_bind_ok (exec_store hstore)]
  exact hsave

/-! ### Restoring -/

/-- A write that an offline filter takes without telling anybody changes the filter and nothing
else. -/
lemma exec_writeOption_offline (hget : w.filters.get? n = some (.offline f)) {id : OptionId}
    {v : OptionValue} {g : OfflineFilter} (hset : f.setOption id v = .ok ⟨g, [], false⟩) :
    (writeOption n id v).exec w = (.ok (), w.withOffline n g) := by
  rw [writeOption, exec_bind_ok (exec_filter hget)]
  show (do let _ ← announce n ((← ofFilter (f.setOption id v)).map .offline) : Bench Unit).exec w =
    _
  rw [hset]
  rfl

/-- An operation that gives a result gives it where failures are caught as well. -/
lemma exec_attempt_ok {α : Type} {x : Bench α} {v : Workbench} {a : α} (h : x.exec w = (.ok a, v)) :
    (attempt x).exec w = (.ok (.ok a), v) := by
  have hmap : exec (ExceptT.map Except.ok x : Bench (Except FilterError α)) w = (.ok (.ok a), v) :=
    exec_bind_ok h (fun a => pure (.ok a) : α → Bench (Except FilterError α))
  refine (exec_tryCatch _ _ w).trans ?_
  rw [hmap]

/-- One round of the loop that restores a filter. -/
def restoreRound (n : Nat) (s : Settings) (full : String) (id : OptionId) :
    Bench (ForInStep PUnit) := do
  match s.candidate? full (← filter n) id with
  | some value =>
    let pass : Bench Unit := do let _ ← attempt (writeOption n id value)
    pass
    return .yield ⟨⟩
  | none => return .yield ⟨⟩

/-- Restoring goes through the ordinary options round by round, and gives the stored flag. -/
lemma restore_eq (n : Nat) (s : Settings) (full : String) (default : Bool) :
    restore n s full default = do
      let f ← filter n
      let _ ← ForIn.forIn (Settings.ordinaryOptions f) PUnit.unit fun id _ =>
        restoreRound n s full id
      return s.flag full default := by
  refine congrArg _ (funext fun f => congr (congrArg _ (congrArg _ (funext fun id => ?_))) rfl)
  funext _
  refine congrArg _ (funext fun g => ?_)
  cases s.candidate? full g id <;> rfl

/-- Restoring one option brings the filter nearer to the parameters that are stored. -/
lemma exec_restoreRound {p : Parameters} (hp : p.validate = .ok ()) {full : String}
    (hs : s.HasOptions full p) (hget : w.filters.get? n = some (.offline f)) (hf : f.Usable)
    (hkind : p.kind = f.kind) {name : String} (hname : name ∈ f.kind.settingNames) {id : OptionId}
    (hid : OptionId.ofName? name = some id) :
    ∃ g, Settings.Nears p f g ∧ g.params.AgreesOn p name ∧
      (restoreRound n s full id).exec w = (.ok (.yield ⟨⟩), w.withOffline n g) := by
  obtain ⟨g, hnears, hagrees, ⟨hnone, rfl⟩ | ⟨u, hsome, hset⟩⟩ :=
    Settings.restore_option hf hp hkind hs hname hid
  · refine ⟨g, hnears, hagrees, ?_⟩
    rw [restoreRound, exec_bind_ok (exec_filter hget), hnone, Workbench.withOffline_self hget]
    rfl
  · refine ⟨g, hnears, hagrees, ?_⟩
    have hattempt := exec_attempt_ok (exec_writeOption_offline hget hset)
    rw [restoreRound, exec_bind_ok (exec_filter hget), hsome]
    exact exec_bind_ok (exec_bind_ok hattempt fun _ => pure ()) _

/-- Options are restored one after another. -/
lemma exec_restoreRounds {p : Parameters} (hp : p.validate = .ok ()) {full : String}
    (hs : s.HasOptions full p) {ids : List OptionId} (hget : w.filters.get? n = some (.offline f))
    (hf : f.Usable) (hkind : p.kind = f.kind)
    (hids : ∀ id ∈ ids, ∃ name ∈ f.kind.settingNames, OptionId.ofName? name = some id) :
    ∃ g, Settings.Nears p f g ∧
      (∀ id ∈ ids, ∀ name, OptionId.ofName? name = some id → g.params.AgreesOn p name) ∧
      (ForIn.forIn ids PUnit.unit fun id _ => restoreRound n s full id).exec w =
        (.ok ⟨⟩, w.withOffline n g) := by
  induction ids generalizing f w with
  | nil =>
    refine ⟨f, .refl hf p, by simp, ?_⟩
    rw [Workbench.withOffline_self hget]
    rfl
  | cons id ids ih =>
    obtain ⟨⟨name, hname, hid⟩, hids⟩ := List.forall_mem_cons.mp hids
    obtain ⟨g, hfirst, hagrees, hround⟩ := exec_restoreRound hp hs hget hf hkind hname hid
    obtain ⟨k, hlater, hothers, hrest⟩ := ih (w := w.withOffline n g) (Pool.get?_put_self _ _ _)
      (hf.of_written hfirst.written) (hkind.trans hfirst.written.kind.symm)
      (hfirst.written.kind ▸ hids)
    refine ⟨k, hfirst.trans hlater, ?_, ?_⟩
    · refine List.forall_mem_cons.mpr ⟨fun other hother => ?_, hothers⟩
      rw [OptionId.ofName?_inj hother hid]
      exact hlater.agrees name hagrees
    · rw [Workbench.withOffline_withOffline] at hrest
      rw [List.forIn_cons, exec_bind_ok hround]
      exact hrest

/-- A filter is restored from settings that have the values of other parameters for all options but
the flag. -/
lemma exec_restore {p : Parameters} (hp : p.validate = .ok ()) {full : String}
    (hs : s.HasOptions full p) (hget : w.filters.get? n = some (.offline f))
    (hf : f.Usable) (hkind : p.kind = f.kind) {on : Bool}
    (hflag : s.get? (Settings.enabledKey full) = some (.ofBool on)) (default : Bool) :
    ∃ g, Settings.Nears p f g ∧ (∀ name ∈ f.kind.settingNames, g.params.AgreesOn p name) ∧
      (restore n s full default).exec w = (.ok on, w.withOffline n g) := by
  have hoptions := Settings.ordinaryOptions_offline hf
  have hids : ∀ id ∈ Settings.ordinaryOptions (.offline f),
      ∃ name ∈ f.kind.settingNames, OptionId.ofName? name = some id := by
    intro id hid
    rw [hoptions] at hid
    exact List.mem_filterMap.mp hid
  obtain ⟨g, hnears, hagrees, hrounds⟩ := exec_restoreRounds hp hs hget hf hkind hids
  refine ⟨g, hnears, fun name hname => ?_, ?_⟩
  · obtain ⟨id, -, hid, -⟩ := OfflineFilter.model_of_name (FilterKind.mem_settingNames.mp hname).1
    refine hagrees id ?_ name hid
    rw [hoptions]
    exact List.mem_filterMap.mpr ⟨name, hname, hid⟩
  · rw [restore_eq, exec_bind_ok (exec_filter hget), exec_bind_ok hrounds,
      Settings.flag_of_get? hflag]
    rfl

/-- A filter is restored from what is stored of other parameters of its kind, and switched if its
flag differs. It agrees with these afterwards. -/
lemma exec_restoreSlot {slot : SensorSlot} {t : Parameters} {a : Sensor} (ht : t.validate = .ok ())
    (hget : w.filters.get? slot.filter = some (.offline f)) (hf : f.Usable)
    (hkind : t.kind = f.kind)
    (hs : s.HasOptions (a.fullName f.name) t)
    (hflag : s.get? (Settings.enabledKey (a.fullName f.name)) = some (.ofBool t.enabled)) :
    ∃ g, f.Written g ∧ g.params.agrees t = true ∧
      (do
        let f ← filter slot.filter
        let enabled ← restore slot.filter s (a.fullName f.name) f.isEnabled
        if enabled != f.isEnabled then enable slot.filter enabled : Bench Unit).exec w =
        (.ok (), w.withOffline slot.filter g) := by
  obtain ⟨g, hnears, hagrees, hrestore⟩ := exec_restore ht hs hget hf hkind hflag f.params.enabled
  have hg := hf.of_written hnears.written
  have hkind' : g.kind = t.kind := hnears.written.kind.trans hkind.symm
  have hdiffers : (t.enabled != (Filter.offline f).isEnabled) =
    !decide (t.enabled = f.params.enabled) := rfl
  rw [exec_bind_ok (exec_filter hget)]
  by_cases hsame : t.enabled = f.params.enabled
  · -- the flag is the stored one already
    refine ⟨g, hnears.written, ?_, ?_⟩
    · have hparams := Parameters.agrees_withEnabled hg.valid ht hkind' fun name hname htoggle =>
        hagrees name (FilterKind.mem_settingNames.mpr ⟨hnears.written.kind ▸ hname, htoggle⟩)
      rwa [hnears.enabled, ← hsame, Parameters.withEnabled_self] at hparams
    · refine (exec_bind_ok hrestore _).trans ?_
      rw [hdiffers, decide_eq_true hsame]
      rfl
  · obtain ⟨k, hswitched, hon, hothers, hset⟩ := hg.switch t.enabled
    refine ⟨k, hnears.written.trans hswitched, ?_, ?_⟩
    · have hparams := Parameters.agrees_withEnabled (hg.of_written hswitched).valid ht
        (hswitched.kind.trans hkind') fun name hname htoggle => by
          have hname : name ∈ f.kind.optionNames :=
            (hswitched.kind.trans hnears.written.kind) ▸ hname
          obtain ⟨v, u, hv, hu, hvu⟩ :=
            hagrees name (FilterKind.mem_settingNames.mpr ⟨hname, htoggle⟩)
          exact ⟨v, u, (hothers name htoggle).trans hv, hu, hvu⟩
      rwa [hon, Parameters.withEnabled_self] at hparams
    · refine (exec_bind_ok hrestore _).trans ?_
      rw [hdiffers, decide_eq_false hsame]
      refine (exec_writeOption_offline (Pool.get?_put_self _ _ _) hset).trans ?_
      rw [Workbench.withOffline_withOffline]

/-- Valid parameters of the kind of a filter are stored under its full name. -/
structure StoredFor (s : Settings) (a : Sensor) (t : Parameters) (g : OfflineFilter) : Prop where
  valid : t.validate = .ok ()
  kind : t.kind = g.kind
  options : s.HasOptions (a.fullName g.name) t
  flag : s.get? (Settings.enabledKey (a.fullName g.name)) = some (.ofBool t.enabled)

/-- Filters that are held by different slots are restored one after another. -/
lemma exec_restoreSlots {p : Pool Filter} {slots : List SensorSlot} {gs : List OfflineFilter}
    {ts : List Parameters} {a : Sensor}
    (hheld : List.Forall₂ (fun slot g => p.get? slot.filter = some (.offline g)) slots gs)
    (hgs : ∀ g ∈ gs, g.Usable) (hapart : (slots.map (·.filter)).Nodup)
    (hstored : List.Forall₂ (StoredFor s a) ts gs)
    (hw : ∀ slot ∈ slots, w.filters.get? slot.filter = p.get? slot.filter) :
    ∃ filters ks, (slots.forM fun slot => do
        let f ← filter slot.filter
        let enabled ← restore slot.filter s (a.fullName f.name) f.isEnabled
        if enabled != f.isEnabled then enable slot.filter enabled).exec w =
          (.ok (), { w with filters }) ∧
      filters.next = w.filters.next ∧
      (∀ n, n ∉ slots.map (·.filter) → filters.get? n = w.filters.get? n) ∧
      List.Forall₂ (fun slot k => filters.get? slot.filter = some (.offline k)) slots ks ∧
      List.Forall₂ OfflineFilter.Written gs ks ∧
      List.Forall₂ (fun t k => k.params.agrees t = true) ts ks := by
  induction hheld generalizing w ts with
  | nil =>
    cases hstored
    exact ⟨w.filters, [], rfl, rfl, fun _ _ => rfl, .nil, .nil, .nil⟩
  | @cons slot g slots gs hget hheld ih =>
    obtain ⟨hg, hgs⟩ := List.forall_mem_cons.mp hgs
    obtain ⟨hnew, hapart⟩ := List.nodup_cons.mp hapart
    obtain ⟨hfirst, hothers⟩ := List.forall_mem_cons.mp hw
    cases hstored with
    | @cons t _ ts _ ht hstored =>
      obtain ⟨k, hwritten, hagrees, hexec⟩ :=
        exec_restoreSlot ht.valid (hfirst.trans hget) hg ht.kind ht.options ht.flag
      obtain ⟨filters, ks, hrest, hnext, hframe, hslots, hwrittens, hall⟩ :=
        ih (w := w.withOffline slot.filter k) hgs hapart hstored (by
          intro other hother
          have hne : other.filter ≠ slot.filter := fun heq =>
            hnew (List.mem_map.mpr ⟨other, hother, heq⟩)
          exact (Pool.get?_put_of_ne _ hne _).trans (hothers other hother))
      refine ⟨filters, k :: ks, ?_, hnext, fun n hn => ?_, .cons ?_ hslots,
        .cons hwritten hwrittens,
        .cons hagrees hall⟩
      · exact (exec_bind_ok hexec _).trans hrest
      · obtain ⟨hne, hn⟩ := List.ne_and_not_mem_of_not_mem_cons hn
        exact (hframe n hn).trans (Pool.get?_put_of_ne _ hne _)
      · exact (hframe _ hnew).trans (Pool.get?_put_self _ _ _)

/-- A sensor is restored to what has been stored for it. -/
lemma exec_restoreSensor {name storeName : String} {b : Sensor} {gs : List OfflineFilter}
    {ts : List Parameters} (hb : w.Stocks name b gs)
    (hstore : w.names.stores.get? storeName = some s)
    (hstored : List.Forall₂ (StoredFor s b) ts gs) :
    ∃ filters ks, (restoreSensor name storeName).exec w = (.ok (), { w with filters }) ∧
      filters.next = w.filters.next ∧
      (∀ n, n ∉ b.slots.map (·.filter) → filters.get? n = w.filters.get? n) ∧
      List.Forall₂ (fun slot k => filters.get? slot.filter = some (.offline k)) b.slots ks ∧
      List.Forall₂ OfflineFilter.Written gs ks ∧
      List.Forall₂ (fun t k => k.params.agrees t = true) ts ks := by
  obtain ⟨filters, ks, hexec, hrest⟩ :=
    exec_restoreSlots hb.held hb.usable hb.apart hstored fun _ _ => rfl
  refine ⟨filters, ks, ?_, hrest⟩
  rw [restoreSensor, exec_bind_ok hb.exec_sensor, exec_bind_ok (exec_store hstore)]
  exact hexec

end Bench

namespace Workbench

variable {w : Workbench}

/-- A sensor has the filters that its slots hold, if these are those that it had and have been
written at most. -/
lemma Stocks.withFilters {name : String} {s : Sensor} {fs gs : List OfflineFilter}
    (h : w.Stocks name s fs) {filters : Pool Filter} (hnext : filters.next = w.filters.next)
    (hheld : List.Forall₂ (fun slot g => filters.get? slot.filter = some (.offline g)) s.slots gs)
    (hwritten : List.Forall₂ OfflineFilter.Written fs gs) :
    ({ w with filters } : Workbench).Stocks name s gs where
  sensor := h.sensor
  held := hheld
  usable := usable_of_written hwritten h.usable
  kinds := h.kinds.trans (kinds_of_makes (makes_of_written hwritten)).symm
  unlike := h.unlike
  added := by
    intro slot hslot
    show slot.filter < filters.next
    rw [hnext]
    exact h.added slot hslot
  apart := h.apart

/-- A sensor has the filters that it had, whatever is stored. -/
lemma Stocks.withStore {name : String} {a : Sensor} {fs : List OfflineFilter}
    (h : w.Stocks name a fs) (storeName : String) (s : Settings) :
    (w.withStore storeName s).Stocks name a fs :=
  ⟨h.sensor, h.held, h.usable, h.kinds, h.unlike, h.added, h.apart⟩

/-- Saving a sensor succeeds, and changes nothing but the settings. -/
lemma Stocks.step_saveSensor {name store : String} {a : Sensor} {fs : List OfflineFilter}
    {s : Settings} (ha : w.Stocks name a fs) (hstore : w.names.stores.get? store = some s) :
    (w.step (Command.saveSensor name store).act false).1 = .ok () ∧
      (w.withStore store (Settings.saveAll a.name fs s)).SparesOffline
        (w.step (Command.saveSensor name store).act false).2.2 := by
  obtain ⟨k, hsave⟩ := Bench.exec_saveSensor ha hstore
  have hact : (Command.saveSensor name store).act.exec w =
      (.ok (), w.withStore store (Settings.saveAll a.name fs s)) := Bench.exec_bind_ok hsave _
  have hrest := sparesOffline_rest (w := w) (Command.saveSensor name store).act false
  rw [hact] at hrest
  exact ⟨by rw [step_result, hact], hrest⟩

/-- Restoring a sensor from what is stored for its filters succeeds, brings these to the stored
parameters, and does not touch sensors that share none of them. -/
lemma Stocks.step_restoreSensor {name store : String} {b : Sensor} {gs : List OfflineFilter}
    {ts : List Parameters} {s : Settings} (hb : w.Stocks name b gs)
    (hstore : w.names.stores.get? store = some s)
    (hstored : List.Forall₂ (Bench.StoredFor s b) ts gs) :
    (w.step (Command.restoreSensor name store).act false).1 = .ok () ∧
      (∃ hs, (w.step (Command.restoreSensor name store).act false).2.2.Stocks name b hs ∧
        List.Forall₂ OfflineFilter.Written gs hs ∧
        List.Forall₂ (fun t h => h.params.agrees t = true) ts hs) ∧
      ∀ {other : String} {a : Sensor} {fs : List OfflineFilter}, w.Stocks other a fs →
        (∀ i ∈ a.slots, ∀ j ∈ b.slots, i.filter ≠ j.filter) →
        (w.step (Command.restoreSensor name store).act false).2.2.Stocks other a fs := by
  obtain ⟨filters, hs, hrestore, hnext, hframe, hheld, hwritten, hagrees⟩ :=
    Bench.exec_restoreSensor hb hstore hstored
  have hact : (Command.restoreSensor name store).act.exec w = (.ok (), { w with filters }) :=
    hrestore
  have hrest := sparesOffline_rest (w := w) (Command.restoreSensor name store).act false
  rw [hact] at hrest
  refine ⟨by rw [step_result, hact],
    ⟨hs, (hb.withFilters hnext hheld hwritten).of_spares hrest, hwritten, hagrees⟩,
    fun {_ a fs} ha hapart => ?_⟩
  have hkept : List.Forall₂
      (fun slot f => filters.get? slot.filter = some (.offline f)) a.slots fs := by
    refine ((List.forall₂_and_left _ _).mpr ⟨fun i hi => hi, ha.held⟩).imp fun i f ⟨hi, hget⟩ => ?_
    refine (hframe _ fun hmem => ?_).trans hget
    obtain ⟨j, hj, heq⟩ := List.mem_map.mp hmem
    exact hapart i hi j hj heq.symm
  exact (ha.withFilters hnext hkept ha.written_self).of_spares hrest

/-- What has been saved of usable filters of different kinds is stored for filters of the same make,
with the flags of the last filters of each name. -/
lemma storedFor_saveAll {a b : Sensor} (htitle : a.name = b.name) {fs gs : List OfflineFilter}
    (hfs : ∀ f ∈ fs, f.Usable) (hkinds : (fs.map OfflineFilter.kind).Nodup)
    (hmakes : fs.map OfflineFilter.make = gs.map OfflineFilter.make) (s : Settings) :
    List.Forall₂ (Bench.StoredFor (Settings.saveAll a.name fs s) b)
      (fs.map fun f => f.params.withEnabled (Settings.lastFlag f.name fs)) gs := by
  rw [← List.forall₂_eq_eq_eq, List.forall₂_map_left_iff, List.forall₂_map_right_iff] at hmakes
  rw [List.forall₂_map_left_iff]
  refine ((List.forall₂_and_left _ _).mpr ⟨fun f hf => hf, hmakes⟩).imp fun f g ⟨hf, hmake⟩ => ?_
  have hfull : b.fullName g.name = a.name ++ "." ++ f.name := by
    have hname : f.name = g.name := congrArg Prod.fst hmake
    rw [htitle, hname]
    rfl
  have hoptions := Settings.hasOptions_saveAll a.name hfs hkinds hf s
  exact {
    valid := (Parameters.validate_withEnabled _ _).trans (hfs f hf).valid
    kind := (Parameters.kind_withEnabled _ _).trans (congrArg Prod.snd hmake)
    options := by
      intro name hname
      rw [Parameters.kind_withEnabled] at hname
      rw [hfull, hoptions name hname,
        Parameters.find?_withEnabled _ _ (FilterKind.mem_settingNames.mp hname).2]
    flag := by
      rw [hfull, Settings.get?_saveAll_flag a.name hfs hf, Parameters.enabled_withEnabled] }

/-- The settings of one sensor are restored to another one with offline filters, which has been
built from the same sources under the same title, before or after they were saved, whatever has been
written to filters of sensors, and whatever was stored before. Each filter of the second sensor then
has the parameters that its counterpart had when it was saved, alpha as a number, with the flag of
the last filter of the first sensor that has the same name. So if the filters have different names,
each has the parameters and the flag of its counterpart. The first sensor is not touched. -/
theorem settings_survive_sensors {first second title : String} (hne : first ≠ second)
    {sources : List AdvertisementSource} {earlier later : List SensorBuild} {v u : Workbench}
    (before : SensorRun w earlier v) (hfirst : ⟨first, title, sources⟩ ∈ earlier) {store : String}
    {s : Settings} (hstore : v.names.stores.get? store = some s)
    (after : SensorRun (v.step (Command.saveSensor first store).act false).2.2 later u)
    (hsecond : ⟨second, title, sources⟩ ∈ later ++ earlier) :
    let saved := v.step (Command.saveSensor first store).act false
    let restored := u.step (Command.restoreSensor second store).act false
    saved.1 = .ok () ∧ restored.1 = .ok () ∧
      ∃ (a b : Sensor) (fs hs : List OfflineFilter),
        v.Stocks first a fs ∧ saved.2.2.Stocks first a fs ∧ restored.2.2.Stocks second b hs ∧
        (∀ cs, u.Stocks first a cs → restored.2.2.Stocks first a cs) ∧
        hs.map OfflineFilter.make = fs.map OfflineFilter.make ∧
        List.Forall₂ (fun f h => h.params.agrees
          (f.params.withEnabled (Settings.lastFlag f.name fs)) = true) fs hs ∧
        ((fs.map OfflineFilter.name).Nodup →
          List.Forall₂ (fun f h => h.params.agrees f.params = true) fs hs) := by
  intro saved restored
  have hthere : v.Stocked earlier := by
    have hall := before.stocked (stocked_nil w)
    rwa [List.append_nil] at hall
  obtain ⟨a, fs, hfs⟩ := hthere.each _ hfirst
  have ha : v.Stocks first a fs := hfs.stocks
  -- the first sensor is saved
  obtain ⟨hsaved, hrest⟩ := ha.step_saveSensor hstore
  have hkeeps : v.KeepsSensors saved.2.2 :=
    ⟨by rw [hrest.names]; rfl, fun hs => ⟨_, hs.written_self, (hs.withStore _ _).of_spares hrest⟩⟩
  have hlater : u.names.stores.get? store = some (Settings.saveAll a.name fs s) := by
    rw [after.stores_eq, hrest.names]
    exact Table.get?_put_self _ _ _
  -- both sensors are there when the second one is restored
  have hall : u.Stocked (later ++ earlier) := after.stocked (hthere.of_keeps hkeeps)
  obtain ⟨b, gs, hgs⟩ := hall.each _ hsecond
  have hb : u.Stocks second b gs := hgs.stocks
  obtain ⟨es, hes, hagain⟩ := hfs.of_keeps (hkeeps.trans after.keepsSensors)
  have hmakes : fs.map OfflineFilter.make = gs.map OfflineFilter.make :=
    (makes_of_written hes).symm.trans (hagain.makes_eq hgs)
  have hapart := hall.apart _ (List.mem_append_right _ hfirst) _ hsecond hne hagain.stocks hb
  -- the second sensor is restored
  have hnames : a.name = b.name := hfs.title.trans hgs.title.symm
  have hstored := storedFor_saveAll hnames ha.usable (ha.kinds ▸ ha.unlike) hmakes s
  obtain ⟨hrestored, ⟨hs, hhs, hwritten, hagrees⟩, hothers⟩ := hb.step_restoreSensor hlater hstored
  have hflags := List.forall₂_map_left_iff.mp hagrees
  refine ⟨hsaved, hrestored, a, b, fs, hs, ha, (ha.withStore _ _).of_spares hrest, hhs,
    fun cs hcs => hothers hcs hapart, (makes_of_written hwritten).trans hmakes.symm,
      hflags, fun hunlike => ?_⟩
  refine ((List.forall₂_and_left _ _).mpr ⟨fun f hf => hf, hflags⟩).imp fun f h ⟨hf, hfh⟩ => ?_
  rwa [Settings.lastFlag_of_nodup hunlike hf, Parameters.withEnabled_self] at hfh

/-- Two advertisements, one of each kind, and settings under whose keys something has been stored
already. -/
def advertised (small depth : String) : Workbench :=
  ({} : Workbench).run [(.keepAdvertisement "small" (.fresh .decimation small), false),
    (.keepAdvertisement "depth" (.fresh .temporal depth), false), (.newStore "settings", false),
    (.changeStore "settings" "camera.depth.Delta" (.int 7), false)]

/-- A camera that is built from the two advertisements. -/
def camera (name : String) : SensorBuild := ⟨name, "camera", [.kept "small", .kept "depth"]⟩

/-- What building a camera offline does. -/
def buildingCamera (name : String) : Bench Unit :=
  (camera name).act { offlineFallback := true } none

/-- A camera has been built, and filters of sensors have been written after that. -/
def usedCamera (w : Workbench) (name : String) (writes : List SensorWrite) : Workbench :=
  writes.foldl (fun w c => (w.step c.act false).2.2) (w.step (buildingCamera name) false).2.2

/-- A camera that is built and written to is a run of a sensor. -/
lemma sensorRun_usedCamera {name : String} (hfree : w.names.sensors.get? name = none)
    (hbuilt : (w.step (buildingCamera name) false).1.toBool = true) (writes : List SensorWrite) :
    SensorRun w [camera name] (w.usedCamera name writes) := by
  obtain ⟨⟨⟩, hbuilt⟩ := Outcome.exists_of_toBool hbuilt
  have hstart : SensorRun w [camera name] (w.step (buildingCamera name) false).2.2 :=
    SensorRun.start.build (camera name) rfl hfree hbuilt
  rw [usedCamera]
  generalize (w.step (buildingCamera name) false).2.2 = v at hstart ⊢
  induction writes generalizing v with
  | nil => exact hstart
  | cons c writes ih => exact ih _ (hstart.write c)

/-- The settings of a camera, whose smoothing has been changed, are restored to one that is built
later. -/
theorem camera_settings_survive :
    let v := (advertised "small" "depth").usedCamera "first"
      [⟨"first", .decimation, .enable true⟩, ⟨"first", .temporal, .temporal (.delta 40)⟩]
    let u := (v.step (Command.saveSensor "first" "settings").act false).2.2.usedCamera "second"
      [⟨"second", .temporal, .option .persistency (.int 5)⟩]
    let saved := v.step (Command.saveSensor "first" "settings").act false
    let restored := u.step (Command.restoreSensor "second" "settings").act false
    saved.1 = .ok () ∧ restored.1 = .ok () ∧
      ∃ (a b : Sensor) (fs hs : List OfflineFilter),
        v.Stocks "first" a fs ∧ saved.2.2.Stocks "first" a fs ∧ restored.2.2.Stocks "second" b hs ∧
        (∀ cs, u.Stocks "first" a cs → restored.2.2.Stocks "first" a cs) ∧
        hs.map OfflineFilter.make = fs.map OfflineFilter.make ∧
        List.Forall₂ (fun f h => h.params.agrees
          (f.params.withEnabled (Settings.lastFlag f.name fs)) = true) fs hs ∧
        ((fs.map OfflineFilter.name).Nodup →
          List.Forall₂ (fun f h => h.params.agrees f.params = true) fs hs) := by
  intro v u
  have before : SensorRun (advertised "small" "depth") [camera "first"] v :=
    sensorRun_usedCamera (by decide +kernel) (by decide +kernel) _
  have hthere : (v.names.stores.get? "settings").isSome := by decide +kernel
  obtain ⟨s, hstore⟩ := Option.isSome_iff_exists.mp hthere
  have after : SensorRun (v.step (Command.saveSensor "first" "settings").act false).2.2
      [camera "second"] u :=
    sensorRun_usedCamera (by decide +kernel) (by decide +kernel) _
  exact settings_survive_sensors (by decide) before List.mem_cons_self
    hstore after List.mem_cons_self

/-- Two filters of one sensor have the same name, and the first is switched on. After the settings
have been restored to a second sensor, its counterpart there is switched off, as the last filter
is. -/
theorem settings_lose_flag :
    let v := ((advertised "depth" "depth").usedCamera "second" []).usedCamera "first"
      [⟨"first", .decimation, .enable true⟩]
    let saved := v.step (Command.saveSensor "first" "settings").act false
    let restored := saved.2.2.step (Command.restoreSensor "second" "settings").act false
    let bytes (name : String) : Option (List UInt8) :=
      ((Bench.readSensorBytes name .decimation).exec restored.2.2).1.toOption.map (·.bytes)
    saved.1.toBool = true ∧ restored.1.toBool = true ∧
      bytes "first" = some [1, 2] ∧ bytes "second" = some [0, 2] := by
  decide +kernel

end Workbench

end EmbeddedFilters
