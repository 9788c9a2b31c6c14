import EmbeddedFilters.Proofs.Filter.Offline
import EmbeddedFilters.Proofs.Workbench.Assembly
import EmbeddedFilters.Proofs.Workbench.Pairing

/-!
# Sensors with offline filters

A sensor that is built without a link, where the settings allow it, gets a usable offline filter of
its own for every advertisement, each of another kind (`Workbench.step_buildSensor_offline`).
Workers leave offline filters alone (`Bench.sparesOffline_settle`), and a write to a filter of a
sensor leaves it usable, with other parameters at most (`Bench.keepsOffline_write`).

In a run, sensors are built offline under unused names and their filters are written, in any order
(`Workbench.SensorRun`). At every point of a run each sensor that has been built has the filters
that its advertisements ask for, and no two sensors share a filter (`Workbench.SensorRun.stocked`).
-/

namespace EmbeddedFilters

open Outcome

namespace Workbench

/-- Names, sensors and offline filters are what they were. -/
structure SparesOffline (w w' : Workbench) : Prop where
  names : w'.names = w.names
  sensors : w'.sensors = w.sensors
  next : w'.filters.next = w.filters.next
  offline : ∀ n f, w.filters.get? n = some (.offline f) → w'.filters.get? n = some (.offline f)

/-- Offline filters may be spared again and again. -/
instance : Bench.Course SparesOffline where
  refl _ := ⟨rfl, rfl, rfl, fun _ _ h => h⟩
  trans h h' :=
    ⟨h'.names.trans h.names, h'.sensors.trans h.sensors, h'.next.trans h.next,
      fun n f hget => h'.offline n f (h.offline n f hget)⟩

/-- Names and sensors are what they were, and usable offline filters have been written at most. -/
structure KeepsOffline (w w' : Workbench) : Prop where
  names : w'.names = w.names
  sensors : w'.sensors = w.sensors
  next : w'.filters.next = w.filters.next
  offline : ∀ n f, w.filters.get? n = some (.offline f) → f.Usable →
    ∃ g, f.Written g ∧ w'.filters.get? n = some (.offline g)

/-- Offline filters may be written again and again. -/
instance : Bench.Course KeepsOffline where
  refl _ := ⟨rfl, rfl, rfl, fun _ f hget hf => ⟨f, hf.written_self, hget⟩⟩
  trans h h' := by
    refine ⟨h'.names.trans h.names, h'.sensors.trans h.sensors,
      h'.next.trans h.next, fun n f hget hf => ?_⟩
    obtain ⟨g, hfg, hget⟩ := h.offline n f hget hf
    obtain ⟨k, hgk, hget⟩ := h'.offline n g hget (hf.of_written hfg)
    exact ⟨k, hfg.trans hgk, hget⟩

variable {w w' : Workbench}

/-- Where offline filters are spared they have been written at most. -/
lemma SparesOffline.keeps (h : w.SparesOffline w') : w.KeepsOffline w' :=
  ⟨h.names, h.sensors, h.next, fun n f hget hf => ⟨f, hf.written_self, h.offline n f hget⟩⟩

/-- What is put in the place of a remote filter spares the offline ones. -/
lemma sparesOffline_put {n : Nat} {f : RemoteFilter} (hget : w.filters.get? n = some (.remote f))
    (g : Filter) : w.SparesOffline { w with filters := w.filters.put n g } := by
  refine ⟨rfl, rfl, rfl, fun m k hk => ?_⟩
  have hne : m ≠ n := by
    rintro rfl
    cases hget.symm.trans hk
  exact (w.filters.get?_put_of_ne hne _).trans hk

end Workbench

/-- The write to the filter with a number. -/
def FilterWrite.to (n : Nat) : FilterWrite → Bench Unit
  | option id value => Bench.writeOption n id value
  | enable on => Bench.enable n on
  | temporal setter => do
    if (← Bench.filter n).kind = .temporal then Bench.writeOption n setter.id setter.value
  | bytes buffer => Bench.writeBytes n buffer

/-- A write to a filter of a sensor. -/
structure SensorWrite where
  sensor : String
  kind : FilterKind
  write : FilterWrite

/-- What a write to a filter of a sensor does. -/
def SensorWrite.act (c : SensorWrite) : Bench Unit := do
  c.write.to (← Bench.ofFilter ((← Bench.sensor c.sensor).slot c.kind)).filter

namespace Bench

open Workbench (SparesOffline KeepsOffline)

variable {α : Type} {w : Workbench}

/-! ### Remote filters -/

/-- An operation that spares offline filters writes them at most. -/
lemma Within.keepsOffline {x : Bench α} (h : Within SparesOffline x w) : Within KeepsOffline x w :=
  h.keeps

/-- Telling a value spares offline filters. -/
lemma sparesOffline_tell (d : Delivery) : Within SparesOffline (tell d) w := by
  obtain ⟨listener, id, value⟩ := d
  cases listener <;> exact ⟨rfl, rfl, rfl, fun _ _ h => h⟩

/-- The outcome of a report to a remote filter is announced. -/
lemma sparesOffline_announce {n : Nat} {f : RemoteFilter}
    (hget : w.filters.get? n = some (.remote f)) (t : Told Filter) :
    Within SparesOffline (announce n t) w := by
  refine Within.bind (Workbench.sparesOffline_put hget _) fun _ _ _ => ?_
  refine Within.bind (Within.forM fun d _ _ => sparesOffline_tell d) fun _ _ _ => ?_
  split
  · exact Within.throw _
  · exact Within.pure _

/-- A report to a filter spares offline filters. -/
lemma sparesOffline_notify (n : Nat) (options : List Assignment) :
    Within SparesOffline (notify n options) w :=
  Within.bind_remoteFilter fun _ hf => Within.bind_ofFilter fun _ _ => sparesOffline_announce hf _

/-- A scripted outcome spares offline filters. -/
lemma sparesOffline_play (o : ScriptedOutcome α) : Within SparesOffline (play o) w := by
  unfold play
  split
  · refine Within.bind (Within.attempt ?_) fun _ _ _ => ?_
    · exact Within.named fun n => sparesOffline_notify n _
    · exact Within.bind ⟨rfl, rfl, rfl, fun _ _ h => h⟩ fun _ _ _ => Within.pure _
  · exact Within.pure _

/-- Sending a message spares offline filters. -/
lemma sparesOffline_send (n : LinkNumber) (topic : String) (payload : ByteArray) :
    Within SparesOffline (send n topic payload) w := by
  refine Within.bind_reads (reads_link n) fun l _ => ?_
  have hput : ∀ l w, Within SparesOffline (putLink n l) w :=
    fun _ _ => ⟨rfl, rfl, rfl, fun _ _ h => h⟩
  cases l with
  | device d => exact Within.bind (hput _ _) fun _ _ _ => Within.pure _
  | script s => exact Within.bind (hput _ _) fun _ _ _ => sparesOffline_play _

/-- Changing the proxy of a filter spares offline filters. -/
lemma sparesOffline_changeProxy (n : Nat) (change : RemoteProxy → RemoteProxy) :
    Within SparesOffline (changeProxy n change) w :=
  Within.bind_remoteFilter fun _ hf => Workbench.sparesOffline_put hf _

/-- Carrying out a submission of a remote filter spares offline filters. -/
lemma sparesOffline_carry (n : Nat) (s : Submission) :
    Within SparesOffline (carry (changeProxy n) s) w := by
  refine Within.bind (Within.tryCatch (sparesOffline_send _ _ _) fun e _ _ => ?_) fun _ _ _ => ?_
  · cases e with
    | panic => exact Within.bind (sparesOffline_changeProxy n _) fun _ _ _ => Within.throw _
    | _ => exact Within.throw _
  · exact Within.bind_reads (Reads.exchanged _) fun _ _ => sparesOffline_changeProxy n _

/-- Workers leave offline filters alone. -/
lemma sparesOffline_settle : Within SparesOffline settle w := by
  have hhand : ∀ target options w, Within SparesOffline (hand target options) w :=
    fun target options _ => Within.hand (fun n options _ => sparesOffline_notify n options)
      (fun _ _ => ⟨rfl, rfl, rfl, fun _ _ h => h⟩) target options
  refine Within.settle fun n w => Within.bind_reads (reads_loop n) fun l _ => ?_
  exact Within.bind (Within.worker hhand l) fun _ _ _ => ⟨rfl, rfl, rfl, fun _ _ h => h⟩

/-! ### Writes -/

/-- A write that is taken by a filter that is usable is announced to nobody. -/
lemma keepsOffline_announce {n : Nat} {f : OfflineFilter}
    (hget : w.filters.get? n = some (.offline f)) {t : Told OfflineFilter}
    (ht : f.Usable → f.Takes t) :
    Within KeepsOffline (announce n (t.map .offline)) w := by
  have hput : ∀ g, (f.Usable → f.Written g) →
      w.KeepsOffline { w with filters := w.filters.put n (.offline g) } := by
    refine fun g hg => ⟨rfl, rfl, rfl, fun m k hk husable => ?_⟩
    by_cases hsame : m = n
    · subst hsame
      cases hget.symm.trans hk
      exact ⟨g, hg husable, w.filters.get?_put_self _ _⟩
    · exact ⟨k, husable.written_self, (w.filters.get?_put_of_ne hsame _).trans hk⟩
  refine Within.bind (hput t.state fun hf => ?_) fun _ _ _ => ?_
  · obtain ⟨g, hg, rfl⟩ := ht hf
    exact hg
  · refine Within.bind (Within.forM fun d _ _ => (sparesOffline_tell d).keepsOffline) fun _ _ _ =>
      ?_
    split
    · exact Within.throw _
    · exact Within.pure _

/-- Writing an option writes an offline filter at most. -/
lemma keepsOffline_writeOption (n : Nat) (id : OptionId) (value : OptionValue) :
    Within KeepsOffline (writeOption n id value) w := by
  refine Within.bind_filter fun f hf => ?_
  cases f with
  | remote f => exact Within.bind_ofFilter fun s _ => (sparesOffline_carry n s).keepsOffline
  | offline f =>
    refine Within.bind_ofFilter fun t ht => ?_
    refine Within.bind (keepsOffline_announce hf fun husable => ?_) fun _ _ _ => Within.pure _
    exact husable.of_setOption ht

/-- Writing bytes writes an offline filter at most. -/
lemma keepsOffline_writeBytes (n : Nat) (bytes : List UInt8) :
    Within KeepsOffline (writeBytes n bytes) w := by
  refine Within.bind_filter fun f hf => ?_
  cases f with
  | remote f => exact Within.bind_ofFilter fun s _ => (sparesOffline_carry n s).keepsOffline
  | offline f =>
    refine Within.bind_ofFilter fun t ht => ?_
    refine Within.bind (keepsOffline_announce hf fun husable => ?_) fun _ _ _ => Within.pure _
    exact husable.of_setBytes ht

/-- Writing to a sensor writes its offline filters at most. -/
lemma keepsOffline_write (c : SensorWrite) : Within KeepsOffline c.act w := by
  refine Within.bind_reads (reads_sensor _) fun s _ => Within.bind_ofFilter fun slot _ => ?_
  cases c.write with
  | option id value => exact keepsOffline_writeOption _ _ _
  | enable on => exact keepsOffline_writeOption _ _ _
  | bytes buffer => exact keepsOffline_writeBytes _ _
  | temporal setter =>
    refine Within.bind_filter fun f _ => ?_
    split
    · exact keepsOffline_writeOption _ _ _
    · exact Within.pure _

end Bench

namespace Workbench

variable {α : Type} {w w' : Workbench}

/-- After an operation the loops come to rest, which spares offline filters. -/
lemma sparesOffline_rest (act : Bench α) (leave : Bool) :
    (act.exec w).2.SparesOffline (w.step act leave).2.2 := by
  have hsettle : (act.exec w).2.SparesOffline (Bench.settle.exec (act.exec w).2).2 :=
    Bench.sparesOffline_settle
  rw [step_state]
  exact ⟨hsettle.names, hsettle.sensors, hsettle.next, hsettle.offline⟩

/-- A step that writes to a filter of a sensor keeps offline filters usable. -/
lemma keepsOffline_step (c : SensorWrite) : w.KeepsOffline (w.step c.act false).2.2 := by
  have hact : w.KeepsOffline (c.act.exec w).2 := Bench.keepsOffline_write c
  exact Bench.Course.trans hact (sparesOffline_rest c.act false).keeps

/-! ### Sensors and their filters -/

/-- The sensor with a name has these usable filters, one after the other, each of another kind. -/
structure Stocks (w : Workbench) (name : String) (s : Sensor) (fs : List OfflineFilter) : Prop where
  sensor : ∃ n, n < w.sensors.next ∧ w.names.sensors.get? name = some n ∧ w.sensors.get? n = some s
  held : List.Forall₂ (fun slot f => w.filters.get? slot.filter = some (.offline f)) s.slots fs
  usable : ∀ f ∈ fs, f.Usable
  kinds : s.supported = fs.map OfflineFilter.kind
  unlike : s.supported.Nodup
  added : ∀ slot ∈ s.slots, slot.filter < w.filters.next
  apart : (s.slots.map (·.filter)).Nodup

/-- A sensor that is stocked is looked up under its name. -/
lemma Stocks.exec_sensor {name : String} {s : Sensor} {fs : List OfflineFilter}
    (h : w.Stocks name s fs) :
    (Bench.sensor name).exec w = (.ok s, w) := by
  obtain ⟨n, -, hname, hget⟩ := h.sensor
  exact Bench.exec_sensor hname hget

/-- There is one sensor under a name. -/
lemma Stocks.sensor_unique {name : String} {s t : Sensor} {fs gs : List OfflineFilter}
    (hs : w.Stocks name s fs) (ht : w.Stocks name t gs) : s = t := by
  obtain ⟨n, -, hname, hget⟩ := hs.sensor
  obtain ⟨m, -, hname', hget'⟩ := ht.sensor
  cases hname.symm.trans hname'
  cases hget.symm.trans hget'
  rfl

/-- The filters of a stocked sensor count as written by no writes. -/
lemma Stocks.written_self {name : String} {s : Sensor} {fs : List OfflineFilter}
    (hs : w.Stocks name s fs) :
    List.Forall₂ OfflineFilter.Written fs fs :=
  List.forall₂_same.mpr fun f hf => (hs.usable f hf).written_self

/-- Filters that have been written at most are held by the same slots. -/
lemma KeepsOffline.held (h : w.KeepsOffline w') {slots : List SensorSlot} {fs : List OfflineFilter}
    (hheld : List.Forall₂ (fun slot f => w.filters.get? slot.filter = some (.offline f)) slots fs)
    (husable : ∀ f ∈ fs, f.Usable) : ∃ gs, List.Forall₂ OfflineFilter.Written fs gs ∧
      List.Forall₂ (fun slot g => w'.filters.get? slot.filter = some (.offline g)) slots gs := by
  induction hheld with
  | nil => exact ⟨[], .nil, .nil⟩
  | @cons slot f slots fs hget _ ih =>
    obtain ⟨hf, hfs⟩ := List.forall_mem_cons.mp husable
    obtain ⟨g, hfg, hget⟩ := h.offline _ f hget hf
    obtain ⟨gs, hwritten, hheld⟩ := ih hfs
    exact ⟨g :: gs, .cons hfg hwritten, .cons hget hheld⟩

/-- Filters that have been written twice have been written. -/
lemma written_trans {fs gs ks : List OfflineFilter} (h : List.Forall₂ OfflineFilter.Written fs gs)
    (h' : List.Forall₂ OfflineFilter.Written gs ks) : List.Forall₂ OfflineFilter.Written fs ks := by
  induction h generalizing ks with
  | nil => exact h'
  | cons hfg _ ih =>
    cases h' with
    | cons hgk hrest => exact .cons (hfg.trans hgk) (ih hrest)

/-- Writes keep the makes of filters. -/
lemma makes_of_written {fs gs : List OfflineFilter} (h : List.Forall₂ OfflineFilter.Written fs gs) :
    gs.map OfflineFilter.make = fs.map OfflineFilter.make := by
  induction h with
  | nil => rfl
  | cons hfg _ ih => rw [List.map_cons, List.map_cons, hfg.make, ih]

/-- Filters of the same makes have the same kinds. -/
lemma kinds_of_makes {fs gs : List OfflineFilter}
    (h : gs.map OfflineFilter.make = fs.map OfflineFilter.make) :
    gs.map OfflineFilter.kind = fs.map OfflineFilter.kind := by
  simpa [OfflineFilter.make, Function.comp_def] using congrArg (List.map Prod.snd) h

/-- Usable filters are usable after writes. -/
lemma usable_of_written {fs gs : List OfflineFilter} (h : List.Forall₂ OfflineFilter.Written fs gs)
    (hfs : ∀ f ∈ fs, f.Usable) : ∀ g ∈ gs, g.Usable := by
  induction h with
  | nil => exact hfs
  | cons hfg _ ih =>
    obtain ⟨hf, hfs⟩ := List.forall_mem_cons.mp hfs
    exact List.forall_mem_cons.mpr ⟨hf.of_written hfg, ih hfs⟩

/-- A sensor has its filters after they have been written. -/
lemma Stocks.of_keeps {name : String} {s : Sensor} {fs : List OfflineFilter}
    (hs : w.Stocks name s fs) (h : w.KeepsOffline w') :
    ∃ gs, List.Forall₂ OfflineFilter.Written fs gs ∧ w'.Stocks name s gs := by
  obtain ⟨gs, hwritten, hheld⟩ := h.held hs.held hs.usable
  refine ⟨gs, hwritten, ?_⟩
  exact {
    sensor := by rw [h.names, h.sensors]; exact hs.sensor
    held := hheld
    usable := usable_of_written hwritten hs.usable
    kinds := hs.kinds.trans (kinds_of_makes (makes_of_written hwritten)).symm
    unlike := hs.unlike
    added := by rw [h.next]; exact hs.added
    apart := hs.apart }

/-- A sensor has its filters while offline filters are spared. -/
lemma Stocks.of_spares {name : String} {s : Sensor} {fs : List OfflineFilter}
    (hs : w.Stocks name s fs) (h : w.SparesOffline w') : w'.Stocks name s fs where
  sensor := by rw [h.names, h.sensors]; exact hs.sensor
  held := hs.held.imp fun _ _ hget => h.offline _ _ hget
  usable := hs.usable
  kinds := hs.kinds
  unlike := hs.unlike
  added := by rw [h.next]; exact hs.added
  apart := hs.apart

/-! ### New sensors -/

/-- The slots of filters that are added one after another. -/
def newSlots (w : Workbench) (fs : List OfflineFilter) : List SensorSlot :=
  ((fs.map Filter.offline).zipIdx w.filters.next).map fun f => ⟨f.1.kind, f.2⟩

/-- The workbench with a new sensor and new filters for it. -/
def withSensor (w : Workbench) (name : String) (s : Sensor) (fs : List OfflineFilter) : Workbench :=
  { w with
    filters := w.filters.addAll (fs.map .offline)
    sensors := (w.sensors.add s).2
    names := { w.names with sensors := w.names.sensors.put name w.sensors.next } }

/-- New slots have the numbers from the next one on. -/
lemma numbers_newSlots (w : Workbench) (fs : List OfflineFilter) :
    (w.newSlots fs).map (·.filter) = List.range' w.filters.next fs.length := by
  have hsnd : (w.newSlots fs).map (·.filter) =
      ((fs.map Filter.offline).zipIdx w.filters.next).map Prod.snd := List.map_map
  rw [hsnd, List.zipIdx_map_snd, List.length_map]

/-- New slots have the kinds of their filters. -/
lemma kinds_newSlots (w : Workbench) (fs : List OfflineFilter) :
    (w.newSlots fs).map (·.kind) = fs.map OfflineFilter.kind := by
  have hfst : (w.newSlots fs).map (·.kind) =
      (((fs.map Filter.offline).zipIdx w.filters.next).map Prod.fst).map Filter.kind := by
    rw [newSlots, List.map_map, List.map_map]
    rfl
  rw [hfst, List.zipIdx_map_fst, List.map_map]
  rfl

/-- New slots hold the filters that have been added. -/
lemma held_newSlots (fs : List OfflineFilter) (p : Pool Filter) :
    List.Forall₂ (fun slot f => (p.addAll (fs.map .offline)).get? slot.filter = some (.offline f))
      (((fs.map Filter.offline).zipIdx p.next).map fun f => (⟨f.1.kind, f.2⟩ : SensorSlot)) fs := by
  induction fs generalizing p with
  | nil => exact .nil
  | cons f fs ih =>
    refine .cons ?_ (ih (p.add (.offline f)).2)
    have hlt : p.next < (p.add (.offline f)).2.next := Nat.lt_succ_self _
    refine (Pool.get?_addAll_of_lt hlt _).trans ?_
    rw [Pool.get?_add, if_pos rfl]

/-- A new sensor has the filters that have been added for it. -/
lemma stocks_withSensor (w : Workbench) (name : String) {s : Sensor} {fs : List OfflineFilter}
    (hslots : s.slots = w.newSlots fs) (husable : ∀ f ∈ fs, f.Usable)
    (hkinds : (fs.map OfflineFilter.kind).Nodup) : (w.withSensor name s fs).Stocks name s fs := by
  have hsupported : s.supported = fs.map OfflineFilter.kind := by
    rw [Sensor.supported, hslots, kinds_newSlots]
  exact {
    sensor := ⟨w.sensors.next, Nat.lt_succ_self _, Table.get?_put_self _ _ _, by
      rw [withSensor, Pool.get?_add, if_pos rfl]⟩
    held := hslots ▸ held_newSlots fs w.filters
    usable := husable
    kinds := hsupported
    unlike := hsupported ▸ hkinds
    added := by
      intro slot hslot
      have hmem : slot.filter ∈ (w.newSlots fs).map (·.filter) :=
        List.mem_map_of_mem (hslots ▸ hslot)
      rw [numbers_newSlots, List.mem_range'_1] at hmem
      rw [withSensor, Pool.next_addAll, List.length_map]
      exact hmem.2
    apart := by
      rw [hslots, numbers_newSlots]
      exact List.nodup_range' }

/-- Other sensors have the filters that they had. -/
lemma Stocks.withSensor {name other : String} {a : Sensor} {gs : List OfflineFilter}
    (h : w.Stocks other a gs) (hne : other ≠ name) (s : Sensor) (fs : List OfflineFilter) :
    (w.withSensor name s fs).Stocks other a gs where
  sensor := by
    obtain ⟨n, hlt, hname, hget⟩ := h.sensor
    refine ⟨n, Nat.lt_succ_of_lt hlt, (Table.get?_put_of_ne _ hne _).trans hname, ?_⟩
    rw [Workbench.withSensor, Pool.get?_add, if_neg (Nat.ne_of_lt hlt), hget]
  held := by
    refine ((List.forall₂_and_left _ _).mpr ⟨h.added, h.held⟩).imp fun slot g hg => ?_
    exact (Pool.get?_addAll_of_lt hg.1 _).trans hg.2
  usable := h.usable
  kinds := h.kinds
  unlike := h.unlike
  added := by
    intro slot hslot
    rw [Workbench.withSensor, Pool.next_addAll]
    exact Nat.lt_add_right _ (h.added slot hslot)
  apart := h.apart

end Workbench

/-! ### Building -/

namespace Sensor

/-- What stands in for an advertised filter is usable and of its kind. -/
lemma of_offlineFilter {a : Advertisement} {f : OfflineFilter} (h : offlineFilter a = .ok f) :
    f.Usable ∧ f.kind = a.kind := by
  obtain ⟨r, hr, h⟩ := bind_eq_ok.mp h
  obtain ⟨name, -, h⟩ := bind_eq_ok.mp h
  obtain ⟨kind, hkind, h⟩ := bind_eq_ok.mp h
  obtain ⟨params, hparams, h⟩ := bind_eq_ok.mp h
  obtain ⟨husable, -, rfl⟩ := OfflineFilter.usable_withParams h
  obtain ⟨-, hstated, -⟩ := FilterRecord.ofAdvertisement_ok hr
  rw [FilterRecord.kind, hstated] at hkind
  cases hkind
  exact ⟨husable, Parameters.kind_of_ofOptions hparams⟩

/-- Offline filters for advertisements are usable, and no two are of one kind. -/
lemma of_filtersFor_offline {topic : String} {list : List Advertisement}
    {built : List OfflineFilter} {filters : List Filter}
    (h : filtersFor true topic list (built.map .offline) = .ok filters)
    (hbuilt : ∀ f ∈ built, f.Usable) (hkinds : (built.map OfflineFilter.kind).Nodup) :
    ∃ fs : List OfflineFilter, filters = fs.map .offline ∧ (∀ f ∈ fs, f.Usable) ∧
      (fs.map OfflineFilter.kind).Nodup := by
  induction list generalizing built with
  | nil =>
    cases h
    exact ⟨built, rfl, hbuilt, hkinds⟩
  | cons a list ih =>
    unfold filtersFor at h
    split at h
    · cases h
    · rename_i hnew
      obtain ⟨_, hfilter, h⟩ := bind_eq_ok.mp h
      obtain ⟨f, hf, rfl⟩ := map_eq_ok.mp hfilter
      obtain ⟨husable, hkind⟩ := of_offlineFilter hf
      rw [← List.map_singleton, ← List.map_append] at h
      refine ih h (List.forall_mem_append.mpr ⟨hbuilt, List.forall_mem_singleton.mpr husable⟩) ?_
      have hnew : f.kind ∉ built.map OfflineFilter.kind := by
        intro hmem
        obtain ⟨g, hg, hsame⟩ := List.mem_map.mp hmem
        refine hnew (List.any_eq_true.mpr ⟨.offline g, List.mem_map_of_mem hg, beq_iff_eq.mpr ?_⟩)
        exact hsame.trans hkind
      rw [List.map_append]
      exact List.Nodup.append hkinds (List.nodup_singleton _) (List.disjoint_singleton.mpr hnew)

/-- Offline filters are not notified of anything, and are the same for every topic. -/
lemma filtersFor_offline (topic other : String) (list : List Advertisement) (built : List Filter) :
    filtersFor true topic list built = filtersFor true other list built := by
  induction list generalizing built with
  | nil => rfl
  | cons a list ih =>
    rw [filtersFor, filtersFor]
    simp only [ih]
    rfl

end Sensor

namespace Bench

variable {w v : Workbench}

/-- An advertisement depends on the names alone that others are kept under. -/
lemma exec_advertisement_of_names {source : AdvertisementSource} {a : Advertisement} {u : Workbench}
    (h : (advertisement source).exec w = (.ok a, u))
    (hnames : v.names.advertisements = w.names.advertisements) :
    u = w ∧ (advertisement source).exec v = (.ok a, v) := by
  cases source with
  | text text =>
    have h : (ofText Advertisement.decoder text).exec w = (.ok a, u) := h
    show u = w ∧ (ofText Advertisement.decoder text).exec v = (.ok a, v)
    unfold ofText at h ⊢
    split at h <;> cases h
    exact ⟨rfl, rfl⟩
  | kept key =>
    obtain ⟨rfl, hget⟩ := of_lookup (fun w => w.names.advertisements.get? key) h
    exact ⟨rfl, exec_lookup (fun w => w.names.advertisements.get? key) (hnames ▸ hget) _⟩

/-- Sources give the same advertisements where the names of these are the same. -/
lemma exec_advertisements_of_names {sources : List AdvertisementSource} {list : List Advertisement}
    {u : Workbench} (h : (sources.mapM advertisement).exec w = (.ok list, u))
    (hnames : v.names.advertisements = w.names.advertisements) :
    u = w ∧ (sources.mapM advertisement).exec v = (.ok list, v) := by
  induction sources generalizing list u with
  | nil =>
    cases h
    exact ⟨rfl, rfl⟩
  | cons source sources ih =>
    rw [List.mapM_cons] at h ⊢
    obtain ⟨a, w', ha, hlater⟩ := exec_bind_eq_ok.mp h
    obtain ⟨rfl, hfirst⟩ := exec_advertisement_of_names ha hnames
    obtain ⟨rest, u', hrest, hlast⟩ := exec_bind_eq_ok.mp hlater
    obtain ⟨rfl, hothers⟩ := ih hrest
    cases hlast
    refine ⟨rfl, ?_⟩
    rw [exec_bind_ok hfirst, exec_bind_ok hothers]
    rfl

/-- Attaching a sensor without remote filters to a loop does nothing. -/
lemma exec_attachSensor_offline {n : Nat} {s : Sensor} (hget : w.sensors.get? n = some s)
    (hoffline : s.offline = true) (l : Nat) : (attachSensor n l).exec w = (.ok (), w) := by
  have hslots : remoteSlots s = [] := by rw [remoteSlots, if_pos hoffline]
  rw [attachSensor, exec_bind_ok (exec_sensorAt hget), hslots]
  rfl

/-- A sensor that has just been added, without remote filters, is entered under an unused name. -/
lemma exec_enterSensor {name : String} {n : Nat} {s : Sensor} (hget : w.sensors.get? n = some s)
    (hoffline : s.offline = true) (hfree : w.names.sensors.get? name = none) (l? : Option Nat) :
    (do
      l?.forM (attachSensor n)
      let earlier := (← get).names.sensors.get? name
      rename fun names => { names with sensors := names.sensors.put name n }
      earlier.forM endSensor
      return s : Bench Sensor).exec w =
      (.ok s, { w with names := { w.names with sensors := w.names.sensors.put name n } }) := by
  have hattach : (l?.forM (attachSensor n)).exec w = (.ok (), w) := by
    cases l? with
    | none => rfl
    | some l => exact exec_attachSensor_offline hget hoffline l
  rw [exec_bind_ok hattach, exec_bind_ok (exec_get w), hfree]
  rfl

/-- A sensor that has been built under an unused name, without a link and with offline filters
allowed, has a usable filter for every advertisement. The filters and the sensor are new, and
nothing else has changed. -/
lemma of_buildSensor_offline {name title : String} {config : LinkConfig}
    {sources : List AdvertisementSource} {loop? : Option String} {s : Sensor}
    (hoffline : config.offlineFallback = true) (hfree : w.names.sensors.get? name = none)
    (h : (buildSensor name title config sources none loop?).exec w = (.ok s, v)) :
    ∃ (list : List Advertisement) (fs : List OfflineFilter),
      (sources.mapM advertisement).exec w = (.ok list, w) ∧
      Sensor.filtersFor true "" list [] = .ok (fs.map .offline) ∧
      (∀ f ∈ fs, f.Usable) ∧ (fs.map OfflineFilter.kind).Nodup ∧
      s.name = title ∧ s.slots = w.newSlots fs ∧ v = w.withSensor name s fs := by
  obtain ⟨list, w', hlist, h₁⟩ := exec_bind_eq_ok.mp h
  obtain ⟨rfl, -⟩ := exec_advertisements_of_names (v := w) hlist rfl
  obtain ⟨link?, u, hlink, h₂⟩ := exec_bind_eq_ok.mp h₁
  cases hlink
  obtain ⟨l?, u, hloop, h₃⟩ := exec_bind_eq_ok.mp h₂
  have hsame := Reads.optionMapM (o := loop?) reads_loopNumber w'
  rw [hloop] at hsame
  obtain rfl : u = w' := hsame
  obtain ⟨⟨⟩, u', hconfig, h₄⟩ := exec_bind_eq_ok.mp h₃
  have hsame := Reads.ofConfig config.validate u
  rw [hconfig] at hsame
  obtain rfl : u' = u := hsame
  have hfalls : Sensor.fallsBack config (none : Option LinkNumber).isSome = true := by
    rw [Sensor.fallsBack, hoffline]
    rfl
  rw [hfalls] at h₄
  dsimp only at h₄
  cases hmade : Sensor.filtersFor true config.controlTopic list [] with
  | error e =>
    rw [hmade] at h₄
    cases h₄
  | ok filters =>
    have hnone : Sensor.filtersFor true config.controlTopic list
        (([] : List OfflineFilter).map .offline) =
        .ok filters := hmade
    obtain ⟨fs, rfl, husable, hkinds⟩ := Sensor.of_filtersFor_offline hnone (by simp) .nil
    rw [hmade, exec_bind_ok (exec_ofFilter_ok _ _), exec_bind_ok (exec_addFilters _ _)] at h₄
    have hnew : ∀ b : Sensor, (u'.sensors.add b).2.get? u'.sensors.next = some b := fun b => by
      rw [Pool.get?_add, if_pos rfl]
    have hend := h₄.symm.trans (exec_enterSensor (w := { u' with
      filters := u'.filters.addAll (fs.map .offline)
      sensors := (u'.sensors.add _).2 }) (hnew _) rfl hfree l?)
    cases hend
    refine ⟨list, fs, hlist, ?_, husable, hkinds, rfl, rfl, rfl⟩
    rw [Sensor.filtersFor_offline "" config.controlTopic, hmade]

end Bench

namespace Workbench

variable {w : Workbench}

/-- A step in which a sensor is built offline adds the sensor and its filters, which are those for
the advertisements. -/
lemma step_buildSensor_offline {name title : String} {config : LinkConfig}
    {sources : List AdvertisementSource} {loop? : Option String}
    (hoffline : config.offlineFallback = true) (hfree : w.names.sensors.get? name = none)
    (hbuilt : (w.step (Command.buildSensor name title config sources none loop?).act false).1 =
      .ok ()) :
    ∃ (list : List Advertisement) (s : Sensor) (fs : List OfflineFilter),
      (sources.mapM Bench.advertisement).exec w = (.ok list, w) ∧
      Sensor.filtersFor true "" list [] = .ok (fs.map .offline) ∧
      (w.withSensor name s fs).Stocks name s fs ∧ s.name = title ∧ s.slots = w.newSlots fs ∧
      (w.withSensor name s fs).SparesOffline
        (w.step (Command.buildSensor name title config sources none loop?).act false).2.2 := by
  have hrest := sparesOffline_rest (w := w) (Command.buildSensor name title config
    sources none loop?).act false
  rw [step_result, Command.act, Bench.exec_bind] at hbuilt
  rw [Command.act, Bench.exec_bind] at hrest
  cases h : (Bench.buildSensor name title config sources none loop?).exec w with
  | mk r v =>
    rw [h] at hbuilt hrest
    cases r with
    | error e => cases hbuilt
    | ok s =>
      obtain ⟨list, fs, hlist, hfilters, husable, hkinds, htitle, hslots, rfl⟩ :=
        Bench.of_buildSensor_offline hoffline hfree h
      have hstocks := stocks_withSensor w name hslots husable hkinds
      exact ⟨list, s, fs, hlist, hfilters, hstocks, htitle, hslots, hrest⟩

/-! ### Runs -/

/-- Advertisements stay, and sensors keep their offline filters, which have been written at most. -/
structure KeepsSensors (w w' : Workbench) : Prop where
  advertisements : w'.names.advertisements = w.names.advertisements
  stocks : ∀ {name : String} {s : Sensor} {fs : List OfflineFilter}, w.Stocks name s fs →
    ∃ gs, List.Forall₂ OfflineFilter.Written fs gs ∧ w'.Stocks name s gs

/-- Where offline filters have been written at most sensors keep them. -/
lemma KeepsOffline.keepsSensors (h : w.KeepsOffline w') : w.KeepsSensors w' :=
  ⟨by rw [h.names], fun hs => hs.of_keeps h⟩

/-- What sensors keep twice they keep. -/
lemma KeepsSensors.trans {w'' : Workbench} (h : w.KeepsSensors w') (h' : w'.KeepsSensors w'') :
    w.KeepsSensors w'' := by
  refine ⟨h'.advertisements.trans h.advertisements, fun hs => ?_⟩
  obtain ⟨gs, hfs, hgs⟩ := h.stocks hs
  obtain ⟨ks, hks, hstocks⟩ := h'.stocks hgs
  exact ⟨ks, written_trans hfs hks, hstocks⟩

/-- Sensors stay when another one is added under an unused name. -/
lemma keepsSensors_build {name : String} (hfree : w.names.sensors.get? name = none) (s : Sensor)
    (fs : List OfflineFilter) (h : (w.withSensor name s fs).SparesOffline w') :
    w.KeepsSensors w' := by
  refine ⟨by rw [h.names]; rfl, fun {other _ gs} hs => ⟨gs, hs.written_self, ?_⟩⟩
  have hne : other ≠ name := by
    rintro rfl
    obtain ⟨_, -, hname, -⟩ := hs.sensor
    cases hfree.symm.trans hname
  exact (hs.withSensor hne s fs).of_spares h

/-- What a sensor is built from, and under which name. -/
structure SensorBuild where
  name : String
  title : String
  sources : List AdvertisementSource

/-- What building a sensor without a link does. -/
def SensorBuild.act (b : SensorBuild) (config : LinkConfig) (loop? : Option String) : Bench Unit :=
  (Command.buildSensor b.name b.title config b.sources none loop?).act

/-- A sensor that has been built has usable filters of the names and kinds that its advertisements
ask for. -/
structure BuiltAs (w : Workbench) (b : SensorBuild) (s : Sensor)
  (fs : List OfflineFilter) : Prop where
  stocks : w.Stocks b.name s fs
  title : s.name = b.title
  made : ∃ (list : List Advertisement) (made : List OfflineFilter),
    (b.sources.mapM Bench.advertisement).exec w = (.ok list, w) ∧
    Sensor.filtersFor true "" list [] = .ok (made.map .offline) ∧
    fs.map OfflineFilter.make = made.map OfflineFilter.make

/-- Sensors that are built from the same sources have filters of the same names and kinds. -/
lemma BuiltAs.makes_eq {first second title title' : String} {sources : List AdvertisementSource}
    {s t : Sensor} {fs gs : List OfflineFilter} (hs : w.BuiltAs ⟨first, title, sources⟩ s fs)
    (ht : w.BuiltAs ⟨second, title', sources⟩ t gs) :
    fs.map OfflineFilter.make = gs.map OfflineFilter.make := by
  obtain ⟨list, made, hlist, hfilters, hmakes⟩ := hs.made
  obtain ⟨list', made', hlist', hfilters', hmakes'⟩ := ht.made
  cases hlist.symm.trans hlist'
  have hsame := Except.ok.inj (hfilters.symm.trans hfilters')
  obtain rfl := List.map_injective_iff.mpr (fun _ _ h => Filter.offline.inj h) hsame
  exact hmakes.trans hmakes'.symm

/-- A sensor that has been built as asked stays so, but for writes to its filters. -/
lemma BuiltAs.of_keeps {b : SensorBuild} {s : Sensor} {fs : List OfflineFilter}
    (hs : w.BuiltAs b s fs) (h : w.KeepsSensors w') :
    ∃ gs, List.Forall₂ OfflineFilter.Written fs gs ∧ w'.BuiltAs b s gs := by
  obtain ⟨gs, hwritten, hstocks⟩ := h.stocks hs.stocks
  obtain ⟨list, made, hlist, hfilters, hmakes⟩ := hs.made
  exact ⟨gs, hwritten, hstocks, hs.title, list, made,
    (Bench.exec_advertisements_of_names hlist h.advertisements).2, hfilters,
    (makes_of_written hwritten).trans hmakes⟩

/-- Every sensor that has been built has its filters, and no two sensors share a filter. -/
structure Stocked (w : Workbench) (built : List SensorBuild) : Prop where
  each : ∀ b ∈ built, ∃ s fs, w.BuiltAs b s fs
  apart : ∀ b ∈ built, ∀ c ∈ built, b.name ≠ c.name → ∀ {s t : Sensor} {fs gs : List OfflineFilter},
    w.Stocks b.name s fs → w.Stocks c.name t gs → ∀ i ∈ s.slots, ∀ j ∈ t.slots, i.filter ≠ j.filter

/-- As long as nothing has been built, all that has been built is there. -/
lemma stocked_nil (w : Workbench) : w.Stocked [] := ⟨by simp, by simp⟩

/-- All that has been built stays, but for writes to the filters. -/
lemma Stocked.of_keeps {built : List SensorBuild} (h : w.Stocked built)
    (hkeeps : w.KeepsSensors w') :
    w'.Stocked built where
  each := by
    intro b hb
    obtain ⟨s, fs, hs⟩ := h.each b hb
    obtain ⟨gs, -, hgs⟩ := hs.of_keeps hkeeps
    exact ⟨s, gs, hgs⟩
  apart := by
    intro b hb c hc hne s t fs gs hs ht
    -- the sensors are those that had the names before
    obtain ⟨s', fs', hs'⟩ := h.each b hb
    obtain ⟨t', gs', ht'⟩ := h.each c hc
    obtain ⟨_, -, hsame⟩ := hkeeps.stocks hs'.stocks
    obtain ⟨_, -, hsame'⟩ := hkeeps.stocks ht'.stocks
    obtain rfl := hs.sensor_unique hsame
    obtain rfl := ht.sensor_unique hsame'
    exact h.apart b hb c hc hne hs'.stocks ht'.stocks

/-- A sensor that is built offline under an unused name has filters that no earlier sensor has. -/
lemma Stocked.build {built : List SensorBuild} (h : w.Stocked built) (b : SensorBuild)
    {config : LinkConfig} {loop? : Option String} (hoffline : config.offlineFallback = true)
    (hfree : w.names.sensors.get? b.name = none)
    (hbuilt : (w.step (b.act config loop?) false).1 = .ok ()) :
    (w.step (b.act config loop?) false).2.2.Stocked (b :: built) := by
  obtain ⟨list, s, fs, hlist, hfilters, hs, htitle, hslots, hrest⟩ :=
    step_buildSensor_offline hoffline hfree hbuilt
  have hkeeps := keepsSensors_build hfree s fs hrest
  have hnew := hs.of_spares hrest
  have hold := h.of_keeps hkeeps
  -- the new filters have numbers that no earlier sensor has
  have hapart : ∀ c ∈ built, ∀ {t : Sensor} {gs : List OfflineFilter},
      (w.step (b.act config loop?) false).2.2.Stocks c.name t gs →
      ∀ i ∈ s.slots, ∀ j ∈ t.slots, i.filter ≠ j.filter := by
    intro c hc t gs ht i hi j hj
    obtain ⟨t', gs', ht'⟩ := h.each c hc
    obtain ⟨_, -, hsame⟩ := hkeeps.stocks ht'.stocks
    obtain rfl := ht.sensor_unique hsame
    have hlow := ht'.stocks.added j hj
    have hmem : i.filter ∈ (w.newSlots fs).map (·.filter) := List.mem_map_of_mem (hslots ▸ hi)
    rw [numbers_newSlots, List.mem_range'_1] at hmem
    omega
  refine ⟨List.forall_mem_cons.mpr ⟨⟨s, fs, hnew, htitle, list, fs, ?_, hfilters, rfl⟩, hold.each⟩,
    ?_⟩
  · exact (Bench.exec_advertisements_of_names hlist hkeeps.advertisements).2
  · intro c hc d hd hne t u gs ks ht hu i hi j hj
    rcases List.mem_cons.mp hc with rfl | hc'
    · obtain rfl := ht.sensor_unique hnew
      have hd' : d ∈ built :=
        (List.mem_cons.mp hd).resolve_left fun heq => hne (congrArg _ heq.symm)
      exact hapart d hd' hu i hi j hj
    · rcases List.mem_cons.mp hd with rfl | hd'
      · obtain rfl := hu.sensor_unique hnew
        exact (hapart c hc' ht j hj i hi).symm
      · exact hold.apart c hc' d hd' hne ht hu i hi j hj

/-- Sensors are built offline under unused names, and filters of sensors are written, step after
step. The list says what has been built, the latest first. -/
inductive SensorRun (w : Workbench) : List SensorBuild → Workbench → Prop where
  | start : SensorRun w [] w
  | write {built : List SensorBuild} {v : Workbench} (run : SensorRun w built v) (c : SensorWrite) :
      SensorRun w built (v.step c.act false).2.2
  | build {built : List SensorBuild} {v : Workbench} (run : SensorRun w built v) (b : SensorBuild)
      {config : LinkConfig} {loop? : Option String} (offline : config.offlineFallback = true)
      (free : v.names.sensors.get? b.name = none)
        (accepted : (v.step (b.act config loop?) false).1 = .ok ()) :
      SensorRun w (b :: built) (v.step (b.act config loop?) false).2.2

namespace SensorRun

variable {v : Workbench} {built : List SensorBuild}

/-- A run keeps the sensors that there are. -/
lemma keepsSensors (run : SensorRun w built v) : w.KeepsSensors v := by
  induction run with
  | start => exact ⟨rfl, fun hs => ⟨_, hs.written_self, hs⟩⟩
  | write _ c ih => exact ih.trans (keepsOffline_step c).keepsSensors
  | build _ b hoffline hfree haccepted ih =>
    obtain ⟨_, s, fs, -, -, -, -, -, hrest⟩ := step_buildSensor_offline hoffline hfree haccepted
    exact ih.trans (keepsSensors_build hfree s fs hrest)

/-- What has been built in a run is there, beside what was there before. -/
lemma stocked (run : SensorRun w built v) {earlier : List SensorBuild} (h : w.Stocked earlier) :
    v.Stocked (built ++ earlier) := by
  induction run with
  | start => exact h
  | write _ c ih => exact ih.of_keeps (keepsOffline_step c).keepsSensors
  | build _ b hoffline hfree haccepted ih => exact ih.build b hoffline hfree haccepted

/-- Nothing is stored in a run. -/
lemma stores_eq (run : SensorRun w built v) : v.names.stores = w.names.stores := by
  induction run with
  | start => rfl
  | write _ c ih => rw [(keepsOffline_step c).names, ih]
  | build _ b hoffline hfree haccepted ih =>
    obtain ⟨_, s, fs, -, -, -, -, -, hrest⟩ := step_buildSensor_offline hoffline hfree haccepted
    rw [SensorBuild.act, hrest.names, ← ih]
    rfl

end SensorRun

end Workbench

end EmbeddedFilters
