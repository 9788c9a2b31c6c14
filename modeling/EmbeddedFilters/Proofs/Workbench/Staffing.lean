import EmbeddedFilters.Proofs.Filter.Surfaces
import EmbeddedFilters.Proofs.Workbench.LiveUsers
import EmbeddedFilters.Proofs.Workbench.OfflineSensors

/-!
# The filters of sensors

A sensor is staffed if behind each of its slots there is a filter that serves the kind of the slot,
and no two slots are of one kind (`Workbench.Staffs`). A sensor is staffed when it is built, because
each advertisement has a filter made for it (`Bench.staffed_buildSensor`); later its slots stay, and
so do the filters behind them (`Workbench.Staffed.of_keeps`). So all sensors of a reachable
workbench are staffed (`Workbench.Reachable.staffed`), and no filter stands behind two slots, be
they of one sensor (`Workbench.Staffs.apart`) or of two (`Workbench.Reachable.separate`).
-/

namespace EmbeddedFilters

open Outcome

namespace Sensor

/-- A filter that is made for an advertisement serves the advertised kind. -/
lemma serves_filterFor {offline : Bool} {topic : String} {a : Advertisement} {f : Filter}
    (h : filterFor offline topic a = .ok f) : f.Serves a.kind := by
  unfold filterFor at h
  split at h
  · obtain ⟨g, hg, rfl⟩ := map_eq_ok.mp h
    obtain ⟨husable, hkind⟩ := of_offlineFilter hg
    rw [← hkind]
    exact husable.serves
  · obtain ⟨g, hg, rfl⟩ := map_eq_ok.mp h
    exact RemoteFilter.serves_ofAdvertisement hg

/-- The filters for advertisements serve kinds that are all different. -/
lemma serves_filtersFor {offline : Bool} {topic : String} {list : List Advertisement}
    {built out : List Filter} (h : filtersFor offline topic list built = .ok out)
    (hbuilt : ∀ f ∈ built, f.Serves f.kind) (hkinds : (built.map Filter.kind).Nodup) :
    (∀ f ∈ out, f.Serves f.kind) ∧ (out.map Filter.kind).Nodup := by
  induction list generalizing built with
  | nil =>
    cases h
    exact ⟨hbuilt, hkinds⟩
  | cons a list ih =>
    unfold filtersFor at h
    split at h
    · cases h
    · rename_i hnew
      obtain ⟨f, hf, h⟩ := bind_eq_ok.mp h
      have hserves := serves_filterFor hf
      apply ih h
      · intro g hg
        obtain hg | hg := List.mem_append.mp hg
        · exact hbuilt g hg
        · cases List.mem_singleton.mp hg
          rw [hserves.kind]
          exact hserves
      · have hfresh : f.kind ∉ built.map Filter.kind := by
          intro hmem
          obtain ⟨g, hg, hsame⟩ := List.mem_map.mp hmem
          exact hnew (List.any_eq_true.mpr ⟨g, hg, beq_iff_eq.mpr (hsame.trans hserves.kind)⟩)
        rw [List.map_append]
        exact List.Nodup.append hkinds (List.nodup_singleton _) (List.disjoint_singleton.mpr hfresh)

/-- The slot of a kind is one of the sensor's. -/
lemma of_slot {s : Sensor} {kind : FilterKind} {slot : SensorSlot} (h : s.slot kind = .ok slot) :
    slot ∈ s.slots ∧ slot.kind = kind := by
  unfold Sensor.slot at h
  split at h
  · rename_i found hfind
    cases h
    exact ⟨List.mem_of_find?_eq_some hfind, by simpa using List.find?_some hfind⟩
  · cases h

/-- An attached sensor has the slots that it had. -/
lemma slots_attach (s : Sensor) (l : Nat) : (s.attach l).slots = s.slots := by
  unfold attach
  split <;> rfl

end Sensor

namespace Workbench

/-- Behind each slot of a sensor is a filter that serves its kind, and the kinds are all
different. -/
structure Staffs (w : Workbench) (s : Sensor) : Prop where
  kinds : s.supported.Nodup
  filters : ∀ slot ∈ s.slots, ∃ f, w.filters.get? slot.filter = some f ∧ f.Serves slot.kind

/-- All sensors are staffed. -/
def Staffed (w : Workbench) : Prop := ∀ k s, w.sensors.get? k = some s → w.Staffs s

/-- No two sensors share a filter. -/
def Separate (w : Workbench) : Prop :=
  ∀ j k r s, w.sensors.get? j = some r → w.sensors.get? k = some s →
    ∀ n ∈ r.slots.map (·.filter), n ∈ s.slots.map (·.filter) → j = k

/-- Every sensor that is left has the slots that it had. -/
def KeepsSlots (w w' : Workbench) : Prop :=
  ∀ k s', w'.sensors.get? k = some s' → ∃ s, w.sensors.get? k = some s ∧ s'.slots = s.slots

/-- A workbench goes on, and every sensor that is left has the slots that it had. -/
def KeepsStaff (w w' : Workbench) : Prop := w.Continues w' ∧ w.KeepsSlots w'

/-- Slots stay for some time and for some more. -/
instance : Bench.Course KeepsStaff where
  refl w := ⟨Bench.Course.refl w, fun _ s h => ⟨s, h, rfl⟩⟩
  trans h h' := by
    refine ⟨Bench.Course.trans h.1 h'.1, ?_⟩
    intro k s hs
    obtain ⟨v, hv, hsame⟩ := h'.2 k s hs
    obtain ⟨u, hu, hsame'⟩ := h.2 k v hv
    exact ⟨u, hu, hsame.trans hsame'⟩

variable {w w' : Workbench} {s : Sensor}

/-- Sensors that are what they were have the slots that they had. -/
lemma OnlyDrops.keepsSlots (h : w.OnlyDrops w') : w.KeepsSlots w' :=
  fun k s hs => ⟨s, h k s hs, rfl⟩

/-- No filter stands behind two slots of a staffed sensor. -/
lemma Staffs.apart (h : w.Staffs s) {slot other : SensorSlot} (hslot : slot ∈ s.slots)
    (hother : other ∈ s.slots) (hne : other.kind ≠ slot.kind) : other.filter ≠ slot.filter := by
  intro heq
  obtain ⟨f, hf, hserves⟩ := h.filters slot hslot
  obtain ⟨g, hg, hserves'⟩ := h.filters other hother
  rw [heq] at hg
  cases hf.symm.trans hg
  exact hne (hserves'.kind.symm.trans hserves.kind)

/-- A staffed sensor finds its slots under their kinds. -/
lemma Staffs.slot_eq_ok (h : w.Staffs s) {slot : SensorSlot} (hslot : slot ∈ s.slots) :
    s.slot slot.kind = .ok slot := by
  cases hfound : s.slot slot.kind with
  | error e =>
    unfold Sensor.slot at hfound
    split at hfound
    · cases hfound
    · rename_i hnone
      simpa using List.find?_eq_none.mp hnone slot hslot
  | ok other =>
    obtain ⟨hother, hkind⟩ := Sensor.of_slot hfound
    rw [List.inj_on_of_nodup_map h.kinds hother hslot hkind]

/-- A sensor that is staffed is so as long as filters stay in their places. -/
lemma Staffs.of_evolves (h : w.Staffs s) (hevolves : w.Evolves w') : w'.Staffs s where
  kinds := h.kinds
  filters slot hslot := by
    obtain ⟨f, hf, hserves⟩ := h.filters slot hslot
    obtain ⟨g, hg, hfg⟩ := hevolves.filters _ f hf
    exact ⟨g, hg, hserves.of_evolves hfg⟩

/-- Whether a sensor is staffed depends on its slots alone. -/
lemma Staffs.of_slots {s' : Sensor} (h : w.Staffs s) (hslots : s'.slots = s.slots) :
    w.Staffs s' where
  kinds := by
    rw [Sensor.supported, hslots]
    exact h.kinds
  filters := by
    rw [hslots]
    exact h.filters

/-- Sensors stay staffed as long as their slots and the filters stay. -/
lemma Staffed.of_keeps (h : w.Staffed) (hw : w.Sound) (hkeeps : w.KeepsStaff w') : w'.Staffed := by
  intro k s' hs'
  obtain ⟨s, hs, hslots⟩ := hkeeps.2 k s' hs'
  apply Staffs.of_slots ?_ hslots
  exact (h k s hs).of_evolves (hkeeps.1 hw).2

/-- Sensors that keep their slots stay separate. -/
lemma Separate.of_keeps (h : w.Separate) (hkeeps : w.KeepsSlots w') : w'.Separate := by
  intro j k r' s' hr' hs' n hn hn'
  obtain ⟨r, hr, hrslots⟩ := hkeeps j r' hr'
  obtain ⟨s, hs, hsslots⟩ := hkeeps k s' hs'
  rw [hrslots] at hn
  rw [hsslots] at hn'
  exact h j k r s hr hs n hn hn'

/-- The filters of sensors that are staffed have numbers that have been given out. -/
lemma Staffed.lt_next (h : w.Staffed) (hw : w.Sound) {k n : Nat} (hs : w.sensors.get? k = some s)
    (hn : n ∈ s.slots.map (·.filter)) : n < w.filters.next := by
  obtain ⟨slot, hslot, rfl⟩ := List.mem_map.mp hn
  obtain ⟨f, hf, -⟩ := (h k s hs).filters slot hslot
  refine Nat.lt_of_not_le fun hle => ?_
  cases (hw.free _ hle).symm.trans hf

/-- The filters of a sensor that is added are new, so that it shares none with another one. -/
lemma separate_addSensor (hw : w.Sound) (hstaffed : w.Staffed) (h : w.Separate) (title : String)
    (config : LinkConfig) (offline : Bool) (filters : List Filter) :
    (w.addSensor filters (w.sensorOf title config offline filters)).Separate := by
  intro j k r s' hr hs' n hn hn'
  have hr : (w.sensors.add _).2.get? j = some r := hr
  have hs' : (w.sensors.add _).2.get? k = some s' := hs'
  rw [Pool.get?_add] at hr hs'
  split at hr <;> split at hs'
  · rename_i hj hk
    exact hj.trans hk.symm
  · cases hr
    exact absurd (hstaffed.lt_next hw hs' hn') (Nat.not_lt_of_le (le_sensorOf hn))
  · cases hs'
    exact absurd (hstaffed.lt_next hw hr hn) (Nat.not_lt_of_le (le_sensorOf hn'))
  · exact h j k r s' hr hs' n hn hn'

end Workbench

namespace Bench

open Workbench (Continues KeepsSlots KeepsStaff)

variable {w : Workbench}

/-- Attaching a sensor keeps the slots of sensors. -/
lemma keepsSlots_attachSensor (n loop : Nat) : Within KeepsSlots (attachSensor n loop) w := by
  cases hs : w.sensors.get? n with
  | none =>
    have hfails : (attachSensor n loop).exec w = (.error (.noObject "sensor"), w) := by
      apply exec_bind_error
      rw [sensorAt, exec_bind_ok (exec_get w), hs]
      rfl
    rw [Within, hfails]
    intro k s h
    exact ⟨s, h, rfl⟩
  | some s =>
    intro k s' hs'
    rw [sensors_attachSensor hs] at hs'
    split at hs'
    · rw [Pool.get?_put] at hs'
      split at hs'
      · rename_i heq
        cases hs'
        exact ⟨s, heq ▸ hs, s.slots_attach loop⟩
      · exact ⟨s', hs', rfl⟩
    · exact ⟨s', hs', rfl⟩

/-- Attaching a sensor keeps sensors staffed. -/
lemma keepsStaff_attachSensor (n loop : Nat) : Within KeepsStaff (attachSensor n loop) w :=
  ⟨(orderly_attachSensor n loop).continues, keepsSlots_attachSensor n loop⟩

/-- Wiring a sensor keeps sensors staffed. -/
lemma keepsStaff_wireSensor (n : Nat) (link : LinkNumber) :
    Within KeepsStaff (wireSensor n link) w :=
  ⟨(orderly_wireSensor n link).continues, (steady_wireSensor n link).1.onlyDrops.keepsSlots⟩

/-- The end of a sensor keeps the others staffed. -/
lemma keepsStaff_endSensor (n : Nat) : Within KeepsStaff (endSensor n) w :=
  ⟨(orderly_endSensor n).continues, Workbench.OnlyDrops.keepsSlots (drops_endSensor n)⟩

/-- Wiring and attaching a new sensor keeps sensors staffed. -/
lemma keepsStaff_launchSensor (name : String) (n : Nat) (s : Sensor) (link? : Option LinkNumber)
    (loop? : Option Nat) : Within KeepsStaff (launchSensor name n s link? loop?) w := by
  refine Within.bind (Within.optionForM fun l _ => keepsStaff_wireSensor _ l) fun _ _ _ => ?_
  refine Within.bind (Within.optionForM fun l _ => keepsStaff_attachSensor _ l) fun _ _ _ => ?_
  refine Within.bind_reads Reads.get fun _ _ => ?_
  refine Within.bind ⟨Within.continues (orderly_rename fun _ => rfl),
    fun _ s hs => ⟨s, hs, rfl⟩⟩ fun _ _ _ => ?_
  refine Within.bind (Within.optionForM fun n _ => keepsStaff_endSensor n) fun _ _ _ => ?_
  exact Within.pure _

/-- The sensor that has been put together from new filters is staffed, and the others still are. -/
lemma staffed_addAll (hw : w.Sound) (h : w.Staffed) {offline : Bool} {topic : String}
    {list : List Advertisement} {filters : List Filter}
    (hfilters : Sensor.filtersFor offline topic list [] = .ok filters) {s : Sensor}
    (hslots : s.slots = (filters.zipIdx w.filters.next).map fun f => ⟨f.1.kind, f.2⟩)
    {u : Workbench} (hu : u.filters = w.filters.addAll filters)
    (hsensors : u.sensors = (w.sensors.add s).2) (hevolves : w.Evolves u) : u.Staffed := by
  obtain ⟨hserves, hkinds⟩ := Sensor.serves_filtersFor hfilters (fun _ hf => by cases hf) .nil
  intro k s' hs'
  rw [hsensors, Pool.get?_add] at hs'
  split at hs'
  · cases hs'
    refine ⟨?_, ?_⟩
    · have hfst : s.supported = ((filters.zipIdx w.filters.next).map Prod.fst).map Filter.kind := by
        rw [Sensor.supported, hslots, List.map_map, List.map_map]
        rfl
      rw [hfst, List.zipIdx_map_fst]
      exact hkinds
    · intro slot hslot
      rw [hslots] at hslot
      obtain ⟨⟨f, m⟩, hmem, rfl⟩ := List.mem_map.mp hslot
      refine ⟨f, ?_, hserves f (List.fst_mem_of_mem_zipIdx hmem)⟩
      show u.filters.get? m = some f
      rw [hu]
      exact Pool.get?_addAll_of_mem hw.free hmem
  · exact (h k s' hs').of_evolves hevolves

/-- All sensors are staffed, and share no filters, after a sensor has been built, or not. -/
lemma staffed_buildSensor (hw : w.Sound) (h : w.Staffed)
    (hseparate : w.Separate) (name title : String)
    (config : LinkConfig) (sources : List AdvertisementSource) (link? loop? : Option String) :
    let v := ((buildSensor name title config sources link? loop?).exec w).2
    v.Staffed ∧ v.Separate := by
  refine ends_buildSensor (P := fun v => v.Staffed ∧ v.Separate) ⟨h, hseparate⟩
    fun list filters link? loop? _ hfilters => ?_
  intro s
  obtain ⟨hsound, hevolves⟩ := continues_addSensor hfilters s hw
  have hstaffed : (w.addSensor filters s).Staffed :=
    staffed_addAll hw h hfilters rfl rfl rfl hevolves
  have hapart : (w.addSensor filters s).Separate :=
    Workbench.separate_addSensor hw h hseparate _ _ _ _
  -- from here on the sensor is there, and what is left to do keeps its slots
  have hkeeps :=
    keepsStaff_launchSensor (w := w.addSensor filters s) name w.sensors.next s link? loop?
  exact ⟨hstaffed.of_keeps hsound hkeeps, hapart.of_keeps hkeeps.2⟩

end Bench

namespace Command

open Bench Workbench

variable {w : Workbench}

/-- Does the command build a sensor? -/
def builds : Command → Bool
  | .buildSensor .. => true
  | _ => false

/-- Every sensor that is left keeps its slots, unless one is built. -/
lemma keepsStaff_act {c : Command} (hbuilds : c.builds = false) : Within KeepsStaff c.act w := by
  refine ⟨c.continues_act, ?_⟩
  cases hc : c.changesUsers with
  | false => exact (leaves_act hc).onlyDrops.keepsSlots
  | true =>
    cases c with
    | placeLoop => exact OnlyDrops.keepsSlots (drops_placeLoop _ _)
    | acquireLoop name tag => exact OnlyDrops.keepsSlots (drops_acquireLoop name tag)
    | releaseLoop tag => exact OnlyDrops.keepsSlots (drops_releaseLoop tag)
    | dropSensor name => exact OnlyDrops.keepsSlots (drops_dropSensor name)
    | attachSensor name loop =>
      obtain ⟨k, l, -, -, -, -, hact⟩ | ⟨e, hact⟩ := of_attachSensor_act (w := w) name loop
      · rw [hact]
        exact keepsSlots_attachSensor k l
      · rw [hact]
        exact fun k s hs => ⟨s, hs, rfl⟩
    | buildSensor => cases hbuilds
    | _ => cases hc

/-- All sensors are staffed, and share no filters, after every command. -/
lemma staffed_act (c : Command) (hw : w.Sound) (h : w.Staffed ∧ w.Separate) :
    (c.act.exec w).2.Staffed ∧ (c.act.exec w).2.Separate := by
  cases hbuilds : c.builds with
  | false =>
    have hkeeps : w.KeepsStaff (c.act.exec w).2 := keepsStaff_act hbuilds
    exact ⟨h.1.of_keeps hw hkeeps, h.2.of_keeps hkeeps.2⟩
  | true =>
    cases c with
    | buildSensor name title config sources link? loop? =>
      have hbuilt := staffed_buildSensor hw h.1 h.2 name title config sources link? loop?
      rw [← exec_ignored] at hbuilt
      exact hbuilt
    | _ => cases hbuilds

end Command

namespace Workbench

variable {w : Workbench}

/-- Sensors stay staffed and separate while the loops come to rest after a command. -/
lemma staffed_step (hw : w.Sound) (h : w.Staffed ∧ w.Separate) (c : Command) (leave : Bool) :
    (w.step c.act leave).2.2.Staffed ∧ (w.step c.act leave).2.2.Separate := by
  have hsound : (c.act.exec w).2.Sound := (c.continues_act hw).1
  have hrest : (c.act.exec w).2.KeepsStaff (w.step c.act leave).2.2 :=
    ⟨continues_rest c.act leave, (leavesUse_rest c.act leave).onlyDrops.keepsSlots⟩
  obtain ⟨hstaffed, hseparate⟩ := c.staffed_act hw h
  exact ⟨hstaffed.of_keeps hsound hrest, hseparate.of_keeps hrest.2⟩

/-- On a reachable workbench sensors are staffed, and share no filters. -/
lemma Reachable.staffed_separate (h : w.Reachable) : w.Staffed ∧ w.Separate := by
  induction h with
  | start => exact ⟨fun _ _ hs => by (cases hs), fun _ _ _ _ hs => by cases hs⟩
  | step c leave hw ih => exact staffed_step hw.sound ih c leave

/-- In a reachable workbench all sensors are staffed. -/
lemma Reachable.staffed (h : w.Reachable) : w.Staffed := h.staffed_separate.1

/-- In a reachable workbench no two sensors share a filter. -/
lemma Reachable.separate (h : w.Reachable) : w.Separate := h.staffed_separate.2

end Workbench

end EmbeddedFilters
