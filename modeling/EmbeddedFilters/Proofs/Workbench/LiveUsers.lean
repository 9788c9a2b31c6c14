import EmbeddedFilters.Proofs.Workbench.Assembly
import EmbeddedFilters.Proofs.Workbench.Attaching
import EmbeddedFilters.Proofs.Workbench.TearDown

/-!
# The live users of a loop

A run of commands attaches sensors to loops, by themselves or when they are built
(`Workbench.attachments`). A sensor that is there holds the first loop that it has been attached to,
if it has remote filters, and else none (`Workbench.Attached`): the attachment of a sensor that is
being built cannot fail, an attachment that fails leaves all sensors as they are, and a later one
changes nothing. So where all attachments are to one loop, the loop counts each sensor with remote
filters that has been attached to it once, beside the tags that request it
(`Workbench.loop_counts_live_users`).
-/

namespace EmbeddedFilters

namespace Workbench

/-- Filters with some numbers are remote ones that can be used. -/
def Ready (w : Workbench) (list : List Nat) : Prop :=
  ∀ n ∈ list, ∃ f, w.filters.get? n = some (.remote f) ∧ f.destroyed = false

/-- Every sensor that is left is what it was. -/
def OnlyDrops (w w' : Workbench) : Prop :=
  ∀ k s, w'.sensors.get? k = some s → w.sensors.get? k = some s

/-- Sensors may be dropped one after another. -/
instance : Bench.Course OnlyDrops where
  refl _ _ _ h := h
  trans h h' k s hs := h k s (h' k s hs)

/-- Where loops are used as they were sensors are left as they were. -/
lemma LeavesUse.onlyDrops {w w' : Workbench} (h : w.LeavesUse w') : w.OnlyDrops w' := by
  have hsensors : w'.sensors = w.sensors := congrArg LoopUse.sensors h
  intro k s hs
  rwa [hsensors] at hs

/-- No sensor but the next one has been added, and that one holds the loop that was asked for, if it
has remote filters. -/
def AddsSensor (loop? : Option Nat) (w w' : Workbench) : Prop :=
  ∀ k s, w'.sensors.get? k = some s → w.sensors.get? k = some s ∨
    k = w.sensors.next ∧ s.loop? = if (Bench.remoteSlots s).isEmpty then none else loop?

/-- The sensor that is put together from filters as they are added. -/
def sensorOf (w : Workbench) (title : String) (config : LinkConfig) (offline : Bool)
    (filters : List Filter) :
    Sensor where
  name := title
  config := config
  offline := offline
  slots := (filters.zipIdx w.filters.next).map fun f => ⟨f.1.kind, f.2⟩

/-- The workbench with filters and their sensor added. -/
def addSensor (w : Workbench) (filters : List Filter) (s : Sensor) : Workbench :=
  { w with
    filters := w.filters.addAll filters
    sensors := (w.sensors.add s).2 }

variable {w : Workbench} {list : List Nat}

/-- The filters of a sensor that is put together are new. -/
lemma le_sensorOf {title : String} {config : LinkConfig} {offline : Bool} {filters : List Filter}
    {n : Nat} (hn : n ∈ (w.sensorOf title config offline filters).slots.map (·.filter)) :
    w.filters.next ≤ n := by
  rw [sensorOf, List.map_map] at hn
  obtain ⟨f, hf, rfl⟩ := List.mem_map.mp hn
  exact List.le_snd_of_mem_zipIdx hf

/-- A filter that is put in the place of one that can be used can be used as well. -/
lemma Ready.put (h : w.Ready list) {w' : Workbench} {n : Nat} {g : RemoteFilter}
    (hfilters : w'.filters = w.filters.put n (.remote g)) (hg : g.destroyed = false) :
    w'.Ready list := by
  intro m hm
  rw [hfilters, Pool.get?_put]
  split
  · exact ⟨g, rfl, hg⟩
  · exact h m hm

end Workbench

/-- A filter that has been made for an advertisement can be used. -/
lemma RemoteFilter.live_of_ofAdvertisement {f : RemoteFilter} {kind : FilterKind}
    {a : Advertisement} {topic : String} (h : ofAdvertisement kind a topic = .ok f) :
    f.destroyed = false := by
  obtain ⟨r, -, h⟩ := Outcome.bind_eq_ok.mp h
  obtain ⟨d, hd, h⟩ := Outcome.bind_eq_ok.mp h
  obtain ⟨p, -, hd⟩ := Outcome.bind_eq_ok.mp hd
  cases hd
  cases h
  rfl

/-- The remote filters of a sensor stand behind its slots. -/
lemma Sensor.mem_of_remoteSlots {s : Sensor} {n : Nat} (hn : n ∈ Bench.remoteSlots s) :
    n ∈ s.slots.map (·.filter) := by
  unfold Bench.remoteSlots at hn
  split at hn
  · cases hn
  · exact hn

/-- A sensor that has been attached to a loop holds the loop that it has held before, or else this
one, unless it has no remote filters. -/
def Sensor.attach (s : Sensor) (l : Nat) : Sensor :=
  if (Bench.remoteSlots s).isEmpty then s else { s with loop? := some (s.loop?.getD l) }

/-- An attached sensor holds the first loop, unless it has no remote filters. -/
lemma Sensor.loop?_attach (s : Sensor) (l : Nat) :
    (s.attach l).loop? = if (Bench.remoteSlots s).isEmpty then s.loop? else
      some (s.loop?.getD l) := by
  unfold attach
  split <;> rfl

/-- An attached sensor has the slots that it had. -/
lemma Sensor.remoteSlots_attach (s : Sensor) (l : Nat) :
    Bench.remoteSlots (s.attach l) = Bench.remoteSlots s := by
  unfold attach
  split <;> rfl

namespace Bench

open Workbench (AddsSensor LeavesUse OnlyDrops Ready)

variable {α β : Type} {w : Workbench}

/-! ### Attaching -/

/-- Steps that succeed one after another, because each keeps what the next one needs. -/
lemma exec_forM_ok {P : Workbench → Prop} {list : List α} {x : α → Bench Unit}
    (hx : ∀ a ∈ list, ∀ w, P w → ∃ v, (x a).exec w = (.ok (), v) ∧ P v) (hw : P w) :
    ∃ v, (list.forM x).exec w = (.ok (), v) ∧ P v := by
  induction list generalizing w with
  | nil => exact ⟨w, rfl, hw⟩
  | cons a list ih =>
    obtain ⟨u, hfirst, hu⟩ := hx a List.mem_cons_self w hw
    obtain ⟨v, hrest, hv⟩ := ih (fun b hb => hx b (List.mem_cons_of_mem _ hb)) hu
    exact ⟨v, (exec_bind_ok hfirst _).trans hrest, hv⟩

/-- A sensor with filters that can be used can be wired. -/
lemma exec_wireSensor_ok {n : Nat} {s : Sensor} (hs : w.sensors.get? n = some s)
    (hready : w.Ready (remoteSlots s)) (link : LinkNumber) :
    ∃ v, (wireSensor n link).exec w = (.ok (), v) ∧ v.Ready (remoteSlots s) := by
  rw [exec_wireSensor hs]
  refine exec_forM_ok (fun f hf u hu => ?_) hready
  obtain ⟨g, hg, hlive⟩ := hu f hf
  exact ⟨_, exec_changeProxy hg _, hu.put rfl hlive⟩

/-- What attaching a sensor makes of the sensors. -/
lemma sensors_attachSensor {n l : Nat} {s : Sensor} (hs : w.sensors.get? n = some s) :
    ((attachSensor n l).exec w).2.sensors =
      if ((attachSensor n l).exec w).1.toBool then w.sensors.put n (s.attach l) else w.sensors := by
  have hsubscribes := leaves_subscribeAll (w := w) (remoteSlots s) l s.config.notificationTopic
  rw [attachSensor, exec_bind_ok (exec_sensorAt hs)]
  cases hout : ((remoteSlots s).forM fun f => subscribe f l s.config.notificationTopic).exec w with
  | mk r v =>
    rw [Within, hout] at hsubscribes
    have hv : v.sensors = w.sensors := congrArg LoopUse.sensors hsubscribes
    cases r with
    | error e =>
      rw [exec_bind_error hout]
      exact hv
    | ok _ =>
      rw [exec_bind_ok hout]
      cases hremote : (remoteSlots s).isEmpty with
      | true =>
        rw [Sensor.attach, if_pos hremote, Pool.put_of_get? hs]
        exact hv
      | false =>
        have hattach : s.attach l = { s with loop? := some (s.loop?.getD l) } := by
          rw [Sensor.attach, if_neg (by simp [hremote])]
        rw [hattach]
        cases hloop : s.loop? with
        | none =>
          show v.sensors.put n _ = w.sensors.put n _
          rw [hv]
          rfl
        | some m =>
          have hsame : { s with loop? := some m } = s := by rw [← hloop]
          show v.sensors = w.sensors.put n { s with loop? := some m }
          rw [hsame, Pool.put_of_get? hs, hv]

/-- A sensor with filters that can be used can be attached to a loop that is there. -/
lemma exec_attachSensor_ok {n l : Nat} {s : Sensor} (hs : w.sensors.get? n = some s)
    (hready : w.Ready (remoteSlots s)) (hl : (w.loopUse.counted l).isSome) :
    ∃ v, (attachSensor n l).exec w = (.ok (), v) ∧ v.sensors = w.sensors.put n (s.attach l) := by
  have hsubscribed : ∃ v,
      ((remoteSlots s).forM fun f => subscribe f l s.config.notificationTopic).exec w =
      (.ok (), v) ∧ v.Ready (remoteSlots s) ∧ (v.loopUse.counted l).isSome := by
    refine exec_forM_ok (fun f hf u hu => ?_) ⟨hready, hl⟩
    obtain ⟨g, hg, hlive⟩ := hu.1 f hf
    obtain ⟨d, -, hv, huse⟩ := exec_subscribe_counted hg hlive hu.2 s.config.notificationTopic
    refine ⟨_, hv, hu.1.put (u.subscribed_filters f g l d _) hlive, ?_⟩
    rw [huse]
    exact hu.2
  obtain ⟨v, hv, -⟩ := hsubscribed
  have hdone : ∃ x, (attachSensor n l).exec w = (.ok (), x) := by
    rw [attachSensor, exec_bind_ok (exec_sensorAt hs), exec_bind_ok hv]
    split <;> exact ⟨_, rfl⟩
  obtain ⟨x, hx⟩ := hdone
  have hsensors := sensors_attachSensor (l := l) hs
  rw [hx] at hsensors
  exact ⟨x, hx, hsensors⟩

/-! ### Building and dropping -/

/-- The end of a sensor leaves the others. -/
lemma drops_endSensor (n : Nat) : Within OnlyDrops (endSensor n) w := by
  refine Within.bind_reads (reads_sensorAt n) fun s _ => ?_
  refine Within.bind
    (Within.forM fun slot _ _ => (leaves_destroy slot.filter).onlyDrops) fun _ v _ => ?_
  refine Within.bind (Within.optionForM fun l _ k s hs => hs) fun _ u _ k s' hs' => ?_
  have hs' : (u.sensors.members.erase n).get? k = some s' := hs'
  rw [Table.get?_erase] at hs'
  split at hs'
  · cases hs'
  · exact hs'

/-- Dropping a name of a sensor leaves the sensors that stay. -/
lemma drops_dropSensor (name : String) : Within OnlyDrops (dropSensor name) w := by
  refine Within.bind_reads (reads_sensorNumber name) fun n _ => ?_
  exact Within.bind (fun _ _ hs => hs) fun _ _ _ => drops_endSensor n

/-- Placing a loop leaves the sensors that stay. -/
lemma drops_placeLoop (name : String) (config : LinkConfig) :
    Within OnlyDrops (placeLoop name config) w := fun _ _ hs => hs

/-- Requesting a loop leaves the sensors that stay. -/
lemma drops_acquireLoop (name tag : String) : Within OnlyDrops (acquireLoop name tag) w := by
  refine Within.bind_reads (reads_loopNumber name) fun _ _ =>
    Within.bind (fun _ _ hs => hs) fun _ _ _ => ?_
  refine Within.bind_reads Reads.get fun _ _ => Within.bind (fun _ _ hs => hs) fun _ _ _ => ?_
  exact Within.optionForM fun _ _ _ _ hs => hs

/-- Giving up a loop leaves the sensors that stay. -/
lemma drops_releaseLoop (tag : String) : Within OnlyDrops (releaseLoop tag) w := by
  refine Within.bind_reads Reads.get fun _ _ => Within.bind_reads (Reads.found _ _) fun _ _ => ?_
  exact Within.bind (fun _ _ hs => hs) fun _ _ _ _ _ hs => hs

/-- All filters that a sensor with a link is built with can be used. -/
lemma remote_filtersFor {topic : String} {list : List Advertisement} {out : List Filter}
    (h : Sensor.filtersFor false topic list [] = .ok out) :
    ∀ f ∈ out, ∃ g, f = .remote g ∧ g.destroyed = false := by
  refine forall_filtersFor h (fun _ hf => by cases hf) fun a f hf => ?_
  obtain ⟨k, hk, rfl⟩ := Outcome.map_eq_ok.mp hf
  exact ⟨k, rfl, RemoteFilter.live_of_ofAdvertisement hk⟩

/-- A filter that a sensor is built with has no route yet. -/
lemma route_filtersFor {offline : Bool} {topic : String} {list : List Advertisement}
    {out : List Filter} (h : Sensor.filtersFor offline topic list [] = .ok out) :
    ∀ f ∈ out, f.route? = none := by
  refine forall_filtersFor h (fun _ hf => by cases hf) fun a f hf => ?_
  unfold Sensor.filterFor at hf
  split at hf
  · obtain ⟨k, -, rfl⟩ := Outcome.map_eq_ok.mp hf
    rfl
  · obtain ⟨k, hk, rfl⟩ := Outcome.map_eq_ok.mp hf
    exact RemoteFilter.route_of_ofAdvertisement hk

/-- An operation whose result is ignored ends in the same workbench. -/
lemma exec_ignored (x : Bench α) :
    ((do let _ ← x; pure () : Bench Unit).exec w).2 = (x.exec w).2 := by
  rw [exec_bind]
  cases x.exec w with
  | mk r v => cases r <;> rfl

/-- What holds where a chain has failed, and at the end if it has not, holds after it. -/
lemma ends_bind {P : Workbench → Prop} {x : Bench α} {f : α → Bench β}
    (hx : ∀ e v, x.exec w = (.error e, v) → P v)
    (hf : ∀ a v, x.exec w = (.ok a, v) → P ((f a).exec v).2) : P ((x >>= f).exec w).2 := by
  cases hout : x.exec w with
  | mk r v =>
    cases r with
    | error e =>
      rw [exec_bind_error hout]
      exact hx e v hout
    | ok a =>
      rw [exec_bind_ok hout]
      exact hf a v hout

/-- An operation that reads can be skipped. -/
lemma ends_bind_reads {P : Workbench → Prop} {x : Bench α} {f : α → Bench β} (hx : Reads x)
    (hw : P w) (hf : ∀ a, x.exec w = (.ok a, w) → P ((f a).exec w).2) : P ((x >>= f).exec w).2 := by
  have hsame : ∀ r v, x.exec w = (r, v) → v = w := fun r v hout => by rw [← hx w, hout]
  refine ends_bind (fun e v hout => hsame _ v hout ▸ hw) fun a v hout => ?_
  cases hsame _ v hout
  exact hf a hout

/-- A value that a filter has handed on is the result of the filter. -/
lemma eq_ok_of_ofFilter {x : Except FilterError α} {a : α} {v : Workbench}
    (h : (ofFilter x).exec w = (.ok a, v)) : x = .ok a := by
  cases x with
  | error e => cases h
  | ok b =>
    cases h
    rfl

/-- The loop that is asked for by name, if any is. -/
lemma of_loopNumber? {loopName? : Option String} {loop? : Option Nat} {v : Workbench}
    (h : (loopName?.mapM loopNumber).exec w = (.ok loop?, v)) :
    loop? = loopName?.bind w.names.loops.get? := by
  cases loopName? with
  | none =>
    cases h
    rfl
  | some name =>
    obtain ⟨l, u, hl, hpure⟩ := exec_bind_eq_ok.mp h
    obtain ⟨-, hget⟩ := of_lookup (fun w => w.names.loops.get? name) hl
    cases hpure
    exact hget.symm

/-- What is left to do for a sensor that has been put together: it is wired and attached and takes
its name, and the sensor that has had the name before is torn down. -/
def launchSensor (name : String) (n : Nat) (s : Sensor) (link? : Option LinkNumber)
    (loop? : Option Nat) :
    Bench Sensor := do
  link?.forM (wireSensor n)
  loop?.forM (attachSensor n)
  let earlier := (← get).names.sensors.get? name
  rename fun names => { names with sensors := names.sensors.put name n }
  earlier.forM endSensor
  return s

/-- What holds before a sensor is built and once a new one has been launched holds after it. -/
lemma ends_buildSensor {P : Workbench → Prop} {name title : String} {config : LinkConfig}
    {sources : List AdvertisementSource} {linkName? loopName? : Option String} (hw : P w)
    (hlaunched : ∀ list filters link? loop?, loop? = loopName?.bind w.names.loops.get? →
      Sensor.filtersFor (Sensor.fallsBack config link?.isSome) config.controlTopic list [] =
        .ok filters →
      let s := w.sensorOf title config (Sensor.fallsBack config link?.isSome) filters
      P ((launchSensor name w.sensors.next s link? loop?).exec (w.addSensor filters s)).2) :
    P ((buildSensor name title config sources linkName? loopName?).exec w).2 := by
  refine ends_bind_reads (Reads.mapM reads_advertisement) hw fun list _ => ?_
  refine ends_bind_reads (Reads.optionMapM reads_linkNumber) hw fun link? _ => ?_
  refine ends_bind_reads (Reads.optionMapM reads_loopNumber) hw fun loop? hloop => ?_
  refine ends_bind_reads (Reads.ofConfig _) hw fun _ _ => ?_
  refine ends_bind_reads (Reads.ofFilter _) hw fun filters hfilters => ?_
  rw [exec_bind_ok (exec_addFilters filters w)]
  exact hlaunched list filters link? loop? (of_loopNumber? hloop) (eq_ok_of_ofFilter hfilters)

/-- A workbench goes on when a sensor is added with its filters. -/
lemma continues_addSensor {offline : Bool} {topic : String} {list : List Advertisement}
    {filters : List Filter} (h : Sensor.filtersFor offline topic list [] = .ok filters)
    (s : Sensor) :
    w.Continues (w.addSensor filters s) := by
  have hadded : Within Workbench.Continues (filters.mapM fun f => do
      return ({ kind := f.kind, filter := ← addFilter f } : SensorSlot)) w := by
    refine Within.mapM fun f hf _ => ?_
    exact Within.bind (Workbench.continues_add (valid_filtersFor h f hf)) fun _ _ _ => Within.pure _
  rw [Within, exec_addFilters] at hadded
  exact Course.trans hadded (Workbench.continues_of_eq rfl rfl)

/-- The filters that a sensor is built with can be used, unless it has none but offline ones. -/
lemma ready_addAll (hw : w.Sound) {offline : Bool} {topic : String} {list : List Advertisement}
    {filters : List Filter} (h : Sensor.filtersFor offline topic list [] = .ok filters)
    {s : Sensor} (hoffline : s.offline = offline)
    (hslots : s.slots = (filters.zipIdx w.filters.next).map fun f => ⟨f.1.kind, f.2⟩)
    {u : Workbench} (hu : u.filters = w.filters.addAll filters) : u.Ready (remoteSlots s) := by
  intro n hn
  unfold remoteSlots at hn
  split at hn
  · cases hn
  · rename_i hremote
    rw [hoffline, Bool.not_eq_true] at hremote
    cases hremote
    rw [hslots, List.map_map] at hn
    obtain ⟨⟨f, m⟩, hmem, rfl⟩ := List.mem_map.mp hn
    obtain ⟨g, rfl, hlive⟩ := remote_filtersFor h f
      (List.fst_mem_of_mem_zipIdx hmem)
    refine ⟨g, ?_, hlive⟩
    show u.filters.get? m = _
    rw [hu]
    exact Pool.get?_addAll_of_mem hw.free hmem

/-- A sensor with filters that can be used can be wired to a link, if one is given. -/
lemma exec_wireLaunched {n : Nat} {s : Sensor} (hs : w.sensors.get? n = some s)
    (hready : w.Ready (remoteSlots s)) (link? : Option LinkNumber) :
    ∃ v, (link?.forM (wireSensor n)).exec w = (.ok (), v) ∧ v.Ready (remoteSlots s) ∧
      v.loopUse = w.loopUse := by
  cases link? with
  | none => exact ⟨w, rfl, hready, rfl⟩
  | some link =>
    obtain ⟨v, hwired, hready⟩ := exec_wireSensor_ok hs hready link
    have huse : Within LeavesUse (wireSensor n link) w := (steady_wireSensor _ _).1
    rw [Within, hwired] at huse
    exact ⟨v, hwired, hready, huse⟩

/-- A sensor that holds no loop can be attached to the one that is given, if it has filters that can
be used. It holds that loop then, unless it has no remote filters. -/
lemma exec_attachLaunched {n : Nat} {s : Sensor} (hs : w.sensors.get? n = some s)
    (hready : w.Ready (remoteSlots s)) (hfree : s.loop? = none) {loop? : Option Nat}
    (hl : ∀ l, loop? = some l → (w.loopUse.counted l).isSome) :
    ∃ v s', (loop?.forM (attachSensor n)).exec w = (.ok (), v) ∧
      v.sensors = w.sensors.put n s' ∧
      s'.loop? = if (remoteSlots s').isEmpty then none else loop? := by
  cases loop? with
  | none => exact ⟨w, s, rfl, (Pool.put_of_get? hs).symm, by rw [hfree, ite_self]⟩
  | some l =>
    obtain ⟨v, hattached, hsensors⟩ := exec_attachSensor_ok hs hready (hl l rfl)
    refine ⟨v, s.attach l, hattached, hsensors, ?_⟩
    rw [Sensor.loop?_attach, Sensor.remoteSlots_attach, hfree]
    rfl

/-- The sensors after a sensor has been built, or not. -/
lemma sensors_buildSensor (hw : w.Sound) (hnamed : ∀ name n, w.names.loops.get? name = some n →
      (w.loopUse.counted n).isSome) (name title : String) (config : LinkConfig)
    (sources : List AdvertisementSource) (linkName? loopName? : Option String) :
    AddsSensor (loopName?.bind w.names.loops.get?) w
      ((buildSensor name title config sources linkName? loopName?).exec w).2 := by
  refine ends_buildSensor (fun _ _ => .inl) fun list filters link? loop? hasked hfilters => ?_
  intro s
  have hs : (w.addSensor filters s).sensors.get? w.sensors.next = some s := by
    show (w.sensors.add s).2.get? _ = _
    rw [Pool.get?_add, if_pos rfl]
  have hready : (w.addSensor filters s).Ready (remoteSlots s) :=
    ready_addAll hw hfilters rfl rfl rfl
  obtain ⟨u, hwired, hready, huse⟩ := exec_wireLaunched hs hready link?
  have hsensors : u.sensors = (w.sensors.add s).2 := congrArg LoopUse.sensors huse
  have hs : u.sensors.get? w.sensors.next = some s := by rw [hsensors, Pool.get?_add, if_pos rfl]
  have hl : ∀ l, loop? = some l → (u.loopUse.counted l).isSome := by
    rintro l rfl
    obtain ⟨title, -, hget⟩ := Option.bind_eq_some_iff.mp hasked.symm
    rw [huse]
    exact hnamed title l hget
  obtain ⟨v, s', hattached, hput, hloop⟩ := exec_attachLaunched hs hready rfl hl
  have hadds : AddsSensor (loopName?.bind w.names.loops.get?) w v := by
    intro k t ht
    rw [hput, Pool.get?_put, hsensors, Pool.get?_add] at ht
    split at ht
    · rename_i heq
      cases ht
      exact .inr ⟨heq, hasked ▸ hloop⟩
    · exact .inl ht
  have hrest : Within OnlyDrops (do
      let earlier := (← get).names.sensors.get? name
      rename fun names => { names with sensors := names.sensors.put name w.sensors.next }
      earlier.forM endSensor
      return s) v := by
    refine Within.bind_reads Reads.get fun _ _ => Within.bind (fun _ _ hs => hs) fun _ _ _ => ?_
    exact Within.bind (Within.optionForM fun n _ => drops_endSensor n) fun _ _ _ => Within.pure _
  rw [launchSensor, exec_bind_ok hwired, exec_bind_ok hattached]
  exact fun k t ht => hadds k t (hrest k t ht)

end Bench

/-! ### The attachments of a run -/

/-- The attachment that a command makes: that of a sensor which it has attached to a loop, or has
built with a loop, so that the sensor is there. -/
def Command.attachment? (c : Command) (leave : Bool) (w : Workbench) : Option (Nat × Nat) :=
  match c with
  | .attachSensor name loop =>
    if (w.step c.act leave).1.toBool then do
      return (← w.names.sensors.get? name, ← w.names.loops.get? loop)
    else none
  | .buildSensor _ _ _ _ _ loop? =>
    if ((w.step c.act leave).2.2.sensors.get? w.sensors.next).isSome then do
      return (w.sensors.next, ← loop?.bind w.names.loops.get?)
    else none
  | _ => none

namespace Workbench

open Bench (remoteSlots)

/-- The attachments that a run of commands makes, each of a sensor to a loop. -/
def attachments (w : Workbench) : List (Command × Bool) → List (Nat × Nat)
  | [] => []
  | (c, leave) :: rest =>
    (c.attachment? leave w).toList ++ (w.step c.act leave).2.2.attachments rest

/-- The first loop that a sensor has been attached to. -/
def firstLoop? (history : List (Nat × Nat)) (k : Nat) : Option Nat :=
  (history.find? fun a => a.1 == k).map Prod.snd

/-- Sensors hold the loops that they have been attached to first. -/
structure Attached (w : Workbench) (history : List (Nat × Nat)) : Prop where
  held : ∀ k s, w.sensors.get? k = some s →
    s.loop? = if (remoteSlots s).isEmpty then none else firstLoop? history k
  made : ∀ a ∈ history, a.1 < w.sensors.next

variable {w v : Workbench} {history : List (Nat × Nat)}

/-- One more attachment counts for sensors that had none. -/
lemma firstLoop?_append (history : List (Nat × Nat)) (j l k : Nat) :
    firstLoop? (history ++ [(j, l)]) k =
      (firstLoop? history k).or (if j = k then some l else none) := by
  unfold firstLoop?
  rw [List.find?_append, Option.map_or]
  by_cases h : j = k <;> simp [h]

/-- A number that has not been given out has not been attached. -/
lemma Attached.firstLoop?_next (h : w.Attached history) :
    firstLoop? history w.sensors.next = none := by
  refine Option.map_eq_none_iff.mpr (List.find?_eq_none.mpr fun a ha heq => ?_)
  exact absurd (h.made a ha) (by rw [beq_iff_eq.mp heq]; exact Nat.lt_irrefl _)

/-- What holds of sensors goes on to hold as they are dropped. -/
lemma Attached.of_drops (h : w.Attached history) (hdrops : w.OnlyDrops v)
    (hnext : w.sensors.next ≤ v.sensors.next) : v.Attached history where
  held k s hs := h.held k s (hdrops k s hs)
  made a ha := Nat.lt_of_lt_of_le (h.made a ha) hnext

/-- Another sensor has been attached, or built and attached. -/
lemma Attached.append (h : w.Attached history) {k l : Nat}
    (hsensors : ∀ j s, v.sensors.get? j = some s →
      j ≠ k ∧ w.sensors.get? j = some s ∨ j = k ∧
        s.loop? = if (remoteSlots s).isEmpty then none else some ((firstLoop? history k).getD l))
    (hk : k < v.sensors.next) (hnext : w.sensors.next ≤ v.sensors.next) :
    v.Attached (history ++ [(k, l)]) := by
  refine ⟨fun j s hs => ?_, fun a ha => ?_⟩
  · rw [firstLoop?_append]
    obtain ⟨hne, hs⟩ | ⟨rfl, hloop⟩ := hsensors j s hs
    · rw [if_neg (Ne.symm hne), Option.or_none]
      exact h.held j s hs
    · rw [if_pos rfl, hloop]
      cases firstLoop? history j <;> rfl
  · obtain hmem | hmem := List.mem_append.mp ha
    · exact Nat.lt_of_lt_of_le (h.made a hmem) hnext
    · cases List.mem_singleton.mp hmem
      exact hk

end Workbench

namespace Command

open Bench Workbench

variable {w : Workbench} {history : List (Nat × Nat)}

/-- A command that is not about the users of loops attaches nothing. -/
lemma attachment?_eq_none {c : Command} (hc : c.changesUsers = false) (leave : Bool) :
    c.attachment? leave w = none := by
  cases c with
  | buildSensor | attachSensor => cases hc
  | _ => rfl

/-- A sensor is found under its name and attached to a loop that is found under its name, or nothing
is done. -/
lemma of_attachSensor_act (name loop : String) :
    (∃ k l s, w.names.sensors.get? name = some k ∧ w.names.loops.get? loop = some l ∧
      w.sensors.get? k = some s ∧
      (attachSensor name loop).act.exec w = (Bench.attachSensor k l).exec w) ∨
    ∃ e, (attachSensor name loop).act.exec w = (.error e, w) := by
  cases hk : w.names.sensors.get? name with
  | none => exact .inr (Fails.found (fun w => w.names.sensors.get? name) hk |>.bind _)
  | some k =>
    have hname : (sensorNumber name).exec w = (.ok k, w) :=
      exec_lookup (fun w => w.names.sensors.get? name) hk _
    rw [Command.act, exec_bind_ok hname]
    cases hl : w.names.loops.get? loop with
    | none => exact .inr (Fails.found (fun w => w.names.loops.get? loop) hl |>.bind _)
    | some l =>
      have hname : (loopNumber loop).exec w = (.ok l, w) :=
        exec_lookup (fun w => w.names.loops.get? loop) hl _
      rw [exec_bind_ok hname]
      cases hs : w.sensors.get? k with
      | none => exact .inr (Fails.found (fun w => w.sensors.get? k) hs |>.bind _)
      | some s => exact .inl ⟨k, l, s, rfl, rfl, hs, rfl⟩

/-- The sensors after a step are those after its operation. -/
lemma sensors_step (c : Command) (leave : Bool) :
    (w.step c.act leave).2.2.sensors = (c.act.exec w).2.sensors :=
  congrArg LoopUse.sensors (leavesUse_rest c.act leave)

/-- A step does not take numbers of sensors back. -/
lemma next_le_step (hw : w.Reachable) (c : Command) (leave : Bool) :
    w.sensors.next ≤ (w.step c.act leave).2.2.sensors.next :=
  (settles_step c leave hw.accounted).2.next

variable (hw : w.Reachable) (h : w.Attached history)

include hw h

/-- A command that attaches nothing and drops sensors at most keeps to the attachments. -/
lemma attached_drops {c : Command} {leave : Bool} (hdrops : Within OnlyDrops c.act w)
    (hnone : c.attachment? leave w = none) :
    (w.step c.act leave).2.2.Attached (history ++ (c.attachment? leave w).toList) := by
  rw [hnone, Option.toList_none, List.append_nil]
  refine h.of_drops (fun k s hs => hdrops k s ?_) (next_le_step hw c leave)
  rwa [sensors_step] at hs

/-- Sensors hold their first loops after one of them has been attached. -/
lemma attached_attachSensor (name loop : String) (leave : Bool) :
    (w.step (attachSensor name loop).act leave).2.2.Attached
      (history ++ ((attachSensor name loop).attachment? leave w).toList) := by
  have hattachment : (attachSensor name loop).attachment? leave w =
      if ((attachSensor name loop).act.exec w).1.toBool then do
        return (← w.names.sensors.get? name, ← w.names.loops.get? loop)
      else none := by
    rw [← step_result]
    rfl
  obtain ⟨k, l, s, hk, hl, hs, hact⟩ | ⟨e, hact⟩ := of_attachSensor_act (w := w) name loop
  · have hafter := sensors_attachSensor (l := l) hs
    rw [← hact] at hafter
    cases hdone : ((attachSensor name loop).act.exec w).1.toBool with
    | false =>
      refine attached_drops hw h (fun j s' hs' => ?_) (by rw [hattachment, hdone]; rfl)
      rwa [hafter, hdone] at hs'
    | true =>
      have hnext := next_le_step hw (attachSensor name loop) leave
      have hthere := Nat.lt_of_lt_of_le (hw.accounted.sensors k s hs) hnext
      rw [hattachment, hdone, hk, hl]
      refine h.append (fun j s' hs' => ?_) hthere hnext
      rw [sensors_step, hafter, hdone, if_pos rfl, Pool.get?_put] at hs'
      split at hs'
      · rename_i heq
        cases hs'
        refine .inr ⟨heq, ?_⟩
        rw [Sensor.loop?_attach, Sensor.remoteSlots_attach, h.held k s hs]
        split <;> rfl
      · rename_i hne
        exact .inl ⟨hne, hs'⟩
  · exact attached_drops hw h (by rw [Bench.Within, hact]; exact Course.refl w)
      (by rw [hattachment, hact]; rfl)

/-- Sensors hold their first loops after one of them has been built. -/
lemma attached_buildSensor (name title : String) (config : LinkConfig)
    (sources : List AdvertisementSource) (link? loop? : Option String) (leave : Bool) :
    (w.step (buildSensor name title config sources link? loop?).act leave).2.2.Attached
      (history ++ ((buildSensor name title config sources link? loop?).attachment? leave
        w).toList) := by
  have hbuilt :=
    sensors_buildSensor hw.sound hw.accounted.named name title config sources link? loop?
  have hact : (buildSensor name title config sources link? loop?).act.exec w =
      (do
        let _ ← Bench.buildSensor name title config sources link? loop?
        pure () : Bench Unit).exec w :=
    rfl
  rw [← exec_ignored, ← hact, AddsSensor, ← sensors_step _ leave] at hbuilt
  cases hnew : (w.step (buildSensor name title config sources link? loop?).act
      leave).2.2.sensors.get? w.sensors.next with
  | none =>
    -- no sensor has been built
    refine attached_drops hw h (fun j s hs => ?_) (by rw [attachment?, hnew]; rfl)
    rw [← sensors_step _ leave] at hs
    refine (hbuilt j s hs).resolve_right fun hlast => ?_
    rw [hlast.1, hnew] at hs
    cases hs
  | some s =>
    have hattachment : (buildSensor name title config sources link? loop?).attachment? leave w =
        (loop?.bind w.names.loops.get?).map (w.sensors.next, ·) := by
      rw [attachment?, hnew, Option.isSome_some, if_pos rfl, Option.map_eq_bind]
      rfl
    have hnext := next_le_step hw (buildSensor name title config sources link? loop?) leave
    cases hasked : loop?.bind w.names.loops.get? with
    | none =>
      rw [hattachment, hasked, Option.map_none, Option.toList_none, List.append_nil]
      refine ⟨fun j s' hs' => ?_, fun a ha => Nat.lt_of_lt_of_le (h.made a ha) hnext⟩
      obtain hs' | ⟨rfl, hloop⟩ := hbuilt j s' hs'
      · exact h.held j s' hs'
      · rw [hloop, hasked, h.firstLoop?_next]
    | some l =>
      have hthere := (settles_step (buildSensor name title config sources link? loop?) leave
        hw.accounted).1.sensors _ s hnew
      rw [hattachment, hasked]
      refine h.append (fun j s' hs' => ?_) hthere hnext
      obtain hs' | ⟨rfl, hloop⟩ := hbuilt j s' hs'
      · exact .inl ⟨Nat.ne_of_lt (hw.accounted.sensors j s' hs'), hs'⟩
      · exact .inr ⟨rfl, by rw [hloop, hasked, h.firstLoop?_next]; rfl⟩

/-- Every command keeps to the attachments, with its own. -/
lemma attached_act (c : Command) (leave : Bool) :
    (w.step c.act leave).2.2.Attached (history ++ (c.attachment? leave w).toList) := by
  cases hc : c.changesUsers with
  | false => exact attached_drops hw h (leaves_act hc).onlyDrops (attachment?_eq_none hc leave)
  | true =>
    cases c with
    | placeLoop => exact attached_drops hw h (drops_placeLoop _ _) rfl
    | acquireLoop name tag => exact attached_drops hw h (drops_acquireLoop name tag) rfl
    | releaseLoop tag => exact attached_drops hw h (drops_releaseLoop tag) rfl
    | dropSensor name => exact attached_drops hw h (drops_dropSensor name) rfl
    | attachSensor name loop => exact attached_attachSensor hw h name loop leave
    | buildSensor => exact attached_buildSensor hw h _ _ _ _ _ _ leave
    | _ => cases hc

end Command

namespace Workbench

variable {w : Workbench} {history : List (Nat × Nat)}

/-- Sensors hold their first loops after any commands. -/
lemma attached_run (hw : w.Reachable) (h : w.Attached history) (commands : List (Command × Bool)) :
    (w.run commands).Attached (history ++ w.attachments commands) := by
  induction commands generalizing w history with
  | nil =>
    rw [attachments, List.append_nil]
    exact h
  | cons c commands ih =>
    obtain ⟨c, leave⟩ := c
    rw [attachments, ← List.append_assoc]
    exact ih (.step c leave hw) (Command.attached_act hw h c leave)

/-- Nothing has been attached, and there are no sensors. -/
lemma attached_start : ({} : Workbench).Attached [] where
  held _ _ h := by cases h
  made _ h := by cases h

/-- The sensors with remote filters that have been attached to a loop. -/
def attachedSensors (w : Workbench) (history : List (Nat × Nat)) (l : Nat) : List (Nat × Sensor) :=
  w.sensors.members.entries.filter fun e =>
    !(Bench.remoteSlots e.2).isEmpty && history.contains (e.1, l)

/-- Where all attachments are to one loop, it is the first for whoever has been attached to it. -/
lemma firstLoop?_eq_some {k l : Nat} (hone : ∀ a ∈ history, a.2 = l) :
    firstLoop? history k = some l ↔ (k, l) ∈ history := by
  constructor
  · intro h
    obtain ⟨a, ha, rfl⟩ := Option.map_eq_some_iff.mp h
    have hk : a.1 = k := by simpa using List.find?_some ha
    rw [← hk]
    exact List.mem_of_find?_eq_some ha
  · intro h
    cases hfind : history.find? fun a => a.1 == k with
    | none =>
      have hno := List.find?_eq_none.mp hfind _ h
      simp at hno
    | some a =>
      rw [firstLoop?, hfind, Option.map_some, hone a (List.mem_of_find?_eq_some hfind)]

/-- If there is only one loop that sensors are attached to, those that have been attached hold
it. -/
lemma Attached.count_sensors (h : w.Attached history) (hdistinct : w.sensors.members.Distinct)
    {l : Nat} (hone : ∀ a ∈ history, a.2 = l) :
    w.sensors.members.count (·.loop? = some l) = (w.attachedSensors history l).length := by
  unfold Table.count attachedSensors Table.values
  rw [List.countP_map, ← List.countP_eq_length_filter]
  refine List.countP_congr fun e he => ?_
  obtain ⟨k, s⟩ := e
  have hs : w.sensors.get? k = some s := hdistinct.get?_of_mem he
  rw [Function.comp, h.held k s hs, decide_eq_true_iff]
  split
  · rename_i hempty
    simp [hempty]
  · rename_i hremote
    rw [firstLoop?_eq_some hone]
    simp [hremote]

/-- What is published at a loop is refused if the loop does not run. Otherwise it is taken, unless
the publisher waits for room in a queue that is full, and goes on to wait. -/
lemma publish_result {name : String} {l : Nat} {d : DeliveryLoop Target}
    (hname : w.names.loops.get? name = some l)
    (hd : w.loops.get? l = some d) (topic filter : String)
    (options : List Assignment) (leave : Bool) :
    let r := (w.step (Command.publish name topic filter [options]).act leave).1
    if d.running then r = .ok () ∨ r = .error .stalled ∧ d.capacity ≤ d.queue.length
    else r = .error (.link .notConnected) := by
  intro r
  have hloop : (Bench.loop l).exec w = (.ok d, w) :=
    Bench.exec_lookup (fun w => w.loops.get? l) hd _
  have hposted : r = ((Bench.post l fun d => d.publish topic ⟨filter, options⟩).exec w).1 :=
    (step_result _ _ _).trans
    (congrArg Prod.fst (Bench.exec_publish_single hname topic filter options))
  rw [hposted, Bench.post, Bench.exec_bind_ok hloop]
  cases hrunning : d.running with
  | false =>
    rw [DeliveryLoop.publish_stopped hrunning]
    rfl
  | true =>
    rw [DeliveryLoop.publish_running hrunning]
    obtain ⟨outcome?, d', v, hawait, houtcome⟩ :=
      Bench.exec_await_taken (d.enqueue ⟨topic, ⟨filter, options⟩⟩) w
    rw [Bench.exec_bind_ok hawait, if_pos rfl]
    obtain rfl | ⟨rfl, hcrowded⟩ := houtcome
    · exact .inl rfl
    · refine .inr ⟨rfl, ?_⟩
      rw [DeliveryLoop.isCrowded_enqueue, Bool.not_eq_true', decide_eq_false_iff_not] at hcrowded
      exact Nat.le_of_not_lt hcrowded

/-- A run of commands has sensors attached to one loop only, in whatever order and however often
they are built, attached and dropped and the loop is requested and released. Then the loop counts
the tags that request it and the sensors with remote filters that have been attached to it, each
once, and runs exactly while there are any. A report that is published there is refused exactly if
it does not run; while it runs, the report is taken, unless the queue is full and its publisher goes
on to wait for room. -/
theorem loop_counts_live_users (commands : List (Command × Bool)) {l : Nat}
    {d : DeliveryLoop Target}
    (hone : ∀ a ∈ ({} : Workbench).attachments commands, a.2 = l)
    (hd : (({} : Workbench).run commands).loops.get? l = some d) :
    let w := ({} : Workbench).run commands
    d.requesters = w.names.requests.count (· = l) +
        (w.attachedSensors (({} : Workbench).attachments commands) l).length ∧
      (d.running = true ↔ 0 < d.requesters) ∧
      ∀ name topic filter options leave, w.names.loops.get? name = some l →
        let r := (w.step (Command.publish name topic filter [options]).act leave).1
        if d.running then r = .ok () ∨ r = .error .stalled ∧ d.capacity ≤ d.queue.length
        else r = .error (.link .notConnected) := by
  intro w
  have hw : w.Reachable := Reachable.start.run commands
  have hattached : w.Attached (({} : Workbench).attachments commands) :=
    attached_run .start attached_start commands
  obtain ⟨hrequesters, hrunning⟩ := hw.counts_users hd
  refine ⟨?_, ?_, fun name topic filter options leave hname => publish_result hname hd _ _ _ _⟩
  · rw [← hattached.count_sensors hw.accounted.distinctSensors hone]
    exact hrequesters
  · rw [hrunning, decide_eq_true_iff]

/-- The sensor of `depthSensor` is attached to its loop again, and the loop is requested. -/
def attachingAgain : List (Command × Bool) :=
  assembling {} [(.decimation, "small"), (.temporal, "depth")] "camera" [(.temporal, "depth")] ++
    [(.attachSensor "sensor" "loop", false), (.acquireLoop "loop" "tag", false)]

/-- A sensor that has been attached twice is counted once, beside the tag that requests the loop. -/
theorem attached_again_counts_once :
    ∃ d, (({} : Workbench).run attachingAgain).loops.get? 0 = some d ∧ d.requesters = 2 ∧
      d.running = true ∧ (({} : Workbench).attachments attachingAgain) = [(0, 0), (0, 0)] := by
  have hattachments : ({} : Workbench).attachments attachingAgain = [(0, 0), (0, 0)] := by
    decide +kernel
  have hthere : ((({} : Workbench).run attachingAgain).loops.get? 0).isSome := by decide +kernel
  have htags : (({} : Workbench).run attachingAgain).names.requests.count (· = 0) = 1 := by
    decide +kernel
  have hsensors :
      ((({} : Workbench).run attachingAgain).attachedSensors [(0, 0), (0, 0)] 0).length = 1 := by
    decide +kernel
  obtain ⟨d, hd⟩ := Option.isSome_iff_exists.mp hthere
  obtain ⟨hcount, hrunning, -⟩ := loop_counts_live_users attachingAgain
    (by rw [hattachments]; decide) hd
  rw [hattachments, htags, hsensors] at hcount
  exact ⟨d, hd, hcount, hrunning.mpr (by rw [hcount]; decide), hattachments⟩

end Workbench

end EmbeddedFilters
