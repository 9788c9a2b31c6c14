import EmbeddedFilters.Proofs.Filter.Advertised
import EmbeddedFilters.Proofs.Workbench.Reports
import EmbeddedFilters.Proofs.Workbench.Subscribing

/-!
# Sensors that are put together

A device hosts filters and advertises them, and a sensor is built from some of the advertisements,
with one filter for each, wired to the device and attached to the loop that the device reports to
(`Workbench.assembling`). What that comes to is a workbench in step with the device
(`Workbench.inStep_assembled`).
-/

namespace EmbeddedFilters

namespace Pool

variable {α : Type}

/-- The pool with all values of a list added. -/
def addAll (p : Pool α) (list : List α) : Pool α := list.foldl (fun p a => (p.add a).2) p

/-- Members that are added take the numbers from the next one on. -/
lemma next_addAll (p : Pool α) (list : List α) : (p.addAll list).next = p.next + list.length := by
  induction list generalizing p with
  | nil => rfl
  | cons a list ih =>
    refine (ih (p.add a).2).trans ?_
    show p.next + 1 + list.length = p.next + (list.length + 1)
    omega

/-- Values that have numbers keep them when others are added. -/
lemma get?_addAll_of_lt {p : Pool α} {n : Nat} (h : n < p.next) (list : List α) :
    (p.addAll list).get? n = p.get? n := by
  induction list generalizing p with
  | nil => rfl
  | cons a list ih =>
    have hlater : n < (p.add a).2.next := Nat.lt_succ_of_lt h
    refine (ih hlater).trans ?_
    rw [get?_add, if_neg (Nat.ne_of_lt h)]

/-- The numbers of values that are added one after another follow those given out before. -/
lemma get?_addAll {p : Pool α} (hfree : ∀ n, p.next ≤ n → p.get? n = none) (list : List α)
    (n : Nat) :
    (p.addAll list).get? n = if n < p.next then p.get? n else list[n - p.next]? := by
  induction list generalizing p with
  | nil =>
    split
    · rfl
    · rename_i h
      exact hfree n (Nat.not_lt.mp h)
  | cons a list ih =>
    have hnext : (p.add a).2.next = p.next + 1 := rfl
    have hstep := ih (p := (p.add a).2) (fun m hm => by
      rw [get?_add, if_neg (by omega)]
      exact hfree m (by omega))
    rw [addAll, List.foldl_cons]
    refine hstep.trans ?_
    rw [hnext, get?_add]
    by_cases hn : n = p.next
    · simp [hn]
    · by_cases hlt : n < p.next
      · rw [if_pos (by omega), if_neg hn, if_pos hlt]
      · rw [if_neg (by omega), if_neg hlt, show n - p.next = n - (p.next + 1) + 1 by omega,
          List.getElem?_cons_succ]

/-- A member that has been added is found under the number that it has taken. -/
lemma get?_addAll_of_mem {p : Pool α} (hfree : ∀ n, p.next ≤ n → p.get? n = none) {list : List α}
    {a : α} {n : Nat} (h : (a, n) ∈ list.zipIdx p.next) : (p.addAll list).get? n = some a := by
  obtain ⟨hle, hat⟩ := List.mk_mem_zipIdx_iff_le_and_getElem?_sub.mp h
  rw [get?_addAll hfree, if_neg (Nat.not_lt.mpr hle)]
  exact hat

end Pool

/-- If one member of a list passes a test and comes once, it is what is left of the list. -/
lemma filter_eq_singleton {list : List Nat} (hnd : list.Nodup) {n : Nat} (hn : n ∈ list)
    {p : Nat → Bool} (hp : ∀ m ∈ list, p m = true ↔ m = n) : list.filter p = [n] := by
  have hsame : list.filter p = list.filter (· == n) :=
    List.filter_congr fun m hm => Bool.eq_iff_iff.mpr ((hp m hm).trans beq_iff_eq.symm)
  rw [hsame, List.filter_beq, List.count_eq_one_of_mem hnd hn]
  rfl

/-- A route that has been added has its target reached last. -/
lemma DeliveryLoop.targets_addRoute {τ : Type} (l : DeliveryLoop τ) (topic filter name : String)
    (target : τ) : (l.addRoute topic filter target).2.targets topic name =
      l.targets topic name ++ if filter = name then [target] else [] := by
  unfold addRoute targets
  by_cases hname : filter = name <;> simp [hname]

/-- The filters for advertisements of different kinds are made. -/
lemma Sensor.filtersFor_fresh {topic : String} {chosen : List (FilterKind × String)}
    {built : List Filter} (hkinds : (built.map Filter.kind ++ chosen.map Prod.fst).Nodup) :
    Sensor.filtersFor false topic (chosen.map fun c => .fresh c.1 c.2) built =
      .ok (built ++ chosen.map fun c => .remote (RemoteFilter.fresh c.1 c.2 topic)) := by
  induction chosen generalizing built with
  | nil => simp [Sensor.filtersFor]
  | cons c rest ih =>
    obtain ⟨kind, name⟩ := c
    have hnew : (built.any fun f => f.kind == kind) = false := by
      rw [List.nodup_append] at hkinds
      refine List.any_eq_false.mpr fun f hf heq => ?_
      exact hkinds.2.2 f.kind (List.mem_map_of_mem hf) kind List.mem_cons_self (beq_iff_eq.mp heq)
    have hmade : Sensor.filterFor false topic (.fresh kind name) =
        .ok (.remote (RemoteFilter.fresh kind name topic)) := by
      have hfilter := RemoteFilter.ofAdvertisement_fresh kind name topic
      unfold Sensor.filterFor
      rw [if_neg Bool.false_ne_true]
      exact congrArg (Except.map Filter.remote) hfilter
    have hrest := @ih (built ++ [.remote (RemoteFilter.fresh kind name topic)]) (by
      simpa [Filter.kind, RemoteFilter.kind, RemoteFilter.fresh] using hkinds)
    rw [List.map_cons, Sensor.filtersFor]
    rw [show (Advertisement.fresh kind name).kind = kind from rfl, hnew, hmade]
    simp only [Bool.false_eq_true, if_false, Outcome.ok_bind]
    refine hrest.trans ?_
    rw [List.append_assoc, List.map_cons]
    rfl

namespace Bench

variable {w : Workbench} {d : Device} {l : DeliveryLoop Target}

/-- Advertisements that are kept are looked up one after the other. -/
lemma exec_advertisements {chosen : List (FilterKind × String)}
    (h : ∀ c ∈ chosen, w.names.advertisements.get? c.2 = some (.fresh c.1 c.2)) :
    ((chosen.map fun c => AdvertisementSource.kept c.2).mapM advertisement).exec w =
      (.ok (chosen.map fun c => .fresh c.1 c.2), w) := by
  induction chosen with
  | nil => rfl
  | cons c rest ih =>
    have hfirst : (advertisement (.kept c.2)).exec w = (.ok (.fresh c.1 c.2), w) :=
      exec_lookup (fun w => w.names.advertisements.get? c.2) (h c List.mem_cons_self) _
    rw [List.map_cons, List.mapM_cons, exec_bind_ok hfirst,
      exec_bind_ok (ih fun a ha => h a (List.mem_cons_of_mem _ ha))]
    rfl

/-- Filters are placed one after the other, and their slots have the numbers that they take. -/
lemma exec_addFilters (list : List Filter) (w : Workbench) :
    (list.mapM fun f => do
      return ({ kind := f.kind, filter := ← addFilter f } : SensorSlot)).exec w =
      (.ok ((list.zipIdx w.filters.next).map fun f => ⟨f.1.kind, f.2⟩),
        { w with filters := w.filters.addAll list }) := by
  induction list generalizing w with
  | nil => rfl
  | cons f rest ih =>
    have hfirst : (do return ({ kind := f.kind, filter := ← addFilter f } : SensorSlot) :
        Bench SensorSlot).exec w =
        (.ok ⟨f.kind, w.filters.next⟩, { w with filters := (w.filters.add f).2 }) := rfl
    rw [List.mapM_cons, exec_bind_ok hfirst, exec_bind_ok (ih _)]
    rfl

/-- A device is looked up under its name. -/
lemma exec_device {name : String} {n : LinkNumber} (hname : w.names.devices.get? name = some n)
    (hget : w.links.get? n = some (.device d)) : (device name).exec w = (.ok (n, d), w) := by
  have hlink : (link n).exec w = (.ok (.device d), w) :=
    exec_lookup (fun w => w.links.get? n) hget _
  rw [device, exec_bind_ok (exec_get w), hname, exec_bind_ok (exec_found_some _ _ _),
    exec_bind_ok hlink]
  rfl

/-- Wiring filters gives each of them the link, and leaves all others. -/
lemma exec_wireAll {numbers : List Nat} (hnd : numbers.Nodup)
    (h : ∀ n ∈ numbers, ∃ f, w.filters.get? n = some (.remote f)) (link : LinkNumber) :
    ∃ filters, (numbers.forM fun n => changeProxy n fun p => p.wire link).exec w =
        (.ok (), { w with filters }) ∧
      (∀ n, n ∉ numbers → filters.get? n = w.filters.get? n) ∧
      ∀ n ∈ numbers, ∀ f, w.filters.get? n = some (.remote f) →
        filters.get? n = some (.remote { f with proxy := f.proxy.wire link }) := by
  induction numbers generalizing w with
  | nil => exact ⟨w.filters, rfl, fun _ _ => rfl, fun _ hn => by cases hn⟩
  | cons first rest ih =>
    obtain ⟨f, hf⟩ := h first List.mem_cons_self
    obtain ⟨hfirst, hnd⟩ := List.nodup_cons.mp hnd
    set wired : Workbench :=
      { w with filters := w.filters.put first (.remote { f with proxy := f.proxy.wire link }) }
      with hwired
    have hsame : ∀ n, n ≠ first → wired.filters.get? n = w.filters.get? n :=
      fun n hn => Pool.get?_put_of_ne _ hn _
    have hrest : ∀ n ∈ rest, ∃ g, wired.filters.get? n = some (.remote g) := by
      intro n hn
      rw [hsame n fun heq => hfirst (heq ▸ hn)]
      exact h n (List.mem_cons_of_mem _ hn)
    obtain ⟨filters, hexec, hothers, hchanged⟩ := ih hnd hrest
    refine ⟨filters, (exec_bind_ok (exec_changeProxy hf _) _).trans hexec, ?_, ?_⟩
    · intro n hn
      rw [List.mem_cons, not_or] at hn
      rw [hothers n hn.2, hsame n hn.1]
    · intro n hn g hg
      by_cases heq : n = first
      · subst heq
        cases hf.symm.trans hg
        rw [hothers n hfirst]
        exact Pool.get?_put_self _ _ _
      · have hmem := (List.mem_cons.mp hn).resolve_left heq
        exact hchanged n hmem g ((hsame n heq).trans hg)

/-- A live filter without a route gets one at the end of the only loop. -/
lemma exec_subscribe {n : Nat} {f : RemoteFilter} (hf : w.filters.get? n = some (.remote f))
    (hlive : f.destroyed = false) (hroute : f.route? = none)
    (hloops : w.loops.members.entries = [(0, l)]) (topic : String) :
    (subscribe n 0 topic).exec w = (.ok (), { w with
      loops := w.loops.modify 0 fun _ => (l.addRoute topic f.name (.filter n)).2
      filters := w.filters.put n (.remote { f with route? := some ⟨0, l.nextToken⟩ }) }) := by
  rw [exec_subscribe_alive hf hlive (Pool.get?_of_entries hloops), Workbench.subscribed, hroute]
  rfl

/-- Live filters without routes get them at the end of the only loop, in their order. -/
lemma exec_subscribeAll {numbers : List Nat} (hnd : numbers.Nodup) (title : Nat → String)
    (h : ∀ n ∈ numbers, ∃ f, w.filters.get? n = some (.remote f) ∧ f.destroyed = false ∧
      f.route? = none ∧ f.name = title n)
    (hloops : w.loops.members.entries = [(0, l)]) (topic : String) :
    ∃ filters loops l', (numbers.forM fun n => subscribe n 0 topic).exec w =
        (.ok (), { w with filters, loops }) ∧
      loops.members.entries = [(0, l')] ∧ l'.queue = l.queue ∧ l'.inFlight = l.inFlight ∧
      (∀ name, l'.targets topic name = l.targets topic name ++
        (numbers.filter fun n => title n == name).map .filter) ∧
      (∀ n, n ∉ numbers → filters.get? n = w.filters.get? n) ∧
      ∀ n ∈ numbers, ∀ f, w.filters.get? n = some (.remote f) →
        ∃ route?, filters.get? n = some (.remote { f with route? }) := by
  induction numbers generalizing w l with
  | nil => exact ⟨w.filters, w.loops, l, rfl, hloops, rfl, rfl, fun _ => by simp, fun _ _ => rfl,
      fun _ hn => by cases hn⟩
  | cons first rest ih =>
    obtain ⟨f, hf, hlive, hroute, hname⟩ := h first List.mem_cons_self
    obtain ⟨hfirst, hnd⟩ := List.nodup_cons.mp hnd
    have hsubscribed := exec_subscribe hf hlive hroute hloops topic
    set routed : Workbench := { w with
      loops := w.loops.modify 0 fun _ => (l.addRoute topic f.name (.filter first)).2
      filters := w.filters.put first (.remote { f with route? := some ⟨0, l.nextToken⟩ }) }
      with hrouted
    have hsame : ∀ n, n ≠ first → routed.filters.get? n = w.filters.get? n :=
      fun n hn => Pool.get?_put_of_ne _ hn _
    have hrest : ∀ n ∈ rest, ∃ g, routed.filters.get? n = some (.remote g) ∧ g.destroyed = false ∧
        g.route? = none ∧ g.name = title n := by
      intro n hn
      rw [hsame n fun heq => hfirst (heq ▸ hn)]
      exact h n (List.mem_cons_of_mem _ hn)
    obtain ⟨filters, loops, l', hexec, hentries, hqueue, hinFlight, htargets, hothers, hchanged⟩ :=
      ih hnd hrest (Pool.entries_modify hloops _)
    refine ⟨filters, loops, l', (exec_bind_ok hsubscribed _).trans hexec,
      hentries, hqueue, hinFlight,
      ?_, ?_, ?_⟩
    · intro name
      rw [htargets, DeliveryLoop.targets_addRoute, hname, List.filter_cons]
      by_cases hfirst : title first = name <;> simp [hfirst]
    · intro n hn
      rw [List.mem_cons, not_or] at hn
      rw [hothers n hn.2, hsame n hn.1]
    · intro n hn g hg
      by_cases heq : n = first
      · subst heq
        cases hf.symm.trans hg
        rw [hothers n hfirst]
        exact ⟨_, Pool.get?_put_self _ _ _⟩
      · have hmem := (List.mem_cons.mp hn).resolve_left heq
        exact hchanged n hmem g ((hsame n heq).trans hg)

/-- To wire a sensor is to wire its remote filters. -/
lemma exec_wireSensor {k : Nat} {s : Sensor} (hs : w.sensors.get? k = some s) (link : LinkNumber) :
    (wireSensor k link).exec w =
      ((remoteSlots s).forM fun n => changeProxy n fun p => p.wire link).exec w :=
  exec_bind_ok (exec_sensorAt hs) _

/-- The remote filters of a sensor get their routes, and the sensor stays but for its hold on the
loop. -/
lemma exec_attachSensor {k : Nat} {s : Sensor} (hs : w.sensors.get? k = some s)
    (hnd : (remoteSlots s).Nodup) (title : Nat → String)
    (h : ∀ n ∈ remoteSlots s, ∃ f, w.filters.get? n = some (.remote f) ∧ f.destroyed = false ∧
      f.route? = none ∧ f.name = title n)
    (hloops : w.loops.members.entries = [(0, l)]) :
    ∃ filters loops sensors l', (attachSensor k 0).exec w =
        (.ok (), { w with filters, loops, sensors }) ∧
      loops.members.entries = [(0, l')] ∧ l'.queue = l.queue ∧ l'.inFlight = l.inFlight ∧
      (∃ s', sensors.get? k = some s' ∧ s'.slots = s.slots) ∧
      (∀ name, l'.targets s.config.notificationTopic name =
        l.targets s.config.notificationTopic name ++
          ((remoteSlots s).filter fun n => title n == name).map .filter) ∧
      (∀ n, n ∉ remoteSlots s → filters.get? n = w.filters.get? n) ∧
      ∀ n ∈ remoteSlots s, ∀ f, w.filters.get? n = some (.remote f) →
        ∃ route?, filters.get? n = some (.remote { f with route? }) := by
  obtain ⟨filters, loops, l', hexec, hentries, hqueue, hinFlight, htargets, hothers, hchanged⟩ :=
    exec_subscribeAll hnd title h hloops s.config.notificationTopic
  have hattach : (attachSensor k 0).exec w =
      (if !(remoteSlots s).isEmpty && s.loop?.isNone then do
          changeLoop 0 DeliveryLoop.acquire
          modify fun w => { w with sensors := w.sensors.put k { s with loop? := some 0 } }
        else pure () : Bench Unit).exec { w with filters, loops } :=
    (exec_bind_ok (exec_sensorAt hs) _).trans (exec_bind_ok hexec _)
  by_cases hfirst : (!(remoteSlots s).isEmpty && s.loop?.isNone) = true
  · rw [if_pos hfirst] at hattach
    have hacquire : l'.acquire.queue = l'.queue ∧ l'.acquire.inFlight = l'.inFlight ∧
        l'.acquire.routes = l'.routes := by
      unfold DeliveryLoop.acquire
      split <;> exact ⟨rfl, rfl, rfl⟩
    refine ⟨filters, _, _, l'.acquire, hattach, Pool.entries_modify hentries _,
      hacquire.1.trans hqueue, hacquire.2.1.trans hinFlight, ?_, ?_, hothers, hchanged⟩
    · exact ⟨_, Pool.get?_put_self _ _ _, rfl⟩
    · intro name
      rw [DeliveryLoop.targets, hacquire.2.2]
      exact htargets name
  · rw [if_neg hfirst] at hattach
    exact ⟨filters, loops, w.sensors, l', hattach, hentries, hqueue,
      hinFlight, ⟨s, hs, rfl⟩, htargets,
      hothers, hchanged⟩

end Bench

namespace Workbench

variable {w : Workbench} {d : Device} {config : LinkConfig} {hosted : List (FilterKind × String)}

/-- The commands that put a sensor together: a device with the topics of the settings reports to a
loop and hosts filters, and a sensor with the same settings is built from some of them. -/
def assembling (config : LinkConfig) (hosted : List (FilterKind × String)) (title : String)
    (chosen : List (FilterKind × String)) : List (Command × Bool) :=
  [(.placeLoop "loop", false), (.placeDevice "device" config, false),
    (.connectDevice "device" "loop", false)] ++
  hosted.map (fun h => (.advertise "device" h.1 h.2 h.2, false)) ++
  [(.buildSensor "sensor" title config (chosen.map fun c => .kept c.2) (some "device")
    (some "loop"), false)]

/-- A device hosts filters at their defaults and has advertised them, and nothing has been made of
the advertisements. -/
structure Offers (w : Workbench) (config : LinkConfig) (hosted : List (FilterKind × String))
    (d : Device) : Prop where
  links : w.links.members.entries = [(0, .device d)]
  loops : w.loops.members.entries = [(0, {})]
  controlTopic : d.controlTopic = config.controlTopic
  notificationTopic : d.notificationTopic = config.notificationTopic
  reports : d.loop? = some 0
  filters : w.filters = {}
  sensors : w.sensors = {}
  device : w.names.devices.get? "device" = some 0
  loop : w.names.loops.get? "loop" = some 0
  named : w.names.filters = {}
  built : w.names.sensors = {}
  hosts : ∀ h ∈ hosted, d.filter? h.2 = some ⟨h.1, Parameters.initialValues h.1⟩
  kept : ∀ h ∈ hosted, w.names.advertisements.get? h.2 = some (.fresh h.1 h.2)

/-- A step that leaves the only loop with nothing to do ends where its operation does. -/
lemma step_idle {act : Bench Unit} {l : DeliveryLoop Target}
    (hloops : (act.exec w).2.loops.members.entries = [(0, l)]) (hqueue : l.queue = [])
    (hinFlight : l.inFlight = []) (leave : Bool) :
    (w.step act leave).2.2 = { (act.exec w).2 with
      calls := if leave then (act.exec w).2.calls else [] } := by
  have hsame : (act.exec w).2.loops.modify 0 (fun _ => l) = (act.exec w).2.loops := by
    have hget := Pool.get?_of_entries hloops
    rw [Pool.modify_of_get? hget, Pool.put_of_get? hget]
  have hsettle : (Bench.settle.exec (act.exec w).2).2 = (act.exec w).2 := by
    rw [Bench.exec_settle hloops,
      Bench.exec_bind_ok (Bench.exec_drain_idle (.inr ⟨hqueue, hinFlight⟩) _)]
    show { (act.exec w).2 with loops := (act.exec w).2.loops.modify 0 fun _ => l } = _
    rw [hsame]
  rw [step_state, hsettle]

/-- A device that reports to a loop offers nothing at first. -/
lemma offers_start (config : LinkConfig) :
    ∃ d, (({} : Workbench).run [(.placeLoop "loop", false), (.placeDevice "device" config, false),
      (.connectDevice "device" "loop", false)]).Offers config [] d := by
  exact ⟨{ Device.ofConfig config with loop? := some 0 }, {
    links := rfl
    loops := rfl
    controlTopic := rfl
    notificationTopic := rfl
    reports := rfl
    filters := rfl
    sensors := rfl
    device := rfl
    loop := rfl
    named := rfl
    built := rfl
    hosts := fun _ h => nomatch h
    kept := fun _ h => nomatch h }⟩

/-- A device that is told to offer a filter of a new name offers it. -/
lemma Offers.advertise (h : w.Offers config hosted d) (kind : FilterKind) {name : String}
    (hnew : name ∉ hosted.map Prod.snd) :
    ∃ d', (w.step (Command.advertise "device" kind name name).act false).2.2.Offers config
      ((kind, name) :: hosted) d' := by
  have hexec : ((Command.advertise "device" kind name name).act.exec w).2 = { w with
      links := w.links.put 0
        (.device (d.withFilter name ⟨kind, Parameters.initialValues kind⟩))
      names := { w.names with
        advertisements := w.names.advertisements.put name (.fresh kind name) } } := by
    rw [Command.act, Bench.exec_bind, Bench.advertise, Bench.exec_bind_ok
      (Bench.exec_device h.device (Pool.get?_of_entries h.links))]
    rfl
  have hloops : ((Command.advertise "device" kind name name).act.exec w).2.loops.members.entries =
      [(0, {})] := by
    rw [hexec]
    exact h.loops
  have hother : ∀ g ∈ hosted, g.2 ≠ name := fun g hg heq => hnew (heq ▸ List.mem_map_of_mem hg)
  refine ⟨d.withFilter name ⟨kind, Parameters.initialValues kind⟩, ?_⟩
  rw [step_idle hloops rfl rfl, hexec]
  exact {
    links := Pool.entries_put h.links _
    loops := h.loops
    controlTopic := h.controlTopic
    notificationTopic := h.notificationTopic
    reports := h.reports
    filters := h.filters
    sensors := h.sensors
    device := h.device
    loop := h.loop
    named := h.named
    built := h.built
    hosts := by
      intro g hg
      rcases List.mem_cons.mp hg with rfl | hmem
      · exact Device.filter?_withFilter_self _ _ _
      · rw [Device.filter?_withFilter_of_ne (hother g hmem)]
        exact h.hosts g hmem
    kept := by
      intro g hg
      rcases List.mem_cons.mp hg with rfl | hmem
      · exact Table.get?_put_self _ _ _
      · exact (Table.get?_put_of_ne _ (hother g hmem) _).trans (h.kept g hmem) }

/-- A device that is told to offer filters of different new names offers them all. -/
lemma Offers.advertiseAll (h : w.Offers config hosted d) (list : List (FilterKind × String))
    (hnd : ((list ++ hosted).map Prod.snd).Nodup) :
    ∃ d', (w.run (list.map fun g => (.advertise "device" g.1 g.2 g.2, false))).Offers config
      (list.reverse ++ hosted) d' := by
  induction list generalizing w d hosted with
  | nil => exact ⟨d, h⟩
  | cons g rest ih =>
    rw [List.cons_append, List.map_cons, List.nodup_cons, List.map_append, List.mem_append,
      not_or] at hnd
    obtain ⟨d', hfirst⟩ := h.advertise g.1 hnd.1.2
    have hrest : ((rest ++ (g.1, g.2) :: hosted).map Prod.snd).Nodup := by
      rw [List.map_append, List.map_cons, List.nodup_middle,
        List.nodup_cons, List.mem_append, not_or]
      exact ⟨hnd.1, hnd.2⟩
    obtain ⟨d'', hall⟩ := ih hfirst hrest
    refine ⟨d'', ?_⟩
    rw [List.reverse_cons, List.append_assoc]
    exact hall

/-- The slots of a sensor for a choice of filters, which are numbered in the order of the choice. -/
def slotsFor (chosen : List (FilterKind × String)) : List SensorSlot :=
  chosen.zipIdx.map fun c => ⟨c.1.1, c.2⟩

/-- The name of the filter with a number in a choice of filters. -/
def titleIn (chosen : List (FilterKind × String)) (n : Nat) : String :=
  (chosen[n]?.map Prod.snd).getD ""

/-- The filter that a sensor has for an advertised one. -/
def attached (config : LinkConfig) (c : FilterKind × String) (route? : Option Route) :
    RemoteFilter :=
  let f := RemoteFilter.fresh c.1 c.2 config.controlTopic
  { f with proxy := f.proxy.wire 0, route? }

/-- A sensor has been built: there are filters for the choice, wired and with their routes. -/
structure Built (w : Workbench) (config : LinkConfig) (chosen : List (FilterKind × String))
    (l : DeliveryLoop Target) : Prop where
  loops : w.loops.members.entries = [(0, l)]
  queue : l.queue = []
  inFlight : l.inFlight = []
  sensor : ∃ s, w.sensors.get? 0 = some s ∧ s.slots = slotsFor chosen
  targets : ∀ name, l.targets config.notificationTopic name =
    ((List.range chosen.length).filter fun n => titleIn chosen n == name).map .filter
  filters : ∀ n c, chosen[n]? = some c →
    ∃ route?, w.filters.get? n = some (.remote (attached config c route?))
  absent : ∀ n, chosen.length ≤ n → w.filters.get? n = none

/-- The filters that a sensor is given for a choice. -/
def freshFilters (config : LinkConfig) (chosen : List (FilterKind × String)) : List Filter :=
  chosen.map fun c => .remote (RemoteFilter.fresh c.1 c.2 config.controlTopic)

/-- The filters of a sensor for a choice are added in the order of the choice. -/
lemma exec_addChosen (config : LinkConfig) (chosen : List (FilterKind × String))
    (hfilters : w.filters = {}) :
    ((freshFilters config chosen).mapM fun f => do
      return ({ kind := f.kind, filter := ← Bench.addFilter f } : SensorSlot)).exec w =
      (.ok (slotsFor chosen),
        { w with filters := Pool.addAll {} (freshFilters config chosen) }) := by
  rw [Bench.exec_addFilters, hfilters, freshFilters, List.zipIdx_map, List.map_map]
  rfl

/-- The filters of a sensor are found in the order of its kinds. -/
lemma get?_freshFilters (config : LinkConfig) (chosen : List (FilterKind × String)) (n : Nat) :
    (Pool.addAll {} (freshFilters config chosen)).get? n =
      chosen[n]?.map fun c => .remote (RemoteFilter.fresh c.1 c.2 config.controlTopic) := by
  rw [Pool.get?_addAll fun _ _ => rfl, if_neg (Nat.not_lt_zero n), freshFilters, List.getElem?_map]
  rfl

/-- The filters of a sensor for a choice have the first numbers. -/
lemma remoteSlots_slotsFor {s : Sensor} {chosen : List (FilterKind × String)}
    (hoffline : s.offline = false) (hslots : s.slots = slotsFor chosen) :
    Bench.remoteSlots s = List.range chosen.length := by
  have hnumbers : (slotsFor chosen).map (·.filter) = chosen.zipIdx.map Prod.snd := by
    rw [slotsFor, List.map_map]
    rfl
  rw [Bench.remoteSlots, hoffline, hslots, if_neg Bool.false_ne_true, hnumbers,
    List.zipIdx_map_snd, List.range_eq_range']

/-- A sensor whose filters have been added is wired and attached. -/
lemma exec_attachChosen {config : LinkConfig} {chosen : List (FilterKind × String)} {s : Sensor}
    (hs : w.sensors.get? 0 = some s) (hoffline : s.offline = false)
    (hslots : s.slots = slotsFor chosen) (hconfig : s.config = config)
    (hloops : w.loops.members.entries = [(0, {})])
    (hfilters : w.filters = Pool.addAll {} (freshFilters config chosen)) :
    ∃ filters loops sensors l,
      (do Bench.wireSensor 0 0; Bench.attachSensor 0 0 : Bench Unit).exec w =
        (.ok (), { w with filters, loops, sensors }) ∧
      Built { w with filters, loops, sensors } config chosen l := by
  have hnumbers := remoteSlots_slotsFor hoffline hslots
  have hget : ∀ n, w.filters.get? n =
      chosen[n]?.map fun c => .remote (RemoteFilter.fresh c.1 c.2 config.controlTopic) := by
    rw [hfilters]
    exact get?_freshFilters config chosen
  have hnd : (Bench.remoteSlots s).Nodup := hnumbers ▸ List.nodup_range
  have hthere : ∀ n ∈ Bench.remoteSlots s, ∃ c, chosen[n]? = some c := by
    intro n hn
    rw [hnumbers, List.mem_range] at hn
    exact ⟨chosen[n], List.getElem?_eq_getElem hn⟩
  obtain ⟨wired, hwire, hwiredOthers, hwired⟩ := Bench.exec_wireAll hnd (fun n hn => by
    obtain ⟨c, hc⟩ := hthere n hn
    exact ⟨_, by rw [hget, hc]; rfl⟩) 0
  have hwiredGet : ∀ n c, chosen[n]? = some c →
      wired.get? n = some (.remote (attached config c none)) := by
    intro n c hc
    have hn : n ∈ Bench.remoteSlots s := by
      rw [hnumbers, List.mem_range]
      exact (List.getElem?_eq_some_iff.mp hc).1
    exact hwired n hn _ (by rw [hget, hc]; rfl)
  obtain ⟨filters, loops, sensors, l, hattach, hentries, hqueue, hinFlight, ⟨s', hs', hslots'⟩,
    htargets, hothers, hrouted⟩ := Bench.exec_attachSensor (w := { w with filters := wired }) hs hnd
      (titleIn chosen) (fun n hn => by
        obtain ⟨c, hc⟩ := hthere n hn
        exact ⟨_, hwiredGet n c hc, rfl, rfl, by rw [titleIn, hc]; rfl⟩) hloops
  refine ⟨filters, loops, sensors, l, ?_, hentries, hqueue, hinFlight,
    ⟨s', hs', hslots'.trans hslots⟩, ?_, ?_, ?_⟩
  · rw [Bench.exec_bind_ok ((Bench.exec_wireSensor hs 0).trans hwire)]
    exact hattach
  · intro name
    rw [← hconfig, ← hnumbers]
    exact htargets name
  · intro n c hc
    have hn : n ∈ Bench.remoteSlots s := by
      rw [hnumbers, List.mem_range]
      exact (List.getElem?_eq_some_iff.mp hc).1
    exact hrouted n hn _ (hwiredGet n c hc)
  · intro n hn
    have hmem : n ∉ Bench.remoteSlots s := by
      rw [hnumbers, List.mem_range]
      exact Nat.not_lt.mpr hn
    refine (hothers n hmem).trans ((hwiredOthers n hmem).trans ?_)
    rw [hget, List.getElem?_eq_none hn]
    rfl

/-- The first sensor has the number zero. -/
lemma exec_addSensor (s : Sensor) (hsensors : w.sensors = {}) :
    (modifyGet fun w => ((w.sensors.add s).1, { w with sensors := (w.sensors.add s).2 }) :
      Bench Nat).exec w =
      (.ok 0, { w with sensors := (({} : Pool Sensor).add s).2 }) := by
  rw [← hsensors, Bench.exec_modifyGet]
  show ((.ok w.sensors.next : Except Fault Nat), _) = _
  rw [show w.sensors.next = 0 by rw [hsensors]]

/-- A sensor is built from some of the filters on offer, if they are of different kinds. -/
lemma Offers.exec_buildSensor (h : w.Offers config hosted d) (hconfig : config.validate = .ok ())
    {chosen : List (FilterKind × String)} (hchosen : ∀ c ∈ chosen, c ∈ hosted)
    (hkinds : (chosen.map Prod.fst).Nodup) (title : String) :
    ∃ filters loops sensors l s, (Bench.buildSensor "sensor" title config
        (chosen.map fun c => .kept c.2) (some "device") (some "loop")).exec w = (.ok s, { w with
          filters
          loops
          sensors
          names := { w.names with sensors := w.names.sensors.put "sensor" 0 } }) ∧
      Built { w with filters, loops, sensors } config chosen l := by
  have hadvertisements := Bench.exec_advertisements (w := w) fun c hc => h.kept c (hchosen c hc)
  have hlink : ((some "device").mapM Bench.linkNumber).exec w = (.ok (some 0), w) := by
    have hnumber : (Bench.linkNumber "device").exec w = (.ok 0, w) := by
      rw [Bench.linkNumber, Bench.exec_bind_ok (Bench.exec_get w)]
      dsimp only
      rw [h.device]
      rfl
    exact Bench.exec_bind_ok hnumber _
  have hloop : ((some "loop").mapM Bench.loopNumber).exec w = (.ok (some 0), w) :=
    Bench.exec_bind_ok (Bench.exec_lookup (fun w => w.names.loops.get? "loop") h.loop _) _
  have hmade : Sensor.filtersFor (Sensor.fallsBack config (some (0 : LinkNumber)).isSome)
      config.controlTopic (chosen.map fun c => .fresh c.1 c.2) [] =
      .ok (freshFilters config chosen) := Sensor.filtersFor_fresh hkinds
  have hadded := exec_addChosen config chosen h.filters
  obtain ⟨filters, loops, sensors, l, hattach, hbuilt⟩ := exec_attachChosen
    (s := { name := title, config, offline := false, slots := slotsFor chosen })
    (w := { w with
      filters := Pool.addAll {} (freshFilters config chosen)
      sensors := (({} : Pool Sensor).add
        { name := title, config, offline := false, slots := slotsFor chosen }).2 })
    rfl rfl rfl rfl h.loops rfl
  refine ⟨filters, loops, sensors, l,
    { name := title, config, offline := false, slots := slotsFor chosen }, ?_, hbuilt⟩
  have hvalid : (Bench.ofConfig (.ok ())).exec w = (.ok (), w) := rfl
  have hearlier : w.names.sensors.get? "sensor" = none := by rw [h.built]; rfl
  unfold Bench.buildSensor
  rw [Bench.exec_bind_ok hadvertisements, Bench.exec_bind_ok hlink, Bench.exec_bind_ok hloop,
    hconfig, Bench.exec_bind_ok hvalid]
  dsimp only
  rw [hmade, Bench.exec_bind_ok (Bench.exec_ofFilter_ok _ _), Bench.exec_bind_ok hadded,
    Bench.exec_bind_ok (exec_addSensor
      (w := { w with filters := Pool.addAll {} (freshFilters config chosen) }) _ h.sensors),
    ← bind_assoc]
  refine (Bench.exec_bind_ok hattach _).trans ?_
  rw [Bench.exec_bind_ok (Bench.exec_get _)]
  dsimp only
  rw [hearlier]
  rfl

/-- Filters of different kinds have different names, if they are all on one device. -/
lemma nodup_titles {chosen : List (FilterKind × String)} (hnames : (hosted.map Prod.snd).Nodup)
    (hchosen : ∀ c ∈ chosen, c ∈ hosted) (hkinds : (chosen.map Prod.fst).Nodup) :
    (chosen.map Prod.snd).Nodup := by
  refine List.Nodup.map_on (fun a ha b hb heq => ?_) (List.Nodup.of_map _ hkinds)
  exact List.inj_on_of_nodup_map hnames (hchosen a ha) (hchosen b hb) heq

/-- The title of a chosen filter. -/
lemma titleIn_eq {chosen : List (FilterKind × String)} {n : Nat} {c : FilterKind × String}
    (hc : chosen[n]? = some c) : titleIn chosen n = c.2 := by
  rw [titleIn, hc]
  rfl

/-- As the names in a choice differ, a filter of the choice is the only one of its name. -/
lemma filter_titleIn {chosen : List (FilterKind × String)} (htitles : (chosen.map Prod.snd).Nodup)
    {n : Nat} {c : FilterKind × String} (hc : chosen[n]? = some c) :
    (List.range chosen.length).filter (fun m => titleIn chosen m == c.2) = [n] := by
  obtain ⟨hn, rfl⟩ := List.getElem?_eq_some_iff.mp hc
  refine filter_eq_singleton List.nodup_range (List.mem_range.mpr hn) fun m hm => ?_
  have hm := List.mem_range.mp hm
  rw [beq_iff_eq, titleIn_eq (List.getElem?_eq_getElem hm)]
  constructor
  · intro heq
    have hm : m < (chosen.map Prod.snd).length := by simpa using hm
    have hn : n < (chosen.map Prod.snd).length := by simpa using hn
    have htitle : (chosen.map Prod.snd)[m] = (chosen.map Prod.snd)[n] := by simpa using heq
    exact htitles.getElem_inj_iff.mp htitle
  · rintro rfl
    rfl

/-- A sensor that has been built is in step with the device. -/
lemma Built.inStep {chosen : List (FilterKind × String)} {l : DeliveryLoop Target} {v : Workbench}
    (h : w.Offers config hosted d) (hbuilt : v.Built config chosen l)
    (hlinks : v.links.members.entries = w.links.members.entries) (hnames : v.names.filters = {})
    (hchosen : ∀ c ∈ chosen, c ∈ hosted) (htitles : (chosen.map Prod.snd).Nodup) :
    v.InStep d l where
  links := hlinks.trans h.links
  loops := hbuilt.loops
  reports := h.reports
  queue := hbuilt.queue
  inFlight := hbuilt.inFlight
  filters := by
    intro n g hg
    by_cases hn : n < chosen.length
    · have hc := List.getElem?_eq_getElem hn
      obtain ⟨route?, hfilter⟩ := hbuilt.filters n _ hc
      obtain rfl := Option.some.inj (hfilter.symm.trans hg)
      have hmirrored := Device.mirrors_fresh (h.hosts _ (hchosen _ (List.getElem_mem hn))) 0
      rw [h.controlTopic] at hmirrored
      refine ⟨_, rfl, rfl, rfl, hmirrored, ?_⟩
      rw [h.notificationTopic, hbuilt.targets]
      exact congrArg (List.map Target.filter) (filter_titleIn htitles hc)
    · rw [hbuilt.absent n (Nat.not_lt.mp hn)] at hg
      cases hg
  targets := by
    intro name t ht
    rw [h.notificationTopic, hbuilt.targets] at ht
    obtain ⟨n, hn, rfl⟩ := List.mem_map.mp ht
    obtain ⟨hn, htitle⟩ := List.mem_filter.mp hn
    have hc := List.getElem?_eq_getElem (List.mem_range.mp hn)
    obtain ⟨route?, hfilter⟩ := hbuilt.filters n _ hc
    rw [beq_iff_eq, titleIn_eq hc] at htitle
    exact ⟨n, _, rfl, hfilter, htitle⟩
  borrowed := by
    rw [hnames]
    exact fun _ _ hname => nomatch hname

/-- A sensor that has been put together is in step with its device, and there is a filter for each
slot, of a chosen kind and name. -/
lemma inStep_assembled (hconfig : config.validate = .ok ()) (hnames : (hosted.map Prod.snd).Nodup)
    {chosen : List (FilterKind × String)} (hchosen : ∀ c ∈ chosen, c ∈ hosted)
    (hkinds : (chosen.map Prod.fst).Nodup) (title : String)
    (hw : w = ({} : Workbench).run (assembling config hosted title chosen)) :
    ∃ d l s, w.InStep d l ∧ (Bench.sensor "sensor").exec w = (.ok s, w) ∧
      s.slots = slotsFor chosen ∧
      ∀ n c, chosen[n]? = some c → ∃ f, w.filters.get? n = some (.remote f) ∧ f.kind = c.1 ∧
        f.name = c.2 := by
  obtain ⟨d, hstart⟩ := offers_start config
  obtain ⟨d, hoffers⟩ := hstart.advertiseAll hosted (by simpa using hnames)
  have hhosted : ∀ c ∈ chosen, c ∈ hosted.reverse ++ [] := by simpa using hchosen
  rw [assembling, run_append, run_append] at hw
  generalize (({} : Workbench).run [(.placeLoop "loop", false),
    (.placeDevice "device" config, false),
    (.connectDevice "device" "loop", false)]).run
      (hosted.map fun h => (.advertise "device" h.1 h.2 h.2, false)) = v at hw hoffers
  obtain ⟨filters, loops, sensors, l, s, hexec, hbuilt⟩ :=
    hoffers.exec_buildSensor hconfig hhosted hkinds title
  have hact : ((Command.buildSensor "sensor" title config (chosen.map fun c => .kept c.2)
      (some "device") (some "loop")).act.exec v).2 = { v with
        filters
        loops
        sensors
        names := { v.names with sensors := v.names.sensors.put "sensor" 0 } } := by
    rw [Command.act, Bench.exec_bind_ok hexec]
    rfl
  have hrest := step_idle (by rw [hact]; exact hbuilt.loops) hbuilt.queue hbuilt.inFlight false
  rw [hact] at hrest
  have hstate : w = { v with
      filters
      loops
      sensors
      names := { v.names with sensors := v.names.sensors.put "sensor" 0 }
      calls := [] } := hw.trans hrest
  have hbuilt : w.Built config chosen l := by
    rw [hstate]
    exact ⟨hbuilt.1, hbuilt.2, hbuilt.3, hbuilt.4, hbuilt.5, hbuilt.6, hbuilt.7⟩
  obtain ⟨s, hs, hslots⟩ := hbuilt.sensor
  refine ⟨d, l, s, hbuilt.inStep hoffers (by rw [hstate]) (by rw [hstate]; exact hoffers.named)
    hhosted (nodup_titles hnames hchosen hkinds), ?_, hslots, ?_⟩
  · have hname : w.names.sensors.get? "sensor" = some 0 := by
      rw [hstate]
      exact Table.get?_put_self _ _ _
    exact Bench.exec_sensor hname hs
  · intro n c hc
    obtain ⟨route?, hf⟩ := hbuilt.filters n c hc
    exact ⟨_, hf, rfl, rfl⟩

end Workbench

end EmbeddedFilters
