import EmbeddedFilters.Proofs.Workbench.Agreement
import EmbeddedFilters.Proofs.Workbench.LoopAccount

/-!
# Attaching sensors to loops

A sensor that is attached to a loop has the reports of its remote filters delivered by that loop
from then on (`Bench.of_attachSensor`). What it holds open is the first loop that it has been
attached to, until it is dropped, and no other: a loop runs exactly while a tag requests it or a
sensor holds it (`Workbench.sensor_holds_first_loop`). So a sensor that moves on to another loop
keeps running a loop that no longer delivers anything, and what is reported to the other one may be
refused.
-/

namespace EmbeddedFilters

namespace Workbench

/-- The route of the filter with a number. -/
def routeOf? (w : Workbench) (n : Nat) : Option Route := (w.filters.get? n).bind Filter.route?

/-- The reports of a filter are delivered by a loop. -/
def DeliversBy (w : Workbench) (n loop : Nat) : Prop := (w.routeOf? n).map Route.loop = some loop

/-- Filters have the routes that they had. -/
def KeepsRoutes (w w' : Workbench) : Prop := w'.routeOf? = w.routeOf?

variable {w w' : Workbench}

/-- Where loops are steady filters have the routes that they had. -/
lemma Steady.keepsRoutes (h : w.Steady w') : w.KeepsRoutes w' := congrArg RouteBook.held h.2

/-- Putting a filter changes the route that is found under its number. -/
lemma routeOf?_put (w : Workbench) (n m : Nat) (f : Filter) :
    ({ w with filters := w.filters.put n f } : Workbench).routeOf? m =
      if m = n then f.route? else w.routeOf? m := by
  unfold routeOf?
  rw [Pool.get?_put]
  split <;> rfl

end Workbench

namespace Bench

open Workbench (DeliversBy)

variable {w : Workbench}

/-! ### Routes -/

/-- A filter that has been subscribed to a loop has its reports delivered by it; other routes
stay. -/
lemma routes_of_subscribe {n l : Nat} {topic : String} {v : Workbench}
    (h : (subscribe n l topic).exec w = (.ok (), v)) :
    v.DeliversBy n l ∧ ∀ m, m ≠ n → v.routeOf? m = w.routeOf? m := by
  obtain ⟨f, d, -, -, hfilters⟩ := of_subscribe h
  have hroutes : ∀ m, v.routeOf? m = if m = n then some ⟨l, d.nextToken⟩ else w.routeOf? m := by
    intro m
    rw [Workbench.routeOf?, hfilters]
    exact Workbench.routeOf?_put w n m _
  refine ⟨?_, fun m hm => by rw [hroutes, if_neg hm]⟩
  rw [DeliversBy, hroutes, if_pos rfl]
  rfl

/-- Filters that have been subscribed to a loop one after the other all have their reports delivered
by it. -/
lemma routes_of_subscribes {list : List Nat} {l : Nat} {topic : String} {v : Workbench}
    (h : (list.forM fun f => subscribe f l topic).exec w = (.ok (), v)) {n : Nat}
    (hn : n ∈ list ∨ w.DeliversBy n l) : v.DeliversBy n l := by
  induction list generalizing w with
  | nil =>
    cases h
    exact hn.resolve_left List.not_mem_nil
  | cons first rest ih =>
    obtain ⟨_, u, hfirst, hrest⟩ := exec_bind_eq_ok.mp h
    obtain ⟨hdelivers, hothers⟩ := routes_of_subscribe hfirst
    refine ih hrest ?_
    by_cases heq : n = first
    · exact .inr (heq ▸ hdelivers)
    · refine hn.imp (fun hmem => (List.mem_cons.mp hmem).resolve_left heq) fun hbefore => ?_
      rw [DeliversBy, hothers n heq]
      exact hbefore

/-- What attaching a sensor comes to: its remote filters have their reports delivered by the loop,
and it holds the loop that it has held before, or else this one. -/
lemma of_attachSensor {n l : Nat} {s : Sensor} {v : Workbench} (hs : w.sensors.get? n = some s)
    (hremote : remoteSlots s ≠ []) (h : (attachSensor n l).exec w = (.ok (), v)) :
    (∀ f ∈ remoteSlots s, v.DeliversBy f l) ∧
      v.sensors.get? n = some { s with loop? := some (s.loop?.getD l) } := by
  obtain ⟨_, u, hsensor, hattached⟩ := exec_bind_eq_ok.mp h
  obtain ⟨rfl, hsensor⟩ := of_lookup (fun w => w.sensors.get? n) hsensor
  cases hs.symm.trans hsensor
  obtain ⟨_, x, hsubscribed, hheld⟩ := exec_bind_eq_ok.mp hattached
  have hsensors := leaves_subscribeAll (w := u) (remoteSlots s) l s.config.notificationTopic
  rw [Within, hsubscribed] at hsensors
  have hx : x.sensors.get? n = some s := (congrArg (fun u => u.sensors.get? n) hsensors).trans hs
  have hdelivers : ∀ f ∈ remoteSlots s, x.DeliversBy f l := fun f hf =>
    routes_of_subscribes hsubscribed (.inl hf)
  cases hloop : s.loop? with
  | none =>
    have hfirst : (!(remoteSlots s).isEmpty && s.loop?.isNone) = true := by
      rw [hloop]
      simpa using hremote
    rw [if_pos hfirst] at hheld
    cases hheld
    exact ⟨hdelivers, Pool.get?_put_self _ _ _⟩
  | some m =>
    have hfirst : (!(remoteSlots s).isEmpty && s.loop?.isNone) = false := by
      rw [hloop]
      exact Bool.and_false _
    rw [if_neg (by rw [hfirst]; exact Bool.false_ne_true)] at hheld
    cases hheld
    refine ⟨hdelivers, hx.trans ?_⟩
    rw [Option.getD_some, ← hloop]

end Bench

namespace Workbench

variable {w : Workbench} {n : Nat}

/-! ### Loops that are held -/

/-- Somebody uses a loop: a tag requests it, or a sensor holds it. -/
def Used (w : Workbench) (n : Nat) : Prop :=
  (∃ tag, w.names.requests.get? tag = some n) ∨ ∃ k s, w.sensors.get? k = some s ∧ s.loop? = some n

/-- Somebody uses a loop if it has a user at all. -/
lemma used_iff (h : w.loopUse.Accounted []) : 0 < w.loopUse.users n ↔ w.Used n := by
  have hrequests := h.distinctRequests.count_pos (· = n)
  have hsensors := h.distinctSensors.count_pos (·.loop? = some n)
  rw [LoopUse.users, Nat.add_pos_iff_pos_or_pos, hrequests, hsensors]
  refine or_congr ⟨?_, ?_⟩ ⟨?_, ?_⟩
  · rintro ⟨tag, m, hget, hm⟩
    exact ⟨tag, of_decide_eq_true hm ▸ hget⟩
  · rintro ⟨tag, hget⟩
    exact ⟨tag, n, hget, decide_eq_true rfl⟩
  · rintro ⟨k, s, hget, hs⟩
    exact ⟨k, s, hget, of_decide_eq_true hs⟩
  · rintro ⟨k, s, hget, hs⟩
    exact ⟨k, s, hget, decide_eq_true hs⟩

/-- A loop runs exactly while somebody uses it. -/
lemma running_iff (h : w.loopUse.Accounted []) {d : DeliveryLoop Target}
    (hd : w.loops.get? n = some d) :
    d.running = true ↔ w.Used n := by
  have huse := h.counted n d.use (congrArg (Option.map DeliveryLoop.use) hd)
  have hrunning : d.running = decide (0 < w.loopUse.users n + 0) := congrArg Prod.snd huse
  rw [hrunning, decide_eq_true_iff, Nat.add_zero, used_iff h]

/-- A loop that somebody uses is there, and runs. -/
lemma runs_of_used (h : w.loopUse.Accounted []) (hused : w.Used n) :
    ∃ d, w.loops.get? n = some d ∧ d.running = true := by
  cases hd : w.loops.get? n with
  | none =>
    have habsent : w.loopUse.users n + 0 = 0 :=
      h.absent n (congrArg (Option.map DeliveryLoop.use) hd)
    have hpos := (used_iff h).mpr hused
    omega
  | some d => exact ⟨d, rfl, (running_iff h hd).mpr hused⟩

/-- Loops come to rest after an operation without any change of routes. -/
lemma keepsRoutes_rest {α : Type} (act : Bench α) (leave : Bool) :
    (act.exec w).2.KeepsRoutes (w.step act leave).2.2 := (steady_rest act leave).keepsRoutes

/-- A sensor with remote filters that has been attached to a loop has their reports delivered by it.
From then on until it is dropped it holds the loop that it has held before, or else this one, and
that loop runs, whatever else happens. Any loop runs, and takes what is published, exactly while a
tag requests it or a sensor holds it. -/
theorem sensor_holds_first_loop (hw : w.Reachable) {name loop : String} {k l : Nat} {s : Sensor}
    (hsensor : w.names.sensors.get? name = some k) (hs : w.sensors.get? k = some s)
    (hremote : Bench.remoteSlots s ≠ []) (hloop : w.names.loops.get? loop = some l) (leave : Bool)
    (hdone : (w.step (Command.attachSensor name loop).act leave).1 = .ok ())
    (later : List (Command × Bool)) :
    let u := (w.step (Command.attachSensor name loop).act leave).2.2
    let v := u.run later
    u.sensors.get? k = some { s with loop? := some (s.loop?.getD l) } ∧
      (∀ f ∈ Bench.remoteSlots s, u.DeliversBy f l) ∧
      (∀ s', v.sensors.get? k = some s' → s'.loop? = some (s.loop?.getD l) ∧
        ∃ d, v.loops.get? (s.loop?.getD l) = some d ∧ d.running = true) ∧
      ∀ n d, v.loops.get? n = some d → (d.running = true ↔ v.Used n) ∧
        ∀ topic report, (d.publish topic report).1 =
          if d.running then .ok () else .error .notConnected := by
  intro u v
  have hnames : (Command.attachSensor name loop).act.exec w = (Bench.attachSensor k l).exec w := by
    have hk : (Bench.sensorNumber name).exec w = (.ok k, w) :=
      Bench.exec_lookup (fun w => w.names.sensors.get? name) hsensor _
    have hl : (Bench.loopNumber loop).exec w = (.ok l, w) :=
      Bench.exec_lookup (fun w => w.names.loops.get? loop) hloop _
    rw [Command.act, Bench.exec_bind_ok hk, Bench.exec_bind_ok hl]
  let x := ((Command.attachSensor name loop).act.exec w).2
  have hattached : (Bench.attachSensor k l).exec w = (.ok (), x) := by
    rw [step_result] at hdone
    rw [← hnames]
    exact Prod.ext hdone rfl
  obtain ⟨hdelivers, hheld⟩ := Bench.of_attachSensor hs hremote hattached
  -- what follows the attachment within the step changes neither users nor routes
  have huse : u.loopUse = x.loopUse := leavesUse_rest _ leave
  have hroutes : u.routeOf? = x.routeOf? := keepsRoutes_rest _ leave
  have hu : u.sensors.get? k = some { s with loop? := some (s.loop?.getD l) } :=
    (congrArg (fun use => use.sensors.get? k) huse).trans hheld
  obtain ⟨haccounted, -⟩ := settles_step (.attachSensor name loop) leave hw.accounted
  obtain ⟨hv, hkeeps⟩ := settles_run later haccounted
  refine ⟨hu, fun f hf => ?_, fun s' hs' => ?_, fun n d hd => ⟨running_iff hv hd, fun _ _ => ?_⟩⟩
  · rw [DeliversBy, hroutes]
    exact hdelivers f hf
  · obtain ⟨_, hbefore, hholds⟩ := hkeeps.held k (haccounted.sensors k _ hu) s' hs'
    cases hu.symm.trans hbefore
    have hs'loop := hholds _ rfl
    exact ⟨hs'loop, runs_of_used hv (.inr ⟨k, s', hs', hs'loop⟩)⟩
  · unfold DeliveryLoop.publish
    split <;> rfl

/-- A second loop beside the one that the sensor of `depthSensor` is attached to. -/
def twoLoops : Workbench := depthSensor.run [(.placeLoop "second", false)]

/-- The sensor moves on to the second loop. -/
def movingOn : Command := .attachSensor "sensor" "second"

/-- The workbench with the sensor attached to its second loop. -/
def movedOn : Workbench := (twoLoops.step movingOn.act false).2.2

/-- A sensor that has moved on still holds its first loop open after the device has changed a
value. -/
theorem moved_sensor_holds_first_loop :
    ∃ s d, (movedOn.run [(pushing, false)]).sensors.get? 0 = some s ∧ s.loop? = some 0 ∧
      (movedOn.run [(pushing, false)]).loops.get? 0 = some d ∧ d.running = true := by
  have hw : twoLoops.Reachable := (Reachable.start.run _).run _
  have hsensor : twoLoops.names.sensors.get? "sensor" = some 0 := by decide +kernel
  have hloop : twoLoops.names.loops.get? "second" = some 1 := by decide +kernel
  have hheld : (twoLoops.sensors.get? 0).map (fun s => (Bench.remoteSlots s, s.loop?)) =
      some ([0], some 0) := by decide +kernel
  have hdone : (twoLoops.step movingOn.act false).1.toBool = true := by decide +kernel
  have hlater : ((movedOn.run [(pushing, false)]).sensors.get? 0).isSome := by decide +kernel
  unfold movedOn at hlater ⊢
  generalize twoLoops = w at hw hsensor hloop hheld hdone hlater ⊢
  obtain ⟨s, hs, hheld⟩ := Option.map_eq_some_iff.mp hheld
  obtain ⟨hremote, hfirst⟩ := Prod.ext_iff.mp hheld
  dsimp only at hremote hfirst
  have hsome : Bench.remoteSlots s ≠ [] := by
    rw [hremote]
    exact List.cons_ne_nil _ _
  obtain ⟨⟨⟩, hok⟩ := Outcome.exists_of_toBool hdone
  obtain ⟨s', hs'⟩ := Option.isSome_iff_exists.mp hlater
  obtain ⟨-, -, hholds, -⟩ :=
    sensor_holds_first_loop hw hsensor hs hsome hloop false hok [(pushing, false)]
  rw [hfirst] at hholds
  obtain ⟨hs'loop, d, hd, hrunning⟩ := hholds s' hs'
  exact ⟨s', d, hs', hs'loop, hd, hrunning⟩

/-- What is reported for a sensor that has moved on to another loop is refused there, because nobody
requests that loop; the first loop goes on running, with no routes left. -/
theorem moved_sensor_is_refused :
    (twoLoops.step movingOn.act false).1.toBool = true ∧
      (movedOn.sensors.get? 0).map Bench.remoteSlots = some [0] ∧
      movedOn.DeliversBy 0 1 ∧
      (movedOn.loops.get? 1).map (fun d => (d.running,
        (d.publish "rt/device/notification" ⟨"depth", [⟨"Delta", .int 30⟩]⟩).1)) =
          some (false, .error .notConnected) ∧
      (movedOn.loops.get? 0).map (fun d => (d.running, d.routes.isEmpty)) = some (true, true) := by
  unfold DeliversBy
  decide +kernel

end Workbench

end EmbeddedFilters
