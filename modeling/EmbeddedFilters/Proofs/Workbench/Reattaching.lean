import EmbeddedFilters.Proofs.Workbench.RouteAccount
import EmbeddedFilters.Proofs.Workbench.Staffing

/-!
# Attaching sensors again

A sensor may be attached to one loop after another. Each time its remote filters are subscribed in
order, up to the first that has been torn down (`Workbench.takenAlong`), and each of them is given
its new route before it gives up its old one. So a filter that has been taken along is served by one
route over all loops (`Workbench.ServedBy`), however often the sensor is attached, and the routes to
all other targets stay (`Workbench.reattached_filter_has_one_route`). An attachment that fails has
moved the filters before the one that has been torn down, and does not move them back
(`Workbench.failed_attachment_moves_route`).
-/

namespace EmbeddedFilters

namespace Workbench

/-- The filter with a number can be used and has one route over all loops, the one that it holds. It
leads from a loop, under a topic and the filter's own name. -/
def ServedBy (w : Workbench) (n l : Nat) (topic : String) : Prop :=
  ∃ f token, w.filters.get? n = some (.remote f) ∧ f.destroyed = false ∧
    f.route? = some ⟨l, token⟩ ∧
    ∀ i, w.routesTo n i = if i = l then [⟨token, topic, f.name, .filter n⟩] else []

/-- The routes of a loop but for those to some filters. -/
def routesBeside (w : Workbench) (list : List Nat) (i : Nat) : List (RouteEntry Target) :=
  (w.routesAt i).filter fun e => ∀ n ∈ list, e.target ≠ .filter n

variable {w v : Workbench} {n l : Nat} {f : RemoteFilter} {topic : String}

/-- What can be used is not at rest. -/
lemma not_restsAt (h : w.isAlive n = true) : ¬ w.RestsAt n := by
  rintro ⟨f, hf, hrests⟩
  rw [isAlive_eq hf, hrests.destroyed] at h
  cases h

/-- A filter that is still in use when its routes have come down to one is served by it. -/
lemma servedBy_of_routesTo (hw : w.Continues v) (hsound : w.Sound)
    (horder : v.routeBook.InOrder none) (hf : w.filters.get? n = some (.remote f))
    (halive : v.isAlive n = true) (token : Nat)
    (hroutes : ∀ i, v.routesTo n i = if i = l then [⟨token, topic, f.name, .filter n⟩] else []) :
    v.ServedBy n l topic := by
  obtain ⟨-, hevolves⟩ := hw hsound
  obtain ⟨_, hg, hfg⟩ := hevolves.filters n _ hf
  cases hfg with
  | @remote _ g hfg =>
    have hname : g.name = f.name := hfg.proxy.name
    have hmem : ⟨token, topic, f.name, .filter n⟩ ∈ v.routesTo n l := by
      rw [hroutes, if_pos rfl]
      exact List.mem_singleton_self _
    have hheld : (v.filters.get? n).bind Filter.route? = some ⟨l, token⟩ :=
      horder.held_of_mem (List.mem_filter.mp hmem).1 rfl
    rw [isAlive_eq hg, Bool.not_eq_true'] at halive
    rw [hg] at hheld
    refine ⟨g, token, hg, halive, hheld, ?_⟩
    rw [hname]
    exact hroutes

end Workbench

namespace Bench

variable {w : Workbench} {l : Nat}

/-- Filters that are subscribed to a loop one after another have one route each, over all loops, up
to the first that cannot be used. -/
lemma routesTo_subscribes {list : List Nat} (horder : w.routeBook.InOrder none)
    (hl : (w.loopUse.counted l).isSome) (topic : String) {n : Nat}
    (hn : n ∈ list.takeWhile w.isAlive) :
    ∃ f token, w.filters.get? n = some (.remote f) ∧
      ∀ i, ((list.forM fun n => subscribe n l topic).exec w).2.routesTo n i =
        if i = l then [⟨token, topic, f.name, .filter n⟩] else [] := by
  induction list generalizing w with
  | nil => cases hn
  | cons m rest ih =>
    cases halive : w.isAlive m with
    | false =>
      rw [List.takeWhile_cons_of_neg (by simp [halive])] at hn
      cases hn
    | true =>
      obtain ⟨f, hf, hlive⟩ := Workbench.isAlive_iff.mp halive
      obtain ⟨d, hd, hdone, huse⟩ := exec_subscribe_counted hf hlive hl topic
      have hbook := Workbench.routeBook_subscribed hf hd topic
      have hrest : ((m :: rest).forM fun n => subscribe n l topic).exec w =
          (rest.forM fun n => subscribe n l topic).exec (w.subscribed m f l d topic) :=
            exec_bind_ok hdone _
      rw [hrest]
      have horder' : (w.subscribed m f l d topic).routeBook.InOrder none :=
        hbook ▸ horder.subscribe _ _ _ _
      have hsame := w.isAlive_subscribed (l := l) (d := d) hf topic
      rw [List.takeWhile_cons_of_pos halive, ← hsame] at hn
      by_cases hlater : n ∈ rest.takeWhile (w.subscribed m f l d topic).isAlive
      · -- it is subscribed later on
        obtain ⟨g, token, hg, hroutes⟩ := ih horder' (by rw [huse]; exact hl) hlater
        rw [w.subscribed_filters, Pool.get?_put] at hg
        split at hg
        · rename_i heq
          cases hg
          exact ⟨f, token, heq ▸ hf, hroutes⟩
        · exact ⟨g, token, hg, hroutes⟩
      · -- it has been subscribed for the last time, and the others leave its route alone
        obtain rfl := (List.mem_cons.mp hn).resolve_right hlater
        have hothers : ∀ k ∈ rest.takeWhile (w.subscribed n f l d topic).isAlive,
            decide (Target.filter k = .filter n) = false := by
          refine fun k hk => decide_eq_false fun heq => ?_
          cases heq
          exact hlater hk
        have hspares :
          Within (Workbench.SparesRoutes (· = .filter n)) (rest.forM fun n => subscribe n l topic)
            (w.subscribed n f l d topic) := sparesRoutes_subscribes hothers l topic
        refine ⟨f, w.routeBook.next l, hf, fun i => ((hspares horder').2 i).trans ?_⟩
        rw [hbook]
        exact horder.leading_subscribe_self n l topic f.name i

/-- Subscribing filters one after another succeeds if all of them can be used. -/
lemma subscribes_ok_iff {list : List Nat} (hl : (w.loopUse.counted l).isSome) (topic : String) :
    ((list.forM fun n => subscribe n l topic).exec w).1 = .ok () ↔
      list.takeWhile w.isAlive = list := by
  induction list generalizing w with
  | nil => exact ⟨fun _ => rfl, fun _ => rfl⟩
  | cons n rest ih =>
    cases halive : w.isAlive n with
    | true =>
      obtain ⟨f, hf, hlive⟩ := Workbench.isAlive_iff.mp halive
      obtain ⟨d, -, hdone, huse⟩ := exec_subscribe_counted hf hlive hl topic
      have hrest : ((n :: rest).forM fun n => subscribe n l topic).exec w =
          (rest.forM fun n => subscribe n l topic).exec (w.subscribed n f l d topic) :=
            exec_bind_ok hdone _
      rw [hrest, ih (by rw [huse]; exact hl), Workbench.isAlive_subscribed hf,
        List.takeWhile_cons_of_pos halive,
        List.cons_inj_right]
    | false =>
      obtain ⟨f, d, hf, hlive, -⟩ | ⟨-, e, hfails⟩ := exec_subscribe_cases n l topic w
      · cases halive.symm.trans (Workbench.isAlive_iff.mpr ⟨f, hf, hlive⟩)
      · have hstops : ((n :: rest).forM fun n => subscribe n l topic).exec w = (.error e, w) :=
          exec_bind_error hfails _
        rw [hstops, List.takeWhile_cons_of_neg (by simp [halive])]
        exact ⟨fun h => (by cases h), fun h => by cases h⟩

/-! ### Attachments -/

/-- A sensor is attached to a loop if all of its remote filters can be used. -/
lemma attachSensor_ok_iff {k : Nat} {s : Sensor} (hs : w.sensors.get? k = some s)
    (hl : (w.loopUse.counted l).isSome) :
    ((attachSensor k l).exec w).1 = .ok () ↔ w.takenAlong s = remoteSlots s := by
  rw [(attachSensor_subscribes hs).1]
  exact subscribes_ok_iff hl s.config.notificationTopic

/-- Each filter that a sensor takes along to a loop has one route afterwards, over all loops. -/
lemma routesTo_attachSensor (horder : w.routeBook.InOrder none) {k : Nat} {s : Sensor}
    (hs : w.sensors.get? k = some s) (hl : (w.loopUse.counted l).isSome) {n : Nat}
    (hn : n ∈ w.takenAlong s) :
    ∃ f token, w.filters.get? n = some (.remote f) ∧
      ∀ i, ((attachSensor k l).exec w).2.routesTo n i =
      if i = l then [⟨token, s.config.notificationTopic, f.name, .filter n⟩] else [] := by
  obtain ⟨f, token, hf, hroutes⟩ := routesTo_subscribes horder hl s.config.notificationTopic hn
  refine ⟨f, token, hf, fun i => Eq.trans ?_ (hroutes i)⟩
  exact congrArg (RouteBook.leading · (· = .filter n) i) (attachSensor_subscribes hs).2

end Bench

namespace Workbench

variable {w : Workbench}

/-- A sensor is attached to a loop, both found by their names. -/
lemma exec_attachSensor_named {name loop : String} {k l : Nat}
    (hsensor : w.names.sensors.get? name = some k) (hloop : w.names.loops.get? loop = some l) :
    (Command.attachSensor name loop).act.exec w = (Bench.attachSensor k l).exec w := by
  have hl : (Bench.loopNumber loop).exec w = (.ok l, w) :=
    Bench.exec_lookup (fun w => w.names.loops.get? loop) hloop _
  rw [Command.act, Bench.exec_bind_ok (Bench.exec_sensorNumber hsensor), Bench.exec_bind_ok hl]

/-- A sensor that is attached to a loop, for the first time or again, takes its remote filters along
up to the first that has been torn down; the attachment succeeds exactly if that leaves none behind.
Whatever is done later, a filter that has been taken along has one route over all loops, to this
loop and under its own name and the sensor's topic, until it is torn down or subscribed once more.
All other routes stay where they are, in order, and so the routes of all other sensors do. -/
theorem reattached_filter_has_one_route (hw : w.Reachable)
    {name loop : String} {k l : Nat} {s : Sensor}
    (hsensor : w.names.sensors.get? name = some k) (hs : w.sensors.get? k = some s)
    (hloop : w.names.loops.get? loop = some l) (leave : Bool) :
    let attached := w.step (Command.attachSensor name loop).act leave
    let u := attached.2.2
    (attached.1 = .ok () ↔ w.takenAlong s = Bench.remoteSlots s) ∧
      (∀ later n, n ∈ w.takenAlong s → u.NeverSubscribes n later → (u.run later).isAlive n = true →
        (u.run later).ServedBy n l s.config.notificationTopic) ∧
      (∀ i, u.routesBeside (w.takenAlong s) i = w.routesBeside (w.takenAlong s) i) ∧
      ∀ j r, j ≠ k → w.sensors.get? j = some r →
        ∀ n ∈ Bench.remoteSlots r, u.routesTo n = w.routesTo n := by
  intro attached u
  have hl : (w.loopUse.counted l).isSome := hw.accounted.named loop l hloop
  have hact := exec_attachSensor_named hsensor hloop
  have hu : u.Reachable := .step _ leave hw
  -- what follows the attachment within the step changes no routes
  have hrest : ((Bench.attachSensor k l).exec w).2.Steady u := by
    have hrest := steady_rest (w := w) (Command.attachSensor name loop).act leave
    rwa [hact] at hrest
  have hspares : ∀ p : Target → Bool, (∀ n ∈ w.takenAlong s, p (.filter n) = false) →
      w.SparesRoutes p u := by
    intro p hp
    refine Bench.Course.trans
      (Bench.sparesRoutes_attachSensor (fun s' hs' => ?_) l) hrest.sparesRoutes
    cases hs.symm.trans hs'
    exact hp
  refine ⟨?_, fun later n hn hnever halive => ?_, fun i => ?_, fun j r hj hr n hn => ?_⟩
  · have hresult : attached.1 = ((Bench.attachSensor k l).exec w).1 := by
      rw [← hact]
      exact step_result w _ leave
    rw [hresult]
    exact Bench.attachSensor_ok_iff hs hl
  · obtain ⟨f, token, hf, hroutes⟩ := Bench.routesTo_attachSensor hw.inOrder hs hl hn
    have hattached : u.routesTo n = ((Bench.attachSensor k l).exec w).2.routesTo n :=
      routesTo_of_leading fun i => congrArg (RouteBook.leading · (· = .filter n) i) hrest.2
    have hlater := (routesTo_run hu hnever).resolve_left (not_restsAt halive)
    have hcontinues : w.Continues (u.run later) :=
      Bench.Course.trans (continues_step (Command.attachSensor name loop).continues_act leave)
      (continues_run later)
    refine servedBy_of_routesTo hcontinues hw.sound (hu.run later).inOrder hf halive token fun i =>
      ?_
    rw [hlater, hattached]
    exact hroutes i
  · have htaken : ∀ n ∈ w.takenAlong s,
        decide (∀ m ∈ w.takenAlong s, Target.filter n ≠ .filter m) = false :=
      fun n hn => decide_eq_false fun hbeside => hbeside n hn rfl
    exact (hspares (fun t => ∀ m ∈ w.takenAlong s, t ≠ .filter m) htaken hw.inOrder).2 i
  · -- no two sensors share a filter
    refine routesTo_of_leading
      (hspares _ (fun m hm => decide_eq_false fun heq => hj ?_) hw.inOrder).2
    cases heq
    have hown : n ∈ Bench.remoteSlots s := (List.takeWhile_prefix _).subset hm
    exact hw.separate j k r s hr hs n (Sensor.mem_of_remoteSlots hn)
      (Sensor.mem_of_remoteSlots hown)

/-- A sensor with filters of both kinds, and a second loop beside the one that it is attached to.
The temporal filter has a name of its own. -/
def bothFilters : Workbench :=
  ({} : Workbench).run (assembling {} [(.decimation, "small"), (.temporal, "depth")] "camera"
    [(.decimation, "small"), (.temporal, "depth")] ++
      [(.placeLoop "second", false), (.nameSensorFilter "sensor" .temporal "filter", false)])

/-- The sensor moves on to the second loop, and its temporal filter is torn down. -/
def movedAndTorn : Workbench :=
  (bothFilters.step movingOn.act false).2.2.run [(.destroy "filter", false)]

/-- The sensor is to move back to its first loop. -/
def movingBack : Command := .attachSensor "sensor" "loop"

/-- A sensor that has moved back in part has one route to the filter that it has taken along, after
the device has changed a value. -/
theorem moved_back_filter_has_one_route :
    ((movedAndTorn.step movingBack.act false).2.2.run [(pushing, false)]).ServedBy 0 0
      "rt/device/notification" := by
  have hboth : bothFilters.Reachable := Reachable.start.run _
  have hw : movedAndTorn.Reachable := (Reachable.step movingOn false hboth).run _
  have hsensor : movedAndTorn.names.sensors.get? "sensor" = some 0 := by decide +kernel
  have hloop : movedAndTorn.names.loops.get? "loop" = some 0 := by decide +kernel
  have hthere : (movedAndTorn.sensors.get? 0).map (fun s => (movedAndTorn.takenAlong s,
      s.config.notificationTopic)) = some ([0], "rt/device/notification") := by decide +kernel
  have halive : ((movedAndTorn.step movingBack.act false).2.2.run [(pushing, false)]).isAlive 0 =
      true := by
    decide +kernel
  generalize movedAndTorn = w at hw hsensor hloop hthere halive ⊢
  obtain ⟨s, hs, htaken⟩ := Option.map_eq_some_iff.mp hthere
  obtain ⟨htaken, htopic⟩ := Prod.ext_iff.mp htaken
  dsimp only at htaken htopic
  obtain ⟨-, hserved, -⟩ := reattached_filter_has_one_route hw hsensor hs hloop false
  have hnever : (w.step movingBack.act false).2.2.NeverSubscribes 0 [(pushing, false)] := by
    refine ⟨fun hpushing => ?_, trivial⟩
    unfold pushing at hpushing
    cases hpushing
  rw [← htopic]
  exact hserved [(pushing, false)] 0 (by rw [htaken]; exact List.mem_singleton_self 0) hnever halive

/-- The sensor has moved on to the second loop. That it cannot move back because its temporal filter
has been torn down does not keep its other filter where it is: the one route to that filter leads
from the first loop again. -/
theorem failed_attachment_moves_route :
    let back := movedAndTorn.step movingBack.act false
    (bothFilters.step movingOn.act false).1.toBool = true ∧ back.1.toBool = false ∧
      (back.2.2.sensors.get? 0).map Bench.remoteSlots = some [0, 1] ∧
      back.2.2.isAlive 0 = true ∧ back.2.2.isAlive 1 = false ∧
      (back.2.2.routesTo 0 1).isEmpty = true ∧ (back.2.2.routesTo 0 0).length = 1 := by
  decide +kernel

end Workbench

end EmbeddedFilters
