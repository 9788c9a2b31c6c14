import EmbeddedFilters.Proofs.Workbench.Assembly
import EmbeddedFilters.Proofs.Workbench.LoopAccount
import EmbeddedFilters.Proofs.Workbench.Reports

/-!
# The life of a worker

As long as the worker of a running loop lives, the loop takes whatever is published, and the worker
hands each report out before the next one comes. It lives until a listener of a filter that it hands
a report to panics. Then the loop goes on to run, but nobody hands reports out: as many are taken as
the queue has room for, and whoever publishes another one waits for ever
(`Workbench.running_loop_serves_while_worker_lives`). One listener silences all filters that the
loop delivers to (`Workbench.panic_silences_other_filter`).

A report is handed to filters and sinks without any change of loops, sinks and names, and filters
keep their subscribers (`Workbench.HandedOut`). So the worker stays the only one that has anything
to do.
-/

namespace EmbeddedFilters

/-- The target does not have the worker wait. -/
def Target.Open (sinks : Pool Sink) : Target → Prop
  | .filter _ => True
  | .sink n => ∃ s, sinks.get? n = some s ∧ s.holds = false

/-- No listener of the target panics. -/
def Target.Gentle (filters : Pool Filter) : Target → Prop
  | .filter n => ∀ f, filters.get? n = some (.remote f) →
    ∀ m ∈ f.watcher.subscribers, m.listener.panics = false
  | .sink _ => True

namespace Watcher

variable {w : Watcher}

/-- Nobody panics if no listener does. -/
lemma untilPanic_of_gentle {due : List Delivery} (h : ∀ d ∈ due, d.listener.panics = false) :
    untilPanic due = (due, false) := by
  induction due with
  | nil => rfl
  | cons d rest ih =>
    rw [untilPanic, h d List.mem_cons_self, ih fun e he => h e (List.mem_cons_of_mem _ he)]
    rfl

/-- An announcement to listeners that do not panic does not panic. -/
lemma announce_of_gentle (h : ∀ m ∈ w.subscribers, m.listener.panics = false)
    (changes : List Change) :
    (w.announce changes).panicked = false := by
  have hdue : ∀ d ∈ w.due changes, d.listener.panics = false := by
    intro d hd
    obtain ⟨change, -, hd⟩ := List.mem_flatMap.mp hd
    obtain ⟨m, hm, rfl⟩ := List.mem_map.mp hd
    exact h m (List.mem_filter.mp hm).1
  unfold announce
  split
  · rfl
  · rw [untilPanic_of_gentle hdue]

/-- An announcement keeps the subscribers. -/
lemma subscribers_announce (changes : List Change) :
    (w.announce changes).state.subscribers = w.subscribers := by
  unfold announce
  split <;> rfl

end Watcher

namespace Workbench

/-- Reports have been handed out: filters have kept their subscribers, and loops, sinks and names
are what they were. -/
structure HandedOut (w v : Workbench) : Prop where
  loops : v.loops = w.loops
  sinks : v.sinks = w.sinks
  names : v.names = w.names
  filters : ∀ n g, v.filters.get? n = some (.remote g) →
    ∃ f, w.filters.get? n = some (.remote f) ∧ g.watcher.subscribers = f.watcher.subscribers

/-- Reports may be handed out one after another. -/
instance : Bench.Course HandedOut where
  refl _ := ⟨rfl, rfl, rfl, fun _ g hg => ⟨g, hg, rfl⟩⟩
  trans h h' := by
    refine ⟨h'.loops.trans h.loops, h'.sinks.trans h.sinks,
      h'.names.trans h.names, fun n k hk => ?_⟩
    obtain ⟨g, hg, hgk⟩ := h'.filters n k hk
    obtain ⟨f, hf, hfg⟩ := h.filters n g hg
    exact ⟨f, hf, hgk.trans hfg⟩

variable {w v : Workbench} {t : Target}

/-- An open target stays open while reports are handed out. -/
lemma HandedOut.open (h : w.HandedOut v) (ht : t.Open w.sinks) : t.Open v.sinks := by
  cases t with
  | filter n => trivial
  | sink n =>
    obtain ⟨s, hs, hopen⟩ := ht
    exact ⟨s, by rw [h.sinks, hs], hopen⟩

/-- A gentle target stays gentle while reports are handed out. -/
lemma HandedOut.gentle (h : w.HandedOut v) (ht : t.Gentle w.filters) : t.Gentle v.filters := by
  cases t with
  | filter n =>
    intro g hg m hm
    obtain ⟨f, hf, hfg⟩ := h.filters n g hg
    exact ht f hf m (hfg ▸ hm)
  | sink n => trivial

/-- A filter is put in the place of one with the same subscribers. -/
lemma handedOut_put {n : Nat} {f g : RemoteFilter} (hf : w.filters.get? n = some (.remote f))
    (hfg : g.watcher.subscribers = f.watcher.subscribers) :
    w.HandedOut { w with filters := w.filters.put n (.remote g) } := by
  refine ⟨rfl, rfl, rfl, fun m k hk => ?_⟩
  have hk : (w.filters.put n (.remote g)).get? m = some (.remote k) := hk
  rw [Pool.get?_put] at hk
  split at hk
  · rename_i heq
    cases hk
    exact ⟨f, heq ▸ hf, hfg⟩
  · exact ⟨k, hk, rfl⟩

end Workbench

namespace RemoteFilter

variable {f : RemoteFilter} {options : List Assignment} {t : Told RemoteFilter}

/-- What taking over a report comes to for those who listen. -/
lemma told_of_notify (h : f.notify options = .ok t) :
    t.state.watcher.subscribers = f.watcher.subscribers ∧
      ((∀ m ∈ f.watcher.subscribers, m.listener.panics = false) → t.panicked = false) := by
  obtain ⟨⟨⟩, -, h⟩ := Outcome.bind_eq_ok.mp h
  obtain ⟨⟨changed, proxy⟩, -, h⟩ := Outcome.bind_eq_ok.mp h
  obtain rfl := Outcome.pure_eq_ok.mp h
  exact ⟨Watcher.subscribers_announce _, fun hgentle => Watcher.announce_of_gentle hgentle _⟩

end RemoteFilter

namespace Bench

open Workbench (HandedOut)

variable {w : Workbench} {d : DeliveryLoop Target}

/-! ### Handing out -/

/-- Telling a value hands a report out. -/
lemma handedOut_tell (d : Delivery) : Within HandedOut (tell d) w := by
  obtain ⟨listener, id, value⟩ := d
  cases listener <;> exact ⟨rfl, rfl, rfl, fun _ g hg => ⟨g, hg, rfl⟩⟩

/-- A report to a filter is handed out. -/
lemma handedOut_notify (n : Nat) (options : List Assignment) :
    Within HandedOut (notify n options) w := by
  refine Within.bind_remoteFilter fun f hf => Within.bind_ofFilter fun t ht => ?_
  refine Within.bind (Workbench.handedOut_put hf (RemoteFilter.told_of_notify ht).1) fun _ _ _ => ?_
  refine Within.bind (Within.forM fun d _ _ => handedOut_tell d) fun _ _ _ => ?_
  split
  · exact Within.throw _
  · exact Within.pure _

/-- A report to a target is handed out. -/
lemma handedOut_hand (target : Target) (options : List Assignment) :
    Within HandedOut (hand target options) w :=
  Within.hand (fun n options _ => handedOut_notify n options)
    (fun _ _ => ⟨rfl, rfl, rfl, fun _ g hg => ⟨g, hg, rfl⟩⟩) target options

/-- A number that no remote filter has refuses all reports. -/
lemma exec_hand_absent {n : Nat} (h : ∀ f, w.filters.get? n ≠ some (.remote f))
    (options : List Assignment) : (hand (.filter n) options).exec w = (.ok .refused, w) := by
  have hremote : (remoteFilter n).exec w = (.error (.noObject "filter"), w) := by
    cases hget : w.filters.get? n with
    | none =>
      have hfilter : (filter n).exec w = (.error (.noObject "filter"), w) := by
        rw [filter, exec_bind_ok (exec_get w), hget]
        rfl
      rw [remoteFilter, exec_bind_error hfilter]
    | some f =>
      cases f with
      | remote f => exact absurd hget (h f)
      | offline f =>
        rw [remoteFilter, exec_bind_ok (exec_filter hget)]
        rfl
  rw [hand, exec_tryCatch, notify, exec_bind_error (exec_bind_error hremote _)]
  rfl

/-- An open target does not have the worker wait, and does not take it down unless a listener
panics. -/
lemma exec_hand_open {t : Target} (ht : t.Open w.sinks) (options : List Assignment) :
    ∃ a v, (hand t options).exec w = (.ok a, v) ∧ a ≠ .waits ∧
      (t.Gentle w.filters → a ≠ .panicked) := by
  cases t with
  | filter n =>
    by_cases hremote : ∃ f, w.filters.get? n = some (.remote f)
    · obtain ⟨f, hf⟩ := hremote
      cases hnotify : f.notify options with
      | error e => exact ⟨_, _, exec_hand_refused hf hnotify, by decide, fun _ => by decide⟩
      | ok t =>
        refine ⟨_, _, exec_hand_taken hf hnotify, ?_, fun hgentle => ?_⟩
        · cases t.panicked <;> decide
        · rw [(RemoteFilter.told_of_notify hnotify).2 (hgentle f hf)]
          decide
    · rw [not_exists] at hremote
      exact ⟨_, _, exec_hand_absent hremote options, by decide, fun _ => by decide⟩
  | sink n =>
    obtain ⟨s, hs, hopen⟩ := ht
    have hsink : (hand (.sink n) options).exec w = (.ok (if s.refuses then .refused else .accepted),
        { w with calls := w.calls ++ [.received s.label options] }) := by
      rw [hand, exec_bind_ok (exec_get w), hs]
      dsimp only
      rw [if_neg (by simp [hopen])]
      cases s.refuses <;> rfl
    refine ⟨_, _, hsink, ?_, fun _ => ?_⟩ <;> cases s.refuses <;> decide

/-- What a worker hands out to open targets does not stay in flight. -/
lemma exec_handOut_open (pending : List (Target × List Assignment))
    (h : ∀ p ∈ pending, p.1.Open w.sinks) (d : DeliveryLoop Target) :
    ∃ d' v, (DeliveryLoop.handOut hand pending d).exec w = (.ok d', v) ∧ d'.inFlight = [] ∧
      d'.routes = d.routes ∧ d'.capacity = d.capacity ∧
      ((∀ p ∈ pending, p.1.Gentle w.filters) → d'.working = d.working) := by
  induction pending generalizing w d with
  | nil => exact ⟨_, w, rfl, rfl, rfl, rfl, fun _ => rfl⟩
  | cons first rest ih =>
    obtain ⟨t, options⟩ := first
    obtain ⟨a, u, hfirst, hwaits, hpanics⟩ := exec_hand_open (h _ List.mem_cons_self) options
    have hhears := handedOut_hand (w := w) t options
    rw [Within, hfirst] at hhears
    have hopen : ∀ p ∈ rest, p.1.Open u.sinks :=
      fun p hp => hhears.open (h p (List.mem_cons_of_mem _ hp))
    have hgentle : (∀ p ∈ (t, options) :: rest, p.1.Gentle w.filters) →
        ∀ p ∈ rest, p.1.Gentle u.filters :=
      fun hall p hp => hhears.gentle (hall p (List.mem_cons_of_mem _ hp))
    rw [DeliveryLoop.handOut, exec_bind_ok hfirst]
    cases a with
    | waits => exact absurd rfl hwaits
    | accepted =>
      obtain ⟨d', v, hrest, hflight, hroutes, hroom, hworking⟩ :=
        ih hopen { d with delivered := d.delivered + 1 }
      exact ⟨d', v, hrest, hflight, hroutes, hroom, fun hall => hworking (hgentle hall)⟩
    | refused =>
      obtain ⟨d', v, hrest, hflight, hroutes, hroom, hworking⟩ :=
        ih hopen { d with dropped := d.dropped + 1 }
      exact ⟨d', v, hrest, hflight, hroutes, hroom, fun hall => hworking (hgentle hall)⟩
    | panicked =>
      refine ⟨_, u, rfl, rfl, rfl, rfl, fun hall => ?_⟩
      exact absurd rfl (hpanics (hall _ List.mem_cons_self))

/-- A worker hands the only report in the queue out, if there are only open targets, and has nothing
to do after that. It lives on if no listener of a target panics. -/
lemma exec_drain_open {parcel : Parcel} (hqueue : d.queue = [parcel]) (hflight : d.inFlight = [])
    (hworking : d.working = true) (hopen : ∀ r ∈ d.routes, r.target.Open w.sinks) :
    ∃ d' v, (d.drain isLive hand).exec w = (.ok d', v) ∧ d'.Idle ∧ d'.routes = d.routes ∧
      d'.capacity = d.capacity ∧
      ((∀ r ∈ d.routes, r.target.Gentle w.filters) → d'.working = true) := by
  rw [drain_single hqueue hflight hworking, exec_bind_ok (exec_live _ w)]
  have htargets : ∀ t ∈ (d.targets parcel.topic parcel.report.filter).filter (·.alive w.sinks),
      ∃ r ∈ d.routes, r.target = t := by
    intro t ht
    obtain ⟨r, hr, rfl⟩ := List.mem_map.mp (List.mem_filter.mp ht).1
    exact ⟨r, (List.mem_filter.mp hr).1, rfl⟩
  generalize (d.targets parcel.topic parcel.report.filter).filter (·.alive w.sinks) =
    targets at htargets ⊢
  cases hempty : targets.isEmpty with
  | true =>
    refine ⟨{ d with queue := [], dropped := d.dropped + 1 }, w, ?_, .inr ⟨rfl, hflight⟩, rfl, rfl,
      fun _ => hworking⟩
    rw [if_pos rfl]
    rfl
  | false =>
    have hpending : ∀ p ∈ targets.map (·, parcel.report.options),
        ∃ r ∈ d.routes, r.target = p.1 := by
      intro p hp
      obtain ⟨t, ht, rfl⟩ := List.mem_map.mp hp
      exact htargets t ht
    obtain ⟨d', v, hout, hnothing, hroutes, hroom, hlives⟩ := exec_handOut_open (w := w)
      (targets.map (·, parcel.report.options)) (fun p hp => by
        obtain ⟨r, hr, heq⟩ := hpending p hp
        exact heq ▸ hopen r hr) d
    refine ⟨{ d' with queue := [] }, v, ?_, .inr ⟨rfl, hnothing⟩, hroutes, hroom, fun hgentle => ?_⟩
    · rw [if_neg Bool.false_ne_true]
      exact exec_bind_ok hout _
    · refine (hlives fun p hp => ?_).trans hworking
      obtain ⟨r, hr, heq⟩ := hpending p hp
      exact heq ▸ hgentle r hr

/-! ### Coming to rest -/

/-- A loop in which nothing waits is left as it is. -/
lemma exec_drain_rests {n : Nat} (hd : w.loops.get? n = some d) (hidle : d.Idle) :
    (drain n).exec w = (.ok (), w) := by
  have hloop : (loop n).exec w = (.ok d, w) := exec_lookup (fun w => w.loops.get? n) hd _
  rw [drain, exec_bind_ok hloop, exec_bind_ok (exec_drain_idle hidle w)]
  show (_, { w with loops := w.loops.modify n fun _ => d }) = _
  rw [Pool.modify_of_get? hd, Pool.put_of_get? hd]

/-- Loops whose workers have nothing to do stay as they are. -/
lemma exec_forM_drain_rests {entries : List (Nat × DeliveryLoop Target)}
    (h : ∀ entry ∈ entries, ∃ e, w.loops.get? entry.1 = some e ∧ e.Idle) :
    (entries.forM fun entry => drain entry.1).exec w = (.ok (), w) := by
  induction entries with
  | nil => rfl
  | cons entry rest ih =>
    obtain ⟨e, he, hidle⟩ := h entry List.mem_cons_self
    exact (exec_bind_ok (exec_drain_rests he hidle) _).trans
      (ih fun other hother => h other (List.mem_cons_of_mem _ hother))

/-- If only one worker has anything to do, it does it once. -/
lemma exec_settle_single {l : Nat} {d' : DeliveryLoop Target} {v : Workbench}
    (hd : w.loops.get? l = some d) (hrests : ∀ n e, n ≠ l → w.loops.get? n = some e → e.Idle)
    (hdrain : (d.drain isLive hand).exec w = (.ok d', v)) (hloops : v.loops = w.loops)
    (hidle : d'.Idle) : settle.exec w = (.ok (), { v with loops := w.loops.put l d' }) := by
  rw [settle, exec_bind_ok (exec_get w)]
  have hthere : ∀ entry ∈ w.loops.members.entries, ∃ e, w.loops.get? entry.1 = some e :=
    fun entry hentry => Table.exists_get? hentry
  have hbusy : ∃ entry ∈ w.loops.members.entries, entry.1 = l := ⟨_, Table.mem_entries hd, rfl⟩
  generalize w.loops.members.entries = entries at hthere hbusy
  induction entries with
  | nil =>
    obtain ⟨entry, hentry, -⟩ := hbusy
    cases hentry
  | cons entry rest ih =>
    have hrest : ∀ other ∈ rest, ∃ e, w.loops.get? other.1 = some e :=
      fun other hother => hthere other (List.mem_cons_of_mem _ hother)
    by_cases heq : entry.1 = l
    · have hloop : (loop entry.1).exec w = (.ok d, w) :=
        exec_lookup (fun w => w.loops.get? entry.1) (heq ▸ hd) _
      have hfirst : (drain entry.1).exec w = (.ok (), { v with loops := w.loops.put l d' }) := by
        rw [drain, exec_bind_ok hloop, exec_bind_ok hdrain]
        show (_, { v with loops := v.loops.modify entry.1 fun _ => d' }) = _
        rw [hloops, heq, Pool.modify_of_get? hd]
      refine (exec_bind_ok hfirst _).trans (exec_forM_drain_rests fun other hother => ?_)
      show ∃ e, (w.loops.put l d').get? other.1 = some e ∧ e.Idle
      rw [Pool.get?_put]
      split
      · exact ⟨d', rfl, hidle⟩
      · rename_i hne
        obtain ⟨e, he⟩ := hrest other hother
        exact ⟨e, he, hrests _ e hne he⟩
    · obtain ⟨e, he⟩ := hthere entry List.mem_cons_self
      have hfirst := exec_drain_rests he (hrests _ e heq he)
      obtain ⟨busy, hmem, hl⟩ := hbusy
      have hmem := (List.mem_cons.mp hmem).resolve_left fun hsame => heq (hsame ▸ hl)
      exact (exec_bind_ok hfirst _).trans (ih hrest ⟨busy, hmem, hl⟩)

end Bench

/-- The command that publishes a report at a loop. -/
def Command.publishing (loop : String) (parcel : Parcel) : Command :=
  .publish loop parcel.topic parcel.report.filter [parcel.report.options]

namespace Workbench

/-- What becomes of the loop and the workbench when a report comes that is routed to one filter
only. The filter takes it over, or refuses it; the worker goes down with a listener that panics; and
if it is down already, the report stays in the queue. -/
inductive Serviced (w : Workbench) (d : DeliveryLoop Target) (n : Nat)
  (f : RemoteFilter) (parcel : Parcel) :
    DeliveryLoop Target → Workbench → Prop where
  | taken (t : Told RemoteFilter) : d.working = true → f.notify parcel.report.options = .ok t →
      t.panicked = false →
      Serviced w d n f parcel { d with queue := [], inFlight := [], delivered := d.delivered + 1 }
        (telling { w with filters := w.filters.put n (.remote t.state) } t.deliveries)
  | panicked (t : Told RemoteFilter) : d.working = true → f.notify parcel.report.options = .ok t →
      t.panicked = true →
      Serviced w d n f parcel { d with queue := [], inFlight := [], working := false }
        (telling { w with filters := w.filters.put n (.remote t.state) } t.deliveries)
  | refused (e : FilterError) : d.working = true → f.notify parcel.report.options = .error e →
      Serviced w d n f parcel { d with queue := [], inFlight := [], dropped := d.dropped + 1 } w
  | unheard : d.working = false → Serviced w d n f parcel (d.enqueue parcel) w

/-- A loop with a name runs and leads to open targets, and no worker has anything to do. -/
structure Serves (w : Workbench) (name : String) (l : Nat) (d : DeliveryLoop Target) : Prop where
  named : w.names.loops.get? name = some l
  there : w.loops.get? l = some d
  running : d.running = true
  rests : ∀ n e, w.loops.get? n = some e → e.Idle
  opens : ∀ r ∈ d.routes, r.target.Open w.sinks

variable {w : Workbench} {name : String} {l : Nat} {d : DeliveryLoop Target}

/-- What a step comes to, with the calls that it reads off. -/
lemma step_eq {α : Type} (w : Workbench) (act : Bench α) (leave : Bool) :
    w.step act leave = ((act.exec w).1,
      if leave then [] else (Bench.settle.exec (act.exec w).2).2.calls,
      { (Bench.settle.exec (act.exec w).2).2 with
        calls := if leave then (Bench.settle.exec (act.exec w).2).2.calls else [] }) := by
  cases leave <;> rfl

/-- Where the worker is alive, there is nothing in the queue. -/
lemma Serves.nothing_due (h : w.Serves name l d) (hworking : d.working = true) :
    d.queue = [] ∧ d.inFlight = [] :=
  (h.rests l d h.there).resolve_left (by rw [hworking]; decide)

/-- The worker is down if the queue is full. -/
lemma Serves.down_of_full (h : w.Serves name l d) (hfull : ¬ d.queue.length < d.capacity) :
    d.working = false := by
  refine Bool.not_eq_true _ ▸ fun hworking => hfull ?_
  rw [(h.nothing_due hworking).1]
  exact d.capacity_pos

/-- What is published at a running loop is put into its queue. If the queue is full, the publisher
waits for a worker that is down. -/
lemma Serves.exec_publishing (h : w.Serves name l d) (parcel : Parcel) :
    (Command.publishing name parcel).act.exec w =
      (if d.queue.length < d.capacity then .ok () else .error .stalled,
        { w with loops := w.loops.put l (d.enqueue parcel) }) := by
  have hact : (Command.publishing name parcel).act.exec w =
      (Bench.post l fun d => d.publish parcel.topic parcel.report).exec w :=
    Bench.exec_publish_single h.named _ _ _
  have hloop : (Bench.loop l).exec w = (.ok d, w) :=
    Bench.exec_lookup (fun w => w.loops.get? l) h.there _
  have hpublished := DeliveryLoop.publish_running h.running parcel.topic parcel.report
  have hcrowded := d.isCrowded_enqueue parcel
  rw [hact, Bench.post, Bench.exec_bind_ok hloop, hpublished]
  have hput : { w with loops := w.loops.modify l fun _ => d.enqueue parcel } =
      { w with loops := w.loops.put l (d.enqueue parcel) } := by rw [Pool.modify_of_get? h.there]
  by_cases hroom : d.queue.length < d.capacity
  · rw [decide_eq_true hroom] at hcrowded
    rw [DeliveryLoop.await_of_room hcrowded, if_pos hroom, ← hput]
    rfl
  · rw [decide_eq_false hroom] at hcrowded
    rw [DeliveryLoop.await_of_idle hcrowded (.inl (h.down_of_full hroom)), if_neg hroom, ← hput]
    rfl

/-- The worker of the loop has nothing to do after it has been given a report. -/
lemma Serves.exec_drain (h : w.Serves name l d) (parcel : Parcel) {v : Workbench}
    (hv : v.sinks = w.sinks) (hfilters : v.filters = w.filters) :
    ∃ e u, ((d.enqueue parcel).drain Bench.isLive Bench.hand).exec v = (.ok e, u) ∧
      e.Idle ∧ e.routes = d.routes ∧ e.capacity = d.capacity ∧
      (d.working = true → (∀ r ∈ d.routes, r.target.Gentle w.filters) → e.working = true) ∧
      (d.working = false → e = d.enqueue parcel ∧ u = v) := by
  by_cases hworking : d.working = true
  · obtain ⟨hqueue, hflight⟩ := h.nothing_due hworking
    have hsingle : (d.enqueue parcel).queue = [parcel] := by
      rw [DeliveryLoop.enqueue, hqueue, List.nil_append]
    obtain ⟨e, u, hout, hidle, hroutes, hroom, hlives⟩ :=
      Bench.exec_drain_open (w := v) hsingle hflight hworking (hv ▸ h.opens)
    exact ⟨e, u, hout, hidle, hroutes, hroom, fun _ hgentle => hlives (hfilters ▸ hgentle),
      fun hno => absurd hworking (by rw [hno]; decide)⟩
  · have hidle : (d.enqueue parcel).Idle := .inl (Bool.not_eq_true _ ▸ hworking)
    exact ⟨_, v, Bench.exec_drain_idle hidle v, hidle, rfl, rfl, fun hyes => absurd hyes hworking,
      fun _ => ⟨rfl, rfl⟩⟩

/-- A loop that runs takes a report if it has room, its worker does what it can, and it goes on to
run. -/
lemma Serves.step (h : w.Serves name l d) (parcel : Parcel) (leave : Bool) :
    ∃ e v, ((d.enqueue parcel).drain Bench.isLive Bench.hand).exec
        { w with loops := w.loops.put l (d.enqueue parcel) } = (.ok e, v) ∧
      w.step (Command.publishing name parcel).act leave =
        (if d.queue.length < d.capacity then .ok () else .error .stalled,
          if leave then [] else v.calls,
          { v with loops := w.loops.put l e, calls := if leave then v.calls else [] }) ∧
      Serves { v with loops := w.loops.put l e, calls := if leave then v.calls else [] } name l e ∧
      e.routes = d.routes ∧ e.capacity = d.capacity ∧
      (∀ t : Target, t.Gentle w.filters → t.Gentle v.filters) ∧
      (d.working = true → (∀ r ∈ d.routes, r.target.Gentle w.filters) → e.working = true) ∧
      (d.working = false → e = d.enqueue parcel ∧ v.filters = w.filters) := by
  set taken : Workbench := { w with loops := w.loops.put l (d.enqueue parcel) }
  obtain ⟨e, v, hout, hidle, hroutes, hroom, hlives, hdown⟩ :=
    h.exec_drain parcel (v := taken) rfl rfl
  have hrests : ∀ n e, n ≠ l → taken.loops.get? n = some e → e.Idle := by
    intro n e hne he
    have he : (w.loops.put l (d.enqueue parcel)).get? n = some e := he
    rw [Pool.get?_put_of_ne _ hne] at he
    exact h.rests n e he
  have hhanded : taken.HandedOut v := by
    have hcourse :
        Bench.Within HandedOut ((d.enqueue parcel).drain Bench.isLive Bench.hand) taken :=
      Bench.Within.worker (fun target options _ => Bench.handedOut_hand target options) _
    rwa [Bench.Within, hout] at hcourse
  have huse : e.use = d.use :=
    DeliveryLoop.use_of_register (Bench.gives_drain (d.enqueue parcel) _ _ _ hout)
  have hsettle :=
    Bench.exec_settle_single (Pool.get?_put_self _ _ _) hrests hout hhanded.loops hidle
  have hput : taken.loops.put l e = w.loops.put l e := Pool.put_put _ _ _ _
  refine ⟨e, v, hout, ?_, ?_, hroutes, hroom, fun t ht => hhanded.gentle ht, hlives, fun hno => ?_⟩
  · rw [step_eq, h.exec_publishing, hsettle, hput]
  · refine ⟨hhanded.names ▸ h.named, Pool.get?_put_self _ _ _,
      (congrArg Prod.snd huse).trans h.running,
      fun n k hk => ?_, fun r hr => hhanded.open (h.opens r (hroutes ▸ hr))⟩
    have hk : (w.loops.put l e).get? n = some k := hk
    rw [Pool.get?_put] at hk
    split at hk
    · cases hk
      exact hidle
    · exact h.rests n k hk
  · obtain ⟨heq, hsame⟩ := hdown hno
    exact ⟨heq, (congrArg (·.filters) hsame).trans rfl⟩

/-- What the worker of a loop makes of a report that is routed to one filter only. -/
lemma Serves.serviced (h : w.Serves name l d) {parcel : Parcel} {n : Nat} {f : RemoteFilter}
    (htarget : d.targets parcel.topic parcel.report.filter = [.filter n])
    (hf : w.filters.get? n = some (.remote f)) {e : DeliveryLoop Target} {v : Workbench}
    (hout : ((d.enqueue parcel).drain Bench.isLive Bench.hand).exec
      { w with loops := w.loops.put l (d.enqueue parcel) } = (.ok e, v)) :
    w.Serviced d n f parcel e { v with loops := w.loops } := by
  by_cases hworking : d.working = true
  · obtain ⟨hqueue, hflight⟩ := h.nothing_due hworking
    have hsingle : (d.enqueue parcel).queue = [parcel] := by
      rw [DeliveryLoop.enqueue, hqueue, List.nil_append]
    have htargets : (d.enqueue parcel).targets parcel.topic parcel.report.filter = [.filter n] :=
      htarget
    have hlive : ∀ u : Workbench,
        ([Target.filter n].filterM Bench.isLive).exec u = (.ok [.filter n], u) :=
      fun _ => rfl
    rw [Bench.drain_single hsingle hflight hworking, htargets, Bench.exec_bind_ok (hlive _)] at hout
    cases hnotify : f.notify parcel.report.options with
    | error reason =>
      have hhanded :=
        Bench.exec_handOut_refused (w := { w with loops := w.loops.put l (d.enqueue parcel) }) hf
        hnotify (d.enqueue parcel)
      cases hout.symm.trans (Bench.exec_bind_ok hhanded _)
      exact .refused reason hworking hnotify
    | ok t =>
      have hhanded :=
        Bench.exec_handOut_taken (w := { w with loops := w.loops.put l (d.enqueue parcel) }) hf
        hnotify (d.enqueue parcel)
      cases hpanicked : t.panicked with
      | false =>
        rw [hpanicked] at hhanded
        cases hout.symm.trans (Bench.exec_bind_ok hhanded _)
        exact .taken t hworking hnotify hpanicked
      | true =>
        rw [hpanicked] at hhanded
        cases hout.symm.trans (Bench.exec_bind_ok hhanded _)
        exact .panicked t hworking hnotify hpanicked
  · have hidle : (d.enqueue parcel).Idle := .inl (Bool.not_eq_true _ ▸ hworking)
    rw [Bench.exec_drain_idle hidle] at hout
    cases hout
    exact .unheard (Bool.not_eq_true _ ▸ hworking)

/-- A loop goes on to run through reports that are published one after another. Its worker lives on
if no listener panics, and if it is down already, all reports stay in the queue. -/
lemma Serves.run (h : w.Serves name l d) (reports : List (Parcel × Bool)) :
    let u := w.run (reports.map fun r => (.publishing name r.1, r.2))
    ∃ e, u.Serves name l e ∧ e.routes = d.routes ∧ e.capacity = d.capacity ∧
      (d.working = true → (∀ r ∈ d.routes, r.target.Gentle w.filters) → e.working = true) ∧
      (d.working = false → e.working = false ∧ e.queue = d.queue ++ reports.map Prod.fst ∧
        u.filters = w.filters) := by
  induction reports generalizing w d with
  | nil =>
    exact ⟨d, h, rfl, rfl, fun hworking _ => hworking,
      fun hdown => ⟨hdown, (List.append_nil _).symm, rfl⟩⟩
  | cons report rest ih =>
    obtain ⟨e, v, -, hstep, hserves, hroutes, hroom, hgentle, hlives, hdown⟩ :=
      h.step report.1 report.2
    obtain ⟨e', hserves', hroutes', hroom', hlives', hdown'⟩ := ih hserves
    rw [List.map_cons, Workbench.run, hstep]
    refine ⟨e', hserves', hroutes'.trans hroutes, hroom'.trans hroom,
      fun hworking hall => ?_, fun hno => ?_⟩
    · refine hlives' (hlives hworking hall) fun r hr => ?_
      rw [hroutes] at hr
      exact hgentle _ (hall r hr)
    · obtain ⟨rfl, hfilters⟩ := hdown hno
      obtain ⟨hno', hqueue, hfilters'⟩ := hdown' hno
      refine ⟨hno', hqueue.trans ?_, hfilters'.trans hfilters⟩
      rw [DeliveryLoop.enqueue, List.append_assoc]
      rfl

/-- Somebody requests a loop, no worker has anything to do, and the loop leads to targets that do
not have its worker wait. Then, whatever is published there, the loop goes on to run along the same
routes, and its worker lives on as long as no listener panics. While the worker is alive the queue
is empty, so the next report is taken; and if it is routed to one filter only, it is handed to that
filter before another one comes. Once a listener has panicked, all later reports stay in line, for
whichever filter they are: the loop takes as many as its queue has room for, and the publishers of
all others wait for ever. -/
theorem running_loop_serves_while_worker_lives (hw : w.Reachable)
    (hname : w.names.loops.get? name = some l) (hd : w.loops.get? l = some d)
    (hused : 0 < d.requesters)
    (hrests : ∀ n e, w.loops.get? n = some e → e.Idle)
    (hopen : ∀ r ∈ d.routes, r.target.Open w.sinks)
    (reports : List (Parcel × Bool)) :
    let u := w.run (reports.map fun r => (.publishing name r.1, r.2))
    ∃ e, u.loops.get? l = some e ∧ e.running = true ∧ e.routes = d.routes ∧
      e.capacity = d.capacity ∧
      (d.working = true → (∀ r ∈ d.routes, r.target.Gentle w.filters) → e.working = true) ∧
      (e.working = true → e.queue = []) ∧
      (d.working = false → e.working = false ∧ e.queue = d.queue ++ reports.map Prod.fst ∧
        u.filters = w.filters) ∧
      ∀ parcel leave,
        let result := if e.queue.length < e.capacity then .ok () else .error .stalled
        (u.step (Command.publishing name parcel).act leave).1 = result ∧
        ∀ n f, e.targets parcel.topic parcel.report.filter = [.filter n] →
          u.filters.get? n = some (.remote f) → ∃ e' v, u.Serviced e n f parcel e' v ∧
            u.step (Command.publishing name parcel).act leave =
              (result, if leave then [] else v.calls,
                { v with loops := u.loops.put l e', calls := if leave then v.calls else [] }) := by
  have hserves : w.Serves name l d := {
    named := hname
    there := hd
    running := by rw [(hw.counts_users hd).2, decide_eq_true hused]
    rests := hrests
    opens := hopen }
  obtain ⟨e, he, hroutes, hroom, hlives, hdown⟩ := hserves.run reports
  refine ⟨e, he.there, he.running, hroutes, hroom, hlives,
    fun hworking => (he.nothing_due hworking).1, hdown, fun parcel leave => ?_⟩
  obtain ⟨e', v, hout, hstep, -⟩ := he.step parcel leave
  refine ⟨congrArg Prod.fst hstep, fun n f htarget hf => ?_⟩
  exact ⟨e', { v with loops := _ }, he.serviced htarget hf hout, hstep⟩

/-- A sensor has a temporal filter with a listener that panics, and a decimation filter with one
that does not. -/
def badListener : Workbench :=
  ({} : Workbench).run (assembling {} [(.temporal, "depth"), (.decimation, "small")] "camera"
      [(.temporal, "depth"), (.decimation, "small")] ++
    [(.nameSensorFilter "sensor" .temporal "depth", false),
      (.nameSensorFilter "sensor" .decimation "small", false),
      (.onChange "depth" .delta "bad" true, false),
      (.onChange "small" .toggle "good" false, false)])

/-- What the listener that panics listens for. -/
def badReport : Parcel := ⟨"rt/device/notification", "depth", [⟨"Delta", .int 30⟩]⟩

/-- What the other one listens for. -/
def goodReport : Parcel := ⟨"rt/device/notification", "small", [⟨"Toggle", .int 1⟩]⟩

/-- The loop goes on to run after a listener has panicked, and takes a report for the other
filter. -/
theorem badListener_loop_runs :
    ∃ e, (badListener.run [(.publishing "loop" badReport, false)]).loops.get? 0 = some e ∧
      e.running = true ∧ ((badListener.run [(.publishing "loop" badReport, false)]).step
        (Command.publishing "loop" goodReport).act false).1 = .ok () := by
  have hw : badListener.Reachable := Reachable.start.run _
  have hname : badListener.names.loops.get? "loop" = some 0 := by decide +kernel
  have hloop : (badListener.loops.get? 0).map (fun d => (d.requesters, d.routes.map (·.target))) =
      some (1, [.filter 0, .filter 1]) := by decide +kernel
  have hidle : ∀ entry ∈ badListener.loops.members.entries, entry.2.Idle := by decide +kernel
  have hroom : ((badListener.run [(.publishing "loop" badReport, false)]).loops.get? 0).all
      (fun e => e.queue.length < e.capacity) = true := by decide +kernel
  generalize badListener = w at hw hname hloop hidle hroom ⊢
  obtain ⟨d, hd, hloop⟩ := Option.map_eq_some_iff.mp hloop
  obtain ⟨hrequesters, htargets⟩ := Prod.ext_iff.mp hloop
  dsimp only at hrequesters htargets
  have hopen : ∀ r ∈ d.routes, r.target.Open w.sinks := by
    intro r hr
    have hmem : r.target ∈ d.routes.map (·.target) := List.mem_map.mpr ⟨r, hr, rfl⟩
    rw [htargets] at hmem
    rcases List.mem_cons.mp hmem with heq | hmem
    · rw [heq]
      trivial
    · rw [List.mem_singleton.mp hmem]
      trivial
  obtain ⟨e, he, hrunning, -, -, -, -, -, hserves⟩ :=
    running_loop_serves_while_worker_lives hw hname hd
    (by rw [hrequesters]; decide) (fun n e he => hidle _ (Table.mem_entries he))
      hopen [(badReport, false)]
  have he : (w.run [(.publishing "loop" badReport, false)]).loops.get? 0 = some e := he
  rw [he] at hroom
  exact ⟨e, he, hrunning, (hserves goodReport false).1.trans (if_pos (of_decide_eq_true hroom))⟩

/-- While the worker lives, a listener is told what is published for its filter. Once the listener
of another filter has panicked, it is not, though the loop is requested, runs and takes the
report. -/
theorem panic_silences_other_filter :
    (badListener.step (Command.publishing "loop" goodReport).act false).2.1.length = 1 ∧
    ((badListener.run [(.publishing "loop" badReport, false)]).loops.get? 0).map
        (fun d => (d.requesters, d.running, d.working)) = some (1, true, false) ∧
      ((badListener.run [(.publishing "loop" badReport, false)]).step
        (Command.publishing "loop" goodReport).act false).1.toBool = true ∧
      ((badListener.run [(.publishing "loop" badReport, false)]).step
        (Command.publishing "loop" goodReport).act false).2.1.length = 0 ∧
      ((badListener.run [(.publishing "loop" badReport, false),
        (.publishing "loop" goodReport, false)]).filters.get? 1).map Filter.isEnabled =
          some false := by
  decide +kernel

end Workbench

end EmbeddedFilters
