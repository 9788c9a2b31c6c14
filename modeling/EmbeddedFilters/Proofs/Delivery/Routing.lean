import EmbeddedFilters.Proofs.Delivery.Worker
import EmbeddedFilters.Proofs.Tables
import Mathlib.Data.List.Nodup

/-!
# Routing

What the owner of a delivery loop can ask of it, one request after the other, with a worker that
takes everything off the queue before the next request (`LoopDesk.run`). `Ledger.of` reads off a
history of requests, without looking at the loop, which routes stand, which targets have been
dropped and how many requesters there are. `LoopDesk.publish_reaches_standing_routes` says that a
running loop hands each report, in the order of publication, to the live targets of the routes that
stand for its topic and filter, in the order of registration and once for each route, and what the
loop counts meanwhile.
-/

namespace EmbeddedFilters

variable {τ σ : Type}

/-! ### Requests and what they leave standing -/

/-- A route that stands, as the owner of its loop knows it. -/
structure StandingRoute (τ : Type) where
  key : String
  topic : String
  filter : String
  target : τ
  deriving DecidableEq

/-- What the owner of a loop can ask of it. A route that is registered is kept under a key, and what
has been kept there before is taken back. -/
inductive LoopRequest (τ : Type) where
  | acquire
  | release
  | register (route : StandingRoute τ)
  | withdraw (key : String)
  | dropTarget (target : τ)
  | publish (parcels : List Parcel)

/-- The reports that a request publishes. -/
def LoopRequest.parcels : LoopRequest τ → List Parcel
  | .publish parcels => parcels
  | _ => []

/-- What the owner of a loop knows of it. -/
structure Ledger (τ : Type) where
  requesters : Nat := 0
  routes : List (StandingRoute τ) := []
  gone : List τ := []

namespace Ledger

/-- What a request changes. -/
def enter (ledger : Ledger τ) : LoopRequest τ → Ledger τ
  | .acquire => { ledger with requesters := ledger.requesters + 1 }
  | .release => { ledger with requesters := ledger.requesters - 1 }
  | .register route =>
    { ledger with routes := ledger.routes.filter (·.key ≠ route.key) ++ [route] }
  | .withdraw key => { ledger with routes := ledger.routes.filter (·.key ≠ key) }
  | .dropTarget target => { ledger with gone := target :: ledger.gone }
  | .publish _ => ledger

/-- What a history of requests leaves. -/
def of (history : List (LoopRequest τ)) : Ledger τ := history.foldl enter {}

/-- A loop runs as long as somebody requests it. -/
def running (ledger : Ledger τ) : Bool := 0 < ledger.requesters

/-- The live targets of the routes that stand for the topic and the filter of a report. -/
def receivers [DecidableEq τ] (ledger : Ledger τ) (parcel : Parcel) : List τ :=
  ((ledger.routes.filter fun r => r.topic == parcel.topic && r.filter == parcel.report.filter).map
    (·.target)).filter (· ∉ ledger.gone)

end Ledger

/-! ### Serving requests -/

/-- A loop with its surroundings, and the tokens of the routes that its owner keeps. -/
structure LoopDesk (τ σ : Type) where
  loop : DeliveryLoop τ := {}
  tokens : Table String Nat := {}
  around : Surroundings τ σ

namespace DeliveryLoop

/-- Drops a route, if there is one. -/
def takeBack (l : DeliveryLoop τ) (token? : Option Nat) : DeliveryLoop τ :=
  token?.elim l l.dropRoute

end DeliveryLoop

namespace LoopDesk

/-- Does what a request asks for, apart from publishing. -/
def apply (desk : LoopDesk τ σ) : LoopRequest τ → LoopDesk τ σ
  | .acquire => { desk with loop := desk.loop.acquire }
  | .release => { desk with loop := desk.loop.release }
  | .register route =>
    let (token, l) := desk.loop.addRoute route.topic route.filter route.target
    { desk with
      loop := l.takeBack (desk.tokens.get? route.key)
      tokens := desk.tokens.put route.key token }
  | .withdraw key =>
    { desk with
      loop := desk.loop.takeBack (desk.tokens.get? key)
      tokens := desk.tokens.erase key }
  | .dropTarget target =>
    { desk with around := { desk.around with gone := target :: desk.around.gone } }
  | .publish _ => desk

variable [DecidableEq τ]

/-- Publishes a report, and gives what comes of it. If there is no room for it, the worker makes
room meanwhile. -/
def post (reception : Reception τ σ) (desk : LoopDesk τ σ) (parcel : Parcel) :
    Option (Except LinkError Unit) × LoopDesk τ σ :=
  let ((outcome?, l), around) :=
    (DeliveryLoop.await Surroundings.live (Surroundings.hand reception)
      (desk.loop.publish parcel.topic parcel.report)).run desk.around
  (outcome?, { desk with loop := l, around })

/-- Publishes reports one after another, and gives what comes of each. -/
def postAll (reception : Reception τ σ) (desk : LoopDesk τ σ) :
    List Parcel → List (Option (Except LinkError Unit)) × LoopDesk τ σ
  | [] => ([], desk)
  | parcel :: rest =>
    let (outcome?, desk) := desk.post reception parcel
    let (outcomes, desk) := postAll reception desk rest
    (outcome? :: outcomes, desk)

/-- Lets the worker do all that can be done. -/
def settle (reception : Reception τ σ) (desk : LoopDesk τ σ) : LoopDesk τ σ :=
  let (l, around) :=
    (desk.loop.drain Surroundings.live (Surroundings.hand reception)).run desk.around
  { desk with loop := l, around }

/-- What comes of the reports that a request publishes, and the desk when the worker has done its
work. -/
def serve (reception : Reception τ σ) (desk : LoopDesk τ σ) (r : LoopRequest τ) :
    List (Option (Except LinkError Unit)) × LoopDesk τ σ :=
  let (outcomes, desk) := (desk.apply r).postAll reception r.parcels
  (outcomes, desk.settle reception)

/-- The desk after one request after the other. -/
def run (reception : Reception τ σ) (desk : LoopDesk τ σ) : List (LoopRequest τ) → LoopDesk τ σ
  | [] => desk
  | r :: rest => run reception (desk.serve reception r).2 rest

end LoopDesk

namespace DeliveryLoop

/-- To take a token back filters its route out and touches nothing else. -/
lemma takeBack_eq (l : DeliveryLoop τ) (token? : Option Nat) :
    l.takeBack token? = { l with routes := (l.takeBack token?).routes } := by
  cases token? <;> rfl

/-- Taking a token back does not count as a delivery or a loss. -/
lemma counts_takeBack (l : DeliveryLoop τ) (token? : Option Nat) :
    (l.takeBack token?).delivered = l.delivered ∧ (l.takeBack token?).dropped = l.dropped := by
  cases token? <;> exact ⟨rfl, rfl⟩

end DeliveryLoop

/-! ### Publishing -/

namespace LoopDesk

section Publishing

variable [DecidableEq τ] {desk : LoopDesk τ σ}

/-- A desk settles to the loop and the surroundings that the worker leaves behind. -/
lemma settle_eq_of_drain {reception : Reception τ σ} {l : DeliveryLoop τ}
    {around : Surroundings τ σ}
    (h : (desk.loop.drain Surroundings.live (Surroundings.hand reception)).run desk.around =
      (l, around)) : desk.settle reception = { desk with loop := l, around } := by
  unfold settle
  rw [h]

variable (reception : Reception τ σ)

/-- A list of reports is posted one after the other. -/
lemma postAll_cons (desk : LoopDesk τ σ) (parcel : Parcel) (rest : List Parcel) :
    desk.postAll reception (parcel :: rest) =
      ((desk.post reception parcel).1 :: ((desk.post reception parcel).2.postAll reception rest).1,
        ((desk.post reception parcel).2.postAll reception rest).2) := rfl

/-- A running loop takes a report, and its worker does its work meanwhile if there is no room. -/
lemma post_running (hrunning : desk.loop.running = true) (parcel : Parcel) :
    desk.post reception parcel =
      let queued := { desk with loop := desk.loop.enqueue parcel }
      if queued.loop.isCrowded then
        (if (queued.settle reception).loop.isCrowded then none else some (.ok ()),
          queued.settle reception)
      else (some (.ok ()), queued) := by
  have hpublish : desk.loop.publish parcel.topic parcel.report =
      (.ok (), desk.loop.enqueue parcel) := DeliveryLoop.publish_running hrunning _ _
  rw [post, hpublish, DeliveryLoop.await]
  dsimp only
  cases (desk.loop.enqueue parcel).isCrowded <;> rfl

/-- A loop that has been stopped refuses a report. -/
lemma post_stopped (hstopped : desk.loop.running = false) (parcel : Parcel) :
    desk.post reception parcel = (some (.error .notConnected),
      { desk with loop := { desk.loop with dropped := desk.loop.dropped + 1 } }) := by
  rw [post, DeliveryLoop.publish_stopped hstopped]
  rfl

/-- A loop that has been stopped refuses all reports. -/
lemma postAll_stopped (desk : LoopDesk τ σ) (hstopped : desk.loop.running = false)
    (parcels : List Parcel) :
    desk.postAll reception parcels = (parcels.map fun _ => some (.error .notConnected),
      { desk with
        loop := { desk.loop with dropped := desk.loop.dropped + parcels.length } }) := by
  induction parcels generalizing desk with
  | nil => rfl
  | cons parcel rest ih =>
    have hrest := ih { desk with
      loop := { desk.loop with dropped := desk.loop.dropped + 1 } } hstopped
    rw [Nat.add_assoc, Nat.add_comm 1] at hrest
    rw [postAll_cons, post_stopped reception hstopped, hrest]
    rfl

/-- The worker does its work. -/
lemma settle_running {receivers : Parcel → List τ} (desk : LoopDesk τ σ)
    (hworking : desk.loop.working = true) (hflight : desk.loop.inFlight = [])
    (hreceivers : ∀ parcel, (desk.loop.targets parcel.topic parcel.report.filter).filter
      (· ∉ desk.around.gone) = receivers parcel) :
    ∃ new world, new.map Handover.handed = handoversDue receivers desk.loop.queue ∧
      desk.settle reception = { desk with
        loop := { desk.loop.tally new (unreceived receivers desk.loop.queue) with queue := [] }
        around := desk.around.note new world } := by
  obtain ⟨new, world, hnew, hdrain⟩ :=
    DeliveryLoop.run_drain reception desk.loop desk.around hworking hflight hreceivers
  exact ⟨new, world, hnew, settle_eq_of_drain hdrain⟩

/-- A running loop takes all reports, whether or not its worker has to make room for them, and in
the end the worker has handed all of them out, behind those that have been in the queue. -/
lemma settle_postAll {receivers : Parcel → List τ} (parcels : List Parcel) (desk : LoopDesk τ σ)
    (hrunning : desk.loop.running = true) (hworking : desk.loop.working = true)
    (hflight : desk.loop.inFlight = [])
    (hreceivers : ∀ parcel, (desk.loop.targets parcel.topic parcel.report.filter).filter
      (· ∉ desk.around.gone) = receivers parcel) :
    ∃ new world, new.map Handover.handed = handoversDue receivers (desk.loop.queue ++ parcels) ∧
      (desk.postAll reception parcels).1 = (parcels.map fun _ => some (.ok ())) ∧
      (desk.postAll reception parcels).2.settle reception = { desk with
        loop := { desk.loop.tally new (unreceived receivers (desk.loop.queue ++ parcels)) with
          queue := [] }
        around := desk.around.note new world } := by
  induction parcels generalizing desk with
  | nil =>
    obtain ⟨new, world, hnew, hsettle⟩ :=
      settle_running reception desk hworking hflight hreceivers
    rw [List.append_nil]
    exact ⟨new, world, hnew, rfl, hsettle⟩
  | cons parcel rest ih =>
    have hsplit : desk.loop.queue ++ parcel :: rest =
        (desk.loop.enqueue parcel).queue ++ rest := by simp [DeliveryLoop.enqueue]
    rw [hsplit, postAll_cons, post_running reception hrunning]
    dsimp only
    split
    · -- the worker hands out what is in the queue before the rest is published
      obtain ⟨first, world, hfirst, hsettle⟩ :=
        settle_running reception { desk with loop := desk.loop.enqueue parcel } hworking hflight
          hreceivers
      obtain ⟨new, world', hnew, houtcomes, hrest⟩ :=
        ih { desk with
          loop := { (desk.loop.enqueue parcel).tally first
              (unreceived receivers (desk.loop.enqueue parcel).queue) with queue := [] }
          around := desk.around.note first world } hrunning hworking hflight hreceivers
      have hroom : ({ (desk.loop.enqueue parcel).tally first
          (unreceived receivers (desk.loop.enqueue parcel).queue) with queue := [] } :
            DeliveryLoop τ).isCrowded = false := DeliveryLoop.isCrowded_of_empty rfl
      rw [hsettle]
      refine ⟨first ++ new, world', ?_, ?_, ?_⟩
      · rw [List.map_append, hfirst, hnew, ← handoversDue_append]
        rfl
      · rw [houtcomes, hroom]
        rfl
      · rw [hrest, Surroundings.note_note,
          unreceived_append receivers (desk.loop.enqueue parcel).queue rest]
        have htally := DeliveryLoop.tally_emptied (desk.loop.enqueue parcel) first new
          (unreceived receivers (desk.loop.enqueue parcel).queue) (unreceived receivers rest)
        exact congrArg (fun l => ({ desk with
          loop := l
          around := desk.around.note (first ++ new) world' } : LoopDesk τ σ)) htally
    · obtain ⟨new, world, hnew, houtcomes, hrest⟩ :=
        ih { desk with loop := desk.loop.enqueue parcel } hrunning hworking hflight hreceivers
      refine ⟨new, world, hnew, ?_, hrest⟩
      rw [houtcomes]
      rfl

end Publishing

/-! ### What a desk keeps -/

/-- What is kept under a key, as the owner knows it. -/
def standing (key : String) (e : RouteEntry τ) : StandingRoute τ :=
  ⟨key, e.topic, e.filter, e.target⟩

/-- The desk is as its owner knows it: the routes that stand are those of the loop, each with its
token under its key, and the worker has done all that it can. -/
structure Keeps (desk : LoopDesk τ σ) (ledger : Ledger τ) (held : List (String × RouteEntry τ)) :
    Prop where
  routes : desk.loop.routes = held.map (·.2)
  standing : held.map (fun h => standing h.1 h.2) = ledger.routes
  known : ∀ key token, desk.tokens.get? key = some token ↔ ∃ e, (key, e) ∈ held ∧ e.token = token
  keys : (held.map (·.1)).Nodup
  tokens : (held.map (·.2.token)).Nodup
  fresh : ∀ h ∈ held, h.2.token < desk.loop.nextToken
  gone : desk.around.gone = ledger.gone
  requesters : desk.loop.requesters = ledger.requesters
  running : desk.loop.running = ledger.running
  working : desk.loop.running = true → desk.loop.working = true
  queue : desk.loop.queue = []
  inFlight : desk.loop.inFlight = []

namespace Keeps

variable {desk : LoopDesk τ σ} {ledger : Ledger τ} {held : List (String × RouteEntry τ)}

/-- Only the route that is held under the key is dropped. -/
lemma routes_takeBack (h : Keeps desk ledger held) (key : String) {l : DeliveryLoop τ}
    {later : List (RouteEntry τ)} (hl : l.routes = desk.loop.routes ++ later)
    (hlater : ∀ e ∈ later, ∀ g ∈ held, e.token ≠ g.2.token) :
    (l.takeBack (desk.tokens.get? key)).routes = (held.filter (·.1 ≠ key)).map (·.2) ++ later := by
  rw [h.routes] at hl
  cases hkey : desk.tokens.get? key with
  | none =>
    have hunknown : held.filter (·.1 ≠ key) = held := by
      refine List.filter_eq_self.mpr fun g hg => decide_eq_true fun hsame => ?_
      have hknown := (h.known g.1 g.2.token).mpr ⟨g.2, hg, rfl⟩
      rw [hsame, hkey] at hknown
      cases hknown
    rw [hunknown]
    exact hl
  | some token =>
    obtain ⟨e, he, rfl⟩ := (h.known key token).mp hkey
    show l.routes.filter (fun r => r.token ≠ e.token) = _
    have hrest : later.filter (fun r => r.token ≠ e.token) = later :=
      List.filter_eq_self.mpr fun r hr => decide_eq_true (hlater r hr _ he)
    rw [hl, List.filter_append, hrest, List.filter_map]
    congr 2
    refine List.filter_congr fun g hg => ?_
    have hiff : g.2.token = e.token ↔ g.1 = key := by
      constructor
      · intro htoken
        rw [List.inj_on_of_nodup_map h.tokens hg he htoken]
      · intro hsame
        rw [List.inj_on_of_nodup_map h.keys hg he hsame]
    simp [hiff]

/-- Forgetting a name at the desk forgets its routes in the ledger. -/
lemma standing_filter (h : Keeps desk ledger held) (key : String) :
    (held.filter (·.1 ≠ key)).map (fun g => LoopDesk.standing g.1 g.2) =
      ledger.routes.filter (·.key ≠ key) := by
  rw [← h.standing, List.filter_map]
  rfl

/-- The live targets of the loop are the receivers that its owner knows. -/
lemma receivers_eq [DecidableEq τ] (h : Keeps desk ledger held) (parcel : Parcel) :
    (desk.loop.targets parcel.topic parcel.report.filter).filter (· ∉ desk.around.gone) =
      ledger.receivers parcel := by
  rw [DeliveryLoop.targets, Ledger.receivers, h.routes, h.gone, ← h.standing]
  simp only [List.filter_map, List.map_map]
  rfl

variable (reception : Reception τ σ)

/-- The worker has nothing to do. -/
lemma settle_eq [DecidableEq τ] (h : Keeps desk ledger held) : desk.settle reception = desk := by
  refine settle_eq_of_drain ?_
  rw [DeliveryLoop.drain_idle (.inr ⟨h.queue, h.inFlight⟩)]
  rfl

/-! The requests other than publishing change what their owner knows that they change. -/

/-- A desk and its ledger stay in step when a requester comes. -/
lemma acquire (h : Keeps desk ledger held) :
    Keeps { desk with loop := desk.loop.acquire } (ledger.enter .acquire) held := by
  have hrequesters := h.requesters
  unfold DeliveryLoop.acquire
  split
  · rename_i hnone
    refine { h with
      requesters := ?_
      running := (decide_eq_true (Nat.succ_pos _)).symm
      working := fun _ => rfl }
    show 1 = ledger.requesters + 1
    omega
  · rename_i hsome
    refine { h with
      requesters := congrArg (· + 1) hrequesters
      running := ?_ }
    show desk.loop.running = decide (0 < ledger.requesters + 1)
    rw [h.running, Ledger.running]
    exact decide_eq_decide.mpr (by omega)

/-- A desk and its ledger stay in step when a requester leaves. -/
lemma release (h : Keeps desk ledger held) :
    Keeps { desk with loop := desk.loop.release } (ledger.enter .release) held := by
  refine { h with
    requesters := congrArg (· - 1) h.requesters
    running := ?_
    working := fun hrunning => h.working (Bool.and_eq_true_iff.mp hrunning).1 }
  show (desk.loop.running && desk.loop.requesters - 1 ≠ 0) = decide (0 < ledger.requesters - 1)
  rw [h.running, h.requesters, Ledger.running, Bool.eq_iff_iff]
  simp only [Bool.and_eq_true, decide_eq_true_eq]
  omega

/-- A desk and its ledger stay in step when a name gives up its route. -/
lemma withdraw (h : Keeps desk ledger held) (key : String) :
    Keeps (desk.apply (.withdraw key)) (ledger.enter (.withdraw key))
      (held.filter (·.1 ≠ key)) := by
  have hsub : (held.filter (·.1 ≠ key)).Sublist held := List.filter_sublist
  have hroutes := h.routes_takeBack key (List.append_nil desk.loop.routes).symm
    fun e he => absurd he List.not_mem_nil
  rw [List.append_nil] at hroutes
  rw [LoopDesk.apply, DeliveryLoop.takeBack_eq]
  exact { h with
    routes := hroutes
    standing := h.standing_filter key
    known := fun other token => by
      rw [Table.get?_erase]
      by_cases hsame : other = key <;> simp [hsame, h.known]
    keys := (hsub.map _).nodup h.keys
    tokens := (hsub.map _).nodup h.tokens
    fresh := fun g hg => h.fresh g (hsub.subset hg) }

/-- A route is held under its key from now on. -/
lemma register (h : Keeps desk ledger held) (route : StandingRoute τ) :
    Keeps (desk.apply (.register route)) (ledger.enter (.register route))
      (held.filter (·.1 ≠ route.key) ++
        [(route.key, ⟨desk.loop.nextToken, route.topic, route.filter, route.target⟩)]) := by
  let e : RouteEntry τ := ⟨desk.loop.nextToken, route.topic, route.filter, route.target⟩
  have hsub : (held.filter (·.1 ≠ route.key)).Sublist held := List.filter_sublist
  have hnew : ∀ g ∈ held, e.token ≠ g.2.token := fun g hg => Nat.ne_of_gt (h.fresh g hg)
  rw [LoopDesk.apply, DeliveryLoop.addRoute]
  dsimp only
  rw [DeliveryLoop.takeBack_eq]
  exact { h with
    routes := by
      rw [List.map_append]
      exact h.routes_takeBack route.key rfl fun e' he => List.mem_singleton.mp he ▸ hnew
    standing := by
      rw [List.map_append, h.standing_filter]
      rfl
    known := fun other token => by
      rw [Table.get?_put]
      by_cases hsame : other = route.key <;> simp [hsame, h.known]
    keys := by
      rw [List.map_append]
      refine List.Nodup.append ((hsub.map _).nodup h.keys) (List.nodup_singleton _) ?_
      exact List.disjoint_singleton.mpr (by simp)
    tokens := by
      rw [List.map_append]
      refine List.Nodup.append ((hsub.map _).nodup h.tokens) (List.nodup_singleton _) ?_
      refine List.disjoint_singleton.mpr fun hmem => ?_
      obtain ⟨g, hg, htoken⟩ := List.mem_map.mp hmem
      exact hnew g (hsub.subset hg) htoken.symm
    fresh := fun g hg => by
      obtain hg | hg := List.mem_append.mp hg
      · exact Nat.lt_succ_of_lt (h.fresh g (hsub.subset hg))
      · rw [List.mem_singleton.mp hg]
        exact Nat.lt_succ_self _ }

/-- Requests other than publishing hand over and count nothing. -/
lemma apply (h : Keeps desk ledger held) {r : LoopRequest τ}
    (hr : ∀ parcels, r ≠ .publish parcels) :
    (∃ held', Keeps (desk.apply r) (ledger.enter r) held') ∧ r.parcels = [] ∧
      (desk.apply r).around.handovers = desk.around.handovers ∧
      (desk.apply r).loop.delivered = desk.loop.delivered ∧
      (desk.apply r).loop.dropped = desk.loop.dropped := by
  cases r with
  | acquire =>
    refine ⟨⟨held, h.acquire⟩, rfl, rfl, ?_⟩
    show desk.loop.acquire.delivered = _ ∧ desk.loop.acquire.dropped = _
    unfold DeliveryLoop.acquire
    split <;> exact ⟨rfl, rfl⟩
  | release => exact ⟨⟨held, h.release⟩, rfl, rfl, rfl, rfl⟩
  | register route =>
    exact ⟨⟨_, h.register route⟩, rfl, rfl, DeliveryLoop.counts_takeBack _ _⟩
  | withdraw key => exact ⟨⟨_, h.withdraw key⟩, rfl, rfl, DeliveryLoop.counts_takeBack _ _⟩
  | dropTarget target =>
    exact ⟨⟨held, { h with gone := congrArg (target :: ·) h.gone }⟩, rfl, rfl, rfl, rfl⟩
  | publish parcels => exact absurd rfl (hr parcels)

end Keeps

/-- What comes of the reports that a request publishes, if the loop is as its owner knows it. When
nobody requests the loop, each of them is refused and counted as dropped. Otherwise each is taken,
and handed to its receivers one after the other; the loop counts those that have accepted and those
that have refused, and the reports that nobody has received. -/
structure Delivers [DecidableEq τ] (reception : Reception τ σ)
  (desk : LoopDesk τ σ) (ledger : Ledger τ)
    (r : LoopRequest τ) (new : List (Handover τ)) : Prop where
  running : desk.loop.running = ledger.running
  outcomes : (desk.serve reception r).1 =
    r.parcels.map fun _ => some (if ledger.running then .ok () else .error .notConnected)
  noted : (desk.serve reception r).2.around.handovers = desk.around.handovers ++ new
  handed : new.map Handover.handed =
    if ledger.running then handoversDue ledger.receivers r.parcels else []
  delivered : (desk.serve reception r).2.loop.delivered =
    desk.loop.delivered + new.countP (·.accepted)
  dropped : (desk.serve reception r).2.loop.dropped =
    desk.loop.dropped + new.countP (!·.accepted) +
      if ledger.running then unreceived ledger.receivers r.parcels else r.parcels.length

variable [DecidableEq τ] {desk : LoopDesk τ σ} {ledger : Ledger τ}
  {held : List (String × RouteEntry τ)}

/-- To serve a request is to apply it, to post its reports and to let the worker go on. -/
lemma serve_eq (reception : Reception τ σ) (desk : LoopDesk τ σ) (r : LoopRequest τ) :
    desk.serve reception r = (((desk.apply r).postAll reception r.parcels).1,
      ((desk.apply r).postAll reception r.parcels).2.settle reception) := rfl

namespace Keeps

variable (reception : Reception τ σ)

/-- While the loop runs, what is published is handed over. -/
lemma publish_running (h : Keeps desk ledger held) (hrunning : ledger.running = true)
    (parcels : List Parcel) :
    Keeps (desk.serve reception (.publish parcels)).2 ledger held ∧
      ∃ new, desk.Delivers reception ledger (.publish parcels) new := by
  have hloop : desk.loop.running = true := h.running.trans hrunning
  obtain ⟨new, world, hnew, houtcomes, hsettle⟩ := settle_postAll reception parcels desk hloop
    (h.working hloop) h.inFlight h.receivers_eq
  rw [h.queue, List.nil_append] at hnew hsettle
  have hserve : desk.serve reception (.publish parcels) = (parcels.map fun _ => some (.ok ()),
      { desk with
        loop := { desk.loop.tally new (unreceived ledger.receivers parcels) with queue := [] }
        around := desk.around.note new world }) := Prod.ext houtcomes hsettle
  refine ⟨?_, new, ?_⟩
  · rw [hserve]
    exact { h with queue := rfl }
  · exact {
      running := h.running
      outcomes := by
        rw [hserve, hrunning]
        rfl
      noted := by rw [hserve]; rfl
      handed := by rw [hrunning]; exact hnew
      delivered := by rw [hserve]; rfl
      dropped := by rw [hserve, hrunning]; rfl }

/-- While the loop is stopped, what is published is refused. -/
lemma publish_stopped (h : Keeps desk ledger held) (hstopped : ledger.running = false)
    (parcels : List Parcel) :
    Keeps (desk.serve reception (.publish parcels)).2 ledger held ∧
      desk.Delivers reception ledger (.publish parcels) [] := by
  have hloop : desk.loop.running = false := h.running.trans hstopped
  have hkeeps : Keeps
      { desk with loop := { desk.loop with dropped := desk.loop.dropped + parcels.length } }
      ledger held := { h with }
  have hserve : desk.serve reception (.publish parcels) =
      (parcels.map fun _ => some (.error .notConnected),
        { desk with loop := { desk.loop with
          dropped := desk.loop.dropped + parcels.length } }) := by
    have hposted : (desk.apply (.publish parcels)).postAll reception
        (LoopRequest.publish parcels : LoopRequest τ).parcels = _ :=
      postAll_stopped reception _ hloop parcels
    rw [serve_eq, hposted, hkeeps.settle_eq reception]
  refine ⟨by rw [hserve]; exact hkeeps, ?_⟩
  exact {
    running := h.running
    outcomes := by rw [hserve, hstopped]; rfl
    noted := by rw [hserve, List.append_nil]
    handed := by rw [hstopped]; rfl
    delivered := by rw [hserve]; rfl
    dropped := by rw [hserve, hstopped]; rfl }

/-- What comes of a request, and what is kept then. -/
lemma serve (h : Keeps desk ledger held) (r : LoopRequest τ) :
    (∃ held', Keeps (desk.serve reception r).2 (ledger.enter r) held') ∧
      ∃ new, desk.Delivers reception ledger r new := by
  by_cases hr : ∃ parcels, r = .publish parcels
  · obtain ⟨parcels, rfl⟩ := hr
    cases hrunning : ledger.running with
    | true =>
      obtain ⟨hkeeps, hdelivers⟩ := h.publish_running reception hrunning parcels
      exact ⟨⟨held, hkeeps⟩, hdelivers⟩
    | false =>
      obtain ⟨hkeeps, hdelivers⟩ := h.publish_stopped reception hrunning parcels
      exact ⟨⟨held, hkeeps⟩, [], hdelivers⟩
  · have hother : ∀ parcels, r ≠ .publish parcels := fun parcels hsame => hr ⟨parcels, hsame⟩
    obtain ⟨⟨held', hkeeps⟩, hparcels, hhandovers, hdelivered, hdropped⟩ := h.apply hother
    have hserve : desk.serve reception r = ([], desk.apply r) := by
      rw [serve_eq, hparcels]
      exact Prod.ext rfl (hkeeps.settle_eq reception)
    refine ⟨⟨held', by rw [hserve]; exact hkeeps⟩, [], ?_⟩
    exact {
      running := h.running
      outcomes := by rw [hserve, hparcels]; rfl
      noted := by rw [hserve, List.append_nil]; exact hhandovers
      handed := by rw [hparcels]; exact (ite_self _).symm
      delivered := by rw [hserve]; exact hdelivered
      dropped := by rw [hserve, hparcels]; exact hdropped.trans (by simp [unreceived]) }

variable {reception} in
/-- After one request after the other the desk is as its owner knows it. -/
lemma run (h : Keeps desk ledger held) (history : List (LoopRequest τ)) :
    ∃ held', Keeps (desk.run reception history) (history.foldl Ledger.enter ledger) held' := by
  induction history generalizing desk ledger held with
  | nil => exact ⟨held, h⟩
  | cons r rest ih =>
    obtain ⟨⟨held', hserve⟩, -⟩ := h.serve reception r
    exact ih hserve

end Keeps

/-- A loop that nobody has asked for anything, in a world. -/
def new (world : σ) (config : LinkConfig := {}) : LoopDesk τ σ :=
  { loop := .ofConfig config, around := { world } }

omit [DecidableEq τ] in
/-- A new desk keeps an empty ledger. -/
lemma keeps_new (world : σ) (config : LinkConfig) :
    Keeps (new world config : LoopDesk τ σ) {} [] where
  routes := rfl
  standing := rfl
  known := fun key token => by
    constructor
    · intro h
      cases h
    · rintro ⟨_, h, _⟩
      cases h
  keys := List.nodup_nil
  tokens := List.nodup_nil
  fresh := fun _ h => absurd h List.not_mem_nil
  gone := rfl
  requesters := rfl
  running := rfl
  working := fun h => by cases h
  queue := rfl
  inFlight := rfl

/-- Whatever has been asked of a loop before, and however its targets take reports: the reports that
are published next reach the live targets of the routes that stand for them, each once for each
route, in the order of publication and of registration, and nobody else; or they are refused, if
nobody requests the loop. -/
theorem publish_reaches_standing_routes (reception : Reception τ σ) (world : σ)
    (config : LinkConfig) (history : List (LoopRequest τ)) (r : LoopRequest τ) :
    ∃ handovers, ((new world config).run reception history).Delivers reception
      (Ledger.of history) r handovers := by
  obtain ⟨held, hkeeps⟩ : ∃ held,
      Keeps ((new world config).run reception history) (Ledger.of history) held :=
    (keeps_new world config).run history
  exact (hkeeps.serve reception r).2

/-- A loop with two routes for the same reports to the same target. -/
def forked : List (LoopRequest Nat) :=
  [.acquire, .register ⟨"first", "depth", "Temporal Filter", 0⟩,
    .register ⟨"second", "depth", "Temporal Filter", 0⟩]

/-- A live target with two routes is handed a report twice, and the loop counts it twice. -/
theorem two_routes_deliver_twice :
    let reception : Reception Nat Unit := fun _ _ world => (true, world)
    let report : OptionReport := ⟨"Temporal Filter", [⟨"Delta", .int 30⟩]⟩
    let before := (new ()).run reception forked
    let after := (before.serve reception (.publish [⟨"depth", report⟩])).2
    (0 ∉ (Ledger.of forked).gone ∧ ∃ route ∈ (Ledger.of forked).routes,
      route.topic = "depth" ∧ route.filter = report.filter ∧ route.target = 0) ∧
      after.around.handovers.map Handover.handed = [(0, report.options), (0, report.options)] ∧
      after.loop.delivered = before.loop.delivered + 2 := by
  decide

end LoopDesk

end EmbeddedFilters
