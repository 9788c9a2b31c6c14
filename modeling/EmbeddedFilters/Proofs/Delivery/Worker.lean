import EmbeddedFilters.Delivery.Loop
import Mathlib.Tactic.Common

/-!
# The worker of a loop

What the worker of a delivery loop does when its targets take reports and come back: each accepts a
report or refuses it, but neither waits nor fails badly. The targets share a world that they read
and change meanwhile, and every handover is noted down (`Surroundings`). `DeliveryLoop.run_drain`
says what becomes of a queue: its reports go to the live targets of their routes one after the
other, and the loop counts who has accepted, who has refused, and the reports that have reached
nobody.
-/

namespace EmbeddedFilters

variable {τ σ : Type}

/-- A report that has been handed to a target, and whether the target has accepted it. -/
structure Handover (τ : Type) where
  target : τ
  options : List Assignment
  accepted : Bool
  deriving DecidableEq

/-- Who has been handed what. -/
def Handover.handed (h : Handover τ) : τ × List Assignment := (h.target, h.options)

/-- Who is to be handed what, one report after the other. -/
def handoversDue (receivers : Parcel → List τ) (parcels : List Parcel) :
    List (τ × List Assignment) :=
  parcels.flatMap fun parcel => (receivers parcel).map (·, parcel.report.options)

/-- The number of reports that reach nobody. -/
def unreceived (receivers : Parcel → List τ) (parcels : List Parcel) : Nat :=
  parcels.countP fun parcel => (receivers parcel).isEmpty

/-- What is due is due for one report after the other. -/
lemma handoversDue_cons (receivers : Parcel → List τ) (parcel : Parcel) (rest : List Parcel) :
    handoversDue receivers (parcel :: rest) =
      (receivers parcel).map (·, parcel.report.options) ++ handoversDue receivers rest := rfl

/-- Reports without a receiver are counted one by one. -/
lemma unreceived_cons (receivers : Parcel → List τ) (parcel : Parcel) (rest : List Parcel) :
    unreceived receivers (parcel :: rest) =
      (if (receivers parcel).isEmpty then 1 else 0) + unreceived receivers rest := by
  rw [unreceived, List.countP_cons, Nat.add_comm]
  rfl

/-- What is due for two lists of reports is due for the first and then for the second. -/
lemma handoversDue_append (receivers : Parcel → List τ) (first rest : List Parcel) :
    handoversDue receivers (first ++ rest) =
      handoversDue receivers first ++ handoversDue receivers rest := List.flatMap_append

/-- The reports without a receiver of two lists add up. -/
lemma unreceived_append (receivers : Parcel → List τ) (first rest : List Parcel) :
    unreceived receivers (first ++ rest) =
      unreceived receivers first + unreceived receivers rest := List.countP_append

/-- Whether a target accepts a report, and what becomes of the world meanwhile. -/
abbrev Reception (τ σ : Type) := τ → List Assignment → σ → Bool × σ

/-- What a loop delivers into: the world of its targets, those that have been dropped, and the
handovers noted down. -/
structure Surroundings (τ σ : Type) where
  world : σ
  gone : List τ := []
  handovers : List (Handover τ) := []

namespace Surroundings

/-- Handovers are noted down, in a world that they may have changed. -/
def note (around : Surroundings τ σ) (new : List (Handover τ)) (world : σ) : Surroundings τ σ :=
  { around with world, handovers := around.handovers ++ new }

/-- Is a target still there? -/
def live [DecidableEq τ] (target : τ) : StateM (Surroundings τ σ) Bool := do
  return target ∉ (← get).gone

/-- Hands a report to a target. -/
def hand (reception : Reception τ σ) (target : τ) (options : List Assignment) :
    StateM (Surroundings τ σ) Attempt := do
  let (accepted, world) := reception target options (← get).world
  modify fun around => around.note [⟨target, options, accepted⟩] world
  return if accepted then .accepted else .refused

/-- Notes taken one after the other are one note. -/
lemma note_note (around : Surroundings τ σ) (first rest : List (Handover τ)) (world world' : σ) :
    (around.note first world).note rest world' = around.note (first ++ rest) world' := by
  simp only [note, List.append_assoc]

end Surroundings

namespace DeliveryLoop

/-- The loop with another report in its queue. -/
def enqueue (l : DeliveryLoop τ) (parcel : Parcel) : DeliveryLoop τ :=
  { l with queue := l.queue ++ [parcel] }

/-- A running loop queues what is published. -/
lemma publish_running {l : DeliveryLoop τ} (h : l.running = true) (topic : String)
    (report : OptionReport) : l.publish topic report = (.ok (), l.enqueue ⟨topic, report⟩) := by
  rw [publish, if_pos h]
  rfl

/-- A loop that has been stopped refuses what is published. -/
lemma publish_stopped {l : DeliveryLoop τ} (h : l.running = false) (topic : String)
    (report : OptionReport) :
    l.publish topic report = (.error .notConnected, { l with dropped := l.dropped + 1 }) := by
  rw [publish, h, if_neg Bool.false_ne_true]

/-- Nobody waits for room in a queue that is empty. -/
lemma isCrowded_of_empty {l : DeliveryLoop τ} (h : l.queue = []) : l.isCrowded = false := by
  rw [isCrowded, h]
  exact decide_eq_false (Nat.not_lt_zero _)

/-- There is room for a report as long as the queue holds fewer than it can. -/
lemma isCrowded_enqueue (l : DeliveryLoop τ) (parcel : Parcel) :
    (l.enqueue parcel).isCrowded = !decide (l.queue.length < l.capacity) := by
  have hiff : l.capacity < l.queue.length + 1 ↔ ¬ l.queue.length < l.capacity := by omega
  simp only [isCrowded, enqueue, List.length_append, List.length_singleton, hiff, decide_not]

/-- A loop with an empty queue has room for whatever it receives. -/
lemma isCrowded_receive {l : DeliveryLoop τ} (h : l.queue = []) (topic : String)
    (payload : ByteArray) : (l.receive topic payload).2.isCrowded = false := by
  unfold receive publish
  split
  · split
    · rename_i report _ _
      have hroom := l.isCrowded_enqueue ⟨topic, report⟩
      rw [h, List.length_nil, decide_eq_true l.capacity_pos] at hroom
      exact hroom
    · exact isCrowded_of_empty h
  · exact isCrowded_of_empty h

/-- There is nothing to do for the worker of the loop, or no worker to do it. -/
def Idle (l : DeliveryLoop τ) : Prop := l.working = false ∨ l.queue = [] ∧ l.inFlight = []

instance (l : DeliveryLoop τ) : Decidable l.Idle := inferInstanceAs (Decidable (_ ∨ _ ∧ _))

section Await

variable {m : Type → Type} [Monad m]

/-- A worker that has nothing to do does nothing, and neither does one that is down. -/
lemma drain_idle [LawfulMonad m] {live : τ → m Bool} {hand : τ → List Assignment → m Attempt}
    {l : DeliveryLoop τ} (h : l.Idle) : l.drain live hand = pure l := by
  obtain hdown | ⟨hqueue, hflight⟩ := h
  · rw [drain, hdown, if_neg Bool.false_ne_true, pure_bind]
    obtain ⟨_, _, _, _, _, _, working, queue, _, _, _⟩ := l
    cases hdown
    cases queue <;> rfl
  · have hrest : takeOff live hand l.queue l = pure l := by
      rw [hqueue, takeOff, ← hqueue]
    have hout : handOut hand l.inFlight l = pure l := by
      rw [hflight, handOut, ← hflight]
    rw [drain, hout, pure_bind, ite_self]
    exact hrest

/-- What comes of a report for which there is room is known at once. -/
lemma await_of_room {live : τ → m Bool} {hand : τ → List Assignment → m Attempt}
    {published : Except LinkError Unit × DeliveryLoop τ} (h : published.2.isCrowded = false) :
    await live hand published = pure (some published.1, published.2) := by
  obtain ⟨outcome, l⟩ := published
  cases outcome with
  | error e => rfl
  | ok taken =>
    have h : l.isCrowded = false := h
    rw [await, h, if_neg Bool.false_ne_true]

/-- The publisher of a report for which there is no room waits for ever if the worker does
nothing. -/
lemma await_of_idle [LawfulMonad m] {live : τ → m Bool} {hand : τ → List Assignment → m Attempt}
    {l : DeliveryLoop τ} (hcrowded : l.isCrowded = true) (hidle : l.Idle) :
    await live hand (.ok (), l) = pure (none, l) := by
  rw [await, if_pos hcrowded, drain_idle hidle, pure_bind, if_pos hcrowded]

end Await

/-- A loop that has counted handovers, and reports that have reached nobody. -/
def tally (l : DeliveryLoop τ) (new : List (Handover τ)) (lost : Nat) : DeliveryLoop τ :=
  { l with
    delivered := l.delivered + new.countP (·.accepted)
    dropped := l.dropped + new.countP (!·.accepted) + lost }

/-- Tallies made one after the other add up. -/
lemma tally_tally (l : DeliveryLoop τ) (first rest : List (Handover τ)) (m n : Nat) :
    (l.tally first m).tally rest n = l.tally (first ++ rest) (m + n) := by
  simp only [tally, List.countP_append]
  congr 1 <;> omega

/-- Emptying the queue between two tallies changes neither of them. -/
lemma tally_emptied (l : DeliveryLoop τ) (first rest : List (Handover τ)) (m n : Nat) :
    ({ ({ l.tally first m with queue := [] } : DeliveryLoop τ).tally rest n with queue := [] } :
      DeliveryLoop τ) = { l.tally (first ++ rest) (m + n) with queue := [] } := by
  rw [← tally_tally]
  rfl

/-- A lost report may be counted before the tally as well as with it. -/
lemma tally_lost (l : DeliveryLoop τ) (new : List (Handover τ)) (m n : Nat) :
    ({ l with dropped := l.dropped + m } : DeliveryLoop τ).tally new n = l.tally new (m + n) := by
  simp only [tally]
  congr 1
  omega

variable (reception : Reception τ σ)

/-- What is in flight is handed out one after the other. -/
lemma run_handOut (pending : List (τ × List Assignment)) (l : DeliveryLoop τ)
    (around : Surroundings τ σ) : ∃ new world, new.map Handover.handed = pending ∧
      (handOut (Surroundings.hand reception) pending l).run around =
        ({ l.tally new 0 with inFlight := [] }, around.note new world) := by
  induction pending generalizing l around with
  | nil => exact ⟨[], around.world, rfl, by simp [handOut, tally, Surroundings.note]; rfl⟩
  | cons first rest ih =>
    obtain ⟨target, options⟩ := first
    let h : Handover τ := ⟨target, options, (reception target options around.world).1⟩
    obtain ⟨new, world, hnew, hrest⟩ :=
      ih (l.tally [h] 0) (around.note [h] (reception target options around.world).2)
    refine ⟨h :: new, world, congrArg ((target, options) :: ·) hnew, ?_⟩
    rw [tally_tally, Surroundings.note_note] at hrest
    refine Eq.trans ?_ hrest
    have hrun : (Surroundings.hand reception target options).run around =
        (if h.accepted then .accepted else .refused,
          around.note [h] (reception target options around.world).2) := rfl
    rw [handOut, StateT.run_bind, hrun]
    cases haccepted : h.accepted with
    | true =>
      have htally : l.tally [h] 0 = { l with delivered := l.delivered + 1 } := by
        simp [tally, haccepted]
      rw [htally]
      rfl
    | false =>
      have htally : l.tally [h] 0 = { l with dropped := l.dropped + 1 } := by
        simp [tally, haccepted]
      rw [htally]
      rfl

variable [DecidableEq τ]

/-- Asking which targets are live leaves out those that are gone and changes nothing. -/
lemma run_live (targets : List τ) (around : Surroundings τ σ) :
    (targets.filterM Surroundings.live).run around =
      (targets.filter (· ∉ around.gone), around) := by
  have haux : ∀ kept, (List.filterAuxM Surroundings.live targets kept).run around =
      ((targets.filter (· ∉ around.gone)).reverse ++ kept, around) := by
    induction targets with
    | nil => exact fun kept => rfl
    | cons target rest ih =>
      intro kept
      refine (ih _).trans ?_
      by_cases h : target ∈ around.gone <;> simp [h]
  refine (congrArg (fun out => (out.1.reverse, out.2)) (haux [])).trans ?_
  simp

/-- Reports are taken off the queue one after the other, and each is handed to the live targets of
its routes. -/
lemma run_takeOff {receivers : Parcel → List τ} (parcels : List Parcel) (l : DeliveryLoop τ)
    (around : Surroundings τ σ) (hworking : l.working = true) (hflight : l.inFlight = [])
    (hreceivers : ∀ parcel,
      (l.targets parcel.topic parcel.report.filter).filter (· ∉ around.gone) = receivers parcel) :
    ∃ new world, new.map Handover.handed = handoversDue receivers parcels ∧
      (takeOff Surroundings.live (Surroundings.hand reception) parcels l).run around =
        ({ l.tally new (unreceived receivers parcels) with queue := [] },
          around.note new world) := by
  induction parcels generalizing l around with
  | nil =>
    refine ⟨[], around.world, rfl, ?_⟩
    simp [takeOff, tally, unreceived, Surroundings.note]
    rfl
  | cons parcel rest ih =>
    have hlive := run_live (l.targets parcel.topic parcel.report.filter) around
    rw [hreceivers] at hlive
    have hopen : (l.working && l.inFlight.isEmpty) = true := by rw [hworking, hflight]; rfl
    have hstep :
        (takeOff Surroundings.live (Surroundings.hand reception) (parcel :: rest) l).run around =
        (if (receivers parcel).isEmpty then
          takeOff Surroundings.live (Surroundings.hand reception) rest
            { l with dropped := l.dropped + 1 }
        else
          handOut (Surroundings.hand reception)
            ((receivers parcel).map (·, parcel.report.options)) l >>=
          takeOff Surroundings.live (Surroundings.hand reception) rest).run around := by
      rw [takeOff, if_pos hopen, StateT.run_bind, hlive]
      rfl
    rw [hstep, handoversDue_cons, unreceived_cons]
    cases hempty : (receivers parcel).isEmpty with
    | true =>
      obtain ⟨new, world, hnew, hrest⟩ := ih { l with dropped := l.dropped + 1 } around hworking
        hflight hreceivers
      rw [tally_lost] at hrest
      refine ⟨new, world, ?_, hrest⟩
      rw [List.isEmpty_iff.mp hempty]
      exact hnew
    | false =>
      obtain ⟨first, world, hfirst, hout⟩ :=
        run_handOut reception ((receivers parcel).map (·, parcel.report.options)) l around
      have hsame : ({ l.tally first 0 with inFlight := [] } : DeliveryLoop τ) =
          l.tally first 0 := by
        rw [← hflight]
        rfl
      rw [hsame] at hout
      obtain ⟨new, world', hnew, hrest⟩ := ih (l.tally first 0) (around.note first world) hworking
        hflight hreceivers
      rw [tally_tally, Surroundings.note_note] at hrest
      refine ⟨first ++ new, world', by rw [List.map_append, hfirst, hnew], ?_⟩
      rw [if_neg Bool.false_ne_true, StateT.run_bind, hout]
      exact hrest

/-- The worker takes all reports off the queue. -/
lemma run_drain {receivers : Parcel → List τ} (l : DeliveryLoop τ) (around : Surroundings τ σ)
    (hworking : l.working = true) (hflight : l.inFlight = [])
    (hreceivers : ∀ parcel,
      (l.targets parcel.topic parcel.report.filter).filter (· ∉ around.gone) = receivers parcel) :
    ∃ new world, new.map Handover.handed = handoversDue receivers l.queue ∧
      (l.drain Surroundings.live (Surroundings.hand reception)).run around =
        ({ l.tally new (unreceived receivers l.queue) with queue := [] },
          around.note new world) := by
  have hrun : (l.drain Surroundings.live (Surroundings.hand reception)).run around =
      (takeOff Surroundings.live (Surroundings.hand reception) l.queue l).run around := by
    rw [drain, if_pos hworking, hflight, handOut, ← hflight]
    rfl
  rw [hrun]
  exact run_takeOff reception l.queue l around hworking hflight hreceivers

end DeliveryLoop

end EmbeddedFilters
