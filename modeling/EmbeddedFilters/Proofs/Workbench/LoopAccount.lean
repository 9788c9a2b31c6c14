import EmbeddedFilters.Proofs.Workbench.Commands
import EmbeddedFilters.Proofs.Workbench.LoopUse

/-!
# The account of the users of loops

In every reachable workbench a loop counts the tags that request it and the sensors that hold it,
and runs exactly while there are any (`LoopUse.Accounted`). Every command settles its part of that
account, and takes from no sensor the loop that it holds (`Command.settles_act`).
-/

namespace EmbeddedFilters

/-! ### The account of users -/

namespace LoopUse

/-- The number of tags that request a loop and of sensors that hold it. -/
def users (u : LoopUse) (n : Nat) : Nat :=
  u.requests.count (· = n) + u.sensors.members.count (·.loop? = some n)

/-- What a loop counts that has a number of users. -/
def countOf (users : Nat) : Nat × Bool := (users, decide (0 < users))

/-- Every loop counts its users and runs while it has any, and who uses a loop uses one that is
there. Loops that are `pending` are counted for a user more that has not been written down yet. -/
structure Accounted (u : LoopUse) (pending : List Nat) : Prop where
  counted : ∀ n c, u.counted n = some c → c = countOf (u.users n + pending.count n)
  absent : ∀ n, u.counted n = none → u.users n + pending.count n = 0
  fresh : ∀ n, u.next ≤ n → u.counted n = none
  named : ∀ name n, u.named.get? name = some n → (u.counted n).isSome
  sensors : ∀ k s, u.sensors.get? k = some s → k < u.sensors.next
  distinctRequests : u.requests.Distinct
  distinctSensors : u.sensors.members.Distinct

/-- A sensor uses the loop that it holds. -/
lemma countP_sensor (s : Sensor) (n : Nat) :
    [s].countP (·.loop? = some n) = s.loop?.toList.count n := by
  rw [List.countP_singleton]
  cases s.loop? with
  | none => simp
  | some m => simp [List.count_singleton]

/-- A number is requested as often as it stands in a list. -/
lemma countP_request (l : List Nat) (n : Nat) : l.countP (· = n) = l.count n := rfl

/-- Pending users are counted one by one. -/
lemma count_pending (n : Nat) (pending : List Nat) (m : Nat) :
    (n :: pending).count m = [n].count m + pending.count m := by
  rw [← List.singleton_append, List.count_append]

namespace Accounted

variable {u : LoopUse} {pending : List Nat} {n : Nat}

/-- An account stays in order if as many users are expected as before. -/
lemma of_expected {v : LoopUse} {pending' : List Nat} (h : u.Accounted pending)
    (hexpected : ∀ m, v.users m + pending'.count m = u.users m + pending.count m)
    (hcounted : v.counted = u.counted) (hnext : v.next = u.next) (hnamed : v.named = u.named)
    (hsensors : ∀ k s, v.sensors.get? k = some s → k < v.sensors.next)
    (hdistinctRequests : v.requests.Distinct) (hdistinctSensors : v.sensors.members.Distinct) :
    v.Accounted pending' where
  counted m c hc := by
    rw [hexpected]
    exact h.counted m c (hcounted ▸ hc)
  absent m hm := by
    rw [hexpected]
    exact h.absent m (hcounted ▸ hm)
  fresh m hm := by
    rw [hcounted]
    exact h.fresh m (hnext ▸ hm)
  named name m hm := by
    rw [hcounted]
    exact h.named name m (hnamed ▸ hm)
  sensors := hsensors
  distinctRequests := hdistinctRequests
  distinctSensors := hdistinctSensors

/-- A tag requests the loop from now on, and no longer the one that it has requested before. -/
lemma request (h : u.Accounted (n :: pending)) (tag : String) :
    ({ u with requests := u.requests.put tag n } : LoopUse).Accounted
      ((u.requests.get? tag).toList ++ pending) := by
  refine h.of_expected (fun m => ?_) rfl rfl rfl h.sensors (h.distinctRequests.put tag n)
    h.distinctSensors
  have hput := u.requests.count_put tag n (· = m)
  rw [countP_request, countP_request] at hput
  rw [List.count_append, count_pending, users, users]
  dsimp only
  omega

/-- A tag no longer requests its loop. -/
lemma withdraw (h : u.Accounted pending) {tag : String} (htag : u.requests.get? tag = some n) :
    ({ u with requests := u.requests.erase tag } : LoopUse).Accounted (n :: pending) := by
  refine h.of_expected (fun m => ?_) rfl rfl rfl h.sensors (h.distinctRequests.erase tag)
    h.distinctSensors
  have herase := h.distinctRequests.count_erase tag (· = m)
  rw [htag, Option.toList_some, countP_request] at herase
  rw [count_pending, users, users]
  dsimp only
  omega

/-- What is in the place of a sensor has a number that has been given out. -/
lemma lt_of_put (h : u.Accounted pending) {k : Nat} {s s' : Sensor}
    (hs : u.sensors.get? k = some s) (j : Nat) (x : Sensor)
    (hx : (u.sensors.put k s').get? j = some x) : j < u.sensors.next := by
  rw [Pool.get?_put] at hx
  split at hx
  · rename_i heq
    exact heq ▸ h.sensors k s hs
  · exact h.sensors j x hx

/-- A sensor holds the loop from now on. -/
lemma hold (h : u.Accounted (n :: pending)) {k : Nat} {s : Sensor}
    (hs : u.sensors.get? k = some s) (hfree : s.loop? = none) :
    ({ u with sensors := u.sensors.put k { s with loop? := some n } } : LoopUse).Accounted
      pending := by
  refine h.of_expected (fun m => ?_) rfl rfl rfl (h.lt_of_put hs) h.distinctRequests
    (h.distinctSensors.put k _)
  have hput := u.sensors.members.count_put k { s with loop? := some n } (·.loop? = some m)
  have hget : u.sensors.members.get? k = some s := hs
  rw [hget, Option.toList_some, countP_sensor, countP_sensor, hfree] at hput
  rw [count_pending, users, users]
  show u.requests.count _ + (u.sensors.members.put k _).count _ + _ = _
  simp only [Option.toList_none, Option.toList_some, List.count_nil] at hput
  omega

/-- A sensor is no longer there. -/
lemma leave (h : u.Accounted pending) {k : Nat} {s : Sensor} (hs : u.sensors.get? k = some s) :
    ({ u with sensors := u.sensors.erase k } : LoopUse).Accounted (s.loop?.toList ++ pending) := by
  refine h.of_expected (fun m => ?_) rfl rfl rfl (fun j x hx => ?_) h.distinctRequests
    (h.distinctSensors.erase k)
  · have herase := h.distinctSensors.count_erase k (·.loop? = some m)
    have hget : u.sensors.members.get? k = some s := hs
    rw [hget, Option.toList_some, countP_sensor] at herase
    rw [List.count_append, users, users]
    show u.requests.count _ + (u.sensors.members.erase k).count _ + _ = _
    omega
  · have hx : (u.sensors.members.erase k).get? j = some x := hx
    rw [Table.get?_erase] at hx
    split at hx
    · cases hx
    · exact h.sensors j x hx

/-- A sensor that holds no loop is added. -/
lemma add (h : u.Accounted pending) {s : Sensor} (hfree : s.loop? = none) :
    ({ u with sensors := (u.sensors.add s).2 } : LoopUse).Accounted pending := by
  have hnew : u.sensors.members.get? u.sensors.next = none := by
    cases hget : u.sensors.members.get? u.sensors.next with
    | none => rfl
    | some x => exact absurd (h.sensors _ x hget) (Nat.lt_irrefl _)
  refine h.of_expected (fun m => ?_) rfl rfl rfl (fun j x hx => ?_) h.distinctRequests
    (h.distinctSensors.put _ s)
  · have hput := u.sensors.members.count_put u.sensors.next s (·.loop? = some m)
    rw [hnew, countP_sensor, hfree] at hput
    rw [users, users]
    show u.requests.count _ + (u.sensors.members.put u.sensors.next s).count _ + _ = _
    simp only [Option.toList_none, List.count_nil, List.countP_nil] at hput
    omega
  · have hx : (u.sensors.add s).2.get? j = some x := hx
    rw [Pool.get?_add] at hx
    show j < u.sensors.next + 1
    split at hx
    · omega
    · exact Nat.lt_succ_of_lt (h.sensors j x hx)

end Accounted

/-- What is there later of the sensors that are there now: each that is left still holds the loop
that it holds. -/
structure Keeps (u v : LoopUse) : Prop where
  next : u.sensors.next ≤ v.sensors.next
  held : ∀ k, k < u.sensors.next → ∀ s', v.sensors.get? k = some s' →
    ∃ s, u.sensors.get? k = some s ∧ ∀ n, s.loop? = some n → s'.loop? = some n

/-- Where sensors are what they were they hold what they held. -/
lemma Keeps.of_eq {u v : LoopUse} (h : v.sensors = u.sensors) : u.Keeps v := by
  refine ⟨le_of_eq (congrArg Pool.next h.symm), fun _ _ s hs => ⟨s, h ▸ hs, fun _ hn => hn⟩⟩

/-- What is kept twice is kept. -/
lemma Keeps.trans {u v x : LoopUse} (h : u.Keeps v) (h' : v.Keeps x) : u.Keeps x := by
  refine ⟨h.next.trans h'.next, fun k hk s'' hs'' => ?_⟩
  obtain ⟨s', hs', hheld'⟩ := h'.held k (Nat.lt_of_lt_of_le hk h.next) s'' hs''
  obtain ⟨s, hs, hheld⟩ := h.held k hk s' hs'
  exact ⟨s, hs, fun n hn => hheld' n (hheld n hn)⟩

end LoopUse

namespace DeliveryLoop

variable {τ : Type} {l : DeliveryLoop τ} {users : Nat}

/-- A loop that is requested counts one user more. -/
lemma use_acquire (h : l.use = LoopUse.countOf users) :
    l.acquire.use = LoopUse.countOf (users + 1) := by
  obtain ⟨hrequesters, hrunning⟩ := Prod.ext_iff.mp h
  have hrequesters : l.requesters = users := hrequesters
  have hrunning : l.running = decide (0 < users) := hrunning
  unfold acquire LoopUse.countOf use
  split
  · simp; omega
  · simp [hrunning, hrequesters]; omega

/-- A loop that is given up counts one user less. -/
lemma use_release (h : l.use = LoopUse.countOf users) :
    l.release.use = LoopUse.countOf (users - 1) := by
  obtain ⟨hrequesters, hrunning⟩ := Prod.ext_iff.mp h
  have hrequesters : l.requesters = users := hrequesters
  have hrunning : l.running = decide (0 < users) := hrunning
  unfold release LoopUse.countOf use
  simp only [hrunning, hrequesters, Prod.mk.injEq, true_and]
  rw [Bool.eq_iff_iff]
  simp only [Bool.and_eq_true, decide_eq_true_eq]
  omega

end DeliveryLoop

namespace Workbench

variable {w : Workbench} {pending pending' : List Nat} {n : Nat}

open LoopUse (countOf)

/-- A loop is changed, and what it is to count with it. -/
lemma accounted_modify (h : w.loopUse.Accounted pending)
    {change : DeliveryLoop Target → DeliveryLoop Target}
    (hothers : ∀ m, m ≠ n → pending'.count m = pending.count m)
    (hthere : (w.loopUse.counted n).isSome)
    (hchange : ∀ l, l.use = countOf (w.loopUse.users n + pending.count n) →
      (change l).use = countOf (w.loopUse.users n + pending'.count n)) :
    ({ w with loops := w.loops.modify n change } : Workbench).loopUse.Accounted pending' := by
  have hcounted : ∀ m, ((w.loops.modify n change).get? m).map DeliveryLoop.use =
      if m = n then (w.loops.get? m).map (fun l => (change l).use) else w.loopUse.counted m := by
    intro m
    rw [Pool.get?_modify]
    split
    · rw [Option.map_map]
      rfl
    · rfl
  have hnone : ∀ m, ((w.loops.modify n change).get? m).map DeliveryLoop.use = none ↔
      w.loopUse.counted m = none := by
    intro m
    rw [hcounted]
    split
    · exact Option.map_eq_none_iff.trans Option.map_eq_none_iff.symm
    · exact Iff.rfl
  refine ⟨fun m c hc => ?_, fun m hm => ?_, fun m hm => (hnone m).mpr (h.fresh m hm),
    fun name m hm => ?_, h.sensors, h.distinctRequests, h.distinctSensors⟩
  · have hafter := (hcounted m).symm.trans hc
    show c = countOf (w.loopUse.users m + _)
    split at hafter
    · rename_i heq
      subst heq
      obtain ⟨l, hl, rfl⟩ := Option.map_eq_some_iff.mp hafter
      have hbefore : w.loopUse.counted m = some l.use := congrArg (Option.map DeliveryLoop.use) hl
      exact hchange l (h.counted m _ hbefore)
    · rename_i hne
      rw [hothers m hne]
      exact h.counted m c hafter
  · have hbefore := (hnone m).mp hm
    have hne : m ≠ n := by
      rintro rfl
      rw [hbefore] at hthere
      cases hthere
    rw [hothers m hne]
    exact h.absent m hbefore
  · have hbefore := h.named name m hm
    rw [Option.isSome_iff_ne_none] at hbefore ⊢
    exact fun hno => hbefore ((hnone m).mp hno)

/-- A loop that is requested once more. -/
lemma accounted_acquire (h : w.loopUse.Accounted pending) (hthere : (w.loopUse.counted n).isSome) :
    ({ w with loops := w.loops.modify n DeliveryLoop.acquire } : Workbench).loopUse.Accounted
      (n :: pending) := by
  refine accounted_modify h (fun m hne => List.count_cons_of_ne (Ne.symm hne)) hthere fun l hl => ?_
  rw [List.count_cons_self]
  exact DeliveryLoop.use_acquire hl

/-- A loop that is released. -/
lemma accounted_release (h : w.loopUse.Accounted (n :: pending)) :
    ({ w with loops := w.loops.modify n DeliveryLoop.release } : Workbench).loopUse.Accounted
      pending := by
  have hthere : (w.loopUse.counted n).isSome := by
    refine Option.isSome_iff_ne_none.mpr fun hno => ?_
    have habsent := h.absent n hno
    rw [List.count_cons_self] at habsent
    omega
  refine accounted_modify h
    (fun m hne => (List.count_cons_of_ne (Ne.symm hne)).symm) hthere fun l hl => ?_
  rw [List.count_cons_self] at hl
  exact DeliveryLoop.use_release hl

/-- The account of users stays in order, and sensors keep the loops that they hold. -/
def Settles (w w' : Workbench) : Prop :=
  w.loopUse.Accounted [] → w'.loopUse.Accounted [] ∧ w.loopUse.Keeps w'.loopUse

/-- What settles an account may go on. -/
instance : Bench.Course Settles where
  refl w hw := ⟨hw, .of_eq rfl⟩
  trans h h' hu := by
    obtain ⟨hv, huv⟩ := h hu
    obtain ⟨hw, hvw⟩ := h' hv
    exact ⟨hw, huv.trans hvw⟩

/-- Where loops are used as they were their account stays in order. -/
lemma LeavesUse.settles {w' : Workbench} (h : w.LeavesUse w') : w.Settles w' := by
  intro hw
  have h : w'.loopUse = w.loopUse := h
  rw [h]
  exact ⟨hw, .of_eq rfl⟩

end Workbench

namespace Bench

open Workbench (LeavesUse Settles)

variable {α : Type} {w : Workbench}

/-- An operation that leaves the use of loops keeps their account in order. -/
lemma Within.settles {x : Bench α} (h : Within LeavesUse x w) : Within Settles x w :=
  Workbench.LeavesUse.settles h

/-- Placing a loop keeps the account of users in order. -/
lemma settles_placeLoop (name : String) (config : LinkConfig) :
    Within Settles (placeLoop name config) w := by
  intro hw
  have hnew := hw.absent _ (hw.fresh w.loops.next le_rfl)
  have hcounted : ∀ m, ((w.loops.add (.ofConfig config)).2.get? m).map DeliveryLoop.use =
      if m = w.loops.next then some (LoopUse.countOf 0) else w.loopUse.counted m := by
    intro m
    rw [Pool.get?_add]
    split <;> rfl
  refine ⟨⟨fun m c hc => ?_, fun m hm => ?_, fun m hm => ?_, fun other m hm => ?_, hw.sensors,
    hw.distinctRequests, hw.distinctSensors⟩, .of_eq rfl⟩
  · have hafter := (hcounted m).symm.trans hc
    show c = LoopUse.countOf (w.loopUse.users m + _)
    split at hafter
    · rename_i heq
      rw [heq, hnew]
      exact (Option.some.inj hafter).symm
    · exact hw.counted m c hafter
  · have hafter := (hcounted m).symm.trans hm
    split at hafter
    · cases hafter
    · exact hw.absent m hafter
  · have hm : w.loops.next + 1 ≤ m := hm
    show ((w.loops.add (.ofConfig config)).2.get? m).map DeliveryLoop.use = none
    rw [hcounted, if_neg (by omega)]
    exact hw.fresh m (Nat.le_of_succ_le hm)
  · have hm : (w.names.loops.put name w.loops.next).get? other = some m := hm
    show (((w.loops.add (.ofConfig config)).2.get? m).map DeliveryLoop.use).isSome
    rw [hcounted]
    split
    · rfl
    · rename_i hne
      rw [Table.get?_put] at hm
      split at hm
      · exact absurd (Option.some.inj hm).symm hne
      · exact hw.named other m hm

/-- The loop that is still counted for somebody is released. -/
lemma accounted_forM_release {o : Option Nat} (h : w.loopUse.Accounted (o.toList ++ [])) :
    ((o.forM fun n => changeLoop n DeliveryLoop.release).exec w).2.loopUse.Accounted [] ∧
      ((o.forM fun n => changeLoop n DeliveryLoop.release).exec w).2.sensors = w.sensors := by
  cases o with
  | none => exact ⟨h, rfl⟩
  | some n => exact ⟨Workbench.accounted_release h, rfl⟩

/-- Requesting a loop keeps the account of users in order. -/
lemma settles_acquireLoop (name tag : String) : Within Settles (acquireLoop name tag) w := by
  refine Within.bind_reads (reads_loopNumber name) fun n hn hw => ?_
  obtain ⟨-, hname⟩ := of_lookup (fun w => w.names.loops.get? name) hn
  let v : Workbench := { w with
    loops := w.loops.modify n DeliveryLoop.acquire
    names := { w.names with requests := w.names.requests.put tag n } }
  have hv : v.loopUse.Accounted ((w.names.requests.get? tag).toList ++ []) :=
    (Workbench.accounted_acquire hw (hw.named name n hname)).request tag
  obtain ⟨haccounted, hsensors⟩ := accounted_forM_release hv
  exact ⟨haccounted, .of_eq hsensors⟩

/-- Giving up a loop keeps the account of users in order. -/
lemma settles_releaseLoop (tag : String) : Within Settles (releaseLoop tag) w := by
  refine Within.bind_reads Reads.get fun seen hseen => ?_
  cases hseen
  refine Within.bind_reads (Reads.found _ _) fun n hn hw => ?_
  have htag : w.names.requests.get? tag = some n := by
    cases hget : w.names.requests.get? tag with
    | none =>
      rw [hget] at hn
      cases hn
    | some m =>
      rw [hget] at hn
      cases hn
      rfl
  let v : Workbench := { w with names := { w.names with requests := w.names.requests.erase tag } }
  have hv : v.loopUse.Accounted [n] := hw.withdraw htag
  exact ⟨Workbench.accounted_release hv, .of_eq rfl⟩

/-- The end of a sensor keeps the account of users in order. -/
lemma settles_endSensor (n : Nat) : Within Settles (endSensor n) w := by
  refine Within.bind_reads (reads_sensorAt n) fun s hs => ?_
  obtain ⟨-, hs⟩ := of_lookup (fun w => w.sensors.get? n) hs
  have hdestroys : Within LeavesUse (s.slots.forM fun slot => destroy slot.filter) w :=
    Within.forM fun slot _ _ => leaves_destroy slot.filter
  refine Within.bind hdestroys.settles fun _ v hout hv => ?_
  rw [Within, hout] at hdestroys
  have hs : v.sensors.get? n = some s := (congrArg (fun u => u.sensors.get? n) hdestroys).trans hs
  -- it makes no difference whether the loop is released before the sensor goes
  let x : Workbench := { v with sensors := v.sensors.erase n }
  have hx : x.loopUse.Accounted (s.loop?.toList ++ []) := hv.leave hs
  have hfinal : ((do
      s.loop?.forM fun l => changeLoop l DeliveryLoop.release
      modify fun w => { w with sensors := w.sensors.erase n } : Bench Unit).exec v).2 =
        ((s.loop?.forM fun l => changeLoop l DeliveryLoop.release).exec x).2 := by
    cases s.loop? <;> rfl
  obtain ⟨haccounted, hsensors⟩ := accounted_forM_release hx
  rw [← hfinal] at haccounted hsensors
  have hkeeps : v.loopUse.Keeps x.loopUse := by
    refine ⟨le_rfl, fun k _ s' hs' => ?_⟩
    have hs' : (v.sensors.members.erase n).get? k = some s' := hs'
    rw [Table.get?_erase] at hs'
    split at hs'
    · cases hs'
    · exact ⟨s', hs', fun _ h => h⟩
  exact ⟨haccounted, hkeeps.trans (.of_eq hsensors)⟩

/-- Dropping a name of a sensor keeps the account of users in order. -/
lemma settles_dropSensor (name : String) : Within Settles (dropSensor name) w := by
  refine Within.bind_reads (reads_sensorNumber name) fun n _ => ?_
  exact Within.bind (Workbench.LeavesUse.settles rfl) fun _ _ _ => settles_endSensor n

/-- If all of some filters have been subscribed to a loop, it is there. -/
lemma there_of_subscribes {list : List Nat} (hlist : list ≠ []) {l : Nat} {topic : String}
    {v : Workbench} (h : (list.forM fun f => subscribe f l topic).exec w = (.ok (), v)) :
    (w.loopUse.counted l).isSome := by
  cases list with
  | nil => exact absurd rfl hlist
  | cons f rest =>
    obtain ⟨_, _, hfirst, -⟩ := exec_bind_eq_ok.mp h
    obtain ⟨-, d, -, hd, -⟩ := of_subscribe hfirst
    exact Option.isSome_iff_exists.mpr ⟨d.use, congrArg (Option.map DeliveryLoop.use) hd⟩

/-- Attaching a sensor keeps the account of users in order. -/
lemma settles_attachSensor (n l : Nat) : Within Settles (attachSensor n l) w := by
  refine Within.bind_reads (reads_sensorAt n) fun s hs => ?_
  obtain ⟨-, hs⟩ := of_lookup (fun w => w.sensors.get? n) hs
  have hsubscribes := leaves_subscribeAll (w := w) (remoteSlots s) l s.config.notificationTopic
  refine Within.bind hsubscribes.settles fun _ v hout => ?_
  rw [Within, hout] at hsubscribes
  have hs : v.sensors.get? n = some s := (congrArg (fun u => u.sensors.get? n) hsubscribes).trans hs
  split
  · rename_i hfirst
    obtain ⟨hremote, hfree⟩ := Bool.and_eq_true_iff.mp hfirst
    have hfree : s.loop? = none := Option.isNone_iff_eq_none.mp hfree
    have hthere : (v.loopUse.counted l).isSome := by
      have hsame : v.loopUse.counted l = w.loopUse.counted l :=
        congrArg (fun u => u.counted l) hsubscribes
      rw [hsame]
      exact there_of_subscribes (by simpa using hremote) hout
    intro hv
    refine ⟨(Workbench.accounted_acquire hv hthere).hold hs hfree, le_rfl, fun k _ s' hs' => ?_⟩
    have hs' : (v.sensors.put n { s with loop? := some l }).get? k = some s' := hs'
    rw [Pool.get?_put] at hs'
    split at hs'
    · rename_i heq
      refine ⟨s, heq ▸ hs, fun m hm => ?_⟩
      rw [hfree] at hm
      cases hm
    · exact ⟨s', hs', fun _ h => h⟩
  · exact Within.pure _

/-- Building a sensor keeps the account of users in order. -/
lemma settles_buildSensor (name title : String) (config : LinkConfig)
    (sources : List AdvertisementSource) (link? loop? : Option String) :
    Within Settles (buildSensor name title config sources link? loop?) w := by
  refine Within.bind_reads (Reads.mapM reads_advertisement) fun list _ => ?_
  refine Within.bind_reads (Reads.optionMapM reads_linkNumber) fun l? _ => ?_
  refine Within.bind_reads (Reads.optionMapM reads_loopNumber) fun loop? _ => ?_
  refine Within.bind_reads (Reads.ofConfig _) fun _ _ => Within.bind_ofFilter fun filters _ => ?_
  refine Within.bind (Within.mapM fun f _ v => ?_) fun slots v _ => ?_
  · exact Within.bind (Workbench.LeavesUse.settles rfl) fun _ _ _ => Within.pure _
  refine Within.bind (fun hv => ⟨hv.add rfl, Nat.le_succ _, fun k hk s' hs' => ?_⟩) fun n _ _ => ?_
  · have hs' : (v.sensors.add _).2.get? k = some s' := hs'
    have hne : k ≠ v.sensors.next := Nat.ne_of_lt hk
    rw [Pool.get?_add, if_neg hne] at hs'
    exact ⟨s', hs', fun _ h => h⟩
  refine Within.bind (Within.optionForM fun l _ => (steady_wireSensor _ _).1.settles) fun _ _ _ =>
    ?_
  refine Within.bind (Within.optionForM fun l _ => settles_attachSensor _ _) fun _ _ _ => ?_
  refine Within.bind_reads Reads.get fun _ _ => ?_
  refine Within.bind (Workbench.LeavesUse.settles rfl) fun _ _ _ => ?_
  refine Within.bind (Within.optionForM fun _ _ => settles_endSensor _) fun _ _ _ => ?_
  exact Within.pure _

end Bench

namespace Command

open Bench

variable {w : Workbench}

/-- Does the command have users of loops come or go? -/
def changesUsers : Command → Bool
  | .placeLoop .. | .acquireLoop .. | .releaseLoop .. => true
  | .buildSensor .. | .attachSensor .. | .dropSensor .. => true
  | _ => false

/-- Does the command have users of loops come or go, or routes? -/
def changesRegister : Command → Bool
  | .placeOffline .. | .placeRemote .. | .placeDeclared .. => true
  | .nameSensorFilter .. | .dropFilter .. => true
  | .subscribe .. | .destroy .. | .routeToSink .. | .dropNamedRoute .. => true
  | c => c.changesUsers

/-- Loops are steady under all other commands. -/
lemma steady_act {c : Command} (hc : c.changesRegister = false) :
    Within Workbench.Steady c.act w := by
  cases c with
  | placeLoop | acquireLoop | releaseLoop | buildSensor | attachSensor | dropSensor => cases hc
  | placeOffline | placeRemote | placeDeclared | nameSensorFilter | dropFilter => cases hc
  | subscribe | destroy | routeToSink | dropNamedRoute => cases hc
  | populate => exact steady_populate _
  | allowOption => exact steady_allowOption _ _ _
  | wire => exact steady_wire _ _
  | writeOption => exact Within.named fun n => steady_writeOption n _ _
  | enable => exact Within.named fun n => steady_writeOption n _ _
  | writeTemporal => exact Within.ignored (steady_writeTemporal _ _ _)
  | writeBytes => exact Within.named fun n => steady_writeBytes n _
  | refresh => exact Within.named fun n => Within.ignored (steady_refresh n)
  | notify => exact Within.named fun n => Within.ignored (steady_notify n _)
  | onChange => exact steady_keepWatch _ _ _ _ _
  | watch => exact steady_watch _ _ _
  | nextValue => exact Within.ignored (steady_nextValue _)
  | cancel => exact steady_cancel _
  | newStore => exact ⟨rfl, rfl⟩
  | changeStore => exact steady_changeStore _ _ _
  | save =>
    exact Within.ignored (Within.named fun n => steady_saveFilter n _ _ _)
  | restore => exact Within.ignored (steady_restoreNamed _ _ _ _)
  | newRecord => exact ⟨rfl, rfl⟩
  | recordText => exact Within.ignored (steady_recordText _ _)
  | recordSource => exact Within.ignored (steady_recordSource _ _)
  | stateName => exact steady_changeRecord _ _
  | stateKind => exact steady_changeRecord _ _
  | declareText => exact steady_declareText _ _
  | declareOptions => exact steady_changeRecord _ _
  | streamText => exact steady_streamText _ _
  | replaceValues => exact Within.ignored (steady_replaceValues _ _)
  | placeProxy => exact Within.ignored (steady_placeProxy _ _ _ _)
  | wireProxy => exact steady_wireProxy _ _
  | proxySetOption => exact steady_proxySetOption _ _ _
  | proxyApply => exact steady_proxyApply _ _
  | proxyRefresh => exact Within.ignored (steady_proxyRefresh _)
  | proxyNotify => exact Within.ignored (steady_proxyNotify _ _)
  | placeDevice => exact ⟨rfl, rfl⟩
  | advertise => exact Within.ignored (steady_advertise _ _ _ _)
  | keepAdvertisement => exact ⟨rfl, rfl⟩
  | connectDevice => exact steady_connectDevice _ _
  | setConnected name on => exact steady_changeDevice name fun d => { d with connected := on }
  | setRejection name reason? =>
    exact steady_changeDevice name fun d => { d with rejection? := reason? }
  | push => exact steady_push _ _ _
  | sendToDevice => exact steady_sendToDevice _ _ _
  | queryDevice => exact Within.ignored (steady_queryDevice _ _ _)
  | placeScript => exact ⟨rfl, rfl⟩
  | lookAtScript => exact Within.ignored (steady_lookAtScript _)
  | dropSink => exact steady_dropSink _
  | openSink => exact steady_openSink _
  | publish => exact steady_publish _ _ _ _
  | deliver => exact steady_deliver _ _ _
  | wireSensor =>
    refine Within.bind_reads (reads_sensorNumber _) fun _ _ => ?_
    exact Within.bind_reads (reads_linkNumber _) fun _ _ => steady_wireSensor _ _
  | writeSensorBytes => exact steady_writeSensorBytes _ _ _
  | refreshSensor => exact Within.ignored (steady_refreshSensor _)
  | saveSensor => exact Within.ignored (steady_saveSensor _ _)
  | restoreSensor => exact steady_restoreSensor _ _

/-- A command that has no users come or go leaves the use of loops. -/
lemma leaves_act {c : Command} (hc : c.changesUsers = false) :
    Within Workbench.LeavesUse c.act w := by
  cases hregister : c.changesRegister with
  | false => exact (steady_act hregister).1
  | true =>
    cases c with
    | placeOffline => exact Within.ignored (leaves_placeOffline _ _ _ _)
    | placeRemote => exact Within.ignored (leaves_placeRemote _ _ _ _)
    | placeDeclared => exact Within.ignored (leaves_placeDeclared _ _ _ _)
    | nameSensorFilter => exact Within.ignored (leaves_nameSensorFilter _ _ _)
    | dropFilter => exact leaves_dropFilter _
    | subscribe => exact leaves_subscribeNamed _ _ _
    | destroy => exact Within.named fun n => leaves_destroy n
    | routeToSink => exact leaves_routeToSink _ _ _ _ _ _ _
    | dropNamedRoute => exact leaves_dropNamedRoute _
    | _ => cases hregister <;> cases hc

/-- Every command settles its part of the account. -/
lemma settles_act (c : Command) : Within Workbench.Settles c.act w := by
  cases hc : c.changesUsers with
  | false => exact (leaves_act hc).settles
  | true =>
    cases c with
    | placeLoop => exact settles_placeLoop _ _
    | acquireLoop => exact settles_acquireLoop _ _
    | releaseLoop => exact settles_releaseLoop _
    | buildSensor => exact Within.ignored (settles_buildSensor _ _ _ _ _ _)
    | attachSensor =>
      refine Within.bind_reads (reads_sensorNumber _) fun _ _ => ?_
      exact Within.bind_reads (reads_loopNumber _) fun _ _ => settles_attachSensor _ _
    | dropSensor => exact settles_dropSensor _
    | _ => cases hc

end Command

namespace Workbench

variable {w : Workbench}

/-- Loops come to rest after an operation without any change of who uses them, or of their
routes. -/
lemma steady_rest {α : Type} (act : Bench α) (leave : Bool) :
    (act.exec w).2.Steady (w.step act leave).2.2 := by
  have hsettle : (act.exec w).2.Steady (Bench.settle.exec (act.exec w).2).2 := Bench.steady_settle
  rw [step_state]
  exact hsettle

/-- What follows an operation in its step leaves the use of loops. -/
lemma leavesUse_rest {α : Type} (act : Bench α) (leave : Bool) :
    (act.exec w).2.LeavesUse (w.step act leave).2.2 := (steady_rest act leave).1

/-- A step keeps the account of users in order. -/
lemma settles_step (c : Command) (leave : Bool) : w.Settles (w.step c.act leave).2.2 :=
  Bench.Course.trans c.settles_act (leavesUse_rest c.act leave).settles

/-- Any commands keep the account of users in order. -/
lemma settles_run (commands : List (Command × Bool)) : w.Settles (w.run commands) := by
  induction commands generalizing w with
  | nil => exact Bench.Course.refl w
  | cons c commands ih =>
    obtain ⟨c, leave⟩ := c
    exact Bench.Course.trans (settles_step c leave) ih

/-- Nobody uses a loop, and there is none. -/
lemma accounted_start : ({} : Workbench).loopUse.Accounted [] where
  counted _ _ h := by cases h
  absent _ _ := rfl
  fresh _ _ := rfl
  named _ _ h := by cases h
  sensors _ _ h := by cases h
  distinctRequests := List.nodup_nil
  distinctSensors := List.nodup_nil

/-- The account of users is in order in every reachable workbench. -/
lemma Reachable.accounted (h : w.Reachable) : w.loopUse.Accounted [] := by
  induction h with
  | start => exact accounted_start
  | step c leave _ ih => exact (settles_step c leave ih).1

/-- A loop of a reachable workbench counts those who use it, and runs while there are any. -/
lemma Reachable.counts_users (h : w.Reachable) {l : Nat} {d : DeliveryLoop Target}
    (hd : w.loops.get? l = some d) :
    d.requesters = w.loopUse.users l ∧ d.running = decide (0 < d.requesters) := by
  have huse := h.accounted.counted l d.use (congrArg (Option.map DeliveryLoop.use) hd)
  obtain ⟨hrequesters, hrunning⟩ := Prod.ext_iff.mp huse
  have hrequesters : d.requesters = w.loopUse.users l := hrequesters
  have hrunning : d.running = decide (0 < w.loopUse.users l) := hrunning
  exact ⟨hrequesters, hrequesters ▸ hrunning⟩

end Workbench

end EmbeddedFilters
