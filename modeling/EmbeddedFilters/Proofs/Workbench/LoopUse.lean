import EmbeddedFilters.Proofs.Workbench.Subscribing

/-!
# What leaves loops alone

A loop is used by the tags that request it and by the sensors that hold it, and counts its users
itself (`Workbench.loopUse`); and it delivers reports along its routes (`Workbench.routeBook`). Most
operations leave both as they are (`Workbench.Steady`). Those that only subscribe filters, tear
filters down or route reports to sinks still leave the use of loops (`Workbench.LeavesUse`). The
lemma of each is named after it. Left out are the operations that have users come and go.
-/

namespace EmbeddedFilters

namespace DeliveryLoop

variable {τ : Type}

/-- The users that a loop has counted, and whether it runs. -/
def use (l : DeliveryLoop τ) : Nat × Bool := (l.requesters, l.running)

/-- What of a loop changes only with its users and its routes. -/
def register (l : DeliveryLoop τ) : (Nat × Bool) × List (RouteEntry τ) × Nat :=
  (l.use, l.routes, l.nextToken)

/-- A loop with the same register is used as before. -/
lemma use_of_register {l l' : DeliveryLoop τ} (h : l'.register = l.register) : l'.use = l.use :=
  congrArg Prod.fst h

end DeliveryLoop

/-- Which tags request loops, which sensors hold them, and what the loops have counted. -/
structure LoopUse where
  requests : Table String Nat
  sensors : Pool Sensor
  named : Table String Nat
  counted : Nat → Option (Nat × Bool)
  next : Nat

namespace Workbench

/-- How the loops of a workbench are used. -/
def loopUse (w : Workbench) : LoopUse where
  requests := w.names.requests
  sensors := w.sensors
  named := w.names.loops
  counted n := (w.loops.get? n).map DeliveryLoop.use
  next := w.loops.next

/-- Loops are used as they were. -/
def LeavesUse (w w' : Workbench) : Prop := w'.loopUse = w.loopUse

/-- Loops are steady: they are used as they were, and deliver along the same routes. -/
def Steady (w w' : Workbench) : Prop := w.LeavesUse w' ∧ w'.routeBook = w.routeBook

/-- What leaves the use of loops may be done again and again. -/
instance : Bench.Course LeavesUse where
  refl _ := rfl
  trans h h' := h'.trans h

/-- Loops may be steady for some time and for some more. -/
instance : Bench.Course Steady where
  refl _ := ⟨rfl, rfl⟩
  trans h h' := ⟨h'.1.trans h.1, h'.2.trans h.2⟩

variable {w : Workbench}

/-- A change to a loop that leaves how it is used leaves the use of all loops. -/
lemma leavesUse_modify {n : Nat} {change : DeliveryLoop Target → DeliveryLoop Target}
    (h : ∀ l, w.loops.get? n = some l → (change l).use = l.use) :
    w.LeavesUse { w with loops := w.loops.modify n change } := by
  have hcounted : ∀ m, ((w.loops.modify n change).get? m).map DeliveryLoop.use =
      (w.loops.get? m).map DeliveryLoop.use := by
    intro m
    rw [Pool.get?_modify]
    split
    · rename_i heq
      subst heq
      cases hget : w.loops.get? m with
      | none => rfl
      | some l => exact congrArg some (h l hget)
    · rfl
  show (LoopUse.mk _ _ _ _ _) = _
  exact congrArg (fun counted => LoopUse.mk _ _ _ counted _) (funext hcounted)

/-- A loop is changed in what is neither use nor route. -/
lemma steady_modify {n : Nat} {change : DeliveryLoop Target → DeliveryLoop Target}
    (h : ∀ l, w.loops.get? n = some l → (change l).register = l.register) :
    w.Steady { w with loops := w.loops.modify n change } := by
  refine ⟨leavesUse_modify fun l hl => DeliveryLoop.use_of_register (h l hl), ?_⟩
  exact routeBook_modify (fun l hl => congrArg (·.2.1) (h l hl)) fun l hl =>
    congrArg (·.2.2) (h l hl)

/-- A filter is put in the place of one with the same route. -/
lemma steady_put {n : Nat} {f g : Filter} (hget : w.filters.get? n = some f)
    (hroute : g.route? = f.route?) :
    w.Steady { w with filters := w.filters.put n g } := by
  refine ⟨rfl, ?_⟩
  have hheld : ∀ m, ((w.filters.put n g).get? m).bind Filter.route? =
      (w.filters.get? m).bind Filter.route? := by
    intro m
    rw [Pool.get?_put]
    split
    · rename_i heq
      rw [heq, hget]
      exact hroute
    · rfl
  exact congrArg (fun held => RouteBook.mk _ _ held _) (funext hheld)

/-- A loop that has been steady has the same users and routes. -/
lemma Steady.register {w' : Workbench} (h : w.Steady w') {n : Nat} {l l' : DeliveryLoop Target}
    (hl : w.loops.get? n = some l) (hl' : w'.loops.get? n = some l') :
    l'.register = l.register := by
  obtain ⟨huse, hbook⟩ := h
  have hcounted : (w'.loops.get? n).map DeliveryLoop.use = (w.loops.get? n).map DeliveryLoop.use :=
    congrFun (congrArg LoopUse.counted huse) n
  have hentries : (w'.loops.get? n).elim [] (·.routes) = (w.loops.get? n).elim [] (·.routes) :=
    congrFun (congrArg RouteBook.entries hbook) n
  have hnext : (w'.loops.get? n).elim 0 (·.nextToken) = (w.loops.get? n).elim 0 (·.nextToken) :=
    congrFun (congrArg RouteBook.next hbook) n
  rw [hl, hl'] at hcounted hentries hnext
  exact Prod.ext (Option.some.inj hcounted) (Prod.ext hentries hnext)

end Workbench

namespace Bench

open Workbench (LeavesUse Steady)

variable {α β : Type} {w : Workbench}

/-! ### Results -/

/-- Whatever the operation gives has a property. -/
def Gives (P : α → Prop) (x : Bench α) : Prop := ∀ w a w', x.exec w = (.ok a, w') → P a

/-- A value that has a property is given with it. -/
lemma Gives.pure {P : α → Prop} {a : α} (h : P a) : Gives P (Pure.pure a) := by
  intro w b w' hb
  cases hb
  exact h

/-- A chain gives a property if its second part does on all that the first one gives. -/
lemma Gives.bind_of {P : β → Prop} {Q : α → Prop} {x : Bench α} {f : α → Bench β} (hx : Gives Q x)
    (hf : ∀ a, Q a → Gives P (f a)) : Gives P (x >>= f) := by
  intro w b w' hb
  obtain ⟨a, v, ha, hb⟩ := exec_bind_eq_ok.mp hb
  exact hf a (hx w a v ha) v b w' hb

/-- A chain gives a property if its second part does on anything. -/
lemma Gives.bind {P : β → Prop} (x : Bench α) {f : α → Bench β} (hf : ∀ a, Gives P (f a)) :
    Gives P (x >>= f) :=
  .bind_of (Q := fun _ => True) (fun _ _ _ _ => trivial) fun a _ => hf a

/-- A loop has the same users and routes whatever it hands out. -/
lemma gives_handOut (pending : List (Target × List Assignment)) (l : DeliveryLoop Target) :
    Gives (fun l' => l'.register = l.register) (DeliveryLoop.handOut hand pending l) := by
  induction pending generalizing l with
  | nil => exact .pure rfl
  | cons first rest ih =>
    refine .bind _ fun outcome => ?_
    cases outcome with
    | waits => exact .pure rfl
    | accepted => exact ih _
    | refused => exact ih _
    | panicked => exact .pure rfl

/-- Taking reports off a queue leaves the register of a loop. -/
lemma gives_takeOff (parcels : List Parcel) (l : DeliveryLoop Target) :
    Gives (fun l' => l'.register = l.register) (DeliveryLoop.takeOff isLive hand parcels l) := by
  induction parcels generalizing l with
  | nil => exact .pure rfl
  | cons parcel rest ih =>
    unfold DeliveryLoop.takeOff
    split
    · refine .bind _ fun targets => ?_
      split
      · exact ih _
      · refine (gives_handOut _ l).bind_of fun l' hl' => ?_
        rw [← hl']
        exact ih l'
    · exact .pure rfl

/-- Draining a loop leaves its register. -/
lemma gives_drain (l : DeliveryLoop Target) :
    Gives (fun l' => l'.register = l.register) (l.drain isLive hand) := by
  unfold DeliveryLoop.drain
  split
  · refine (gives_handOut l.inFlight l).bind_of fun l' hl' => ?_
    rw [← hl']
    exact gives_takeOff _ l'
  · refine .bind_of (Q := fun l' => l'.register = l.register) (.pure rfl) fun l' hl' => ?_
    exact hl' ▸ gives_takeOff _ l'

/-- A loop has the same users and routes when its worker has made room. -/
lemma gives_await (published : Except LinkError Unit × DeliveryLoop Target) :
    Gives (fun out => out.2.register = published.2.register)
      (DeliveryLoop.await isLive hand published) := by
  obtain ⟨outcome, l⟩ := published
  cases outcome with
  | error e => exact .pure rfl
  | ok taken =>
    unfold DeliveryLoop.await
    dsimp only
    split
    · exact (gives_drain l).bind_of fun _ hl' => .pure hl'
    · exact .pure rfl

/-! ### Loops -/

/-- A chain that looks a loop up first keeps to a course if the rest does. -/
lemma Within.bind_loop {R : Workbench → Workbench → Prop} [Course R] {n : Nat}
    {f : DeliveryLoop Target → Bench α}
    (hf : ∀ l, w.loops.get? n = some l → Within R (f l) w) : Within R (loop n >>= f) w := by
  exact Within.bind_reads (reads_loop n) fun l hl => hf l (of_lookup (fun w => w.loops.get? n) hl).2

/-- A change to a loop that leaves how it is used leaves the use of loops. -/
lemma leaves_changeLoop {n : Nat} {change : DeliveryLoop Target → DeliveryLoop Target}
    (h : ∀ l, w.loops.get? n = some l → (change l).use = l.use) :
    Within LeavesUse (changeLoop n change) w := Workbench.leavesUse_modify h

/-- Dropping a route leaves the use of loops. -/
lemma leaves_dropRoute (r : Route) : Within LeavesUse (dropRoute r) w :=
  leaves_changeLoop fun _ _ => rfl

/-- Adding a route leaves the use of loops. -/
lemma leaves_addRoute (n : Nat) (topic filter : String) (target : Target) :
    Within LeavesUse (addRoute n topic filter target) w := by
  refine Within.bind_loop fun l hl => ?_
  refine Within.bind (leaves_changeLoop fun k hk => ?_) fun _ _ _ => Within.pure _
  rw [← Option.some.inj (hl.symm.trans hk)]
  rfl

/-! ### Filters -/

/-- Telling a value keeps loops steady. -/
lemma steady_tell (d : Delivery) : Within Steady (tell d) w := by
  obtain ⟨listener, id, value⟩ := d
  cases listener <;> exact ⟨rfl, rfl⟩

/-- Announcing changes of a filter that has its route keeps loops steady. -/
lemma steady_announce {n : Nat} {t : Told Filter} {f : Filter} (hget : w.filters.get? n = some f)
    (hroute : t.state.route? = f.route?) : Within Steady (announce n t) w := by
  refine Within.bind (Workbench.steady_put hget hroute) fun _ _ _ => ?_
  refine Within.bind (Within.forM fun d _ _ => steady_tell d) fun _ _ _ => ?_
  split
  · exact Within.throw _
  · exact Within.pure _

/-- A report to a filter keeps loops steady. -/
lemma steady_notify (n : Nat) (options : List Assignment) : Within Steady (notify n options) w := by
  refine Within.bind_remoteFilter fun f hf => Within.bind_ofFilter fun t ht => ?_
  exact steady_announce hf (RemoteFilter.route_of_notify ht)

/-- A scripted outcome keeps loops steady. -/
lemma steady_play (o : ScriptedOutcome α) : Within Steady (play o) w := by
  unfold play
  split
  · refine Within.bind (Within.attempt ?_) fun _ _ _ =>
      Within.bind ⟨rfl, rfl⟩ fun _ _ _ => Within.pure _
    exact Within.named fun n => steady_notify n _
  · exact Within.pure _

/-- Sending a message keeps loops steady. -/
lemma steady_send (n : LinkNumber) (topic : String) (payload : ByteArray) :
    Within Steady (send n topic payload) w := by
  refine Within.bind_reads (reads_link n) fun l _ => ?_
  cases l with
  | device d => exact Within.bind ⟨rfl, rfl⟩ fun _ _ _ => Within.pure _
  | script s => exact Within.bind ⟨rfl, rfl⟩ fun _ _ _ => steady_play _

/-- Asking a question keeps loops steady. -/
lemma steady_query (n : LinkNumber) (topic : String) (payload : ByteArray) :
    Within Steady (query n topic payload) w := by
  refine Within.bind_reads (reads_link n) fun l _ => ?_
  cases l with
  | device d => exact Within.bind ⟨rfl, rfl⟩ fun _ _ _ => Within.pure _
  | script s => exact Within.bind ⟨rfl, rfl⟩ fun _ _ _ => steady_play _

/-- Changing the proxy of a holder keeps loops steady. -/
lemma steady_change (holder : Holder) (change : RemoteProxy → RemoteProxy) :
    Within Steady (holder.change change) w := by
  cases holder with
  | filter n => exact Within.bind_remoteFilter fun _ hf => Workbench.steady_put hf rfl
  | proxy n => exact ⟨rfl, rfl⟩

/-- Carrying out a submission keeps loops steady. -/
lemma steady_carry (holder : Holder) (s : Submission) :
    Within Steady (carry holder.change s) w := by
  refine Within.bind (Within.tryCatch (steady_send _ _ _) fun e _ _ => ?_) fun _ _ _ => ?_
  · cases e with
    | panic => exact Within.bind (steady_change holder _) fun _ _ _ => Within.throw _
    | _ => exact Within.throw _
  · exact Within.bind_reads (Reads.exchanged _) fun _ _ => steady_change holder _

/-- Writing an option keeps loops steady. -/
lemma steady_writeOption (n : Nat) (id : OptionId) (value : OptionValue) :
    Within Steady (writeOption n id value) w := by
  refine Within.bind_filter fun f hf => ?_
  cases f with
  | offline f =>
    refine Within.bind_ofFilter fun t _ => ?_
    exact Within.bind (steady_announce hf rfl) fun _ _ _ => Within.pure _
  | remote f => exact Within.bind_ofFilter fun s _ => steady_carry (.filter n) s

/-- Writing bytes keeps loops steady. -/
lemma steady_writeBytes (n : Nat) (bytes : List UInt8) : Within Steady (writeBytes n bytes) w := by
  refine Within.bind_filter fun f hf => ?_
  cases f with
  | offline f =>
    refine Within.bind_ofFilter fun t _ => ?_
    exact Within.bind (steady_announce hf rfl) fun _ _ _ => Within.pure _
  | remote f => exact Within.bind_ofFilter fun s _ => steady_carry (.filter n) s

/-- Refreshing a filter keeps loops steady. -/
lemma steady_refresh (n : Nat) : Within Steady (refresh n) w := by
  refine Within.bind_remoteFilter fun _ _ => Within.bind_ofFilter fun _ _ => ?_
  refine Within.bind (steady_query _ _ _) fun _ _ _ => ?_
  refine Within.bind_reads (Reads.exchanged _) fun _ _ => ?_
  refine Within.bind_remoteFilter fun g hg => Within.bind_ofFilter fun t ht => ?_
  exact steady_announce hg (RemoteFilter.route_of_accept ht)

/-- Subscribing a filter leaves the use of loops. -/
lemma leaves_subscribe (n l : Nat) (topic : String) : Within LeavesUse (subscribe n l topic) w := by
  refine Within.bind_remoteFilter fun _ _ => Within.bind_ofFilter fun _ _ => ?_
  refine Within.bind (leaves_addRoute _ _ _ _) fun _ _ _ => Within.bind rfl fun _ _ _ => ?_
  exact Within.optionForM fun r _ => leaves_dropRoute r

/-- A filter that can be used is subscribed to a loop that is counted, and loops are used as they
were. -/
lemma exec_subscribe_counted {n l : Nat} {f : RemoteFilter}
    (hf : w.filters.get? n = some (.remote f)) (hlive : f.destroyed = false)
    (hl : (w.loopUse.counted l).isSome) (topic : String) :
    ∃ d, w.loops.get? l = some d ∧
      (subscribe n l topic).exec w = (.ok (), w.subscribed n f l d topic) ∧
      (w.subscribed n f l d topic).loopUse = w.loopUse := by
  obtain ⟨c, hc⟩ := Option.isSome_iff_exists.mp hl
  obtain ⟨d, hd, -⟩ := Option.map_eq_some_iff.mp hc
  have hdone := exec_subscribe_alive hf hlive hd topic
  have huse := leaves_subscribe (w := w) n l topic
  rw [Within, hdone] at huse
  exact ⟨d, hd, hdone, huse⟩

/-- Subscribing filters leaves the use of loops. -/
lemma leaves_subscribeAll (list : List Nat) (l : Nat) (topic : String) :
    Within LeavesUse (list.forM fun n => subscribe n l topic) w :=
  Within.forM fun n _ _ => leaves_subscribe n l topic

/-- Tearing a filter down leaves the use of loops. -/
lemma leaves_destroy (n : Nat) : Within LeavesUse (destroy n) w := by
  refine Within.bind_filter fun _ _ => ?_
  exact Within.bind (Within.optionForM fun r _ => leaves_dropRoute r) fun _ _ _ => rfl

/-- Restoring a filter keeps loops steady. -/
lemma steady_restore (n : Nat) (s : Settings) (full : String) (default : Bool) :
    Within Steady (restore n s full default) w :=
  Within.restore (fun id value _ => steady_writeOption n id value) s full default

/-! ### Workers -/

/-- Handing a report to a target keeps loops steady. -/
lemma steady_hand (target : Target) (options : List Assignment) :
    Within Steady (hand target options) w :=
  Within.hand (fun n options _ => steady_notify n options) (fun _ _ => ⟨rfl, rfl⟩) target options

/-- Draining a loop keeps loops steady. -/
lemma steady_drain (n : Nat) : Within Steady (drain n) w := by
  refine Within.bind_loop fun l hl => ?_
  have hworker : Within Steady (l.drain isLive hand) w :=
    Within.worker (fun target options _ => steady_hand target options) l
  refine Within.bind hworker fun l' w' hout => Workbench.steady_modify fun k hk => ?_
  -- the loop is put back in the place of one with the same users and routes
  rw [Within, hout] at hworker
  rw [gives_drain l w l' w' hout, hworker.register hl hk]

/-- Loops are steady while a report is published that changes neither users nor routes. -/
lemma steady_post (n : Nat)
    {publish : DeliveryLoop Target → Except LinkError Unit × DeliveryLoop Target}
    (hpublish : ∀ l, (publish l).2.register = l.register) : Within Steady (post n publish) w := by
  refine Within.bind_loop fun l hl => ?_
  have hawait : Within Steady (DeliveryLoop.await isLive hand (publish l)) w :=
    Within.await (fun target options _ => steady_hand target options) _
  refine Within.bind hawait fun out w' hout => ?_
  refine Within.bind (Workbench.steady_modify fun k hk => ?_) fun _ _ _ => ?_
  · rw [Within, hout] at hawait
    rw [gives_await (publish l) w out w' hout, hpublish l, hawait.register hl hk]
  · exact Within.of_reads (reads_outcome out.1)

/-- Letting the workers settle keeps loops steady. -/
lemma steady_settle : Within Steady settle w :=
  Within.settle fun n _ => steady_drain n

/-! ### Devices, scripts and sinks -/

/-- Changing a device keeps loops steady. -/
lemma steady_changeDevice (name : String) (change : Device → Device) :
    Within Steady (changeDevice name change) w :=
  Within.bind_reads (reads_device name) fun _ _ => ⟨rfl, rfl⟩

/-- Having a device advertise a filter keeps loops steady. -/
lemma steady_advertise (name : String) (kind : FilterKind) (title key : String) :
    Within Steady (advertise name kind title key) w := by
  refine Within.bind_reads (reads_device name) fun _ _ => Within.bind ⟨rfl, rfl⟩ fun _ _ _ => ?_
  exact Within.bind ⟨rfl, rfl⟩ fun _ _ _ => Within.pure _

/-- Connecting a device to a loop keeps loops steady. -/
lemma steady_connectDevice (name loop : String) : Within Steady (connectDevice name loop) w := by
  refine Within.bind_reads (reads_device name) fun _ _ => ?_
  exact Within.bind_reads (reads_loopNumber loop) fun _ _ => steady_changeDevice _ _

/-- What is published at a loop changes nothing but its queue, or what it has dropped. -/
lemma register_publish (l : DeliveryLoop Target) (topic : String) (report : OptionReport) :
    (l.publish topic report).2.register = l.register := by
  unfold DeliveryLoop.publish
  split <;> rfl

/-- A loop that receives a message keeps its register. -/
lemma register_receive (l : DeliveryLoop Target) (topic : String) (payload : ByteArray) :
    (l.receive topic payload).2.register = l.register := by
  unfold DeliveryLoop.receive
  split
  · exact register_publish _ _ _
  · rfl

/-- A report by a device keeps loops steady. -/
lemma steady_push (name filter : String) (options : List Assignment) :
    Within Steady (push name filter options) w := by
  refine Within.bind_reads (reads_device name) fun _ _ => Within.bind ⟨rfl, rfl⟩ fun _ _ _ => ?_
  refine Within.bind_reads (Reads.ofLink _) fun posting _ => ?_
  exact steady_post _ fun l => register_receive l _ _

/-- Sending a message to a device keeps loops steady. -/
lemma steady_sendToDevice (name topic : String) (payload : ByteArray) :
    Within Steady (sendToDevice name topic payload) w := by
  refine Within.bind_reads (reads_device name) fun _ _ => ?_
  exact Within.bind (steady_send _ _ _) fun _ _ _ => Within.of_reads (Reads.ofLink _)

/-- Asking a device keeps loops steady. -/
lemma steady_queryDevice (name topic : String) (payload : ByteArray) :
    Within Steady (queryDevice name topic payload) w := by
  refine Within.bind_reads (reads_device name) fun _ _ => ?_
  exact Within.bind (steady_query _ _ _) fun _ _ _ => Within.of_reads (Reads.ofLink _)

/-- Looking at what a script has been asked keeps loops steady. -/
lemma steady_lookAtScript (name : String) : Within Steady (lookAtScript name) w := by
  refine Within.bind_reads Reads.get fun _ _ => Within.bind_reads (Reads.found _ _) fun _ _ => ?_
  refine Within.bind_reads (reads_link _) fun l _ => ?_
  cases l with
  | script s => exact Within.bind ⟨rfl, rfl⟩ fun _ _ _ => Within.pure _
  | device d => exact Within.throw _

/-- Finding the number of a sink keeps loops steady. -/
lemma steady_sinkNumber (tag : String) (refuses holds : Bool) :
    Within Steady (sinkNumber tag refuses holds) w := by
  refine Within.bind_reads Reads.get fun _ _ => ?_
  split
  · exact Within.pure _
  · exact Within.bind ⟨rfl, rfl⟩ fun _ _ _ => Within.bind ⟨rfl, rfl⟩ fun _ _ _ => Within.pure _

/-- Routing reports to a sink leaves the use of loops. -/
lemma leaves_routeToSink (name topic filter tag key : String) (refuses holds : Bool) :
    Within LeavesUse (routeToSink name topic filter tag key refuses holds) w := by
  refine Within.bind_reads (reads_loopNumber name) fun _ _ => ?_
  refine Within.bind (steady_sinkNumber _ _ _).1 fun _ _ _ => ?_
  refine Within.bind (leaves_addRoute _ _ _ _) fun _ _ _ =>
    Within.bind_reads Reads.get fun _ _ => ?_
  exact Within.bind rfl fun _ _ _ => Within.optionForM fun r _ => leaves_dropRoute r

/-- Dropping a route by its name leaves the use of loops. -/
lemma leaves_dropNamedRoute (key : String) : Within LeavesUse (dropNamedRoute key) w := by
  refine Within.bind_reads Reads.get fun _ _ => Within.bind_reads (Reads.found _ _) fun _ _ => ?_
  exact Within.bind rfl fun _ _ _ => leaves_dropRoute _

/-- Dropping a sink keeps loops steady. -/
lemma steady_dropSink (tag : String) : Within Steady (dropSink tag) w := by
  refine Within.bind_reads Reads.get fun _ _ => Within.bind_reads (Reads.found _ _) fun _ _ => ?_
  exact Within.bind ⟨rfl, rfl⟩ fun _ _ _ => ⟨rfl, rfl⟩

/-- Opening a sink keeps loops steady. -/
lemma steady_openSink (tag : String) : Within Steady (openSink tag) w :=
  Within.bind_reads Reads.get fun _ _ => Within.bind_reads (Reads.found _ _) fun _ _ => ⟨rfl, rfl⟩

/-- Publishing reports keeps loops steady. -/
lemma steady_publish (name topic filter : String) (messages : List (List Assignment)) :
    Within Steady (publish name topic filter messages) w := by
  refine Within.bind_reads (reads_loopNumber name) fun n _ => Within.forM fun _ _ _ => ?_
  exact steady_post n fun l => register_publish l _ _

/-- Delivering a message to a loop keeps loops steady. -/
lemma steady_deliver (name topic : String) (payload : ByteArray) :
    Within Steady (deliver name topic payload) w :=
  Within.bind_reads (reads_loopNumber name) fun n _ =>
    steady_post n fun l => register_receive l _ _

/-! ### Records, settings and proxies -/

/-- Leaving a changed record keeps loops steady. -/
lemma steady_leaveRecord (name : String) (changed : Except FilterError Unit × FilterRecord) :
    Within Steady (leaveRecord name changed) w :=
  Within.bind ⟨rfl, rfl⟩ fun _ _ _ => Within.of_reads (Reads.ofFilter _)

/-- Changing a record keeps loops steady. -/
lemma steady_changeRecord (name : String)
    (change : FilterRecord → Except FilterError Unit × FilterRecord) :
    Within Steady (changeRecord name change) w :=
  Within.bind_reads (reads_record name) fun _ _ => steady_leaveRecord _ _

/-- A record of an advertisement keeps loops steady. -/
lemma steady_recordAdvertised (name : String) (a : Advertisement) :
    Within Steady (recordAdvertised name a) w :=
  Within.bind_ofFilter fun _ _ => Within.bind ⟨rfl, rfl⟩ fun _ _ _ => Within.pure _

/-- A record of a text keeps loops steady. -/
lemma steady_recordText (name text : String) : Within Steady (recordText name text) w := by
  unfold recordText
  split
  · exact steady_recordAdvertised _ _
  · exact Within.throw _

/-- A record of a source keeps loops steady. -/
lemma steady_recordSource (name : String) (source : AdvertisementSource) :
    Within Steady (recordSource name source) w :=
  Within.bind_reads (reads_advertisement source) fun _ _ => steady_recordAdvertised _ _

/-- Declaring the options of a text keeps loops steady. -/
lemma steady_declareText (name text : String) : Within Steady (declareText name text) w := by
  refine Within.bind_reads (reads_record name) fun _ _ => ?_
  exact Within.bind_reads (Reads.ofText _ _) fun _ _ => steady_leaveRecord _ _

/-- Stating the stream of a text keeps loops steady. -/
lemma steady_streamText (name text : String) : Within Steady (streamText name text) w := by
  refine Within.bind_reads (reads_record name) fun _ _ => ?_
  exact Within.bind_reads (Reads.ofText _ _) fun _ _ => steady_leaveRecord _ _

/-- Replacing the values of a record keeps loops steady. -/
lemma steady_replaceValues (name : String) (values : List Assignment) :
    Within Steady (replaceValues name values) w :=
  Within.bind_reads (reads_record name) fun _ _ => Within.bind ⟨rfl, rfl⟩ fun _ _ _ => Within.pure _

/-- Setting a key of a store keeps loops steady. -/
lemma steady_changeStore (name key : String) (value : OptionValue) :
    Within Steady (do putStore name ((← store name).set key value)) w :=
  Within.bind_reads (reads_store name) fun _ _ => ⟨rfl, rfl⟩

/-- Saving a filter keeps loops steady. -/
lemma steady_saveFilter (n : Nat) (storeName full : String) (enabled : Bool) :
    Within Steady (saveFilter n storeName full enabled) w := by
  refine Within.bind_reads (reads_store storeName) fun _ _ => Within.bind_filter fun _ _ => ?_
  exact Within.bind ⟨rfl, rfl⟩ fun _ _ _ => Within.of_reads (Reads.ofFilter _)

/-- Restoring a filter by its name keeps loops steady. -/
lemma steady_restoreNamed (name storeName full : String) (default : Bool) :
    Within Steady (restoreNamed name storeName full default) w :=
  Within.named fun n => Within.bind_reads (reads_store storeName) fun _ _ => steady_restore n _ _ _

/-- Placing a proxy keeps loops steady. -/
lemma steady_placeProxy (name : String) (kind : FilterKind) (recordName topic : String) :
    Within Steady (placeProxy name kind recordName topic) w := by
  refine Within.bind_reads (reads_record recordName) fun _ _ => Within.bind_ofFilter fun _ _ => ?_
  exact Within.bind ⟨rfl, rfl⟩ fun _ _ _ => Within.bind ⟨rfl, rfl⟩ fun _ _ _ => Within.pure _

/-- Wiring a proxy keeps loops steady. -/
lemma steady_wireProxy (name link : String) : Within Steady (wireProxy name link) w :=
  Within.bind_reads (reads_proxyNumber name) fun _ _ =>
    Within.bind_reads (reads_linkNumber link) fun _ _ => ⟨rfl, rfl⟩

/-- Writing an option through a proxy keeps loops steady. -/
lemma steady_proxySetOption (name option : String) (value : OptionValue) :
    Within Steady (proxySetOption name option value) w := by
  refine Within.bind_reads (reads_proxyNumber name) fun n _ => Within.bind_proxyAt fun _ _ => ?_
  exact Within.bind_ofFilter fun s _ => steady_carry (.proxy n) s

/-- Writing parameters through a proxy keeps loops steady. -/
lemma steady_proxyApply (name : String) (params : Parameters) :
    Within Steady (proxyApply name params) w := by
  refine Within.bind_reads (reads_proxyNumber name) fun n _ => Within.bind_proxyAt fun _ _ => ?_
  exact Within.bind_ofFilter fun s _ => steady_carry (.proxy n) s

/-- A proxy that has absorbed a report keeps loops steady. -/
lemma steady_absorbed (n : Nat) (outcome : Except FilterError (List ChangedOption × RemoteProxy)) :
    Within Steady (absorbed n outcome) w :=
  Within.bind_ofFilter fun _ _ => Within.bind ⟨rfl, rfl⟩ fun _ _ _ => Within.pure _

/-- Refreshing a proxy keeps loops steady. -/
lemma steady_proxyRefresh (name : String) : Within Steady (proxyRefresh name) w := by
  refine Within.bind_reads (reads_proxyNumber name) fun n _ => Within.bind_proxyAt fun _ _ => ?_
  refine Within.bind_ofFilter fun _ _ => Within.bind (steady_query _ _ _) fun _ _ _ => ?_
  refine Within.bind_reads (Reads.exchanged _) fun _ _ => ?_
  exact Within.bind_proxyAt fun _ _ => steady_absorbed _ _

/-- A report to a proxy keeps loops steady. -/
lemma steady_proxyNotify (name : String) (options : List Assignment) :
    Within Steady (proxyNotify name options) w :=
  Within.bind_reads (reads_proxyNumber name) fun _ _ =>
    Within.bind_proxyAt fun _ _ => steady_absorbed _ _

/-! ### Filters by name -/

/-- Letting a filter go leaves the use of loops. -/
lemma leaves_letGo (h : FilterHandle) : Within LeavesUse (letGo h) w := by
  unfold letGo
  split
  · exact leaves_destroy _
  · exact Within.pure _

/-- Naming a filter leaves the use of loops. -/
lemma leaves_nameFilter (name : String) (h : FilterHandle) :
    Within LeavesUse (nameFilter name h) w := by
  refine Within.bind_reads Reads.get fun _ _ => Within.bind rfl fun _ _ _ => ?_
  exact Within.optionForM fun _ _ => leaves_letGo _

/-- Placing a filter leaves the use of loops. -/
lemma leaves_place (name : String) (f : Filter) : Within LeavesUse (place name f) w :=
  Within.bind rfl fun _ _ _ => Within.bind (leaves_nameFilter _ _) fun _ _ _ => Within.pure _

/-- Placing an offline filter leaves the use of loops. -/
lemma leaves_placeOffline (name : String) (kind : FilterKind) (title : String)
    (params? : Option Parameters) : Within LeavesUse (placeOffline name kind title params?) w := by
  cases params? with
  | none => exact leaves_place _ _
  | some params => exact Within.bind_ofFilter fun _ _ => leaves_place _ _

/-- Placing a remote filter leaves the use of loops. -/
lemma leaves_placeRemote (name : String) (kind : FilterKind) (source : AdvertisementSource)
    (topic : String) : Within LeavesUse (placeRemote name kind source topic) w :=
  Within.bind_reads (reads_advertisement source) fun _ _ =>
    Within.bind_ofFilter fun _ _ => leaves_place _ _

/-- Placing a filter that is declared over a record leaves the use of loops. -/
lemma leaves_placeDeclared (name : String) (kind : FilterKind) (record topic : String) :
    Within LeavesUse (placeDeclared name kind record topic) w := by
  refine Within.bind_reads Reads.get fun _ _ => Within.bind_reads (Reads.found _ _) fun _ _ => ?_
  exact Within.bind_ofFilter fun _ _ => leaves_place _ _

/-- Populating a filter keeps loops steady. -/
lemma steady_populate (name : String) : Within Steady (populate name) w := by
  refine Within.named fun n => Within.bind_remoteFilter fun f hf =>
    Within.bind_ofFilter fun g hg => ?_
  exact Workbench.steady_put hf (RemoteFilter.route_of_populate hg)

/-- Dropping a filter by its name leaves the use of loops. -/
lemma leaves_dropFilter (name : String) : Within LeavesUse (dropFilter name) w := by
  refine Within.bind_reads Reads.get fun _ _ => Within.bind_reads (Reads.found _ _) fun _ _ => ?_
  exact Within.bind rfl fun _ _ _ => leaves_letGo _

/-- Allowing an option keeps loops steady. -/
lemma steady_allowOption (name : String) (id : OptionId) (on : Bool) :
    Within Steady (allowOption name id on) w := by
  refine Within.named fun n => Within.bind_filter fun f hf => Within.bind_ofFilter fun _ _ => ?_
  exact Workbench.steady_put hf (f.route_withOptionEnabled id on)

/-- Writing an option of a temporal filter keeps loops steady. -/
lemma steady_writeTemporal (name : String) (id : OptionId) (value : OptionValue) :
    Within Steady (writeTemporal name id value) w := by
  refine Within.named fun n => Within.bind_filter fun f _ => ?_
  split
  · exact Within.bind (steady_writeOption _ _ _) fun _ _ _ => Within.pure _
  · exact Within.pure _

/-- Changing the proxy of a filter keeps loops steady. -/
lemma steady_changeProxy (n : Nat) (change : RemoteProxy → RemoteProxy) :
    Within Steady (changeProxy n change) w := steady_change (.filter n) change

/-- Wiring a filter keeps loops steady. -/
lemma steady_wire (name link : String) : Within Steady (wire name link) w := by
  refine Within.named fun n => Within.bind_remoteFilter fun _ _ => ?_
  exact Within.bind_reads (reads_linkNumber link) fun _ _ => steady_changeProxy _ _

/-- Subscribing a filter by its name leaves the use of loops. -/
lemma leaves_subscribeNamed (name loop topic : String) :
    Within LeavesUse (subscribeNamed name loop topic) w :=
  Within.named fun _ => Within.bind_reads (reads_loopNumber loop) fun _ _ => leaves_subscribe _ _ _

/-- The end of a subscription keeps loops steady. -/
lemma steady_endWatch (watch : Watch) : Within Steady (endWatch watch) w :=
  Within.bind_filter fun f hf => Workbench.steady_put hf (f.route_withWatcher _)

/-- A new subscription keeps loops steady. -/
lemma steady_keepWatch (name : String) (id : OptionId) (tag : String) (listener : Listener)
    (mailbox? : Option Nat) : Within Steady (keepWatch name id tag listener mailbox?) w := by
  refine Within.named fun n => Within.bind_filter fun f hf => ?_
  refine Within.bind_ofFilter fun _ _ => Within.bind_ofFilter fun kept _ => ?_
  refine Within.bind (Workbench.steady_put hf (f.route_withWatcher _)) fun _ _ _ => ?_
  refine Within.bind_reads Reads.get fun _ _ => Within.bind ⟨rfl, rfl⟩ fun _ _ _ => ?_
  exact Within.optionForM fun _ _ => steady_endWatch _

/-- Watching an option keeps loops steady. -/
lemma steady_watch (name : String) (id : OptionId) (tag : String) :
    Within Steady (watch name id tag) w :=
  Within.bind ⟨rfl, rfl⟩ fun _ _ _ => steady_keepWatch _ _ _ _ _

/-- Asking for the next value keeps loops steady. -/
lemma steady_nextValue (tag : String) : Within Steady (nextValue tag) w := by
  refine Within.bind_reads (reads_mailbox tag) fun out _ => ?_
  split
  · exact Within.pure _
  · exact Within.bind ⟨rfl, rfl⟩ fun _ _ _ => Within.pure _

/-- Giving up a handle keeps loops steady. -/
lemma steady_cancel (tag : String) : Within Steady (cancel tag) w := by
  refine Within.bind_reads Reads.get fun _ _ => Within.bind_reads (Reads.found _ _) fun _ _ => ?_
  exact Within.bind ⟨rfl, rfl⟩ fun _ _ _ => steady_endWatch _

/-! ### Filters of sensors -/

/-- Wiring a sensor keeps loops steady. -/
lemma steady_wireSensor (n : Nat) (link : LinkNumber) : Within Steady (wireSensor n link) w :=
  Within.bind_reads (reads_sensorAt n) fun _ _ => Within.forM fun f _ _ => steady_changeProxy f _

/-- Naming a filter of a sensor leaves the use of loops. -/
lemma leaves_nameSensorFilter (name : String) (kind : FilterKind) (filterName : String) :
    Within LeavesUse (nameSensorFilter name kind filterName) w := by
  refine Within.bind_reads (reads_sensor name) fun _ _ => Within.bind_ofFilter fun _ _ => ?_
  refine Within.bind (leaves_nameFilter _ _) fun _ _ _ => ?_
  exact Within.bind_filter fun _ _ => Within.pure _

/-- Writing bytes to a sensor keeps loops steady. -/
lemma steady_writeSensorBytes (name : String) (kind : FilterKind) (bytes : List UInt8) :
    Within Steady (writeSensorBytes name kind bytes) w :=
  Within.bind_reads (reads_sensor name) fun _ _ =>
    Within.bind_ofFilter fun _ _ => steady_writeBytes _ _

/-- Refreshing a sensor keeps loops steady. -/
lemma steady_refreshSensor (name : String) : Within Steady (refreshSensor name) w := by
  refine Within.bind_reads (reads_sensor name) fun _ _ => Within.foldlM fun _ f _ _ => ?_
  exact Within.bind (steady_refresh f) fun _ _ _ => Within.pure _

/-- Saving a sensor keeps loops steady. -/
lemma steady_saveSensor (name storeName : String) :
    Within Steady (saveSensor name storeName) w := by
  refine Within.bind_reads (reads_sensor name) fun _ _ => ?_
  refine Within.bind_reads (reads_store storeName) fun _ _ => Within.foldlM fun _ slot _ _ => ?_
  refine Within.bind_filter fun _ _ => ?_
  exact Within.bind (steady_saveFilter _ _ _ _) fun _ _ _ => Within.pure _

/-- Restoring a sensor keeps loops steady. -/
lemma steady_restoreSensor (name storeName : String) :
    Within Steady (restoreSensor name storeName) w := by
  refine Within.bind_reads (reads_sensor name) fun _ _ => ?_
  refine Within.bind_reads (reads_store storeName) fun _ _ => Within.forM fun slot _ _ => ?_
  refine Within.bind_filter fun _ _ => Within.bind (steady_restore _ _ _ _) fun _ _ _ => ?_
  split
  · exact steady_writeOption _ _ _
  · exact Within.pure _

end Bench

end EmbeddedFilters
