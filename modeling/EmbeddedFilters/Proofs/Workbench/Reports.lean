import EmbeddedFilters.Proofs.Watching.Desk
import EmbeddedFilters.Proofs.Workbench.InStep

/-!
# Reports that are delivered

What the device changes by itself it reports to the loop, and the worker of the loop has the filter
take the report over. A step of the workbench keeps it in step with the device if the report has
been queued and delivered and nothing has been dropped (`Workbench.Smooth`), or if the device has
refused the change (`Workbench.InStep.step`).
-/

namespace EmbeddedFilters

/-- The note of a callback that has been told a value. -/
def Delivery.note? (d : Delivery) : Option Call :=
  match d.listener with
  | .callback label _ => some (.told label d.value)
  | .mailbox _ => none

/-- The workbench after listeners have been told values: callbacks are noted down, and the other
values lie in their mailboxes. -/
def Workbench.telling (w : Workbench) (list : List Delivery) : Workbench :=
  { w with
    calls := w.calls ++ list.filterMap Delivery.note?
    mailboxes := list.foldl Delivery.post w.mailboxes }

/-- To tell nothing changes nothing. -/
@[simp] lemma Workbench.telling_nil (w : Workbench) : w.telling [] = w := by simp [telling]

/-- Deliveries are told one after the other. -/
lemma Workbench.telling_cons (w : Workbench) (first : Delivery) (rest : List Delivery) :
    w.telling (first :: rest) = (w.telling [first]).telling rest := by
  have hcalls : (first :: rest).filterMap Delivery.note? =
      [first].filterMap Delivery.note? ++ rest.filterMap Delivery.note? :=
    List.filterMap_append (l := [first])
  simp only [telling, hcalls, List.append_assoc, List.foldl_cons, List.foldl_nil]

namespace Bench

open Workbench (InStep StaysInStep)

variable {w : Workbench} {d : Device} {l : DeliveryLoop Target}

/-- A delivery is told to its listener. -/
lemma exec_tell (d : Delivery) (w : Workbench) : (tell d).exec w = (.ok (), w.telling [d]) := by
  obtain ⟨listener, id, value⟩ := d
  cases listener with
  | callback label panics => rfl
  | mailbox n =>
    have hcalls : w.calls ++ [] = w.calls := List.append_nil _
    show (_, _) = (_, { w with calls := w.calls ++ [], mailboxes := _ })
    rw [hcalls]
    rfl

/-- Listeners are told by notes and mailboxes. -/
lemma exec_tells (list : List Delivery) (w : Workbench) :
    (list.forM tell).exec w = (.ok (), w.telling list) := by
  induction list generalizing w with
  | nil =>
    rw [Workbench.telling_nil]
    rfl
  | cons first rest ih =>
    rw [Workbench.telling_cons]
    exact (exec_bind_ok (exec_tell first w) _).trans (ih _)

/-- An announcement leaves the filter as it states, and tells listeners. -/
lemma exec_announce (n : Nat) (t : Told Filter) (w : Workbench) :
    (announce n t).exec w = (if t.panicked then .error .panic else .ok t.deliveries.length,
      Workbench.telling { w with filters := w.filters.put n t.state } t.deliveries) := by
  have hput : (putFilter n t.state).exec w =
      (.ok (), { w with filters := w.filters.put n t.state }) :=
    rfl
  rw [announce, exec_bind_ok hput, exec_bind_ok (exec_tells _ _)]
  split <;> rfl

/-- A report that a filter takes over leaves the filter as it states, and listeners are told. -/
lemma exec_notify_ok {n : Nat} {f : RemoteFilter} (hget : w.filters.get? n = some (.remote f))
    {options : List Assignment} {t : Told RemoteFilter} (hnotify : f.notify options = .ok t) :
    (notify n options).exec w = (if t.panicked then .error .panic else .ok t.deliveries.length,
      Workbench.telling { w with filters := w.filters.put n (.remote t.state) } t.deliveries) := by
  rw [notify, exec_bind_ok (exec_remoteFilter hget), hnotify, exec_bind_ok (exec_ofFilter_ok _ _)]
  exact exec_announce n (t.map .remote) w

/-- A report that a filter refuses changes nothing. -/
lemma exec_notify_error {n : Nat} {f : RemoteFilter} (hget : w.filters.get? n = some (.remote f))
    {options : List Assignment} {e : FilterError} (hnotify : f.notify options = .error e) :
    (notify n options).exec w = (.error (.filter e), w) := by
  rw [notify, exec_bind_ok (exec_remoteFilter hget), hnotify]
  rfl

/-- A filter that is handed a report that it refuses stays as it is. -/
lemma exec_hand_refused {n : Nat} {f : RemoteFilter} (hget : w.filters.get? n = some (.remote f))
    {options : List Assignment} {e : FilterError} (hnotify : f.notify options = .error e) :
    (hand (.filter n) options).exec w = (.ok .refused, w) := by
  rw [hand, exec_tryCatch, exec_bind_error (exec_notify_error hget hnotify)]
  rfl

/-- A filter that is handed a report that it takes over is as the report leaves it, and the
listeners are told. -/
lemma exec_hand_taken {n : Nat} {f : RemoteFilter} (hget : w.filters.get? n = some (.remote f))
    {options : List Assignment} {t : Told RemoteFilter} (hnotify : f.notify options = .ok t) :
    (hand (.filter n) options).exec w = (.ok (if t.panicked then .panicked else .accepted),
      Workbench.telling { w with filters := w.filters.put n (.remote t.state) } t.deliveries) := by
  rw [hand, exec_tryCatch, exec_bind, exec_notify_ok hget hnotify]
  cases t.panicked <;> rfl

/-- A worker that has nothing to do leaves everything as it is. -/
lemma exec_drain_idle (h : l.Idle) (w : Workbench) :
    (l.drain isLive hand).exec w = (.ok l, w) := by
  rw [DeliveryLoop.drain_idle h]
  rfl

/-- A report that the filter refuses that it is handed out to counts as dropped. -/
lemma exec_handOut_refused {n : Nat} {f : RemoteFilter} (hget : w.filters.get? n = some (.remote f))
    {options : List Assignment} {e : FilterError} (hnotify : f.notify options = .error e)
    (l : DeliveryLoop Target) : (DeliveryLoop.handOut hand [(.filter n, options)] l).exec w =
      (.ok { l with inFlight := [], dropped := l.dropped + 1 }, w) := by
  rw [DeliveryLoop.handOut, exec_bind_ok (exec_hand_refused hget hnotify)]
  rfl

/-- A report that the filter takes over that it is handed out to counts as delivered; if a listener
panics the worker goes down instead. -/
lemma exec_handOut_taken {n : Nat} {f : RemoteFilter} (hget : w.filters.get? n = some (.remote f))
    {options : List Assignment} {t : Told RemoteFilter} (hnotify : f.notify options = .ok t)
    (l : DeliveryLoop Target) :
    (DeliveryLoop.handOut hand [(.filter n, options)] l).exec w =
      (.ok (if t.panicked then { l with inFlight := [], working := false }
        else { l with inFlight := [], delivered := l.delivered + 1 }),
        Workbench.telling { w with filters := w.filters.put n (.remote t.state) }
          t.deliveries) := by
  rw [DeliveryLoop.handOut, exec_bind_ok (exec_hand_taken hget hnotify)]
  cases t.panicked <;> rfl

/-- What a worker does with the only report that waits for it. -/
lemma drain_single {parcel : Parcel} (hqueue : l.queue = [parcel]) (hinFlight : l.inFlight = [])
    (hworking : l.working = true) :
    l.drain isLive hand = (do
      let targets ← (l.targets parcel.topic parcel.report.filter).filterM isLive
      if targets.isEmpty then pure { l with queue := [], dropped := l.dropped + 1 }
      else do
        let pending := targets.map fun target => (target, parcel.report.options)
        let l ← DeliveryLoop.handOut hand pending l
        pure { l with queue := [] }) := by
  obtain ⟨capacity, hcapacity, routes, nextToken, requesters, running, working, queue, inFlight, _,
    _⟩ := l
  dsimp only at hqueue hinFlight hworking
  subst hqueue hinFlight hworking
  rfl

/-- The only report that waits for a worker is left in the queue, or dropped, or taken over by the
filter that its route leads to. -/
lemma exec_drain_report {topic name : String} {options : List Assignment}
    (hqueue : l.queue = [⟨topic, ⟨name, options⟩⟩]) (hinFlight : l.inFlight = [])
    (htargets : ∀ t ∈ l.targets topic name, ∃ n f, l.targets topic name = [.filter n] ∧
      w.filters.get? n = some (.remote f) ∧ f.name = name) :
    ∃ l' v, (l.drain isLive hand).exec w = (.ok l', v) ∧ v.loops = w.loops ∧
      (l'.queue = [] → l'.dropped = l.dropped →
        ∃ n f t mailboxes calls, w.filters.get? n = some (.remote f) ∧ f.name = name ∧
          f.notify options = .ok t ∧ l'.routes = l.routes ∧ l'.inFlight = [] ∧
          v = { w with filters := w.filters.put n (.remote t.state), mailboxes, calls }) := by
  cases hworking : l.working with
  | false =>
    -- a worker that is down leaves the report in the queue
    refine ⟨l, w, ?_, rfl, fun hempty => ?_⟩
    · obtain ⟨capacity, hcapacity, routes, nextToken, requesters, running, working, queue, _⟩ := l
      dsimp only at hqueue hworking
      subst hqueue hworking
      rfl
    · rw [hqueue] at hempty
      cases hempty
  | true =>
    have hdrain := drain_single hqueue hinFlight hworking
    cases hlist : l.targets topic name with
    | nil =>
      -- no route leads anywhere, which counts as dropped
      refine ⟨{ l with queue := [], dropped := l.dropped + 1 }, w, ?_, rfl,
        fun _ hsame => absurd hsame (Nat.succ_ne_self _)⟩
      rw [hdrain, hlist]
      rfl
    | cons t rest =>
      obtain ⟨n, f, hsingle, hget, hname⟩ := htargets t (by rw [hlist]; exact List.mem_cons_self)
      have hlive : ([Target.filter n].filterM isLive).exec w = (.ok [.filter n], w) := rfl
      rw [hdrain, hsingle, exec_bind_ok hlive]
      cases hnotify : f.notify options with
      | error e =>
        exact ⟨_, w, exec_bind_ok (exec_handOut_refused hget hnotify l) _, rfl,
          fun _ hsame => absurd hsame (Nat.succ_ne_self _)⟩
      | ok t =>
        refine ⟨_, _, exec_bind_ok (exec_handOut_taken hget hnotify l) _, rfl, fun _ _ => ?_⟩
        refine ⟨n, f, t, _, _, hget, hname, hnotify, ?_, ?_, rfl⟩ <;> cases t.panicked <;> rfl

/-- The loops come to rest when the only one there is does. -/
lemma exec_settle (hloops : w.loops.members.entries = [(0, l)]) :
    (settle.exec w).2 =
      ((l.drain isLive hand >>= fun l => changeLoop 0 fun _ => l).exec w).2 := by
  have hloop : (loop 0).exec w = (.ok l, w) :=
    exec_lookup (fun w => w.loops.get? 0) (Pool.get?_of_entries hloops) _
  have hdrain : (drain 0).exec w =
      (l.drain isLive hand >>= fun l => changeLoop 0 fun _ => l).exec w := exec_bind_ok hloop _
  have hforM : ([(0, l)].forM fun entry : Nat × DeliveryLoop Target => drain entry.1) =
      (drain 0 >>= fun _ => pure ()) := rfl
  rw [settle, exec_bind_ok (exec_get w), hloops, hforM, exec_bind, hdrain]
  cases ((l.drain isLive hand >>= fun l => changeLoop 0 fun _ => l).exec w) with
  | mk r v => cases r <;> rfl

/-- A workbench that is in step comes to rest in step. -/
lemma stays_settle : Within StaysInStep settle w := by
  intro d l h
  have hstate : (settle.exec w).2 = { w with loops := w.loops.modify 0 fun _ => l } := by
    rw [exec_settle h.loops, exec_bind_ok (exec_drain_idle (.inr ⟨h.queue, h.inFlight⟩) w)]
    rfl
  refine ⟨d, ?_⟩
  rw [hstate]
  refine h.congr rfl ?_ rfl rfl
  rw [Pool.entries_modify h.loops, h.loops]

/-- A device changes values by itself, and what it reports of that is posted at its loop. -/
lemma exec_push_found {name : String} {n : LinkNumber} {d : Device}
    (hdevice : (device name).exec w = (.ok (n, d), w)) (filter : String)
    (options : List Assignment) :
    (push name filter options).exec w =
      (do
        let posting ← ofLink (d.push filter options).1
        post posting.loop fun l => l.receive posting.topic posting.payload : Bench Unit).exec
        { w with links := w.links.put n (.device (d.push filter options).2) } := by
  rw [push, exec_bind_ok hdevice]
  rfl

/-- A change that a device makes by itself leaves the workbench in step, or it is in the values of
the device and on its way to the loop. -/
lemma exec_push (h : w.InStep d l) (name filter : String) (options : List Assignment) :
    (∃ d', ((push name filter options).exec w).2.InStep d' l) ∨
      ∃ d' hosted values, d.filter? filter = some hosted ∧
        Device.overlay hosted.kind hosted.values options = .ok values ∧
        (∃ params, Parameters.ofOptions hosted.kind values = .ok params) ∧ d.Keeps d' ∧
        d'.filters = (d.withFilter filter { hosted with values }).filters ∧
        (push name filter options).exec w =
          ((ofLink (l.receive d.notificationTopic (OptionReport.payload ⟨filter, options⟩)).1).exec
            { w with
              links := w.links.put 0 (.device d')
              loops := w.loops.modify 0 fun _ =>
                (l.receive d.notificationTopic (OptionReport.payload ⟨filter, options⟩)).2 }) := by
  cases hdevice : (device name).exec w with
  | mk r v =>
    obtain rfl : v = w := by simpa [hdevice] using reads_device name w
    cases r with
    | error e =>
      left
      rw [push, exec_bind_error hdevice]
      exact ⟨d, h⟩
    | ok found =>
      obtain ⟨n, found⟩ := found
      obtain ⟨rfl, hd⟩ := h.eq_of_link (get?_of_device hdevice)
      cases hd
      rw [exec_push_found hdevice]
      rcases Device.push_cases h.reports filter options with ⟨reason, hpush⟩ |
        ⟨hosted, values, hhosted, hoverlay, hparams, hpush, hkeeps, hfilters⟩
      · left
        rw [hpush]
        exact ⟨d, h.congr ((Pool.entries_put h.links _).trans h.links.symm) rfl rfl rfl⟩
      · right
        refine ⟨(d.push filter options).2, hosted, values, hhosted, hoverlay, hparams, hkeeps,
          hfilters, ?_⟩
        set left : Workbench :=
          { v with links := v.links.put 0 (.device (d.push filter options).2) }
        have hposted (posting : Posting) :
            (ofLink (.ok posting)).exec left = (.ok posting, left) := rfl
        rw [hpush, exec_bind_ok (hposted _)]
        dsimp only
        have hroom := DeliveryLoop.isCrowded_receive h.queue d.notificationTopic
          (OptionReport.payload ⟨filter, options⟩)
        have hthere : left.loops.get? 0 = some l := h.get?_loop
        exact exec_post_of_room hthere (fun l => l.receive d.notificationTopic
          (OptionReport.payload ⟨filter, options⟩)) hroom

end Bench

/-- A report that a loop takes waits in its queue. -/
lemma DeliveryLoop.receive_eq_ok {τ : Type} {l : DeliveryLoop τ} {topic : String} {r : OptionReport}
    (h : (l.receive topic r.payload).1 = .ok ()) :
    (l.receive topic r.payload).2 = { l with queue := l.queue ++ [⟨topic, r⟩] } := by
  unfold receive at h ⊢
  cases hdecode : Json.decodePayload OptionReport.decoder r.payload with
  | none =>
    rw [hdecode] at h
    cases h
  | some s =>
    rw [hdecode] at h
    obtain rfl := OptionReport.eq_of_decode_payload hdecode
    unfold publish at h ⊢
    dsimp only at h ⊢
    split
    · rfl
    · rename_i hstopped
      rw [if_neg hstopped] at h
      cases h

/-- A loop that does not take a report is not running, or cannot read it. -/
lemma DeliveryLoop.receive_error {τ : Type} {l : DeliveryLoop τ} {topic : String}
    {payload : ByteArray} {e : LinkError} (h : (l.receive topic payload).1 = .error e) :
    e = .malformed ∨ e = .notConnected := by
  unfold receive publish at h
  split at h
  · split at h
    · cases h
    · cases h
      exact .inr rfl
  · cases h
    exact .inl rfl

namespace RemoteFilter

variable {f : RemoteFilter} {options : List Assignment} {t : Told RemoteFilter}

/-- A filter that takes over a report changes in what its proxy takes over, and in its listeners. -/
lemma notify_eq_ok (h : f.notify options = .ok t) :
    ∃ changed, f.proxy.absorb options = .ok (changed, t.state.proxy) ∧
      t.state.destroyed = f.destroyed ∧ t.state.proxy.link? = f.proxy.link? := by
  obtain ⟨⟨⟩, -, h⟩ := Outcome.bind_eq_ok.mp h
  obtain ⟨⟨changed, q⟩, habsorb, h⟩ := Outcome.bind_eq_ok.mp h
  obtain rfl := Outcome.pure_eq_ok.mp h
  refine ⟨changed, habsorb, rfl, ?_⟩
  obtain ⟨values, -, -, hq⟩ := RemoteProxy.absorb_eq_ok.mp habsorb
  rw [← hq]
  rfl

end RemoteFilter

/-- The commands by which a host uses its filters and a device goes on by itself: options are
written and read back, the device changes values, its link is cut or restored, and its listeners
come and go. -/
def Command.Exchanges : Command → Prop
  | .writeOption .. | .enable .. | .writeTemporal .. | .writeBytes .. | .writeSensorBytes .. => True
  | .refresh .. | .refreshSensor .. => True
  | .push .. | .setRejection .. | .setConnected .. => True
  | .nameSensorFilter .. | .allowOption .. => True
  | .onChange .. | .watch .. | .nextValue .. | .cancel .. => True
  | _ => False

namespace Workbench

variable {w : Workbench} {d : Device} {l : DeliveryLoop Target}

/-- A step in which no report is lost: a change by a device is refused by the device or queued, all
that has been queued is delivered, and nothing is dropped. -/
structure Smooth (w : Workbench) (c : Command) (leave : Bool) : Prop where
  pushed : ∀ name filter options e, c = .push name filter options →
    (w.step c.act leave).1 = .error (.link e) → ∃ reason, e = .protocol reason
  drained : ∀ n l, (w.step c.act leave).2.2.loops.get? n = some l → l.queue = [] ∧ l.inFlight = []
  dropped : ∀ n l l', w.loops.get? n = some l → (w.step c.act leave).2.2.loops.get? n = some l' →
    l'.dropped = l.dropped

/-- A step stays in step if its operation does. -/
lemma StaysInStep.step {α : Type} {act : Bench α} (h : Bench.Within StaysInStep act w)
    (leave : Bool) :
    w.StaysInStep (w.step act leave).2.2 := by
  have hsettle := Bench.Course.trans h (Bench.stays_settle (w := (act.exec w).2))
  rw [step_state]
  exact Bench.Course.trans hsettle (StaysInStep.of_eq rfl rfl rfl rfl)

/-- A command that is not about a change by the device stays in step. -/
lemma stays_act (hw : w.Sound) {c : Command} (hc : c.Exchanges)
    (hpush : ∀ name filter options, c ≠ .push name filter options) :
    Bench.Within StaysInStep c.act w := by
  cases c with
  | writeOption => exact .named fun n => Bench.stays_writeOption hw n _ _
  | enable => exact .named fun n => Bench.stays_writeOption hw n _ _
  | writeTemporal => exact .ignored (Bench.stays_writeTemporal hw _ _ _)
  | writeBytes => exact .named fun n => Bench.stays_writeBytes n _
  | writeSensorBytes =>
    refine Bench.Within.bind_reads (Bench.reads_sensor _) fun s _ => ?_
    exact Bench.Within.bind_ofFilter fun slot _ => Bench.stays_writeBytes slot.filter _
  | refresh => exact .named fun n => .ignored (Bench.stays_refresh n)
  | refreshSensor => exact .ignored (Bench.stays_refreshSensor _)
  | push name filter options => exact absurd rfl (hpush name filter options)
  | setRejection name reason? =>
    show Bench.Within _ (Bench.changeDevice name fun d => { d with rejection? := reason? }) w
    exact Bench.stays_changeDevice name fun _ => ⟨⟨rfl, rfl, rfl⟩, rfl⟩
  | setConnected name on =>
    show Bench.Within _ (Bench.changeDevice name fun d => { d with connected := on }) w
    exact Bench.stays_changeDevice name fun _ => ⟨⟨rfl, rfl, rfl⟩, rfl⟩
  | nameSensorFilter => exact .ignored (Bench.stays_nameSensorFilter _ _ _)
  | allowOption => exact Bench.stays_allowOption _ _ _
  | onChange => exact Bench.stays_keepWatch _ _ _ _ _
  | watch => exact Bench.stays_watch _ _ _
  | nextValue => exact .ignored (Bench.stays_nextValue _)
  | cancel => exact Bench.stays_cancel _
  | _ => cases hc

/-- The workbench is in step with the changed device once the filter has taken over the change. -/
lemma InStep.of_notify (h : w.InStep d l) {w' : Workbench} {d' : Device} {l' : DeliveryLoop Target}
    {n : Nat} {f : RemoteFilter} {t : Told RemoteFilter} {hosted : HostedFilter}
    {options values : List Assignment} (hget : w.filters.get? n = some (.remote f))
    (hnotify : f.notify options = .ok t) (hhosted : d.filter? f.name = some hosted)
    (hoverlay : Device.overlay hosted.kind hosted.values options = .ok values)
    (hparams : ∃ params, Parameters.ofOptions hosted.kind values = .ok params) (hkeeps : d.Keeps d')
    (hchanged : d'.filters = (d.withFilter f.name { hosted with values }).filters)
    (hroutes : l'.routes = l.routes) (hqueue : l'.queue = []) (hinFlight : l'.inFlight = [])
    (hlinks : w'.links.members.entries = [(0, .device d')])
    (hloops : w'.loops.members.entries = [(0, l')])
    (hfilters : w'.filters = w.filters.put n (.remote t.state))
    (hnames : w'.names.filters = w.names.filters) : w'.InStep d' l' := by
  obtain ⟨changed, habsorb, hlive, hlink⟩ := RemoteFilter.notify_eq_ok hnotify
  have hmirrored := (h.coupled hget).mirrored
  obtain ⟨_, hfound, -⟩ := hmirrored.hosted
  cases hhosted.symm.trans hfound
  have hfilter := Device.filter?_congr hchanged
  have hagain := hmirrored.of_push hkeeps hfound hoverlay hparams
    ((hfilter _).trans (Device.filter?_withFilter_self _ _ _)) habsorb
  have hothers : ∀ other, other ≠ f.name → d'.filter? other = d.filter? other :=
    fun other hne => (hfilter other).trans (Device.filter?_withFilter_of_ne hne _)
  have hname : t.state.name = f.name := (RemoteProxy.evolves_absorb habsorb).name
  exact h.put hget hname hlive hlink hkeeps hagain hothers hroutes hqueue hinFlight hlinks hloops
    hfilters hnames

/-- What a device reports in a smooth step is taken by the loop. -/
lemma Smooth.received {name filter topic : String} {options : List Assignment} {leave : Bool}
    {payload : ByteArray} {v : Workbench} (hsmooth : w.Smooth (.push name filter options) leave)
    (hexec : (Bench.push name filter options).exec w =
      (Bench.ofLink (l.receive topic payload).1).exec v) :
    (l.receive topic payload).1 = .ok () := by
  cases houtcome : (l.receive topic payload).1 with
  | ok u => rfl
  | error e =>
    exfalso
    have hfails : (w.step (Command.push name filter options).act leave).1 = .error (.link e) := by
      have hresult : (w.step (Command.push name filter options).act leave).1 =
          ((Bench.push name filter options).exec w).1 := by cases leave <;> rfl
      rw [hresult, hexec, houtcome]
      rfl
    -- the device refuses with errors of the protocol, the loop with others
    obtain ⟨reason, rfl⟩ := hsmooth.pushed name filter options e rfl hfails
    rcases DeliveryLoop.receive_error houtcome with h | h <;> cases h

/-- Where a step leaves the workbench, if the only loop has been left with something to deliver. -/
lemma step_drained {α : Type} {act : Bench α} {waiting l' : DeliveryLoop Target} {u v : Workbench}
    (leave : Bool) (hact : (act.exec w).2 = u) (hloops : u.loops.members.entries = [(0, waiting)])
    (hdrain : (waiting.drain Bench.isLive Bench.hand).exec u = (.ok l', v)) :
    (w.step act leave).2.2 = { v with
      loops := v.loops.modify 0 fun _ => l'
      calls := (w.step act leave).2.2.calls } := by
  have hsettle : (Bench.settle.exec u).2 = { v with loops := v.loops.modify 0 fun _ => l' } := by
    rw [Bench.exec_settle hloops, Bench.exec_bind_ok hdrain]
    rfl
  rw [step_state, hact, hsettle]

/-- A smooth step brings what the device has changed by itself to the host. -/
lemma InStep.step_push (h : w.InStep d l) {name filter : String} {options : List Assignment}
    {leave : Bool} (hsmooth : w.Smooth (.push name filter options) leave) :
    ∃ d' l', (w.step (Command.push name filter options).act leave).2.2.InStep d' l' := by
  rcases Bench.exec_push h name filter options with ⟨d', hstep⟩ |
    ⟨d', hosted, values, hhosted, hoverlay, hparams, hkeeps, hfilters, hexec⟩
  · obtain ⟨d'', hsettled⟩ := Bench.stays_settle d' l hstep
    refine ⟨d'', l, ?_⟩
    rw [step_state]
    exact hsettled.congr rfl rfl rfl rfl
  · have houtcome := hsmooth.received hexec
    have hreceived := DeliveryLoop.receive_eq_ok houtcome
    rw [h.queue, List.nil_append] at hreceived
    rw [houtcome, hreceived] at hexec
    set waiting : DeliveryLoop Target :=
      { l with queue := [⟨d.notificationTopic, ⟨filter, options⟩⟩] } with hwaiting
    set pushed : Workbench := { w with
      links := w.links.put 0 (.device d')
      loops := w.loops.modify 0 fun _ => waiting } with hpushed
    have hpushedLoops : pushed.loops.members.entries = [(0, waiting)] :=
      Pool.entries_modify h.loops _
    have htargets : ∀ t ∈ waiting.targets d.notificationTopic filter, ∃ n f,
        waiting.targets d.notificationTopic filter = [.filter n] ∧
          pushed.filters.get? n = some (.remote f) ∧ f.name = filter := by
      intro t ht
      obtain ⟨n, f, rfl, hget, hname⟩ := h.targets filter t ht
      exact ⟨n, f, hname ▸ (h.coupled hget).target, hget, hname⟩
    obtain ⟨l', v, hdrain, hloops, hdelivered⟩ :=
      Bench.exec_drain_report (w := pushed) (l := waiting) rfl h.inFlight htargets
    have hstate := step_drained leave (congrArg Prod.snd hexec) hpushedLoops hdrain
    have hentries : (v.loops.modify 0 fun _ => l').members.entries = [(0, l')] := by
      rw [hloops]
      exact Pool.entries_modify hpushedLoops _
    have hl' : (w.step (Bench.push name filter options) leave).2.2.loops.get? 0 = some l' := by
      rw [hstate]
      exact Pool.get?_of_entries hentries
    -- nothing is left and nothing has been dropped, so the filter has taken the report over
    obtain ⟨hqueue, -⟩ := hsmooth.drained 0 l' hl'
    obtain ⟨n, f, t, mailboxes, calls, hget, rfl, hnotify, hroutes, hinFlight, rfl⟩ :=
      hdelivered hqueue (hsmooth.dropped 0 l l' h.get?_loop hl')
    refine ⟨d', l', ?_⟩
    rw [Command.act, hstate]
    exact h.of_notify hget hnotify hhosted hoverlay hparams hkeeps hfilters hroutes hqueue hinFlight
      (Pool.entries_put h.links _) hentries rfl rfl

/-- A smooth step keeps host and device in step. -/
theorem InStep.step (hw : w.Sound) (h : w.InStep d l) {c : Command} (hc : c.Exchanges)
    {leave : Bool} (hsmooth : w.Smooth c leave) :
    ∃ d' l', (w.step c.act leave).2.2.InStep d' l' := by
  by_cases hpush : ∃ name filter options, c = .push name filter options
  · obtain ⟨name, filter, options, rfl⟩ := hpush
    exact h.step_push hsmooth
  · have hstays := stays_act hw hc fun name filter options heq =>
      hpush ⟨name, filter, options, heq⟩
    obtain ⟨d', hstep⟩ := StaysInStep.step hstays leave d l h
    exact ⟨d', l, hstep⟩

end Workbench

end EmbeddedFilters
