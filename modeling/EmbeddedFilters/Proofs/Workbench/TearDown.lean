import EmbeddedFilters.Proofs.Workbench.Agreement

/-!
# Filters that have been torn down

A remote filter is torn down by itself or together with its sensor, and names may stand for it
afterwards. It is at rest then (`RemoteFilter.AtRest`), and it stays at rest whatever is done later,
because every operation makes a later filter of it (`RemoteFilter.Evolves`). What is left to show is
that each way of using a filter at rest fails before it has done anything (`Command.Uses.fails`):
every write, refresh and report looks first whether the filter is alive, and a subscription whether
its watcher is closed. An operation that goes through the filters of a sensor may have done
something with others before it comes to the filter at rest, but it fails there
(`Command.Sweeps.fails`). Settings are restored in spite of refused writes, so that operation
succeeds, but it does nothing (`Bench.idles_restoreNamed`).
-/

namespace EmbeddedFilters

open Outcome

namespace RemoteFilter

variable {f : RemoteFilter}

namespace AtRest

/-- A filter at rest counts as destroyed. -/
lemma state (h : f.AtRest) : f.state = .destroyed := by
  rw [RemoteFilter.state, h.destroyed, if_pos rfl]

/-- A filter at rest does not pass for live. -/
lemma ensureLive (h : f.AtRest) : f.ensureLive = .error (.destroyed f.name) := by
  rw [RemoteFilter.ensureLive, h.destroyed, if_pos rfl]

/-- A filter at rest refuses reports. -/
lemma notify (h : f.AtRest) (options : List Assignment) :
    f.notify options = .error (.destroyed f.name) := by
  rw [RemoteFilter.notify, h.ensureLive, error_bind]

/-- A filter at rest does not ask its device. -/
lemma inquire (h : f.AtRest) : f.inquire = .error (.destroyed f.name) := by
  rw [RemoteFilter.inquire, h.ensureLive, error_bind]

/-- A filter at rest refuses bytes. -/
lemma prepareBytes (h : f.AtRest) (bytes : List UInt8) :
    f.prepareBytes bytes = .error (.destroyed f.name) := by
  rw [RemoteFilter.prepareBytes, h.ensureLive, error_bind]

/-- A write to an option is refused, by the model of the option or because the filter is not
alive. -/
lemma prepareOption (h : f.AtRest) (id : OptionId) (value : OptionValue) :
    ∃ e, f.prepareOption id value = .error e := by
  cases hprepared : f.prepareOption id value with
  | error e => exact ⟨e, rfl⟩
  | ok s => exact absurd h (not_atRest (live_of_prepareOption hprepared))

/-- The watcher of a filter at rest is silent. -/
lemma silent (h : f.AtRest) : (f.watcher.poisoned || f.watcher.closing) = true := by
  rw [h.closing, Bool.or_true]

end AtRest

end RemoteFilter

/-- Tearing a filter down again changes nothing. -/
lemma Filter.destroy_destroy (f : Filter) : f.destroy.destroy = f.destroy := by cases f <;> rfl

namespace Workbench

/-- A name stands for the filter with a number. -/
def StandsFor (w : Workbench) (name : String) (n : Nat) : Prop :=
  ∃ h, w.names.filters.get? name = some h ∧ h.number = n

/-- The filter with a number is a remote one at rest. -/
def RestsAt (w : Workbench) (n : Nat) : Prop :=
  ∃ f, w.filters.get? n = some (.remote f) ∧ f.AtRest

/-- A sensor goes through the filter with a number when it goes through its remote filters. -/
def GoesThrough (w : Workbench) (sensor : String) (n : Nat) : Prop :=
  ∃ m s, w.names.sensors.get? sensor = some m ∧ w.sensors.get? m = some s ∧ n ∈ Bench.remoteSlots s

/-- What is at rest stays at rest. -/
lemma Continues.rests {w v : Workbench} (h : w.Continues v) {n : Nat} (hw : w.Sound ∧ w.RestsAt n) :
    v.Sound ∧ v.RestsAt n := by
  obtain ⟨hsound, f, hget, hf⟩ := hw
  obtain ⟨hv, hevolves⟩ := h hsound
  obtain ⟨_, hgetv, hfg⟩ := hevolves.filters n _ hget
  cases hfg with
  | remote hfg => exact ⟨hv, _, hgetv, (hfg.rest hf).1⟩

end Workbench

namespace Bench

variable {w : Workbench} {α β : Type} {name : String} {n : Nat}

/-! ### Using a filter at rest -/

/-- The operation fails, and leaves the workbench as it is. -/
def Fails (x : Bench α) (w : Workbench) : Prop := ∃ e, x.exec w = (.error e, w)

/-- A chain fails if its first part does. -/
lemma Fails.bind {x : Bench α} (h : Fails x w) (f : α → Bench β) : Fails (x >>= f) w := by
  obtain ⟨e, h⟩ := h
  exact ⟨e, exec_bind_error h f⟩

/-- A chain that looks something up first fails if the rest does. -/
lemma Fails.after {x : Bench α} {f : α → Bench β} {a : α} (hx : x.exec w = (.ok a, w))
    (hf : Fails (f a) w) : Fails (x >>= f) w := by
  obtain ⟨e, hf⟩ := hf
  exact ⟨e, (exec_bind_ok hx f).trans hf⟩

/-- To hand on a failure of a filter fails. -/
lemma Fails.ofFilter {x : Except FilterError α} (h : ∃ e, x = .error e) : Fails (ofFilter x) w := by
  obtain ⟨e, rfl⟩ := h
  exact ⟨.filter e, rfl⟩

/-- To insist on what is not there fails. -/
lemma Fails.found (look : Workbench → Option α) {field : String} (h : look w = none) :
    Fails (do found field (look (← get))) w :=
  ⟨.noObject field, exec_lookup_none look h field⟩

/-- An operation on a filter by its name fails if it fails by its number. -/
lemma Fails.named (hname : w.StandsFor name n) {act : Nat → Bench α} (h : Fails (act n) w) :
    Fails (filterNumber name >>= act) w := by
  obtain ⟨handle, hhandle, rfl⟩ := hname
  exact .after (exec_filterNumber hhandle) h

/-- A filter at rest refuses to have an option written. -/
lemma fails_writeOption (h : w.RestsAt n) (id : OptionId) (value : OptionValue) :
    Fails (writeOption n id value) w := by
  obtain ⟨f, hget, hf⟩ := h
  exact .after (exec_filter hget) ((Fails.ofFilter (hf.prepareOption id value)).bind _)

/-- A filter at rest refuses to have bytes written. -/
lemma fails_writeBytes (h : w.RestsAt n) (bytes : List UInt8) : Fails (writeBytes n bytes) w := by
  obtain ⟨f, hget, hf⟩ := h
  exact .after (exec_filter hget) ((Fails.ofFilter ⟨_, hf.prepareBytes bytes⟩).bind _)

/-- A filter at rest refuses to be refreshed. -/
lemma fails_refresh (h : w.RestsAt n) : Fails (refresh n) w := by
  obtain ⟨f, hget, hf⟩ := h
  exact .after (exec_remoteFilter hget) ((Fails.ofFilter ⟨_, hf.inquire⟩).bind _)

/-- A filter at rest fails to take a report. -/
lemma fails_notify (h : w.RestsAt n) (options : List Assignment) : Fails (notify n options) w := by
  obtain ⟨f, hget, hf⟩ := h
  exact .after (exec_remoteFilter hget) ((Fails.ofFilter ⟨_, hf.notify options⟩).bind _)

/-- A filter at rest refuses to be subscribed. -/
lemma fails_subscribe (h : w.RestsAt n) (loop : Nat) (topic : String) :
    Fails (subscribe n loop topic) w := by
  obtain ⟨f, hget, hf⟩ := h
  exact .after (exec_remoteFilter hget) ((Fails.ofFilter ⟨_, hf.ensureLive⟩).bind _)

/-- A filter at rest refuses to have a temporal option written. -/
lemma fails_writeTemporal (hname : w.StandsFor name n) (h : w.RestsAt n) {f : Filter}
    (hget : w.filters.get? n = some f) (hkind : f.kind = .temporal) (id : OptionId)
    (value : OptionValue) : Fails (writeTemporal name id value) w := by
  refine .named hname (.after (exec_filter hget) ?_)
  rw [if_pos hkind]
  exact (fails_writeOption h id value).bind _

/-- A filter at rest takes no subscription. -/
lemma fails_keepWatch (hname : w.StandsFor name n) (h : w.RestsAt n) (id : OptionId) (tag : String)
    (listener : Listener) (mailbox? : Option Nat) :
    Fails (keepWatch name id tag listener mailbox?) w := by
  obtain ⟨f, hget, hf⟩ := h
  refine .named hname (.after (exec_filter hget) ?_)
  cases hmodel : (Filter.remote f).model id with
  | error e => exact (Fails.ofFilter ⟨e, rfl⟩).bind _
  | ok m =>
    have hrefused : ∃ e, f.watcher.subscribe id listener = .error e :=
      ⟨_, Watcher.subscribe_silent hf.silent listener⟩
    exact .after (exec_ofFilter_ok m w) ((Fails.ofFilter hrefused).bind _)

/-- Nothing is done as long as the filter with a number is at rest. -/
def Idles (n : Nat) (w v : Workbench) : Prop := w.RestsAt n → v = w

/-- What does nothing may be done again and again. -/
instance : Course (Idles n) where
  refl _ _ := rfl
  trans h h' hrests := by
    obtain rfl := h hrests
    exact h' hrests

/-- Writing an option leaves a filter at rest alone. -/
lemma idles_writeOption (n : Nat) (id : OptionId) (value : OptionValue) (w : Workbench) :
    Within (Idles n) (writeOption n id value) w := by
  intro h
  obtain ⟨e, he⟩ := fails_writeOption h id value
  rw [he]

/-- Restoring a filter at rest leaves it alone. -/
lemma idles_restoreNamed (hname : w.StandsFor name n) (store full : String) (default : Bool) :
    Within (Idles n) (restoreNamed name store full default) w := by
  obtain ⟨handle, hhandle, rfl⟩ := hname
  refine Within.bind_reads (reads_filterNumber name) fun m hm => ?_
  cases (exec_filterNumber hhandle).symm.trans hm
  refine Within.bind_reads (reads_store store) fun s _ => ?_
  exact Within.restore (idles_writeOption handle.number) s full default

/-! ### Going through the filters of a sensor -/

/-- Operations in turn come to a fold over nothing. -/
lemma forM_eq_foldlM (list : List α) (f : α → Bench Unit) :
    list.forM f = list.foldlM (fun _ a => f a) () := by
  induction list with
  | nil => rfl
  | cons a list ih =>
    show (f a >>= fun _ => list.forM f) = f a >>= fun _ => list.foldlM (fun _ a => f a) ()
    rw [ih]

/-- A loop fails if it goes through an item where it must fail, whatever it has done before. -/
lemma error_of_foldlM {P : Workbench → Prop} {list : List α} {f : β → α → Bench β} {a : α}
    (ha : a ∈ list) (hkeep : ∀ b c w, P w → P ((f b c).exec w).2)
    (hfail : ∀ b w, P w → Fails (f b a) w) (b : β) (hw : P w) :
    ∃ e, ((list.foldlM f b).exec w).1 = .error e := by
  induction list generalizing b w with
  | nil => cases ha
  | cons c list ih =>
    have hnext := hkeep b c w hw
    rw [List.foldlM_cons, exec_bind]
    cases hc : (f b c).exec w with
    | mk r v =>
      rw [hc] at hnext
      cases r with
      | error e => exact ⟨e, rfl⟩
      | ok b' =>
        rcases List.mem_cons.mp ha with rfl | ha
        · obtain ⟨e, he⟩ := hfail b w hw
          cases hc.symm.trans he
        · exact ih ha b' hnext

/-- What fails at first fails as a whole. -/
lemma error_of_bind {x : Bench α} (h : ∃ e, (x.exec w).1 = .error e) (f : α → Bench β) :
    ∃ e, ((x >>= f).exec w).1 = .error e := by
  obtain ⟨e, h⟩ := h
  cases hx : x.exec w with
  | mk r v =>
    rw [hx] at h
    cases h
    exact ⟨e, by rw [exec_bind_error hx]⟩

/-- A sensor with a filter at rest cannot be attached. -/
lemma error_of_attachSensor {m loop : Nat} {s : Sensor} (hsound : w.Sound) (h : w.RestsAt n)
    (hsensor : w.sensors.get? m = some s) (hn : n ∈ remoteSlots s) :
    ∃ e, ((attachSensor m loop).exec w).1 = .error e := by
  rw [attachSensor, exec_bind_ok (exec_sensorAt hsensor)]
  refine error_of_bind ?_ _
  rw [forM_eq_foldlM]
  refine error_of_foldlM (P := fun w => w.Sound ∧ w.RestsAt n) hn (fun _ k v hv => ?_)
    (fun _ v hv => fails_subscribe hv.2 loop _) () ⟨hsound, h⟩
  exact Workbench.Continues.rests (orderly_subscribe k loop _).continues hv

/-- A sensor with a filter at rest cannot be refreshed. -/
lemma error_of_refreshSensor (hsound : w.Sound) (h : w.RestsAt n)
    (hthrough : w.GoesThrough name n) :
    ∃ e, ((refreshSensor name).exec w).1 = .error e := by
  obtain ⟨m, s, hname, hsensor, hn⟩ := hthrough
  rw [refreshSensor, exec_bind_ok (exec_sensor hname hsensor)]
  refine error_of_foldlM (P := fun w => w.Sound ∧ w.RestsAt n) hn (fun _ k v hv => ?_)
    (fun _ v hv => (fails_refresh hv.2).bind _) 0 ⟨hsound, h⟩
  refine Workbench.Continues.rests ?_ hv
  exact Within.bind (orderly_refresh k).continues fun _ _ _ => Within.pure _

/-! ### Tearing a filter down -/

/-- Where all filters of a list have been torn down, each of them has; one that had been before is
as it was. -/
lemma destroyed_of_forM {slots : List SensorSlot} {v : Workbench}
    (hdone : (slots.forM fun slot => destroy slot.filter).exec w = (.ok (), v)) {f : Filter}
    (hget : w.filters.get? n = some f) (hn : n ∈ slots.map (·.filter) ∨ f.destroy = f) :
    v.filters.get? n = some f.destroy := by
  induction slots generalizing w f with
  | nil =>
    have hfixed : f.destroy = f := hn.resolve_left (by simp)
    cases hdone
    rw [hfixed, hget]
  | cons slot slots ih =>
    cases hslot : w.filters.get? slot.filter with
    | none =>
      have hfails : Fails (destroy slot.filter) w :=
        (Fails.found (fun w => w.filters.get? slot.filter) hslot).bind _
      obtain ⟨e, he⟩ := hfails.bind fun _ => slots.forM fun slot => destroy slot.filter
      cases he.symm.trans hdone
    | some k =>
      have hrest := (exec_bind_ok (exec_destroy hslot) _).symm.trans hdone
      have hfilters := w.tornDown_filters slot.filter k
      by_cases heq : n = slot.filter
      · subst heq
        obtain rfl := Option.some.inj (hget.symm.trans hslot)
        rw [← f.destroy_destroy]
        exact ih hrest (by rw [hfilters, Pool.get?_put_self]) (.inr f.destroy_destroy)
      · refine ih hrest (by rw [hfilters, Pool.get?_put_of_ne _ heq, hget])
          (hn.imp_left fun hn => ?_)
        exact (List.mem_cons.mp hn).resolve_left heq

/-- A sensor that has been dropped has left its filters torn down. -/
lemma destroyed_of_dropSensor {m : Nat} {s : Sensor} (hname : w.names.sensors.get? name = some m)
    (hsensor : w.sensors.get? m = some s) (hn : n ∈ s.slots.map (·.filter)) {f : Filter}
    (hget : w.filters.get? n = some f) {v : Workbench}
    (hdone : (dropSensor name).exec w = (.ok (), v)) : v.filters.get? n = some f.destroy := by
  rw [dropSensor, exec_bind_ok (exec_sensorNumber hname)] at hdone
  let u : Workbench := { w with names := { w.names with sensors := w.names.sensors.erase name } }
  have hend : (endSensor m).exec u = (.ok (), v) := hdone
  rw [endSensor, exec_bind_ok (exec_sensorAt (w := u) hsensor)] at hend
  cases hall : (s.slots.forM fun slot => destroy slot.filter).exec u with
  | mk r x =>
    cases r with
    | error e =>
      rw [exec_bind_error hall] at hend
      cases hend
    | ok _ =>
      rw [exec_bind_ok hall] at hend
      have hx := destroyed_of_forM hall hget (.inl hn)
      -- the loop that the sensor has held is released, and filters stay as they are
      cases hloop : s.loop? with
      | none =>
        rw [hloop] at hend
        cases hend
        exact hx
      | some l =>
        rw [hloop] at hend
        cases hend
        exact hx

end Bench

namespace Command

variable {w : Workbench} {n : Nat} {c : Command}

/-- The command tears the filter with a number down, by itself or with its sensor. -/
inductive TearsDown (w : Workbench) (n : Nat) : Command → Prop where
  | destroy {name : String} : w.StandsFor name n → TearsDown w n (.destroy name)
  | dropSensor {name : String} {m : Nat} {s : Sensor} : w.names.sensors.get? name = some m →
      w.sensors.get? m = some s → n ∈ s.slots.map (·.filter) → TearsDown w n (.dropSensor name)

/-- The command writes the filter with a number, has it refreshed or notified, or subscribes it or
to it. -/
inductive Uses (w : Workbench) (n : Nat) : Command → Prop where
  | writeOption {name : String} (id : OptionId) (value : OptionValue) :
      w.StandsFor name n → Uses w n (.writeOption name id value)
  | enable {name : String} (on : Bool) : w.StandsFor name n → Uses w n (.enable name on)
  | writeTemporal {name : String} {f : Filter} (id : OptionId) (value : OptionValue) :
      w.StandsFor name n → w.filters.get? n = some f → f.kind = .temporal →
      Uses w n (.writeTemporal name id value)
  | writeBytes {name : String} (bytes : List UInt8) :
      w.StandsFor name n → Uses w n (.writeBytes name bytes)
  | writeSensorBytes {name : String} {m : Nat} {s : Sensor} {slot : SensorSlot} {kind : FilterKind}
      (bytes : List UInt8) : w.names.sensors.get? name = some m → w.sensors.get? m = some s →
      s.slot kind = .ok slot → slot.filter = n → Uses w n (.writeSensorBytes name kind bytes)
  | refresh {name : String} : w.StandsFor name n → Uses w n (.refresh name)
  | notify {name : String} (options : List Assignment) :
      w.StandsFor name n → Uses w n (.notify name options)
  | subscribe {name : String} (loop topic : String) :
      w.StandsFor name n → Uses w n (.subscribe name loop topic)
  | onChange {name : String} (id : OptionId) (tag : String) (panics : Bool) :
      w.StandsFor name n → Uses w n (.onChange name id tag panics)
  | watch {name : String} (id : OptionId) (tag : String) :
      w.StandsFor name n → Uses w n (.watch name id tag)

/-- The command attaches or refreshes a sensor that goes through the filter with a number. -/
inductive Sweeps (w : Workbench) (n : Nat) : Command → Prop where
  | attachSensor {name : String} (loop : String) :
      w.GoesThrough name n → Sweeps w n (.attachSensor name loop)
  | refreshSensor {name : String} : w.GoesThrough name n → Sweeps w n (.refreshSensor name)

/-- The command fails, and leaves the workbench as it is; at most it has added an empty mailbox. -/
def FailsIdly (c : Command) (w : Workbench) : Prop :=
  ∃ e, c.act.exec w = (.error e, w) ∨
    c.act.exec w = (.error e, { w with mailboxes := (w.mailboxes.add []).2 })

/-- Whatever uses a filter at rest fails. -/
lemma Uses.fails (hc : c.Uses w n) (h : w.RestsAt n) : c.FailsIdly w := by
  have hidle : Bench.Fails c.act w → c.FailsIdly w := fun hfails => hfails.imp fun _ => .inl
  cases hc with
  | writeOption id value hname => exact hidle (.named hname (Bench.fails_writeOption h id value))
  | enable on hname => exact hidle (.named hname (Bench.fails_writeOption h .toggle (.ofBool on)))
  | writeTemporal id value hname hget hkind =>
    exact hidle ((Bench.fails_writeTemporal hname h hget hkind id value).bind _)
  | writeBytes bytes hname => exact hidle (.named hname (Bench.fails_writeBytes h bytes))
  | @writeSensorBytes name _ _ slot kind bytes hname hsensor hslot hn =>
    obtain ⟨e, he⟩ := Bench.fails_writeBytes (hn ▸ h) bytes
    have hexec := Bench.exec_slot
      (fun slot => Bench.writeBytes slot.filter bytes) hname hsensor hslot
    exact hidle ⟨e, hexec.trans he⟩
  | refresh hname => exact hidle (.named hname ((Bench.fails_refresh h).bind _))
  | notify options hname => exact hidle (.named hname ((Bench.fails_notify h options).bind _))
  | @subscribe name loop topic hname =>
    refine hidle (.named hname ?_)
    cases hloop : w.names.loops.get? loop with
    | none => exact (Bench.Fails.found (fun w => w.names.loops.get? loop) hloop).bind _
    | some l =>
      exact .after (Bench.exec_lookup (fun w => w.names.loops.get? loop) hloop _)
        (Bench.fails_subscribe h l topic)
  | onChange id tag panics hname =>
    exact hidle (Bench.fails_keepWatch hname h id tag (.callback tag panics) none)
  | watch id tag hname =>
    obtain ⟨e, he⟩ := Bench.fails_keepWatch (w := { w with mailboxes := (w.mailboxes.add []).2 })
      hname h id tag (.mailbox (w.mailboxes.add []).1) (some (w.mailboxes.add []).1)
    exact ⟨e, .inr he⟩

/-- Whatever goes through a filter at rest fails. -/
lemma Sweeps.fails (hc : c.Sweeps w n) (hsound : w.Sound) (h : w.RestsAt n) :
    ∃ e, (c.act.exec w).1 = .error e := by
  cases hc with
  | @attachSensor name loop hthrough =>
    obtain ⟨m, s, hname, hsensor, hn⟩ := hthrough
    rw [act, Bench.exec_bind_ok (Bench.exec_sensorNumber hname)]
    cases hloop : w.names.loops.get? loop with
    | none =>
      obtain ⟨e, he⟩ :=
        (Bench.Fails.found (fun w => w.names.loops.get? loop) hloop).bind (Bench.attachSensor m)
      exact ⟨e, congrArg Prod.fst he⟩
    | some l =>
      rw [Bench.loopNumber,
        Bench.exec_bind_ok (Bench.exec_lookup (fun w => w.names.loops.get? loop) hloop _)]
      exact Bench.error_of_attachSensor hsound h hsensor hn
  | refreshSensor hthrough =>
    exact Bench.error_of_bind (Bench.error_of_refreshSensor hsound h hthrough) _

/-- A filter that has been torn down is where it was, torn down and otherwise the same. -/
lemma TearsDown.destroyed (hc : c.TearsDown w n) {f : Filter} (hget : w.filters.get? n = some f)
    {v : Workbench} (hdone : c.act.exec w = (.ok (), v)) : v.filters.get? n = some f.destroy := by
  cases hc with
  | destroy hname =>
    obtain ⟨handle, hhandle, rfl⟩ := hname
    rw [act, Bench.exec_bind_ok (Bench.exec_filterNumber hhandle), Bench.exec_destroy hget] at hdone
    cases hdone
    rw [w.tornDown_filters, Pool.get?_put_self]
  | dropSensor hname hsensor hn => exact Bench.destroyed_of_dropSensor hname hsensor hn hget hdone

end Command

namespace Workbench

/-- What is left of a filter that has been torn down: the values, the bytes and the answers that it
had. It tells nobody anything, and refuses every report, whatever has been handed out before. What
uses it fails before it has sent, told or changed anything, and stored settings change nothing
either. -/
structure Silent (w : Workbench) (n : Nat) (f g : RemoteFilter) : Prop where
  there : w.filters.get? n = some (.remote g)
  state : g.state = .destroyed
  record : g.proxy.record = f.proxy.record
  bytes : (Filter.remote g).bytes = (Filter.remote f).bytes
  query : ∀ id value, (Filter.remote f).query id = .ok value →
    (Filter.remote g).query id = .ok value
  tells : ∀ changes, g.watcher.announce changes = ⟨g.watcher, [], false⟩
  reports : ∀ pending l options,
    let v := ((DeliveryLoop.handOut Bench.hand pending l).exec w).2
    (Bench.hand (.filter n) options).exec v = (.ok .refused, v)
  uses : ∀ c : Command, c.Uses w n → c.FailsIdly w
  sweeps : ∀ c : Command, c.Sweeps w n → ∃ e, (c.act.exec w).1 = .error e
  restores : ∀ name store full default, w.StandsFor name n →
    ((Command.restore name store full default).act.exec w).2 = w

/-- A later filter of one at rest is silent. -/
lemma silent_of_evolves {w : Workbench} (hw : w.Sound) {n : Nat} {f g : RemoteFilter}
    (hget : w.filters.get? n = some (.remote g)) (h : f.Evolves g) (hf : f.AtRest) :
    w.Silent n f g := by
  obtain ⟨hg, hrecord⟩ := h.rest hf
  exact {
    there := hget
    state := hg.state
    record := hrecord
    bytes := by rw [Filter.bytes, h.params hf, Filter.bytes]
    query := fun id value hquery => h.query hf hquery
    tells := Watcher.announce_silent hg.silent
    reports := fun pending l options => by
      have hcontinues : w.Continues ((DeliveryLoop.handOut Bench.hand pending l).exec w).2 :=
        Bench.Within.handOut
        (fun target options _ => (Bench.orderly_hand target options).continues) pending l
      obtain ⟨-, k, hk, hrests⟩ := hcontinues.rests ⟨hw, g, hget, hg⟩
      exact Bench.exec_hand_refused hk (hrests.notify options)
    uses := fun c huses => huses.fails ⟨g, hget, hg⟩
    sweeps := fun c hsweeps => hsweeps.fails hw ⟨g, hget, hg⟩
    restores := fun name store full default hname =>
      Bench.Within.ignored (Bench.idles_restoreNamed hname store full default) ⟨g, hget, hg⟩ }

/-- A remote filter that has been torn down, by itself or with its sensor, is silent ever after. -/
theorem torn_down_filter_stays_silent {w : Workbench} (hw : w.Reachable) {n : Nat}
    {f : RemoteFilter} (hget : w.filters.get? n = some (.remote f)) {c : Command}
    (hc : c.TearsDown w n) {leave : Bool} (hdone : (w.step c.act leave).1 = .ok ())
    (later : List (Command × Bool)) :
    ∃ g, ((w.step c.act leave).2.2.run later).Silent n f g := by
  have hact : c.act.exec w = (.ok (), (c.act.exec w).2) := by
    rw [step_result] at hdone
    exact Prod.ext hdone rfl
  obtain ⟨hsound, -⟩ := c.continues_act hw.sound
  obtain ⟨hv, hevolves⟩ :=
    Bench.Course.trans (continues_rest c.act leave) (continues_run later) hsound
  obtain ⟨_, hgetv, hfg⟩ := hevolves.filters n _ (hc.destroyed hget hact)
  cases hfg with
  | @remote _ g hfg =>
    -- tearing down changes neither the values of the filter nor its models
    have hsilent := silent_of_evolves hv hgetv hfg f.atRest_destroy
    exact ⟨g, { hsilent with }⟩

/-- A sensor with a temporal filter that has a name of its own. -/
def namedDepth : Workbench :=
  depthSensor.run [(.nameSensorFilter "sensor" .temporal "filter", false)]

/-- The filter of a sensor that has been dropped is silent after the device has changed a value, and
cannot be switched on. -/
theorem dropped_depth_is_silent : ∃ f g, namedDepth.filters.get? 0 = some (.remote f) ∧
    let v := (namedDepth.step (Command.dropSensor "sensor").act false).2.2.run [(pushing, false)]
    v.Silent 0 f g ∧ (Command.enable "filter" true).FailsIdly v := by
  have hreach : namedDepth.Reachable := (Reachable.start.run _).run _
  have hsensor : namedDepth.names.sensors.get? "sensor" = some 0 := by decide +kernel
  have hslots : (namedDepth.sensors.get? 0).map (·.slots) = some [⟨.temporal, 0⟩] := by
    decide +kernel
  have hremote : (namedDepth.remote? 0).isSome = true := by decide +kernel
  have hdropped : (namedDepth.step (Command.dropSensor "sensor").act false).1.toBool = true := by
    decide +kernel
  have hfilter : (((namedDepth.step (Command.dropSensor "sensor").act false).2.2.run
      [(pushing, false)]).names.filters.get? "filter") = some ⟨0, false⟩ := by decide +kernel
  obtain ⟨s, hs, hslots⟩ := Option.map_eq_some_iff.mp hslots
  obtain ⟨f, hf⟩ := Option.isSome_iff_exists.mp hremote
  have hget := remote?_eq_some.mp hf
  have hdrops : (Command.dropSensor "sensor").TearsDown namedDepth 0 :=
    .dropSensor hsensor hs (by rw [hslots]; exact List.mem_singleton.mpr rfl)
  have hdone : (namedDepth.step (Command.dropSensor "sensor").act false).1 = .ok () := by
    cases hresult : (namedDepth.step (Command.dropSensor "sensor").act false).1 with
    | ok _ => rfl
    | error e => rw [hresult] at hdropped; cases hdropped
  obtain ⟨g, hg⟩ := torn_down_filter_stays_silent hreach hget hdrops hdone [(pushing, false)]
  exact ⟨f, g, hget, hg, hg.uses _ (.enable true ⟨_, hfilter, rfl⟩)⟩

end Workbench

end EmbeddedFilters
