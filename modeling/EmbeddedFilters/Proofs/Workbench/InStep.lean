import EmbeddedFilters.Proofs.Device
import EmbeddedFilters.Proofs.Workbench.Sending

/-!
# Hosts in step with their device

A workbench is in step with a device if the device is the only link and reports to the only loop,
and all filters are remote ones whose proxies the device mirrors and whose reports the loop delivers
to them (`Workbench.InStep`). Nothing that is done on the side of the host, and nothing that is done
to the link, brings the workbench out of step (`Bench.stays_writeOption`, `Bench.stays_refresh` and
the lemmas beside them). What the device changes by itself does until the report has been delivered.
-/

namespace EmbeddedFilters

/-- A live filter that is linked to a device that mirrors its proxy, and that gets the reports of
the device through a loop. -/
structure RemoteFilter.Coupled (f : RemoteFilter) (n : Nat) (d : Device)
    (l : DeliveryLoop Target) : Prop where
  live : f.destroyed = false
  link : f.proxy.link? = some 0
  mirrored : d.Mirrors f.proxy
  target : l.targets d.notificationTopic f.name = [.filter n]

namespace Workbench

/-- The device is the only link, and reports to the only loop, where nothing waits; all filters are
remote filters of the device, and all routes lead to the filters of the reports. Names own no
filters. -/
structure InStep (w : Workbench) (d : Device) (l : DeliveryLoop Target) : Prop where
  links : w.links.members.entries = [(0, .device d)]
  loops : w.loops.members.entries = [(0, l)]
  reports : d.loop? = some 0
  queue : l.queue = []
  inFlight : l.inFlight = []
  filters : ∀ n g, w.filters.get? n = some g → ∃ f, g = .remote f ∧ f.Coupled n d l
  targets : ∀ name, ∀ t ∈ l.targets d.notificationTopic name, ∃ n f, t = .filter n ∧
    w.filters.get? n = some (.remote f) ∧ f.name = name
  borrowed : ∀ name h, w.names.filters.get? name = some h → h.owned = false

variable {w w' : Workbench} {d d' : Device} {l l' : DeliveryLoop Target}

namespace InStep

/-- The device is the link with the number zero. -/
lemma get?_link (h : w.InStep d l) : w.links.get? 0 = some (.device d) :=
  Pool.get?_of_entries h.links

/-- There is no other link than the device. -/
lemma eq_of_link (h : w.InStep d l) {n : LinkNumber} {x : Link} (hx : w.links.get? n = some x) :
    n = 0 ∧ x = .device d := by
  have hlookup : Table.lookup n w.links.members.entries = some x := hx
  rw [h.links] at hlookup
  by_cases hn : 0 = n
  · simp only [Table.lookup, hn, if_true, Option.some.injEq] at hlookup
    exact ⟨hn.symm, hlookup.symm⟩
  · simp [Table.lookup, hn] at hlookup

/-- The loop has the number zero. -/
lemma get?_loop (h : w.InStep d l) : w.loops.get? 0 = some l := Pool.get?_of_entries h.loops

/-- Filters with one name are one filter. -/
lemma number_of_name (h : w.InStep d l) {n m : Nat} {f g : RemoteFilter}
    (hf : w.filters.get? n = some (.remote f)) (hg : w.filters.get? m = some (.remote g))
    (hname : f.name = g.name) : n = m := by
  obtain ⟨_, heq, hfn⟩ := h.filters n _ hf
  cases heq
  obtain ⟨_, heq, hgm⟩ := h.filters m _ hg
  cases heq
  have htargets := hfn.target
  rw [hname, hgm.target] at htargets
  cases htargets
  rfl

/-- Every filter is coupled to the device and the loop. -/
lemma coupled (h : w.InStep d l) {n : Nat} {f : RemoteFilter}
    (hf : w.filters.get? n = some (.remote f)) : f.Coupled n d l := by
  obtain ⟨_, heq, hcoupled⟩ := h.filters n _ hf
  cases heq
  exact hcoupled

/-- All that counts is the links, the loops, the filters and their names. -/
lemma congr (h : w.InStep d l) (hlinks : w'.links.members.entries = w.links.members.entries)
    (hloops : w'.loops.members.entries = w.loops.members.entries)
    (hfilters : w'.filters = w.filters) (hnames : w'.names.filters = w.names.filters) :
    w'.InStep d l where
  links := hlinks.trans h.links
  loops := hloops.trans h.loops
  reports := h.reports
  queue := h.queue
  inFlight := h.inFlight
  filters := by
    rw [hfilters]
    exact h.filters
  targets := by
    rw [hfilters]
    exact h.targets
  borrowed := by
    rw [hnames]
    exact h.borrowed

/-- What is done to a device besides its filters keeps the workbench in step. -/
lemma of_keeps (h : w.InStep d l) (hkeeps : d.Keeps d') (hhosted : d'.filters = d.filters)
    (hlinks : w'.links.members.entries = [(0, .device d')])
    (hloops : w'.loops.members.entries = w.loops.members.entries)
    (hfilters : w'.filters = w.filters) (hnames : w'.names.filters = w.names.filters) :
    w'.InStep d' l where
  links := hlinks
  loops := hloops.trans h.loops
  reports := hkeeps.loop?.trans h.reports
  queue := h.queue
  inFlight := h.inFlight
  filters := by
    rw [hfilters]
    intro n g hg
    obtain ⟨f, rfl, hf⟩ := h.filters n g hg
    have hmirrored := hf.mirrored.of_keeps hkeeps (Device.filter?_congr hhosted _)
    refine ⟨f, rfl, hf.live, hf.link, hmirrored, ?_⟩
    rw [hkeeps.notificationTopic]
    exact hf.target
  targets := by
    rw [hfilters, hkeeps.notificationTopic]
    exact h.targets
  borrowed := by
    rw [hnames]
    exact h.borrowed

/-- A filter and the device may change together, as long as the device mirrors the proxy of the
filter afterwards. -/
lemma put (h : w.InStep d l) {n : Nat} {f g : RemoteFilter}
    (hget : w.filters.get? n = some (.remote f)) (hname : g.name = f.name)
    (hlive : g.destroyed = f.destroyed) (hlink : g.proxy.link? = f.proxy.link?)
    (hkeeps : d.Keeps d') (hmirrored : d'.Mirrors g.proxy)
    (hothers : ∀ other, other ≠ f.name → d'.filter? other = d.filter? other)
    (hroutes : l'.routes = l.routes) (hqueue : l'.queue = []) (hinFlight : l'.inFlight = [])
    (hlinks : w'.links.members.entries = [(0, .device d')])
    (hloops : w'.loops.members.entries = [(0, l')])
    (hfilters : w'.filters = w.filters.put n (.remote g))
    (hnames : w'.names.filters = w.names.filters) : w'.InStep d' l' where
  links := hlinks
  loops := hloops
  reports := hkeeps.loop?.trans h.reports
  queue := hqueue
  inFlight := hinFlight
  filters := by
    have htargets : ∀ name, l'.targets d'.notificationTopic name =
        l.targets d.notificationTopic name := by
      intro name
      rw [DeliveryLoop.targets, DeliveryLoop.targets, hroutes, hkeeps.notificationTopic]
    intro m x hx
    rw [hfilters, Pool.get?_put] at hx
    split at hx
    · rename_i hm
      obtain rfl := Option.some.inj hx
      have hf := h.coupled hget
      refine ⟨g, rfl, hlive.trans hf.live, hlink.trans hf.link, hmirrored, ?_⟩
      rw [htargets, hname, hf.target, hm]
    · rename_i hm
      obtain ⟨k, rfl, hk⟩ := h.filters m x hx
      -- another filter has another name, so the device still has its values
      have hne : k.name ≠ f.name := fun heq => hm (h.number_of_name hx hget heq)
      refine ⟨k, rfl, hk.live, hk.link, hk.mirrored.of_keeps hkeeps (hothers _ hne), ?_⟩
      rw [htargets, hk.target]
  targets := by
    intro name t ht
    rw [DeliveryLoop.targets, hroutes, hkeeps.notificationTopic] at ht
    obtain ⟨m, k, rfl, hk, hkname⟩ := h.targets name t ht
    by_cases hm : m = n
    · subst hm
      cases hget.symm.trans hk
      refine ⟨m, g, rfl, ?_, hname.trans hkname⟩
      rw [hfilters, Pool.get?_put, if_pos rfl]
    · refine ⟨m, k, rfl, ?_, hkname⟩
      rw [hfilters, Pool.get?_put, if_neg hm]
      exact hk
  borrowed := by
    rw [hnames]
    exact h.borrowed

end InStep

/-- The workbench stays in step, with the same loop. -/
def StaysInStep (w w' : Workbench) : Prop := ∀ d l, w.InStep d l → ∃ d', w'.InStep d' l

/-- What stays in step may go on. -/
instance : Bench.Course StaysInStep where
  refl _ d _ h := ⟨d, h⟩
  trans h h' d l hu := by
    obtain ⟨d', hv⟩ := h d l hu
    exact h' d' l hv

/-- What leaves links, loops, filters and their names stays in step. -/
lemma StaysInStep.of_eq (hlinks : w'.links = w.links) (hloops : w'.loops = w.loops)
    (hfilters : w'.filters = w.filters) (hnames : w'.names.filters = w.names.filters) :
    w.StaysInStep w' := fun d _ h => ⟨d, h.congr (by rw [hlinks]) (by rw [hloops]) hfilters hnames⟩

end Workbench

namespace Bench

open Workbench (InStep StaysInStep)

variable {w : Workbench} {d : Device} {l : DeliveryLoop Target}

/-- A filter that keeps its proxy may be put in place of a live one. -/
lemma stays_putFilter {n : Nat} {f g : RemoteFilter} (hget : w.filters.get? n = some (.remote f))
    (hproxy : g.proxy = f.proxy) (hlive : g.destroyed = f.destroyed) :
    Within StaysInStep (putFilter n (.remote g)) w := by
  intro d l h
  have hmirrored : d.Mirrors g.proxy := hproxy ▸ (h.coupled hget).mirrored
  exact ⟨d, h.put hget (congrArg RemoteProxy.name hproxy) hlive (by rw [hproxy]) ⟨rfl, rfl, rfl⟩
    hmirrored (fun _ _ => rfl) rfl h.queue h.inFlight h.links h.loops rfl rfl⟩

/-- Another watcher keeps the workbench in step. -/
lemma stays_withWatcher {n : Nat} {f : Filter} (hget : w.filters.get? n = some f)
    (watcher : Watcher) : Within StaysInStep (putFilter n (f.withWatcher watcher)) w := by
  intro d l h
  obtain ⟨k, rfl, -⟩ := h.filters n f hget
  exact stays_putFilter (g := { k with watcher }) hget rfl rfl d l h

/-- The end of a subscription keeps the workbench in step. -/
lemma stays_endWatch (watch : Watch) : Within StaysInStep (endWatch watch) w :=
  Within.bind_filter fun _ hf => stays_withWatcher hf _

/-- A new subscription keeps the workbench in step. -/
lemma stays_keepWatch (name : String) (id : OptionId) (tag : String) (listener : Listener)
    (mailbox? : Option Nat) : Within StaysInStep (keepWatch name id tag listener mailbox?) w := by
  refine Within.bind_reads (reads_filterNumber name) fun n _ => ?_
  refine Within.bind_filter fun f hf => ?_
  refine Within.bind_ofFilter fun _ _ => Within.bind_ofFilter fun r _ => ?_
  refine Within.bind (stays_withWatcher hf _) fun _ _ _ => ?_
  refine Within.bind_reads Reads.get fun _ _ => ?_
  refine Within.bind (StaysInStep.of_eq rfl rfl rfl rfl) fun _ _ _ => ?_
  exact Within.optionForM fun earlier _ => stays_endWatch earlier

/-- Watching an option keeps the workbench in step. -/
lemma stays_watch (name : String) (id : OptionId) (tag : String) :
    Within StaysInStep (watch name id tag) w :=
  Within.bind (StaysInStep.of_eq rfl rfl rfl rfl) fun _ _ _ => stays_keepWatch _ _ _ _ _

/-- Asking for the next value keeps the workbench in step. -/
lemma stays_nextValue (tag : String) : Within StaysInStep (nextValue tag) w := by
  refine Within.bind_reads (reads_mailbox tag) fun r _ => ?_
  split
  · exact Within.pure _
  · exact Within.bind (StaysInStep.of_eq rfl rfl rfl rfl) fun _ _ _ => Within.pure _

/-- Giving up a handle keeps the workbench in step. -/
lemma stays_cancel (tag : String) : Within StaysInStep (cancel tag) w := by
  refine Within.bind_reads Reads.get fun _ _ => ?_
  refine Within.bind_reads (Reads.found _ _) fun watch _ => ?_
  exact Within.bind (StaysInStep.of_eq rfl rfl rfl rfl) fun _ _ _ => stays_endWatch watch

/-- Allowing an option keeps the workbench in step. -/
lemma stays_allowOption (name : String) (id : OptionId) (on : Bool) :
    Within StaysInStep (allowOption name id on) w := by
  refine Within.bind_reads (reads_filterNumber name) fun n _ => ?_
  refine Within.bind_filter fun f hf => Within.bind_ofFilter fun _ _ => ?_
  intro d l h
  obtain ⟨k, rfl, -⟩ := h.filters n f hf
  exact stays_putFilter (g := { k with models? := k.models?.map (List.map _) }) hf rfl rfl d l h

/-- Naming a filter of a sensor keeps the workbench in step. -/
lemma stays_nameSensorFilter (name : String) (kind : FilterKind) (filterName : String) :
    Within StaysInStep (nameSensorFilter name kind filterName) w := by
  refine Within.bind_reads (reads_sensor name) fun s _ => Within.bind_ofFilter fun slot _ => ?_
  refine Within.bind ?_ fun _ _ _ => Within.bind_filter fun _ _ => Within.pure _
  refine Within.bind_reads Reads.get fun seen hseen => ?_
  cases hseen
  intro d l h
  -- what had the name before is borrowed as well, so nothing is torn down
  have hletGo : ∀ v : Workbench,
      ((w.names.filters.get? filterName).forM letGo).exec v = (.ok (), v) := by
    intro v
    cases hearlier : w.names.filters.get? filterName with
    | none => rfl
    | some handle =>
      show (letGo handle).exec v = _
      rw [letGo, h.borrowed _ _ hearlier]
      rfl
  rw [exec_bind]
  show ∃ d', InStep (((w.names.filters.get? filterName).forM letGo).exec _).2 d' l
  rw [hletGo]
  refine ⟨d, h.links, h.loops, h.reports, h.queue, h.inFlight, h.filters, h.targets, ?_⟩
  intro other handle hother
  have hput : ((w.names.filters.put filterName ⟨slot.filter, false⟩).get? other) = some handle :=
    hother
  rw [Table.get?_put] at hput
  split at hput
  · exact Option.some.inj hput ▸ rfl
  · exact h.borrowed other handle hput

/-- A device that has been looked up is there. -/
lemma get?_of_device {name : String} {n : LinkNumber} {v : Workbench}
    (h : (device name).exec w = (.ok (n, d), v)) : w.links.get? n = some (.device d) := by
  obtain ⟨seen, _, hseen, hfound⟩ := exec_bind_eq_ok.mp h
  cases hseen
  obtain ⟨m, u, hm, hlink⟩ := exec_bind_eq_ok.mp hfound
  have hsame := Reads.found "device" (w.names.devices.get? name) w
  rw [hm] at hsame
  have hsame : u = w := hsame
  subst hsame
  obtain ⟨l, u', hl, hgives⟩ := exec_bind_eq_ok.mp hlink
  obtain ⟨-, hget⟩ := of_lookup (fun w => w.links.get? m) hl
  cases l with
  | device d =>
    cases hgives
    exact hget
  | script s => cases hgives

/-- A change to a device that leaves its filters keeps the workbench in step. -/
lemma stays_changeDevice (name : String) {change : Device → Device}
    (h : ∀ d, d.Keeps (change d) ∧ (change d).filters = d.filters) :
    Within StaysInStep (changeDevice name change) w := by
  refine Within.bind_reads (reads_device name) fun r hr => ?_
  obtain ⟨n, d⟩ := r
  intro _ l hstep
  obtain ⟨rfl, hd⟩ := hstep.eq_of_link (get?_of_device hr)
  cases hd
  exact ⟨change d, hstep.of_keeps (h d).1 (h d).2 (Pool.entries_put hstep.links _) rfl rfl rfl⟩

/-- A write that is carried stays in step. -/
lemma stays_carry {n : Nat} {f : RemoteFilter} {s : Submission} {assigned : List Assignment}
    (hget : w.filters.get? n = some (.remote f)) (hs : s.Updates f.proxy assigned) :
    Within StaysInStep (carry (changeProxy n) s) w := by
  intro d l h
  have hcoupled := h.coupled hget
  have hlink : s.link = 0 := Option.some.inj (hs.link.symm.trans hcoupled.link)
  obtain ⟨params, hparams⟩ := hs.params
  have hdecode : Json.decodePayload ControlRequest.decoder s.request.payload =
      some (.setOptions f.proxy.name f.proxy.kind s.merged) := by
    rw [hs.request]
    exact ControlRequest.decode_setOptions (Parameters.isFinite_of_ofOptions hparams)
  obtain ⟨hkeeps, hsend⟩ := Device.send_setOptions d s.topic hdecode
  have hget0 : w.links.get? s.link = some (.device d) := hlink ▸ h.get?_link
  rcases hsend with ⟨⟨e, he⟩, hfilters⟩ | ⟨hok, -, hfilters⟩
  -- the device has kept its values and the host keeps its own
  · rw [exec_carry_refused hget0 rfl he, hlink]
    exact ⟨_, h.of_keeps hkeeps hfilters (Pool.entries_put h.links _) rfl rfl rfl⟩
  -- the device has the values that were sent, and the host lays the same ones over its own
  · rw [exec_carry_ok hget0 rfl hok, hlink]
    have hsettled : f.proxy.settle s = f.proxy.withValues s.merged := by
      rw [RemoteProxy.settle, hs.settled]
    have hfilter := Device.filter?_congr hfilters
    have hmirrored := hcoupled.mirrored.of_send hkeeps hs.settled
      ((hfilter _).trans (Device.filter?_withFilter_self _ _ _))
    have hothers : ∀ other, other ≠ f.name →
        (d.send s.topic s.request.payload).2.filter? other = d.filter? other :=
      fun other hne => (hfilter other).trans (Device.filter?_withFilter_of_ne hne _)
    have hchange : ∀ links, (changeProxy n fun p => p.settle s).exec { w with links } = (.ok (),
        { w with
          links
          filters := w.filters.put n
            (.remote { f with proxy := f.proxy.withValues s.merged }) }) := by
      intro links
      rw [← hsettled]
      exact exec_changeProxy (w := { w with links }) hget _
    refine ⟨(d.send s.topic s.request.payload).2, ?_⟩
    show InStep ((changeProxy n fun p => p.settle s).exec _).2 _ l
    rw [hchange]
    exact h.put (g := { f with proxy := f.proxy.withValues s.merged }) hget rfl rfl rfl hkeeps
      hmirrored hothers rfl h.queue h.inFlight (Pool.entries_put h.links _) h.loops rfl rfl

/-- A chain that looks a filter up first stays in step if it does for remote filters. -/
lemma stays_filter {β : Type} {n : Nat} {x : Filter → Bench β}
    (hx : ∀ f, w.filters.get? n = some (.remote f) → Within StaysInStep (x (.remote f)) w) :
    Within StaysInStep (filter n >>= x) w := by
  refine Within.bind_filter fun g hg d l h => ?_
  obtain ⟨f, rfl, -⟩ := h.filters n g hg
  exact hx f hg d l h

/-- Writing an option keeps the workbench in step. -/
lemma stays_writeOption (hw : w.Sound) (n : Nat) (id : OptionId) (value : OptionValue) :
    Within StaysInStep (writeOption n id value) w := by
  refine stays_filter fun f hf => Within.bind_ofFilter fun s hs => ?_
  obtain ⟨hupdates, -⟩ := RemoteWrite.of_prepareOption (hw.filters n _ hf).2 hs
  exact stays_carry hf hupdates

/-- Writing an option of a temporal filter keeps the workbench in step. -/
lemma stays_writeTemporal (hw : w.Sound) (name : String) (id : OptionId) (value : OptionValue) :
    Within StaysInStep (writeTemporal name id value) w := by
  refine Within.bind_reads (reads_filterNumber name) fun n _ => Within.bind_filter fun f _ => ?_
  split
  · exact Within.bind (stays_writeOption hw n id value) fun _ _ _ => Within.pure _
  · exact Within.pure _

/-- Writing bytes keeps the workbench in step. -/
lemma stays_writeBytes (n : Nat) (bytes : List UInt8) :
    Within StaysInStep (writeBytes n bytes) w := by
  refine stays_filter fun f hf => Within.bind_ofFilter fun s hs => ?_
  obtain ⟨params, -, hupdates, -⟩ := RemoteWrite.of_prepareBytes hs
  exact stays_carry hf hupdates

/-- The question by which the values of a filter are read back from its device. -/
def asked (d : Device) (f : RemoteFilter) : Except LinkError ByteArray × Device :=
  d.query f.proxy.topic (ControlRequest.getOptions f.proxy.name f.proxy.kind).payload

/-- Reading back the values of a filter asks the device, and if it answers nothing has changed and
no listener is told anything. -/
lemma exec_refresh (h : w.InStep d l) {n : Nat} {f : RemoteFilter}
    (hget : w.filters.get? n = some (.remote f)) :
    (refresh n).exec w =
      (((asked d f).1.mapError fun e => .filter e.toFilterError).map fun _ => 0,
        { w with links := w.links.put 0 (.device (asked d f).2) }) := by
  have hf := h.coupled hget
  have hinquire : f.inquire =
      .ok ⟨0, f.proxy.topic, .getOptions f.proxy.name f.proxy.kind⟩ := by
    simp [RemoteFilter.inquire, RemoteFilter.ensureLive, hf.live, RemoteProxy.inquire,
      RemoteProxy.link, hf.link]
  have hlink : (link 0).exec w = (.ok (.device d), w) :=
    exec_lookup (fun w => w.links.get? 0) h.get?_link _
  have hquery : (query 0 f.proxy.topic
      (ControlRequest.getOptions f.proxy.name f.proxy.kind).payload).exec w =
      (.ok (asked d f).1, { w with links := w.links.put 0 (.device (asked d f).2) }) :=
    exec_bind_ok hlink _
  rw [refresh, exec_bind_ok (exec_remoteFilter hget), hinquire, exec_bind_ok (exec_ofFilter_ok _ _),
    exec_bind_ok hquery]
  cases hreply : (asked d f).1 with
  | error e => rfl
  | ok reply =>
    have haccept : f.accept reply = .ok ⟨f, [], false⟩ := by
      rw [RemoteFilter.accept, hf.mirrored.accept_answer hreply]
      exact congrArg Except.ok f.announce_nil
    have hagain : ∀ links, (remoteFilter n).exec { w with links } = (.ok f, { w with links }) :=
      fun links => exec_remoteFilter (w := { w with links }) hget
    have hsame : w.filters.put n (.remote f) = w.filters := Pool.put_of_get? hget
    rw [exchanged, exec_bind_ok (exec_pure _ _), exec_bind_ok (hagain _), haccept,
      exec_bind_ok (exec_ofFilter_ok _ _)]
    show ((.ok 0 : Except Fault Nat), { w with
      links := _
      filters := w.filters.put n (.remote f) }) = _
    rw [hsame]
    rfl

/-- Refreshing a filter keeps the workbench in step. -/
lemma stays_refresh (n : Nat) : Within StaysInStep (refresh n) w := by
  intro d l h
  by_cases hget : ∃ f, w.filters.get? n = some (.remote f)
  · obtain ⟨f, hget⟩ := hget
    obtain ⟨hkeeps, hfilters⟩ := Device.query_keeps d f.proxy.topic
      (ControlRequest.getOptions f.proxy.name f.proxy.kind).payload
    rw [exec_refresh h hget]
    exact ⟨_, h.of_keeps hkeeps hfilters (Pool.entries_put h.links _) rfl rfl rfl⟩
  · have hnone : Within StaysInStep (refresh n) w :=
      Within.bind_remoteFilter fun f hf => absurd ⟨f, hf⟩ hget
    exact hnone d l h

/-- Refreshing a sensor keeps the workbench in step. -/
lemma stays_refreshSensor (name : String) : Within StaysInStep (refreshSensor name) w := by
  refine Within.bind_reads (reads_sensor name) fun s _ => ?_
  exact Within.foldlM fun count n _ _ => Within.bind (stays_refresh n) fun _ _ _ => Within.pure _

end Bench

end EmbeddedFilters
