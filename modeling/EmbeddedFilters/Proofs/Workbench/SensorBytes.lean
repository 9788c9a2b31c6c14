import EmbeddedFilters.Proofs.Workbench.FailedWrites
import EmbeddedFilters.Proofs.Workbench.Staffing

/-!
# Bytes that are written to sensors

Bytes that are written to a filter are refused at once, taken by an offline filter, or carried to
the device of a remote one (`Bench.writesBytes`). If the write succeeds, the filter shows the
parameters that the bytes denote on both of its surfaces (`Bench.shows_writeBytes`): an offline
filter has them, and a remote one has them laid over its record, in which they keep their numbers
whatever the declarations are. If the link takes what is sent, only the checks before that can fail,
and then nothing has been done (`Bench.unchanged_writeBytes`). In no case does the write touch
another filter (`Bench.keepsOthers_writeBytes`). For the filters of a sensor this comes together in
`Workbench.surfaces_show_one_state`.
-/

namespace EmbeddedFilters

open Outcome

namespace Workbench

/-- What a write of bytes to a filter sends: something if the filter is remote and the bytes pass
its checks. -/
def submission? (w : Workbench) (n : Nat) (bytes : List UInt8) : Option Submission :=
  (w.remote? n).bind fun f => (f.prepareBytes bytes).toOption

/-- The link takes what a write of bytes to a filter sends. -/
def Accepts (w : Workbench) (n : Nat) (bytes : List UInt8) : Prop :=
  ∀ s, w.submission? n bytes = some s →
    ((Bench.send s.link s.topic s.request.payload).exec w).1 = .ok (.ok ())

/-- Nothing is reported while what a write of bytes to a filter sends passes over its link. -/
def Undisturbed (w : Workbench) (n : Nat) (bytes : List UInt8) : Prop :=
  ∀ s l, w.submission? n bytes = some s → w.links.get? s.link = some l → l.reportsNext = false

/-- The workbench once what a write of bytes to a filter sends has passed over its link, and before
the write goes on. -/
def sent (w : Workbench) (n : Nat) (bytes : List UInt8) : Workbench :=
  match w.submission? n bytes with
  | some s => ((Bench.send s.link s.topic s.request.payload).exec w).2
  | none => w

/-- A slot of a sensor shows on both surfaces of its filter what bytes denote: the filter shows
their parameters and is switched as the first byte tells, and the buffer that is read from the slot
denotes the same parameters. -/
def ShowsBytes (w : Workbench) (name : String) (slot : SensorSlot) (bytes : List UInt8) : Prop :=
  ∃ p f, Parameters.decode slot.kind bytes = .ok p ∧
    w.filters.get? slot.filter = some f ∧ f.Shows p ∧
    bytes.head? = some f.isEnabled.toUInt8 ∧
    ∃ b q, (Bench.readSensorBytes name slot.kind).exec w = (.ok b, w) ∧
      Parameters.decode slot.kind b.bytes = .ok q ∧ p.agrees q = true

/-- All filters but one are what they were. -/
def KeepsOthers (n : Nat) (w w' : Workbench) : Prop :=
  ∀ m, m ≠ n → w'.filters.get? m = w.filters.get? m

/-- Other filters are left alone again and again. -/
instance (n : Nat) : Bench.Course (KeepsOthers n) where
  refl _ _ _ := rfl
  trans h h' m hm := (h' m hm).trans (h m hm)

variable {w : Workbench} {n : Nat} {bytes : List UInt8}

/-- There is a submission exactly if a remote filter has prepared it. -/
lemma submission?_eq_some {s : Submission} : w.submission? n bytes = some s ↔
    ∃ f, w.filters.get? n = some (.remote f) ∧ f.prepareBytes bytes = .ok s := by
  unfold submission?
  rw [Option.bind_eq_some_iff]
  constructor
  · rintro ⟨f, hf, hs⟩
    exact ⟨f, remote?_eq_some.mp hf, eq_ok_of_toOption hs⟩
  · rintro ⟨f, hf, hs⟩
    exact ⟨f, remote?_eq_some.mpr hf, by rw [hs]; rfl⟩

/-- There is no submission where no remote filter prepares one. -/
lemma submission?_eq_none
    (h : ∀ f s, w.filters.get? n = some (.remote f) → f.prepareBytes bytes ≠ .ok s) :
    w.submission? n bytes = none := by
  apply Option.eq_none_iff_forall_ne_some.mpr
  intro s hs
  obtain ⟨f, hf, hs⟩ := submission?_eq_some.mp hs
  exact h f s hf hs

/-- Where nothing is reported, what is sent leaves all filters as they are. -/
lemma filters_sent (h : w.Undisturbed n bytes) : (w.sent n bytes).filters = w.filters := by
  unfold sent
  cases hs : w.submission? n bytes with
  | none => rfl
  | some s =>
    cases hl : w.links.get? s.link with
    | none =>
      have hsend := Bench.exec_send_none hl s.topic s.request.payload
      exact congrArg (fun out => out.2.filters) hsend
    | some l =>
      have hsend := Bench.exec_send_quiet hl (h s l hs hl) s.topic s.request.payload
      exact congrArg (fun out => out.2.filters) hsend

/-- What becomes of bytes that are written to a filter: they are refused at once, taken by an
offline filter, or carried to the device of a remote one. -/
inductive WritesBytes (w : Workbench) (n : Nat) (bytes : List UInt8) : Prop where
  | refused (e : FilterError) (silent : w.submission? n bytes = none)
    (exec : (Bench.writeBytes n bytes).exec w = (.error (.filter e), w))
  | taken (f : OfflineFilter) (t : Told OfflineFilter) (get : w.filters.get? n = some (.offline f))
    (silent : w.submission? n bytes = none) (set : f.setBytes bytes = .ok t)
    (exec : (Bench.writeBytes n bytes).exec w = (if t.panicked then .error .panic else .ok (),
      Workbench.telling { w with filters := w.filters.put n (.offline t.state) } t.deliveries))
  | carried (f : RemoteFilter) (s : Submission) (get : w.filters.get? n = some (.remote f))
    (prepared : f.prepareBytes bytes = .ok s)
    (exec : (Bench.writeBytes n bytes).exec w = (Bench.carry (Bench.changeProxy n) s).exec w)

end Workbench

namespace OfflineFilter

/-- An offline filter that has taken bytes has the parameters that they denote. -/
lemma params_of_setBytes {f : OfflineFilter} {bytes : List UInt8} {t : Told OfflineFilter}
    (h : f.setBytes bytes = .ok t) : Parameters.decode f.kind bytes = .ok t.state.params := by
  obtain ⟨p, hp, h⟩ := bind_eq_ok.mp h
  unfold apply update at h
  split at h
  · cases h
  · obtain ⟨q, hq, h⟩ := bind_eq_ok.mp h
    obtain ⟨-, -, rfl⟩ := map_eq_ok.mp hq
    obtain rfl := pure_eq_ok.mp h
    exact hp

end OfflineFilter

namespace Bench

open Workbench (Continues KeepsOthers)

variable {w v : Workbench} {n : Nat} {bytes : List UInt8} {kind : FilterKind}

/-- Bytes written to a filter that is there are refused, taken by it, or carried to its device. -/
lemma writesBytes {f : Filter} (hf : w.filters.get? n = some f) : w.WritesBytes n bytes := by
  cases f with
  | offline f =>
    have hsilent : w.submission? n bytes = none := by
      apply Workbench.submission?_eq_none
      intro g s hg
      cases hf.symm.trans hg
    have hexec : (writeBytes n bytes).exec w = (do
        let _ ← announce n ((← ofFilter (f.setBytes bytes)).map .offline) : Bench Unit).exec w :=
      exec_bind_ok (exec_filter hf) _
    cases ht : f.setBytes bytes with
    | error e =>
      rw [ht] at hexec
      exact .refused e hsilent hexec
    | ok t =>
      rw [ht, exec_bind_ok (exec_ofFilter_ok _ _), exec_bind, exec_announce] at hexec
      refine .taken f t hf hsilent ht (hexec.trans ?_)
      cases hpanicked : t.panicked <;> simp [Told.map, hpanicked]
  | remote f =>
    have hexec := exec_writeBytes hf bytes
    cases hs : f.prepareBytes bytes with
    | error e =>
      rw [hs] at hexec
      refine .refused e (Workbench.submission?_eq_none ?_) hexec
      intro g s hg
      cases hf.symm.trans hg
      rw [hs]
      exact fun h => by cases h
    | ok s =>
      rw [hs, exec_bind_ok (exec_ofFilter_ok _ _)] at hexec
      exact .carried f s hf hs hexec

/-! ### What is carried -/

/-- A remote filter stays in its place while a message passes over a link. -/
lemma exists_later_of_send (hw : w.Sound) {f : RemoteFilter}
    (hf : w.filters.get? n = some (.remote f)) {link : LinkNumber} {topic : String}
    {payload : ByteArray} {r : Except Fault (Except LinkError Unit)}
    (hsend : (send link topic payload).exec w = (r, v)) :
    ∃ g, v.filters.get? n = some (.remote g) ∧ f.Evolves g := by
  have hcontinues : Within Continues (send link topic payload) w := (orderly_send _ _ _).continues
  rw [Within, hsend] at hcontinues
  obtain ⟨k, hk, hevolves⟩ := (hcontinues hw).2.filters n _ hf
  cases hevolves with
  | @remote _ g hevolves => exact ⟨g, hk, hevolves⟩

/-- A write that has been carried has been settled after its link has taken what was sent. -/
lemma of_carry_ok {s : Submission} (h : (carry (changeProxy n) s).exec w = (.ok (), v)) :
    ∃ u, (send s.link s.topic s.request.payload).exec w = (.ok (.ok ()), u) ∧
      (changeProxy n fun p => p.settle s).exec u = (.ok (), v) := by
  obtain ⟨outcome, u, hcatch, hrest⟩ := exec_bind_eq_ok.mp h
  have hsend : (send s.link s.topic s.request.payload).exec w = (.ok outcome, u) := by
    rw [exec_tryCatch] at hcatch
    split at hcatch
    · rename_i hsend
      exact hsend.trans hcatch
    · -- a fault is passed on, once the proxy is spoiled if it is a panic
      rename_i e w' hsend
      cases e with
      | panic =>
        obtain ⟨_, _, -, hthrow⟩ := exec_bind_eq_ok.mp hcatch
        cases hthrow
      | _ => cases hcatch
  cases outcome with
  | error e => cases hrest
  | ok _ => exact ⟨u, hsend, hrest⟩

/-- The filter whose write has been carried is settled, and may have heard reports before that. -/
lemma settled_of_carry (hw : w.Sound) {f : RemoteFilter}
    (hf : w.filters.get? n = some (.remote f)) {s : Submission}
    (h : (carry (changeProxy n) s).exec w = (.ok (), v)) :
    ∃ g : RemoteFilter, f.proxy.Evolves g.proxy ∧
      v.filters.get? n = some (.remote { g with proxy := g.proxy.settle s }) := by
  obtain ⟨u, hsend, hsettle⟩ := of_carry_ok h
  obtain ⟨g, hg, hevolves⟩ := exists_later_of_send hw hf hsend
  rw [exec_changeProxy hg] at hsettle
  cases hsettle
  exact ⟨g, hevolves.proxy, Pool.get?_put_self _ _ _⟩

/-- A write that is carried cannot fail once its link has taken what was sent. -/
lemma exec_carry_taken (hw : w.Sound) {f : RemoteFilter}
    (hf : w.filters.get? n = some (.remote f)) {s : Submission}
    (htaken : ((send s.link s.topic s.request.payload).exec w).1 = .ok (.ok ())) :
    ((carry (changeProxy n) s).exec w).1 = .ok () := by
  cases hsend : (send s.link s.topic s.request.payload).exec w with
  | mk r u =>
    rw [hsend] at htaken
    cases htaken
    obtain ⟨g, hg, -⟩ := exists_later_of_send hw hf hsend
    rw [carry, exec_carryBy_ok hsend, exec_changeProxy hg]

/-! ### The filter that is written -/

/-- What an offline filter has taken it shows. -/
lemma shows_taken {f : OfflineFilter} {t : Told OfflineFilter}
    (hserves : (Filter.offline f).Serves kind) (ht : f.setBytes bytes = .ok t) :
    ∃ p, Parameters.decode kind bytes = .ok p ∧ (Filter.offline t.state).Shows p := by
  have hp := OfflineFilter.params_of_setBytes ht
  have hkind : f.kind = kind := hserves.kind
  rw [hkind] at hp
  obtain ⟨hstated, hvalid⟩ := Parameters.decode_ok hp
  refine ⟨t.state.params, hp, Filter.shows_offline ?_ hvalid⟩
  have hlater := hserves.of_evolves (.offline (OfflineFilter.evolves_setBytes ht))
  rw [hlater.kind.symm] at hlater
  exact hlater

/-- What has been settled at a remote filter it shows, whatever has been reported meanwhile. -/
lemma shows_settled {f g : RemoteFilter} (hf : f.Valid) (hserves : (Filter.remote f).Serves kind)
    {s : Submission} (hs : f.prepareBytes bytes = .ok s) (hmeanwhile : f.proxy.Evolves g.proxy)
    (hlater : f.Evolves { g with proxy := g.proxy.settle s }) :
    ∃ p, Parameters.decode kind bytes = .ok p ∧
      (Filter.remote { g with proxy := g.proxy.settle s }).Shows p := by
  obtain ⟨values, hmerge⟩ :=
    (hmeanwhile.fits hf.proxy (RemoteFilter.fits_of_prepareBytes hs)).merges
  obtain ⟨-, p, hp, hprepare⟩ := RemoteFilter.prepareBytes_eq_ok.mp hs
  obtain ⟨⟨⟩, -, hprepare⟩ := bind_eq_ok.mp hprepare
  obtain ⟨-, merged, link, -, -, rfl⟩ := RemoteProxy.prepare_eq_ok.mp hprepare
  have hkind : f.kind = kind := hserves.kind
  rw [hkind] at hp
  obtain ⟨hstated, hvalid⟩ := Parameters.decode_ok hp
  have hsettled := hserves.of_evolves (.remote hlater)
  rw [← hstated] at hsettled
  refine ⟨p, hp, Filter.shows_remote hsettled (hlater.models hf) hvalid ?_⟩
  show p.Tells (g.proxy.settle _).record.current
  rw [RemoteProxy.settle, hmerge]
  exact Parameters.tells_of_merge hvalid (RemoteProxy.merge_eq_ok.mp hmerge).1

/-- A filter shows what has been written to it, also if a listener has panicked when it was told of
that. -/
lemma shows_writeBytes (hw : w.Sound) {f : Filter} (hf : w.filters.get? n = some f)
    (hserves : f.Serves kind)
    (hdone : ((writeBytes n bytes).exec w).1 = .ok () ∨ w.Accepts n bytes ∧
      ((writeBytes n bytes).exec w).1 = .error .panic) :
    ∃ p g, Parameters.decode kind bytes = .ok p ∧
      ((writeBytes n bytes).exec w).2.filters.get? n = some g ∧ g.Shows p := by
  cases writesBytes hf with
  | refused e hsilent hexec =>
    rw [hexec] at hdone
    obtain hdone | ⟨-, hdone⟩ := hdone <;> cases hdone
  | taken f t hget hsilent ht hexec =>
    cases hf.symm.trans hget
    obtain ⟨p, hp, hshows⟩ := shows_taken hserves ht
    refine ⟨p, .offline t.state, hp, ?_, hshows⟩
    rw [hexec]
    exact Pool.get?_put_self _ _ _
  | carried f s hget hs hexec =>
    cases hf.symm.trans hget
    have hok : ((writeBytes n bytes).exec w).1 = .ok () := by
      obtain hdone | ⟨haccepts, -⟩ := hdone
      · exact hdone
      · rw [hexec]
        exact exec_carry_taken hw hget
          (haccepts s (Workbench.submission?_eq_some.mpr ⟨f, hget, hs⟩))
    have hlater := ((orderly_writeBytes (w := w) n bytes).continues hw).2
    rw [hexec] at hok hlater ⊢
    obtain ⟨g, hmeanwhile, hg⟩ := settled_of_carry hw hget (Prod.ext hok rfl)
    obtain ⟨k, hk, hfk⟩ := hlater.filters n _ hget
    cases hg.symm.trans hk
    cases hfk with
    | remote hfk =>
      obtain ⟨p, hp, hshows⟩ := shows_settled (hw.filters n _ hget).2 hserves hs hmeanwhile hfk
      exact ⟨p, _, hp, hg, hshows⟩

/-- A write that fails has done nothing if the link takes what is sent, unless a listener has
panicked. -/
lemma unchanged_writeBytes (hw : w.Sound) {f : Filter} (hf : w.filters.get? n = some f)
    (haccepts : w.Accepts n bytes) {e : Fault} (herror : ((writeBytes n bytes).exec w).1 = .error e)
    (hne : e ≠ .panic) :
    ((writeBytes n bytes).exec w).2 = w := by
  cases writesBytes hf with
  | refused e hsilent hexec => rw [hexec]
  | taken f t hget hsilent ht hexec =>
    rw [hexec] at herror
    cases hpanicked : t.panicked with
    | false =>
      rw [hpanicked] at herror
      cases herror
    | true =>
      rw [hpanicked] at herror
      cases herror
      exact absurd rfl hne
  | carried f s hget hs hexec =>
    have hok := exec_carry_taken hw hget (haccepts s
      (Workbench.submission?_eq_some.mpr ⟨f, hget, hs⟩))
    rw [hexec, hok] at herror
    cases herror

/-! ### The other filters -/

/-- Changing the proxy of a filter leaves the other filters. -/
lemma keepsOthers_changeProxy (n : Nat) (change : RemoteProxy → RemoteProxy) :
    Within (KeepsOthers n) (changeProxy n change) w :=
  Within.bind_remoteFilter fun _ _ _ hm => Pool.get?_put_of_ne _ hm _

/-- All that a write does to other filters is what happens while the link has what is sent. -/
lemma keepsOthers_writeBytes {f : Filter} (hf : w.filters.get? n = some f) (bytes : List UInt8) :
    KeepsOthers n (w.sent n bytes) ((writeBytes n bytes).exec w).2 := by
  have hnothing : w.submission? n bytes = none → w.sent n bytes = w := by
    intro hsilent
    rw [Workbench.sent, hsilent]
  cases writesBytes hf with
  | refused e hsilent hexec =>
    rw [hexec, hnothing hsilent]
    exact Course.refl w
  | taken f t hget hsilent ht hexec =>
    rw [hexec, hnothing hsilent]
    intro m hm
    exact Pool.get?_put_of_ne _ hm _
  | carried f s hget hs hexec =>
    have hsent : w.sent n bytes = ((send s.link s.topic s.request.payload).exec w).2 := by
      rw [Workbench.sent, Workbench.submission?_eq_some.mpr ⟨f, hget, hs⟩]
    rw [hexec, hsent]
    refine Course.trans (Within.afterCatch fun e w' => ?_) (Within.after fun outcome w' => ?_)
    · cases e with
      | panic => exact Within.bind (keepsOthers_changeProxy n _) fun _ _ _ => Within.throw _
      | _ => exact Within.throw _
    · exact Within.bind_reads (Reads.exchanged _) fun _ _ => keepsOthers_changeProxy n _

end Bench

namespace Workbench

variable {w : Workbench} {name : String} {k : Nat} {s : Sensor} {slot : SensorSlot}

/-- What has been written to the filter of a slot is shown by the slot. -/
lemma showsBytes_writeBytes (hw : w.Sound) (hname : w.names.sensors.get? name = some k)
    (hs : w.sensors.get? k = some s) (hfound : s.slot slot.kind = .ok slot) {f : Filter}
    (hf : w.filters.get? slot.filter = some f) (hserves : f.Serves slot.kind) {bytes : List UInt8}
    (hdone : ((Bench.writeBytes slot.filter bytes).exec w).1 = .ok () ∨
      w.Accepts slot.filter bytes ∧
        ((Bench.writeBytes slot.filter bytes).exec w).1 = .error .panic) :
    ((Bench.writeBytes slot.filter bytes).exec w).2.ShowsBytes name slot bytes := by
  have hkeeps : w.KeepsOffline ((Bench.writeBytes slot.filter bytes).exec w).2 :=
    Bench.keepsOffline_writeBytes _ _
  obtain ⟨p, g, hp, hg, hshows⟩ := Bench.shows_writeBytes hw hf hserves hdone
  obtain ⟨b, q, hb, hq, hagrees⟩ := hshows.bytes
  rw [(Parameters.decode_ok hp).1] at hq
  refine ⟨p, g, hp, hg, hshows, ?_, b, q, ?_, hq, hagrees⟩
  · rw [hshows.enabled]
    exact Parameters.head?_of_decode hp
  · -- the slot is found again, because names and sensors have stayed
    rw [← hkeeps.names] at hname
    rw [← hkeeps.sensors] at hs
    have hread := Bench.exec_slot
      (fun slot => do Bench.ofFilter (← Bench.filter slot.filter).bytes) hname hs hfound
    refine hread.trans ?_
    rw [Bench.exec_bind_ok (Bench.exec_filter hg), hb]
    rfl

/-- For whatever bytes are written to a filter of a sensor, offline or remote, the buffer and the
options show one state. If the write succeeds, the buffer that is read back denotes the parameters
that the bytes denote, with alpha compared as a number, the filter is switched as the first byte
tells, and each option can be queried and has the number of its field. If the write fails although
the link takes what is sent, nothing at all has changed; only a listener that panics is told of
parameters that are there. And the other filters of the sensor are left alone: they are as a report
leaves them that comes while the link has what is sent, and as before if there is none. -/
theorem surfaces_show_one_state (hw : w.Reachable) (hname : w.names.sensors.get? name = some k)
    (hs : w.sensors.get? k = some s) (hslot : slot ∈ s.slots) (bytes : List UInt8)
    {r : Except Fault Unit} {v : Workbench}
    (hwrite : (Bench.writeSensorBytes name slot.kind bytes).exec w = (r, v)) :
    (r = .ok () → v.ShowsBytes name slot bytes) ∧
      (w.Accepts slot.filter bytes → (r = .error .panic → v.ShowsBytes name slot bytes) ∧
        ∀ e, r = .error e → e ≠ .panic → v = w) ∧
      ∀ other ∈ s.slots, other ≠ slot → other.filter ≠ slot.filter ∧
        v.filters.get? other.filter = (w.sent slot.filter bytes).filters.get? other.filter ∧
        (w.Undisturbed slot.filter bytes →
          v.filters.get? other.filter = w.filters.get? other.filter) := by
  have hstaffs : w.Staffs s := hw.staffed k s hs
  obtain ⟨f, hf, hserves⟩ := hstaffs.filters slot hslot
  have hfound := hstaffs.slot_eq_ok hslot
  rw [Bench.writeSensorBytes,
    Bench.exec_slot (fun slot => Bench.writeBytes slot.filter bytes) hname hs hfound]
    at hwrite
  obtain ⟨rfl, rfl⟩ := Prod.ext_iff.mp hwrite
  have hothers := Bench.keepsOthers_writeBytes hf bytes
  refine ⟨?_, ?_, ?_⟩
  · intro hok
    exact showsBytes_writeBytes hw.sound hname hs hfound hf hserves (.inl hok)
  · intro haccepts
    refine ⟨fun hpanic => ?_,
      fun e herror hne => Bench.unchanged_writeBytes hw.sound hf haccepts herror hne⟩
    exact showsBytes_writeBytes hw.sound hname hs hfound hf hserves (.inr ⟨haccepts, hpanic⟩)
  · intro other hother hne
    have hkinds : other.kind ≠ slot.kind :=
      fun h => hne (List.inj_on_of_nodup_map hstaffs.kinds hother hslot h)
    have happart := hstaffs.apart hslot hother hkinds
    refine ⟨happart, hothers _ happart, fun hquiet => ?_⟩
    rw [← filters_sent hquiet]
    exact hothers _ happart

/-- A sensor with both filters that a device has advertised, wired to a link that takes whatever is
sent. -/
def pairSensor : Workbench :=
  ({} : Workbench).run [(.placeDevice "device" {}, false),
    (.advertise "device" .decimation "small" "small", false),
    (.advertise "device" .temporal "depth" "depth", false), (.placeScript "link" {}, false),
    (.buildSensor "sensor" "camera" {} [.kept "small", .kept "depth"] (some "link") none, false)]

/-- A temporal filter that is switched on, with one half for alpha, 20 for delta and 3 for
persistency. -/
def halfAlpha : List UInt8 := [1, 0, 0, 0, 0x3F, 20, 0, 0, 0, 3, 0, 0, 0]

/-- Bytes for the temporal filter are shown by its slot, and the decimation filter beside it is left
alone; bytes that are too short change nothing. -/
theorem pairSensor_shows_halfAlpha : ∃ v,
    (Bench.writeSensorBytes "sensor" .temporal halfAlpha).exec pairSensor = (.ok (), v) ∧
      v.ShowsBytes "sensor" ⟨.temporal, 1⟩ halfAlpha ∧
      v.filters.get? 0 = pairSensor.filters.get? 0 ∧
      (Bench.writeSensorBytes "sensor" .temporal [1]).exec pairSensor =
        (.error (.filter (.bufferSize .temporal 13 1)), pairSensor) := by
  have hreach : pairSensor.Reachable := Reachable.start.run _
  have hname : pairSensor.names.sensors.get? "sensor" = some 0 := by decide +kernel
  have hslots : (pairSensor.sensors.get? 0).map (·.slots) =
      some [⟨.decimation, 0⟩, ⟨.temporal, 1⟩] := by
    decide +kernel
  have hdone : ((Bench.writeSensorBytes "sensor" .temporal halfAlpha).exec pairSensor).1 =
      .ok () := by
    decide +kernel
  have hquiet : (pairSensor.submission? 1 halfAlpha).all (fun s =>
      (pairSensor.links.get? s.link).all fun l => !l.reportsNext) = true := by decide +kernel
  have hfails : ((Bench.writeSensorBytes "sensor" .temporal [1]).exec pairSensor).1 =
      .error (.filter (.bufferSize .temporal 13 1)) := by decide +kernel
  have hshort : pairSensor.submission? 1 [1] = none :=
    Option.isNone_iff_eq_none.mp (by decide +kernel)
  generalize pairSensor = w at *
  obtain ⟨s, hs, hslots⟩ := Option.map_eq_some_iff.mp hslots
  have hslot : (⟨.temporal, 1⟩ : SensorSlot) ∈ s.slots := by simp [hslots]
  have hother : (⟨.decimation, 0⟩ : SensorSlot) ∈ s.slots := by simp [hslots]
  have hundisturbed : w.Undisturbed 1 halfAlpha := by
    intro sub l hsub hl
    rw [hsub, Option.all_some, hl, Option.all_some, Bool.not_eq_true'] at hquiet
    exact hquiet
  have haccepts : w.Accepts 1 [1] := by
    intro sub hsub
    cases hshort.symm.trans hsub
  cases hwrite : (Bench.writeSensorBytes "sensor" .temporal halfAlpha).exec w with
  | mk r v =>
    cases hrefuse : (Bench.writeSensorBytes "sensor" .temporal [1]).exec w with
    | mk r' v' =>
      rw [hwrite] at hdone
      rw [hrefuse] at hfails
      obtain ⟨hshows, -, hothers⟩ := surfaces_show_one_state hreach hname hs hslot halfAlpha hwrite
      obtain ⟨-, hrefused, -⟩ := surfaces_show_one_state hreach hname hs hslot [1] hrefuse
      cases hdone
      cases hfails
      have hsame : v' = w := (hrefused haccepts).2 _ rfl (by decide)
      refine ⟨v, rfl, hshows rfl, (hothers _ hother (by decide)).2.2 hundisturbed, ?_⟩
      rw [hsame]

end Workbench

end EmbeddedFilters
