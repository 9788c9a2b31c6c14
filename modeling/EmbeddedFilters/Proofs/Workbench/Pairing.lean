import EmbeddedFilters.Proofs.Filter.Advertised
import EmbeddedFilters.Proofs.Filter.Twins
import EmbeddedFilters.Proofs.Workbench.Sending

/-!
# Pairs of an offline and a remote filter

An offline filter at the defaults is placed beside a remote one that a device has advertised, and
both are written alike (`FilterWrite`). What one write does to both of them is `Paired.write`: they
are twins, so it ends alike at both and leaves twins. So after any writes both can be read as the
same bytes and the same flag, and the next write will end alike as well
(`Workbench.offline_remote_agree`).
-/

namespace EmbeddedFilters

/-- A setter that temporal filters have. -/
inductive TemporalSetter where
  | alpha (x : Single)
  | delta (i : Int32)
  | persistency (i : Int32)

namespace TemporalSetter

/-- The number of the option that is set. -/
def id : TemporalSetter → OptionId
  | alpha _ => .alpha
  | delta _ => .delta
  | persistency _ => .persistency

/-- The value that the option is set to. -/
def value : TemporalSetter → OptionValue
  | alpha x => .ofSingle x
  | delta i => .ofInt32 i
  | persistency i => .ofInt32 i

end TemporalSetter

/-- A write that filters of either sort take. -/
inductive FilterWrite where
  | option (id : OptionId) (value : OptionValue)
  | enable (on : Bool)
  | temporal (setter : TemporalSetter)
  | bytes (bytes : List UInt8)

namespace FilterWrite

/-- The write to the filter with a name. -/
def on (name : String) : FilterWrite → Command
  | option id value => .writeOption name id value
  | enable on => .enable name on
  | temporal setter => .writeTemporal name setter.id setter.value
  | bytes buffer => .writeBytes name buffer

/-- The write to the offline filter of a pair, then to the remote one. -/
def onBoth (c : FilterWrite) : List (Command × Bool) :=
  [(c.on "offline", false), (c.on "remote", false)]

end FilterWrite

namespace Bench

variable {w : Workbench}

/-- Where there are no loops nothing has to come to rest. -/
lemma exec_settle_empty (hloops : w.loops.members.entries = []) : settle.exec w = (.ok (), w) := by
  rw [settle, exec_bind_ok (exec_get w), hloops]
  rfl

/-- A write that has been prepared for a device that serves the filter is settled. -/
lemma exec_carry_served {n : Nat} {g : RemoteFilter} {d : Device} {s : Submission}
    {assigned : List Assignment} (hget : w.filters.get? n = some (.remote g))
    (hlink : w.links.get? s.link = some (.device d)) (hserves : d.Serves g.proxy)
    (hs : s.Updates g.proxy assigned) : ∃ d' : Device, d'.Serves g.proxy ∧
      (carry (changeProxy n) s).exec w = (.ok (), { w with
        links := w.links.put s.link (.device d')
        filters := w.filters.put n (.remote (g.settle s)) }) := by
  have hsets := RemoteWrite.sets_of_updates hs
  have hok := hserves.send_ok hsets.payload hsets.valid
  have hserved := hserves.send_serves hsets.payload hsets.valid
  rw [← hs.topic] at hok hserved
  refine ⟨_, hserved, ?_⟩
  rw [exec_carry_ok hlink rfl hok]
  exact exec_changeProxy (w := { w with links := w.links.put s.link _ }) hget _

end Bench

namespace Workbench

variable {w : Workbench}

/-- A step without loops ends where its operation does, and the calls are read off. -/
lemma step_without_loops {act : Bench Unit} (hloops : (act.exec w).2.loops.members.entries = []) :
    (w.step act false).2.2 = { (act.exec w).2 with calls := [] } := by
  rw [step_state, Bench.exec_settle_empty hloops]
  rfl

/-- The commands by which a device advertises a filter, and an offline one of the same kind and name
is placed. -/
def placing (config : LinkConfig) (kind : FilterKind) (title : String) : List (Command × Bool) :=
  [(.placeDevice "device" config, false), (.advertise "device" kind title "props", false),
    (.placeOffline "offline" kind title none, false)]

/-- The commands that place a remote filter for the advertisement beside the offline one. -/
def pairing (config : LinkConfig) (kind : FilterKind) (title : String) : List (Command × Bool) :=
  placing config kind title ++
    [(.placeRemote "remote" kind (.kept "props") config.controlTopic, false),
      (.wire "remote" "device", false)]

/-- An offline and a remote filter are known by name and are twins, and the device of the remote one
takes what that sends. There are no loops, so nobody else has a hand in either of them. -/
structure Paired (w : Workbench) (f : OfflineFilter) (g : RemoteFilter) (d : Device) : Prop where
  offline : w.names.filters.get? "offline" = some ⟨0, true⟩
  remote : w.names.filters.get? "remote" = some ⟨1, true⟩
  held : w.filters.get? 0 = some (.offline f)
  proxied : w.filters.get? 1 = some (.remote g)
  link : w.links.get? 0 = some (.device d)
  loops : w.loops.members.entries = []
  serves : d.Serves g.proxy
  twins : Twins f g 0

/-- Of two operations that are done one after the other, both end alike, and leave a pair. -/
structure EndAlike (w : Workbench) (first second : Bench Unit) : Prop where
  results : (w.step first false).1 = ((w.step first false).2.2.step second false).1
  paired : ∃ f g d, ((w.step first false).2.2.step second false).2.2.Paired f g d

/-- Operations end alike if each ends as stated, and what they leave is a pair. -/
lemma endAlike_of_exec {first second : Bench Unit} {r : Except Fault Unit} {v v' : Workbench}
    (hfirst : first.exec w = (r, v)) (hsecond : second.exec { v with calls := [] } = (r, v'))
    (hloops : v.loops.members.entries = []) {f : OfflineFilter} {g : RemoteFilter} {d : Device}
    (hpaired : v'.Paired f g d) : w.EndAlike first second := by
  have hstep : (w.step first false).2.2 = { v with calls := [] } := by
    rw [step_without_loops (by rw [hfirst]; exact hloops), hfirst]
  refine ⟨?_, f, g, d, ?_⟩
  · rw [hstep, step_result, step_result, hfirst, hsecond]
  · rw [hstep, step_without_loops (by rw [hsecond]; exact hpaired.loops), hsecond]
    exact ⟨hpaired.offline, hpaired.remote, hpaired.held, hpaired.proxied,
      hpaired.link, hpaired.loops,
      hpaired.serves, hpaired.twins⟩

namespace Paired

variable {f : OfflineFilter} {g : RemoteFilter} {d : Device} {first second : Bench Unit}

/-- What twins take or refuse alike ends alike on the workbench. -/
lemma endAlike (h : w.Paired f g d) {x : Except FilterError (Told OfflineFilter)}
    {y : Except FilterError Submission} (hagree : Twins.Agree f g 0 x y)
    (hupdates : ∀ s, y = .ok s → s.Fits g.proxy ∧ ∃ assigned, s.Updates g.proxy assigned)
    (hfirst : first.exec w = (do
      let _ ← Bench.announce 0 ((← Bench.ofFilter x).map .offline) : Bench Unit).exec w)
    (hsecond : ∀ v : Workbench, v.names = w.names → v.filters.get? 1 = some (.remote g) →
      second.exec v = (Bench.ofFilter y >>= Bench.carry (Bench.changeProxy 1)).exec v) :
    w.EndAlike first second := by
  cases hagree with
  | refused e =>
    exact endAlike_of_exec hfirst (hsecond _ rfl h.proxied) h.loops ⟨h.offline, h.remote,
      h.held, h.proxied, h.link, h.loops, h.serves, h.twins⟩
  | @taken params s twins =>
    obtain ⟨hfits, assigned, hs⟩ := hupdates s rfl
    have hzero : s.link = 0 := Option.some.inj (hs.link.symm.trans h.twins.wired)
    have hproxied : (w.filters.put 0 (.offline { f with params })).get? 1 = some (.remote g) :=
      (Pool.get?_put_of_ne _ (by decide) _).trans h.proxied
    let v : Workbench :=
      { w with filters := w.filters.put 0 (.offline { f with params }), calls := [] }
    have hprepared : second.exec v = (Bench.carry (Bench.changeProxy 1) s).exec v :=
      hsecond v rfl hproxied
    obtain ⟨d', hserves, hcarry⟩ :=
      Bench.exec_carry_served (w := v) hproxied (hzero ▸ h.link) h.serves hs
    exact endAlike_of_exec hfirst (hprepared.trans hcarry) h.loops {
      offline := h.offline
      remote := h.remote
      held := (Pool.get?_put_of_ne _ (by decide) _).trans (Pool.get?_put_self _ _ _)
      proxied := Pool.get?_put_self _ _ _
      link := hzero ▸ Pool.get?_put_self _ _ _
      loops := h.loops
      serves := hserves.of_evolves (RemoteProxy.evolves_settle hfits)
      twins := twins }

/-- The write of an option ends alike at both filters of a pair. -/
lemma endAlike_option (h : w.Paired f g d) (id : OptionId) (value : OptionValue)
    (hfirst : first.exec w = (Bench.writeOption 0 id value).exec w)
    (hsecond : ∀ v : Workbench, v.names = w.names → v.filters.get? 1 = some (.remote g) →
      second.exec v = (Bench.writeOption 1 id value).exec v) : w.EndAlike first second := by
  refine h.endAlike (h.twins.setOption id value) (fun s hs => ?_) ?_ fun v hnames hget => ?_
  · exact ⟨RemoteFilter.fits_of_prepareOption hs, _,
      (RemoteWrite.of_prepareOption h.twins.valid hs).1⟩
  · exact hfirst.trans (Bench.exec_bind_ok (Bench.exec_filter h.held) _)
  · exact (hsecond v hnames hget).trans (Bench.exec_writeOption hget id value)

/-- The write of a buffer ends alike at both filters of a pair. -/
lemma endAlike_bytes (h : w.Paired f g d) (buffer : List UInt8)
    (hfirst : first.exec w = (Bench.writeBytes 0 buffer).exec w)
    (hsecond : ∀ v : Workbench, v.names = w.names → v.filters.get? 1 = some (.remote g) →
      second.exec v = (Bench.writeBytes 1 buffer).exec v) : w.EndAlike first second := by
  refine h.endAlike (h.twins.setBytes buffer) (fun s hs => ?_) ?_ fun v hnames hget => ?_
  · obtain ⟨params, -, hupdates, -⟩ := RemoteWrite.of_prepareBytes hs
    exact ⟨RemoteFilter.fits_of_prepareBytes hs, _, hupdates⟩
  · exact hfirst.trans (Bench.exec_bind_ok (Bench.exec_filter h.held) _)
  · exact (hsecond v hnames hget).trans (Bench.exec_writeBytes hget buffer)

/-- Every write ends alike at both filters of a pair. -/
lemma write (h : w.Paired f g d) (c : FilterWrite) :
    w.EndAlike (c.on "offline").act (c.on "remote").act := by
  have hoffline := fun act : Nat → Bench Unit =>
    Bench.exec_bind_ok (Bench.exec_filterNumber h.offline) act
  have hremote : ∀ (act : Nat → Bench Unit) (v : Workbench), v.names = w.names →
      (do act (← Bench.filterNumber "remote")).exec v = (act 1).exec v := fun act v hnames =>
    Bench.exec_bind_ok (Bench.exec_filterNumber (hnames ▸ h.remote)) act
  cases c with
  | option id value =>
    exact h.endAlike_option id value (hoffline _) fun v hnames _ => hremote _ v hnames
  | enable on =>
    exact h.endAlike_option .toggle (.ofBool on) (hoffline _) fun v hnames _ => hremote _ v hnames
  | bytes buffer => exact h.endAlike_bytes buffer (hoffline _) fun v hnames _ => hremote _ v hnames
  | temporal setter =>
    have hfirst := RemoteWrite.exec_temporal h.offline h.held setter.id setter.value
    have hsecond := fun (v : Workbench) (hnames : v.names = w.names)
        (hget : v.filters.get? 1 = some (.remote g)) =>
      RemoteWrite.exec_temporal (hnames ▸ h.remote) hget setter.id setter.value
    have hkind : (Filter.remote g).kind = (Filter.offline f).kind := h.twins.kind
    rw [hkind] at hsecond
    by_cases htemporal : (Filter.offline f).kind = .temporal
    · simp only [htemporal, if_true] at hfirst hsecond
      exact h.endAlike_option setter.id setter.value hfirst hsecond
    · simp only [htemporal, if_false] at hfirst hsecond
      exact endAlike_of_exec hfirst (hsecond _ rfl h.proxied) h.loops ⟨h.offline, h.remote, h.held,
        h.proxied, h.link, h.loops, h.serves, h.twins⟩

/-- A pair that has been written alike any number of times is a pair. -/
lemma run (h : w.Paired f g d) (writes : List FilterWrite) :
    ∃ f g d, (w.run (writes.flatMap FilterWrite.onBoth)).Paired f g d := by
  induction writes generalizing w f g d with
  | nil => exact ⟨f, g, d, h⟩
  | cons c writes ih =>
    obtain ⟨f', g', d', hpaired⟩ := (h.write c).paired
    exact ih hpaired

end Paired

/-- The filter that is made of an advertisement, with a link. -/
def wiredFresh (kind : FilterKind) (title topic : String) (link : LinkNumber) : RemoteFilter :=
  { RemoteFilter.fresh kind title topic with
    proxy := (RemoteFilter.fresh kind title topic).proxy.wire link }

/-- Filters at the defaults are twins, once the remote one has a link. -/
lemma twins_fresh (kind : FilterKind) (title topic : String) (link : LinkNumber) :
    Twins (.new kind title) (wiredFresh kind title topic link) link := by
  have hkind : (OfflineFilter.new kind title).kind = kind := by cases kind <;> rfl
  have hvalid :=
    (RemoteFilter.ofAdvertisement_ok (RemoteFilter.ofAdvertisement_fresh kind title topic)).1
  have hevolves :
      (RemoteFilter.fresh kind title topic).Evolves (wiredFresh kind title topic link) :=
    RemoteFilter.evolves_withProxy (RemoteProxy.evolves_wire link) (.inr rfl)
  exact {
    valid := hevolves.models hvalid
    kind := hkind.symm
    params := Parameters.ofOptions_initialValues kind
    models := by cases kind <;> rfl
    declarations := congrArg Parameters.declarations hkind.symm
    alive := rfl
    live := rfl
    unwatched := rfl
    sound := rfl
    wired := rfl }

/-- A remote filter for the advertisement is placed beside the offline one. -/
lemma step_placeRemote (config : LinkConfig) (kind : FilterKind) (title : String) :
    let placed := ({} : Workbench).run (placing config kind title)
    (placed.step (Command.placeRemote "remote" kind (.kept "props") config.controlTopic).act
      false).2.2 =
      { placed with
        filters := (placed.filters.add (.remote (.fresh kind title config.controlTopic))).2
        names := { placed.names with filters := placed.names.filters.put "remote" ⟨1, true⟩ }
        calls := [] } := by
  intro placed
  have hremote := Bench.exec_placeRemote (w := placed) "remote" (.kept "props") rfl
    (RemoteFilter.ofAdvertisement_fresh kind title config.controlTopic)
  have hplace : ((Command.placeRemote "remote" kind (.kept "props") config.controlTopic).act.exec
      placed).2 = { placed with
        filters := (placed.filters.add (.remote (.fresh kind title config.controlTopic))).2
        names := { placed.names with
          filters := placed.names.filters.put "remote" ⟨1, true⟩ } } := by
    rw [Command.act, Bench.exec_bind, hremote]
    rfl
  have hstep := step_without_loops (w := placed) (by rw [hplace]; rfl)
  rw [hplace] at hstep
  exact hstep

/-- What the commands place is a pair at the defaults. -/
lemma paired_pairing (config : LinkConfig) (kind : FilterKind) (title : String) :
    ∃ d, (({} : Workbench).run (pairing config kind title)).Paired (.new kind title)
      (wiredFresh kind title config.controlTopic 0) d := by
  have hstep := step_placeRemote config kind title
  let placed := ({} : Workbench).run (placing config kind title)
  let u : Workbench := { placed with
    filters := (placed.filters.add (.remote (.fresh kind title config.controlTopic))).2
    names := { placed.names with filters := placed.names.filters.put "remote" ⟨1, true⟩ }
    calls := [] }
  have hname : u.names.filters.get? "remote" = some ⟨1, true⟩ := rfl
  have hget : u.filters.get? 1 = some (.remote (.fresh kind title config.controlTopic)) := rfl
  have hlink : (Bench.linkNumber "device").exec u = (.ok 0, u) := rfl
  have hwire : (Bench.wire "remote" "device").exec u = (.ok (), { u with
      filters := u.filters.put 1 (.remote (wiredFresh kind title config.controlTopic 0)) }) := by
    rw [Bench.wire, Bench.exec_bind_ok (Bench.exec_filterNumber hname),
      Bench.exec_bind_ok (Bench.exec_remoteFilter hget), Bench.exec_bind_ok hlink]
    exact Bench.exec_changeProxy hget _
  have hidle : ((Bench.wire "remote" "device").exec u).2.loops.members.entries = [] := by
    rw [hwire]
    rfl
  have hrest := step_without_loops hidle
  rw [hwire] at hrest
  refine ⟨((Device.ofConfig config).advertise kind title).2, ?_⟩
  rw [pairing, run_append, run, run, run, hstep, Command.act, hrest]
  exact {
    offline := rfl
    remote := rfl
    held := (Pool.get?_put_of_ne _ (by decide) _).trans rfl
    proxied := Pool.get?_put_self _ _ _
    link := rfl
    loops := rfl
    serves := ⟨rfl, rfl, rfl, congrArg (Option.map (·.kind)) (Device.filter?_withFilter_self _ _ _)⟩
    twins := twins_fresh kind title config.controlTopic 0 }

/-- An offline filter and a remote one that start from the same defaults agree after any writes to
both of them. -/
theorem offline_remote_agree (config : LinkConfig) (kind : FilterKind) (title : String)
    (writes : List FilterWrite) :
    let w := (({} : Workbench).run
      (pairing config kind title)).run (writes.flatMap FilterWrite.onBoth)
    ∃ (f : OfflineFilter) (g : RemoteFilter) (b : ParameterBuffer),
      (Bench.namedFilter "offline").exec w = (.ok (.offline f), w) ∧
        (Bench.namedFilter "remote").exec w = (.ok (.remote g), w) ∧
        (Filter.offline f).bytes = .ok b ∧ (Filter.remote g).bytes = .ok b ∧
        (Filter.offline f).isEnabled = (Filter.remote g).isEnabled ∧
        ∀ next : FilterWrite, (w.step (next.on "offline").act false).1 =
          ((w.step (next.on "offline").act false).2.2.step (next.on "remote").act false).1 := by
  intro w
  obtain ⟨d, hstart⟩ := paired_pairing config kind title
  obtain ⟨f, g, d, h⟩ := hstart.run writes
  obtain ⟨b, hb, -⟩ := Parameters.encode_of_validate h.twins.validate
  have hparams : (Filter.remote g).params = .ok f.params := h.twins.params
  refine ⟨f, g, b, ?_, ?_, hb, ?_, ?_, fun next => (h.write next).results⟩
  · exact (Bench.exec_bind_ok (Bench.exec_filterNumber h.offline) _).trans
      (Bench.exec_filter h.held)
  · exact (Bench.exec_bind_ok (Bench.exec_filterNumber h.remote) _).trans
      (Bench.exec_filter h.proxied)
  · rw [Filter.bytes, hparams]
    exact hb
  · rw [Filter.isEnabled, Filter.isEnabled, hparams]
    rfl

end Workbench

end EmbeddedFilters
