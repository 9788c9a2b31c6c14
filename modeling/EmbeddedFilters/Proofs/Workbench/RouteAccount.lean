import EmbeddedFilters.Proofs.Workbench.LiveUsers

/-!
# The account of routes

In every reachable workbench the book of routes is in order (`Workbench.Reachable.inOrder`). A
command may subscribe filters to loops (`Command.Subscribes`). It leaves every other filter the
routes that it has, unless it tears the filter down (`Command.reroutes_act`), and so does a run of
commands (`Workbench.routesTo_run`).
-/

namespace EmbeddedFilters

namespace Workbench

/-- A workbench goes on with its book of routes in order. Every filter has the routes that it had or
is at rest, except for those that may have been subscribed. -/
def Reroutes (S : Nat → Prop) (w w' : Workbench) : Prop :=
  w.Continues w' ∧ (w.Sound → w.routeBook.InOrder none →
    w'.routeBook.InOrder none ∧ ∀ n, ¬ S n → w'.RestsAt n ∨ w'.routesTo n = w.routesTo n)

/-- The book of routes stays in order, and the routes to some targets are what they were. -/
def SparesRoutes (p : Target → Bool) (w w' : Workbench) : Prop :=
  w.routeBook.InOrder none →
    w'.routeBook.InOrder none ∧ ∀ i, w'.routeBook.leading p i = w.routeBook.leading p i

variable {S : Nat → Prop} {p : Target → Bool} {w w' : Workbench}

/-- Routes may be changed again and again. -/
instance : Bench.Course (Reroutes S) where
  refl w := ⟨Bench.Course.refl w, fun _ h => ⟨h, fun _ _ => .inr rfl⟩⟩
  trans h h' := by
    refine ⟨Bench.Course.trans h.1 h'.1, fun hsound horder => ?_⟩
    obtain ⟨hsound', -⟩ := h.1 hsound
    obtain ⟨horder', hfirst⟩ := h.2 hsound horder
    obtain ⟨horder'', hsecond⟩ := h'.2 hsound' horder'
    refine ⟨horder'', fun n hn => ?_⟩
    obtain hrests | hsame := hfirst n hn
    · exact .inl (h'.1.rests ⟨hsound', hrests⟩).2
    · exact (hsecond n hn).imp_right fun hsame' => hsame'.trans hsame

/-- Routes may be spared again and again. -/
instance : Bench.Course (SparesRoutes p) where
  refl _ h := ⟨h, fun _ => rfl⟩
  trans h h' horder := by
    obtain ⟨horder', hfirst⟩ := h horder
    obtain ⟨horder'', hsecond⟩ := h' horder'
    exact ⟨horder'', fun i => (hsecond i).trans (hfirst i)⟩

/-- Where loops are steady routes are spared. -/
lemma Steady.sparesRoutes (h : w.Steady w') : w.SparesRoutes p w' := by
  intro horder
  rw [h.2]
  exact ⟨horder, fun _ => rfl⟩

/-- The book of routes decides where the reports of a filter go. -/
lemma routesTo_of_leading {n : Nat}
    (h : ∀ i, w'.routeBook.leading (· = .filter n) i = w.routeBook.leading (· = .filter n) i) :
    w'.routesTo n = w.routesTo n := funext h

/-- A workbench goes on with the same book of routes. -/
lemma Continues.reroutes (h : w.Continues w') (hbook : w.Sound → w'.routeBook = w.routeBook) :
    w.Reroutes S w' := by
  refine ⟨h, fun hsound horder => ?_⟩
  have hbook := hbook hsound
  refine ⟨hbook ▸ horder, fun n _ => .inr (routesTo_of_leading fun i => ?_)⟩
  rw [hbook]

/-- A workbench goes on, and spares all routes but those to filters that may have been
subscribed. -/
lemma Continues.reroutes_of_spares (h : w.Continues w')
    (hspares : ∀ p : Target → Bool, (∀ n, S n → p (.filter n) = false) → w.SparesRoutes p w') :
    w.Reroutes S w' := by
  refine ⟨h, fun _ horder => ⟨(hspares (fun _ => false) (fun _ _ => rfl) horder).1, fun n hn => ?_⟩⟩
  refine .inr (routesTo_of_leading (hspares _ (fun m hm => decide_eq_false ?_) horder).2)
  intro heq
  cases heq
  exact hn hm

/-- Routes to sinks come and go. -/
lemma Spares.reroutes (h : w.Spares w') {b : RouteBook} (hbook : w'.routeBook = b)
    (hkeeps : w.routeBook.InOrder none →
      b.InOrder none ∧ ∀ n i, b.leading (· = .filter n) i = w.routeBook.leading (· = .filter n) i) :
    w.Reroutes S w' := by
  refine ⟨h.continues, fun _ horder => ?_⟩
  obtain ⟨horder', hleading⟩ := hkeeps horder
  rw [← hbook] at horder' hleading
  exact ⟨horder', fun n _ => .inr (routesTo_of_leading (hleading n))⟩

end Workbench

namespace Bench

open Workbench (Continues Reroutes SparesRoutes Steady)

variable {α : Type} {S : Nat → Prop} {p : Target → Bool} {w : Workbench}

/-- A steady operation with which the workbench goes on reroutes nothing. -/
lemma Within.reroutes {x : Bench α} (h : Within Steady x w) (hcontinues : Within Continues x w) :
    Within (Reroutes S) x w := Continues.reroutes hcontinues fun _ => h.2

/-- Subscribing a filter spares the routes to the others. -/
lemma sparesRoutes_subscribe {n : Nat} (hn : p (.filter n) = false) (l : Nat) (topic : String) :
    Within (SparesRoutes p) (subscribe n l topic) w := by
  intro horder
  obtain ⟨f, d, hf, -, hd, hdone⟩ | ⟨-, e, hfails⟩ := exec_subscribe_cases n l topic w
  · rw [hdone, Workbench.routeBook_subscribed hf hd topic]
    exact ⟨horder.subscribe _ _ _ _, horder.leading_subscribe hn _ _ _⟩
  · rw [hfails]
    exact ⟨horder, fun _ => rfl⟩

/-- Subscribing a filter reroutes it at most. -/
lemma reroutes_subscribe {n : Nat} (hn : S n) (l : Nat) (topic : String) :
    Within (Reroutes S) (subscribe n l topic) w :=
  Workbench.Continues.reroutes_of_spares (orderly_subscribe n l topic).continues fun _ hp =>
    sparesRoutes_subscribe (hp n hn) l topic

/-- Tearing a filter down reroutes none that is left. -/
lemma reroutes_destroy (n : Nat) : Within (Reroutes S) (destroy n) w := by
  refine ⟨(orderly_destroy n).continues, fun _ horder => ?_⟩
  cases hf : w.filters.get? n with
  | none =>
    have hfails : Fails (destroy n) w := (Fails.found (fun w => w.filters.get? n) hf).bind _
    obtain ⟨e, hfails⟩ := hfails
    rw [hfails]
    exact ⟨horder, fun _ _ => .inr rfl⟩
  | some f =>
    have hbook := Workbench.routeBook_tornDown hf
    rw [exec_destroy hf]
    refine ⟨hbook ▸ horder.tearDown n, fun m _ => ?_⟩
    by_cases hm : m = n
    · subst hm
      cases f with
      | remote f =>
        refine .inl ⟨f.destroy, ?_, f.atRest_destroy⟩
        rw [w.tornDown_filters, Pool.get?_put_self]
        rfl
      | offline f =>
        refine .inr (Workbench.routesTo_of_leading fun i => ?_)
        have hheld : w.routeBook.held m = none := Workbench.routeBook_held hf
        rw [hbook, RouteBook.tearDown, hheld]
        rfl
    · refine .inr (Workbench.routesTo_of_leading fun i => ?_)
      rw [hbook]
      exact horder.leading_tearDown (decide_eq_false fun heq => hm (Target.filter.inj heq).symm) i

/-! ### Filters by name -/

/-- A filter that is added has no routes yet. -/
lemma reroutes_addFilter {f : Filter} (hvalid : f.Valid) (hroute : f.route? = none) :
    Within (Reroutes S) (addFilter f) w := by
  refine Workbench.Continues.reroutes (Workbench.continues_add hvalid) fun hsound => ?_
  refine congrArg (fun held => RouteBook.mk _ _ held _) (funext fun m => ?_)
  show ((w.filters.add f).2.get? m).bind _ = (w.filters.get? m).bind _
  rw [Pool.get?_add]
  split
  · rename_i heq
    rw [heq, hsound.free _ le_rfl]
    exact hroute
  · rfl

/-- Changing names reroutes nothing, if it leaves those of routes. -/
lemma reroutes_rename {change : Names → Names} (h : ∀ names, (change names).routes = names.routes) :
    Within (Reroutes S) (rename change) w := by
  refine Workbench.Continues.reroutes (Workbench.continues_of_eq rfl rfl) fun _ => ?_
  exact congrArg (RouteBook.mk _ _ _) (h w.names)

/-- Letting a filter go reroutes none that is left. -/
lemma reroutes_letGo (h : FilterHandle) : Within (Reroutes S) (letGo h) w := by
  unfold letGo
  split
  · exact reroutes_destroy _
  · exact Within.pure _

/-- Naming a filter reroutes none that is left. -/
lemma reroutes_nameFilter (name : String) (h : FilterHandle) :
    Within (Reroutes S) (nameFilter name h) w := by
  refine Within.bind_reads Reads.get fun _ _ =>
    Within.bind (reroutes_rename fun _ => rfl) fun _ _ _ => ?_
  exact Within.optionForM fun _ _ => reroutes_letGo _

/-- Placing a filter without a route reroutes none that is left. -/
lemma reroutes_place (name : String) {f : Filter} (hvalid : f.Valid) (hroute : f.route? = none) :
    Within (Reroutes S) (place name f) w := by
  refine Within.bind (reroutes_addFilter hvalid hroute) fun _ _ _ => ?_
  exact Within.bind (reroutes_nameFilter _ _) fun _ _ _ => Within.pure _

/-- Placing an offline filter reroutes none that is left. -/
lemma reroutes_placeOffline (name : String) (kind : FilterKind) (title : String)
    (params? : Option Parameters) :
    Within (Reroutes S) (placeOffline name kind title params?) w := by
  cases params? with
  | none => exact reroutes_place _ (OfflineFilter.valid_new kind title) rfl
  | some params =>
    exact Within.bind_ofFilter fun _ hf => reroutes_place _ (OfflineFilter.valid_withParams hf) rfl

/-- Placing a remote filter reroutes none that is left. -/
lemma reroutes_placeRemote (name : String) (kind : FilterKind) (source : AdvertisementSource)
    (topic : String) :
    Within (Reroutes S) (placeRemote name kind source topic) w := by
  refine Within.bind_reads (reads_advertisement source) fun a _ =>
    Within.bind_ofFilter fun f hf => ?_
  exact reroutes_place _ (RemoteFilter.ofAdvertisement_ok hf).1
    (RemoteFilter.route_of_ofAdvertisement hf)

/-- Placing a filter that is declared over a record reroutes none that is left. -/
lemma reroutes_placeDeclared (name : String) (kind : FilterKind) (record topic : String) :
    Within (Reroutes S) (placeDeclared name kind record topic) w := by
  refine Within.bind_reads Reads.get fun _ _ => Within.bind_reads (Reads.found _ _) fun _ _ => ?_
  refine Within.bind_ofFilter fun f hf => ?_
  exact reroutes_place _ (RemoteFilter.declare_ok hf).1 (RemoteFilter.route_of_declare hf)

/-- Dropping a filter by its name reroutes none that is left. -/
lemma reroutes_dropFilter (name : String) : Within (Reroutes S) (dropFilter name) w := by
  refine Within.bind_reads Reads.get fun _ _ => Within.bind_reads (Reads.found _ _) fun _ _ => ?_
  exact Within.bind (reroutes_rename fun _ => rfl) fun _ _ _ => reroutes_letGo _

/-- Naming a filter of a sensor reroutes none that is left. -/
lemma reroutes_nameSensorFilter (name : String) (kind : FilterKind) (filterName : String) :
    Within (Reroutes S) (nameSensorFilter name kind filterName) w := by
  refine Within.bind_reads (reads_sensor name) fun _ _ => Within.bind_ofFilter fun _ _ => ?_
  refine Within.bind (reroutes_nameFilter _ _) fun _ _ _ => ?_
  exact Within.bind_filter fun _ _ => Within.pure _

/-! ### Loops and sinks -/

/-- One more requester of a loop reroutes nothing. -/
lemma reroutes_acquire (n : Nat) : Within (Reroutes S) (changeLoop n DeliveryLoop.acquire) w :=
  Workbench.Continues.reroutes (spares_changeLoop _ _).orderly.continues fun _ =>
    w.routeBook_acquire n

/-- One requester less reroutes nothing. -/
lemma reroutes_release (n : Nat) : Within (Reroutes S) (changeLoop n DeliveryLoop.release) w :=
  Workbench.Continues.reroutes (spares_changeLoop _ _).orderly.continues fun _ =>
    w.routeBook_release n

/-- A loop that is added has no routes. -/
lemma reroutes_placeLoop (hfree : w.loops.get? w.loops.next = none) (name : String)
    (config : LinkConfig) : Within (Reroutes S) (placeLoop name config) w := by
  refine Workbench.Continues.reroutes (spares_placeLoop name config).orderly.continues fun _ => ?_
  have hsame : ∀ {β : Type} (none : β) (look : DeliveryLoop Target → β),
      look (.ofConfig config) = none →
      (fun j => ((w.loops.add (.ofConfig config)).2.get? j).elim none look) =
        fun j => (w.loops.get? j).elim none look := by
    intro β none look hlook
    funext j
    rw [Pool.get?_add]
    split
    · rename_i heq
      rw [heq, hfree]
      exact hlook
    · rfl
  exact congrArg₂ (fun entries next => RouteBook.mk entries next _ _) (hsame [] (·.routes) rfl)
    (hsame 0 (·.nextToken) rfl)

/-- Requesting a loop reroutes nothing. -/
lemma reroutes_acquireLoop (name tag : String) : Within (Reroutes S) (acquireLoop name tag) w := by
  refine Within.bind_reads (reads_loopNumber name) fun _ _ => ?_
  refine Within.bind (reroutes_acquire _) fun _ _ _ => Within.bind_reads Reads.get fun _ _ => ?_
  refine Within.bind (reroutes_rename fun _ => rfl) fun _ _ _ => ?_
  exact Within.optionForM fun _ _ => reroutes_release _

/-- Giving up a loop reroutes nothing. -/
lemma reroutes_releaseLoop (tag : String) : Within (Reroutes S) (releaseLoop tag) w := by
  refine Within.bind_reads Reads.get fun _ _ => Within.bind_reads (Reads.found _ _) fun _ _ => ?_
  exact Within.bind (reroutes_rename fun _ => rfl) fun _ _ _ => reroutes_release _

/-- Routing reports to a sink reroutes no filter. -/
lemma reroutes_routeToSink (name topic filter tag key : String) (refuses holds : Bool) :
    Within (Reroutes S) (routeToSink name topic filter tag key refuses holds) w := by
  refine Within.bind_reads (reads_loopNumber name) fun l _ => ?_
  have hsink := (steady_sinkNumber (w := w) tag refuses holds).reroutes (S := S)
    (spares_sinkNumber tag refuses holds).orderly.continues
  refine Within.bind hsink fun sink v _ => ?_
  cases hd : v.loops.get? l with
  | none =>
    have hfails : Fails (addRoute l topic filter (.sink sink)) v :=
      (Fails.found (fun w => w.loops.get? l) hd).bind _
    obtain ⟨e, hfails⟩ := hfails
    rw [Within, exec_bind_error hfails]
    exact Course.refl v
  | some d =>
    rw [Within, exec_bind_ok (exec_addRoute hd topic filter (.sink sink))]
    let x : Workbench := { v with
      loops := v.loops.modify l fun _ => (d.addRoute topic filter (.sink sink)).2
      names := { v.names with routes := v.names.routes.put key ⟨l, d.nextToken⟩ } }
    show v.Reroutes S (((v.names.routes.get? key).forM dropRoute).exec x).2
    rw [exec_takeBack]
    have hbook : (x.takeBack (v.names.routes.get? key)).routeBook =
        v.routeBook.keep key l topic filter sink := by
      rw [Workbench.routeBook_takeBack, RouteBook.keep, Workbench.routeBook_next hd,
        ← Workbench.routeBook_addRoute hd]
      rfl
    have hx : v.Spares x := ⟨rfl, rfl, rfl⟩
    have hspares : v.Spares (x.takeBack (v.names.routes.get? key)) :=
      Course.trans hx (x.spares_takeBack _)
    exact hspares.reroutes hbook fun horder =>
      ⟨horder.keep key l topic filter sink, horder.leading_keep key l topic filter sink⟩

/-- Dropping a route by its name reroutes no filter. -/
lemma reroutes_dropNamedRoute (key : String) : Within (Reroutes S) (dropNamedRoute key) w := by
  cases hkey : w.names.routes.get? key with
  | none =>
    obtain ⟨e, hfails⟩ := (Fails.found (fun w => w.names.routes.get? key) hkey).bind fun route => do
      rename fun names => { names with routes := names.routes.erase key }
      dropRoute route
    have hfails : (dropNamedRoute key).exec w = (.error e, w) := hfails
    rw [Within, hfails]
    exact Course.refl w
  | some r =>
    have hroute : ((do found "tag" ((← get).names.routes.get? key) : Bench Route)).exec w =
        (.ok r, w) :=
      exec_lookup (fun w => w.names.routes.get? key) hkey _
    let x : Workbench := { w with names := { w.names with routes := w.names.routes.erase key } }
    have hdone : (dropNamedRoute key).exec w = (.ok (), x.takeBack (w.names.routes.get? key)) := by
      rw [hkey]
      exact exec_bind_ok hroute _
    rw [Within, hdone]
    have hx : w.Spares x := ⟨rfl, rfl, rfl⟩
    have hspares : w.Spares (x.takeBack (w.names.routes.get? key)) :=
      Course.trans hx (x.spares_takeBack _)
    exact hspares.reroutes (x.routeBook_takeBack _) fun horder =>
      ⟨horder.giveUp key, horder.leading_giveUp key⟩

end Bench

/-! ### Sensors -/

namespace Workbench

/-- Is the filter with a number a remote one that can be used? -/
def isAlive (w : Workbench) (n : Nat) : Bool := (w.remote? n).any (!·.destroyed)

/-- The filters that a sensor takes along when it is attached to a loop: its remote filters in order
up to the first that cannot be used. -/
def takenAlong (w : Workbench) (s : Sensor) : List Nat := (Bench.remoteSlots s).takeWhile w.isAlive

variable {w : Workbench} {n l : Nat} {f : RemoteFilter} {d : DeliveryLoop Target}

/-- A remote filter is alive unless it has been torn down. -/
lemma isAlive_eq (hf : w.filters.get? n = some (.remote f)) : w.isAlive n = !f.destroyed := by
  rw [isAlive, remote?_eq_some.mpr hf]
  rfl

/-- The filters that are alive are the remote ones that have not been torn down. -/
lemma isAlive_iff :
    w.isAlive n = true ↔ ∃ f, w.filters.get? n = some (.remote f) ∧ f.destroyed = false := by
  constructor
  · intro h
    cases hf : w.remote? n with
    | none =>
      rw [isAlive, hf] at h
      cases h
    | some f =>
      have hf := remote?_eq_some.mp hf
      rw [isAlive_eq hf, Bool.not_eq_true'] at h
      exact ⟨f, hf, h⟩
  · rintro ⟨f, hf, hlive⟩
    rw [isAlive_eq hf, hlive, Bool.not_false]

/-- A filter that is subscribed can be used as before, and so can all others. -/
lemma isAlive_subscribed (hf : w.filters.get? n = some (.remote f)) (topic : String) :
    (w.subscribed n f l d topic).isAlive = w.isAlive := by
  funext m
  by_cases hm : m = n
  · subst hm
    have hput : (w.subscribed m f l d topic).filters.get? m =
        some (.remote { f with route? := some ⟨l, d.nextToken⟩ }) := by
      rw [subscribed_filters, Pool.get?_put_self]
    rw [isAlive_eq hf, isAlive_eq hput]
  · rw [isAlive, isAlive, remote?, remote?, subscribed_filters, Pool.get?_put_of_ne _ hm]

end Workbench

namespace Bench

open Workbench (Reroutes SparesRoutes)

variable {S : Nat → Prop} {p : Target → Bool} {w : Workbench}

/-- Filters are subscribed one after another, up to the first that cannot be used. -/
lemma sparesRoutes_subscribes {list : List Nat}
    (hlist : ∀ n ∈ list.takeWhile w.isAlive, p (.filter n) = false) (l : Nat) (topic : String) :
    Within (SparesRoutes p) (list.forM fun n => subscribe n l topic) w := by
  induction list generalizing w with
  | nil => exact Within.pure _
  | cons n rest ih =>
    obtain ⟨f, d, hf, hlive, hd, hdone⟩ | ⟨-, e, hfails⟩ := exec_subscribe_cases n l topic w
    · have halive : w.isAlive n = true := Workbench.isAlive_iff.mpr ⟨f, hf, hlive⟩
      rw [List.takeWhile_cons_of_pos halive] at hlist
      refine Within.bind
        (sparesRoutes_subscribe (hlist n List.mem_cons_self) l topic) fun _ v hout => ih ?_
      cases hdone.symm.trans hout
      rw [Workbench.isAlive_subscribed hf]
      exact fun m hm => hlist m (List.mem_cons_of_mem _ hm)
    · have hstops : ((n :: rest).forM fun n => subscribe n l topic).exec w = (.error e, w) :=
        exec_bind_error hfails _
      rw [Within, hstops]
      exact Course.refl w

/-- A sensor is attached by subscribing its filters. What follows cannot fail, and changes no
routes. -/
lemma attachSensor_subscribes {n l : Nat} {s : Sensor} (hs : w.sensors.get? n = some s) :
    let subscribed :=
      ((remoteSlots s).forM fun f => subscribe f l s.config.notificationTopic).exec w
    ((attachSensor n l).exec w).1 = subscribed.1 ∧
      ((attachSensor n l).exec w).2.routeBook = subscribed.2.routeBook := by
  intro subscribed
  rw [attachSensor, exec_bind_ok (exec_sensorAt hs)]
  cases hout : subscribed with
  | mk r v =>
    cases r with
    | error e =>
      rw [exec_bind_error hout]
      exact ⟨rfl, rfl⟩
    | ok _ =>
      rw [exec_bind_ok hout]
      split
      · exact ⟨rfl, v.routeBook_acquire l⟩
      · exact ⟨rfl, rfl⟩

/-- A sensor that is attached has the routes moved of those filters that it takes along. -/
lemma sparesRoutes_attachSensor {n : Nat}
    (hp : ∀ s, w.sensors.get? n = some s → ∀ m ∈ w.takenAlong s, p (.filter m) = false) (l : Nat) :
    Within (SparesRoutes p) (attachSensor n l) w := by
  cases hs : w.sensors.get? n with
  | none =>
    have hfails : Fails (attachSensor n l) w := (Fails.found (fun w => w.sensors.get? n) hs).bind _
    obtain ⟨e, hfails⟩ := hfails
    rw [Within, hfails]
    exact Course.refl w
  | some s =>
    intro horder
    obtain ⟨-, hbook⟩ := attachSensor_subscribes (l := l) hs
    rw [hbook]
    exact sparesRoutes_subscribes (hp s hs) l _ horder

/-- Attaching a sensor reroutes the filters that are taken along at most. -/
lemma reroutes_attachSensor {n : Nat}
    (hS : ∀ s, w.sensors.get? n = some s → ∀ m ∈ w.takenAlong s, S m) (l : Nat) :
    Within (Reroutes S) (attachSensor n l) w :=
  Workbench.Continues.reroutes_of_spares (orderly_attachSensor n l).continues fun _ hp =>
    sparesRoutes_attachSensor (fun s hs m hm => hp m (hS s hs m hm)) l

/-- The end of a sensor reroutes none that is left. -/
lemma reroutes_endSensor (n : Nat) : Within (Reroutes S) (endSensor n) w := by
  refine Within.bind_reads (reads_sensorAt n) fun s _ => ?_
  refine Within.bind (Within.forM fun slot _ _ => reroutes_destroy slot.filter) fun _ _ _ => ?_
  refine Within.bind (Within.optionForM fun l _ => reroutes_release l) fun _ _ _ => ?_
  exact Workbench.Continues.reroutes (Workbench.continues_of_eq rfl rfl) fun _ => rfl

/-- Dropping a name of a sensor reroutes none that is left. -/
lemma reroutes_dropSensor (name : String) : Within (Reroutes S) (dropSensor name) w := by
  refine Within.bind_reads (reads_sensorNumber name) fun n _ => ?_
  exact Within.bind (reroutes_rename fun _ => rfl) fun _ _ _ => reroutes_endSensor n

/-- Wiring a sensor reroutes nothing. -/
lemma reroutes_wireSensor (n : Nat) (link : LinkNumber) :
    Within (Reroutes S) (wireSensor n link) w :=
  (steady_wireSensor n link).reroutes (orderly_wireSensor n link).continues

/-- A sensor that has been put together is attached with filters of its own. -/
lemma reroutes_launchSensor {n : Nat} {s : Sensor} (hs : w.sensors.get? n = some s)
    (hS : ∀ m ∈ remoteSlots s, S m) (name : String) (link? : Option LinkNumber)
    (loop? : Option Nat) :
    Within (Reroutes S) (launchSensor name n s link? loop?) w := by
  have hwires : Within Workbench.LeavesUse (link?.forM (wireSensor n)) w :=
    Within.optionForM fun link _ => (steady_wireSensor n link).1
  refine Within.bind (Within.optionForM fun link _ => reroutes_wireSensor n link) fun _ v hout => ?_
  rw [Within, hout] at hwires
  have hv : v.sensors.get? n = some s := (congrArg (fun u => u.sensors.get? n) hwires).trans hs
  have hattaches : ∀ s', v.sensors.get? n = some s' → ∀ m ∈ v.takenAlong s', S m := by
    intro s' hs' m hm
    cases hv.symm.trans hs'
    exact hS m ((List.takeWhile_prefix _).subset hm)
  refine Within.bind (Within.optionForM fun l _ => reroutes_attachSensor hattaches l) fun _ _ _ =>
    ?_
  refine Within.bind_reads Reads.get fun _ _ =>
    Within.bind (reroutes_rename fun _ => rfl) fun _ _ _ => ?_
  refine Within.bind (Within.optionForM fun n _ => reroutes_endSensor n) fun _ _ _ => ?_
  exact Within.pure _

/-- Adding a sensor with its filters reroutes nothing. -/
lemma reroutes_addSensor {offline : Bool} {topic : String} {list : List Advertisement}
    {filters : List Filter} (h : Sensor.filtersFor offline topic list [] = .ok filters)
    (s : Sensor) :
    w.Reroutes S (w.addSensor filters s) := by
  have hadded : Within (Reroutes S) (filters.mapM fun f => do
      return ({ kind := f.kind, filter := ← addFilter f } : SensorSlot)) w := by
    refine Within.mapM fun f hf _ => ?_
    exact Within.bind
        (reroutes_addFilter (valid_filtersFor h f hf) (route_filtersFor h f hf)) fun _ _ _ =>
      Within.pure _
  rw [Within, exec_addFilters] at hadded
  exact Course.trans hadded
    (Workbench.Continues.reroutes (Workbench.continues_of_eq rfl rfl) fun _ => rfl)

/-- A sensor that is built subscribes new filters at most. -/
lemma reroutes_buildSensor (hS : ∀ n, w.filters.next ≤ n → S n) (name title : String)
    (config : LinkConfig) (sources : List AdvertisementSource) (link? loop? : Option String) :
    Within (Reroutes S) (buildSensor name title config sources link? loop?) w := by
  refine ends_buildSensor (Course.refl w) fun list filters link? loop? _ hfilters => ?_
  intro s
  have hs : (w.addSensor filters s).sensors.get? w.sensors.next = some s := by
    show (w.sensors.add s).2.get? _ = _
    rw [Pool.get?_add, if_pos rfl]
  have hnew : ∀ m ∈ remoteSlots s, S m :=
    fun m hm => hS m (Workbench.le_sensorOf (Sensor.mem_of_remoteSlots hm))
  exact Course.trans (reroutes_addSensor hfilters s)
    (reroutes_launchSensor hs hnew name link? loop?)

end Bench

/-! ### Commands -/

namespace Command

open Bench Workbench

variable {w : Workbench} {n : Nat}

/-- The command may subscribe the filter with a number to a loop: by itself, with its sensor, or
with a sensor that is built with it. -/
inductive Subscribes (w : Workbench) (n : Nat) : Command → Prop where
  | subscribe {name : String} (loop topic : String) : w.StandsFor name n →
    Subscribes w n (.subscribe name loop topic)
  | attachSensor {name : String} {k : Nat} {s : Sensor} (loop : String) :
      w.names.sensors.get? name = some k →
      w.sensors.get? k = some s → n ∈ w.takenAlong s → Subscribes w n (.attachSensor name loop)
  | buildSensor (name title : String) (config : LinkConfig) (sources : List AdvertisementSource)
      (link? loop? : Option String) : w.filters.next ≤ n →
      Subscribes w n (.buildSensor name title config sources link? loop?)

/-- The command to subscribe a filter reroutes what it names at most. -/
lemma reroutes_subscribe (name loop topic : String) :
    Within (Reroutes fun n => (Command.subscribe name loop topic).Subscribes w n)
      (Command.subscribe name loop topic).act w := by
  refine Within.bind_reads (reads_filterNumber name) fun n hn => ?_
  refine Within.bind_reads (reads_loopNumber loop) fun l _ => Bench.reroutes_subscribe ?_ l topic
  cases hname : w.names.filters.get? name with
  | none =>
    have hfails : Fails (filterNumber name) w :=
      (Fails.found (fun w => w.names.filters.get? name) hname).bind _
    obtain ⟨e, hfails⟩ := hfails
    cases hfails.symm.trans hn
  | some handle =>
    cases (exec_filterNumber hname).symm.trans hn
    exact .subscribe loop topic ⟨handle, hname, rfl⟩

/-- The command to attach a sensor reroutes what it takes along at most. -/
lemma reroutes_attachSensor (name loop : String) :
    Within (Reroutes fun n => (Command.attachSensor name loop).Subscribes w n)
      (Command.attachSensor name loop).act w := by
  obtain ⟨k, l, s, hk, -, hs, hact⟩ | ⟨e, hfails⟩ := of_attachSensor_act (w := w) name loop
  · rw [Bench.Within, hact]
    refine Bench.reroutes_attachSensor (fun s' hs' m hm => ?_) l
    exact .attachSensor loop hk hs' hm
  · rw [Bench.Within, hfails]
    exact Course.refl w

/-- Every command keeps the book of routes in order, and reroutes those filters at most that it
subscribes. -/
lemma reroutes_act (c : Command) (hw : w.loopUse.Accounted []) :
    Within (Reroutes fun n => c.Subscribes w n) c.act w := by
  cases hc : c.changesRegister with
  | false => exact (steady_act hc).reroutes c.continues_act
  | true =>
    cases c with
    | placeOffline => exact Within.ignored (reroutes_placeOffline _ _ _ _)
    | placeRemote => exact Within.ignored (reroutes_placeRemote _ _ _ _)
    | placeDeclared => exact Within.ignored (reroutes_placeDeclared _ _ _ _)
    | nameSensorFilter => exact Within.ignored (reroutes_nameSensorFilter _ _ _)
    | dropFilter => exact reroutes_dropFilter _
    | subscribe name loop topic => exact reroutes_subscribe name loop topic
    | destroy => exact Within.named fun n => reroutes_destroy n
    | placeLoop =>
      exact reroutes_placeLoop (Option.map_eq_none_iff.mp (hw.fresh w.loops.next le_rfl)) _ _
    | acquireLoop => exact reroutes_acquireLoop _ _
    | releaseLoop => exact reroutes_releaseLoop _
    | routeToSink => exact reroutes_routeToSink _ _ _ _ _ _ _
    | dropNamedRoute => exact reroutes_dropNamedRoute _
    | buildSensor name title config sources link? loop? =>
      refine Within.ignored
        (reroutes_buildSensor (fun n hn => ?_) name title config sources link? loop?)
      exact .buildSensor name title config sources link? loop? hn
    | attachSensor name loop => exact reroutes_attachSensor name loop
    | dropSensor => exact reroutes_dropSensor _
    | _ => cases hc

end Command

namespace Workbench

variable {w : Workbench} {n : Nat}

/-- A step reroutes what its command subscribes at most. -/
lemma reroutes_step (hw : w.loopUse.Accounted []) (c : Command) (leave : Bool) :
    w.Reroutes (fun n => c.Subscribes w n) (w.step c.act leave).2.2 :=
  Bench.Course.trans (c.reroutes_act hw)
    ((continues_rest c.act leave).reroutes fun _ => (steady_rest c.act leave).2)

/-- The book of routes starts in order. -/
lemma inOrder_start : ({} : Workbench).routeBook.InOrder none where
  distinct _ := List.nodup_nil
  given _ _ h := by cases h
  owned _ _ h := by cases h
  entered _ _ h := by cases h
  kept _ _ h := by cases h

/-- In a reachable workbench loops and filters agree on the routes to filters. -/
lemma Reachable.inOrder (h : w.Reachable) : w.routeBook.InOrder none := by
  induction h with
  | start => exact inOrder_start
  | step c leave hw ih => exact ((reroutes_step hw.accounted c leave).2 hw.sound ih).1

/-- No command of a run subscribes the filter with a number. -/
def NeverSubscribes (w : Workbench) (n : Nat) : List (Command × Bool) → Prop
  | [] => True
  | (c, leave) :: rest => ¬ c.Subscribes w n ∧ (w.step c.act leave).2.2.NeverSubscribes n rest

/-- A filter that no command of a run subscribes has the routes that it had, unless it has been torn
down. -/
lemma routesTo_run (hw : w.Reachable) {commands : List (Command × Bool)}
    (hnever : w.NeverSubscribes n commands) :
    (w.run commands).RestsAt n ∨ (w.run commands).routesTo n = w.routesTo n := by
  induction commands generalizing w with
  | nil => exact .inr rfl
  | cons c commands ih =>
    obtain ⟨c, leave⟩ := c
    obtain ⟨hc, hrest⟩ := hnever
    have hstep : (w.step c.act leave).2.2.Reachable := .step c leave hw
    obtain hrests | hsame := ((reroutes_step hw.accounted c leave).2 hw.sound hw.inOrder).2 n hc
    · exact .inl ((continues_run commands).rests ⟨hstep.sound, hrests⟩).2
    · exact (ih hstep hrest).imp_right fun hlater => hlater.trans hsame

end Workbench

end EmbeddedFilters
