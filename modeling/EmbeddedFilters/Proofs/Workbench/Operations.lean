import EmbeddedFilters.Proofs.Workbench.Evolution
import EmbeddedFilters.Workbench.Filters
import EmbeddedFilters.Workbench.Links
import EmbeddedFilters.Workbench.Sensors

/-!
# Named operations

The operations that are known by names let the workbench go on. Those on devices, loops and settings
spare filters, proxies and records altogether; those on filters, proxies and sensors come down to
the operations on numbers, and new filters and proxies are valid because they are made for records
that have been checked.

Values stay in the order of the declarations, in records and in filters (`Workbench.Orderly`),
unless those of a record are replaced (`continues_replaceValues`) and a filter is declared from it
(`continues_placeDeclared`).
-/

namespace EmbeddedFilters.Bench

open Workbench (Continues Orderly Spares)

variable {w : Workbench}

/-! ### Devices, scripts and loops -/

/-- Looking up a device only reads. -/
lemma reads_device (name : String) : Reads (device name) := by
  refine Reads.get.bind fun v => (Reads.found _ _).bind fun n => (reads_link n).bind fun l => ?_
  cases l
  · exact Reads.pure _
  · exact Reads.throw _

/-- Placing a device spares filters and proxies. -/
lemma spares_placeDevice (name : String) (config : LinkConfig) :
    Within Spares (placeDevice name config) w :=
  Within.bind (spares_addLink _) fun _ _ _ => spares_rename fun _ => rfl

/-- Changing a device spares filters and proxies. -/
lemma spares_changeDevice (name : String) (change : Device → Device) :
    Within Spares (changeDevice name change) w :=
  Within.bind_reads (reads_device name) fun _ _ => spares_putLink _ _

/-- Having a device advertise a filter spares filters and proxies. -/
lemma spares_advertise (name : String) (kind : FilterKind) (title key : String) :
    Within Spares (advertise name kind title key) w := by
  refine Within.bind_reads (reads_device name) fun _ _ => ?_
  refine Within.bind (spares_putLink _ _) fun _ _ _ => ?_
  exact Within.bind (spares_rename fun _ => rfl) fun _ _ _ => Within.pure _

/-- Connecting a device to a loop spares filters and proxies. -/
lemma spares_connectDevice (name loop : String) : Within Spares (connectDevice name loop) w := by
  refine Within.bind_reads (reads_device name) fun _ _ => ?_
  exact Within.bind_reads (reads_loopNumber loop) fun _ _ => spares_changeDevice _ _

/-- A report by a device goes on in order. -/
lemma orderly_push (name filter : String) (options : List Assignment) :
    Within Orderly (push name filter options) w := by
  refine Within.bind_reads (reads_device name) fun _ _ => ?_
  refine Within.bind (spares_putLink _ _).orderly fun _ _ _ => ?_
  exact Within.bind_reads (Reads.ofLink _) fun posting _ => orderly_post _ _

/-- Sending a message to a device goes on in order. -/
lemma orderly_sendToDevice (name topic : String) (payload : ByteArray) :
    Within Orderly (sendToDevice name topic payload) w := by
  refine Within.bind_reads (reads_device name) fun _ _ => ?_
  exact Within.bind (orderly_send _ _ _) fun _ _ _ => Within.of_reads (Reads.ofLink _)

/-- Asking a device goes on in order. -/
lemma orderly_queryDevice (name topic : String) (payload : ByteArray) :
    Within Orderly (queryDevice name topic payload) w := by
  refine Within.bind_reads (reads_device name) fun _ _ => ?_
  exact Within.bind (orderly_query _ _ _) fun _ _ _ => Within.of_reads (Reads.ofLink _)

/-- Placing a script spares filters and proxies. -/
lemma spares_placeScript (name : String) (s : Script) : Within Spares (placeScript name s) w :=
  Within.bind (spares_addLink _) fun _ _ _ => spares_rename fun _ => rfl

/-- Looking at what a script has been asked spares filters and proxies. -/
lemma spares_lookAtScript (name : String) : Within Spares (lookAtScript name) w := by
  refine Within.bind_reads Reads.get fun _ _ => Within.bind_reads (Reads.found _ _) fun _ _ => ?_
  refine Within.bind_reads (reads_link _) fun l _ => ?_
  cases l with
  | script s => exact Within.bind (spares_putLink _ _) fun _ _ _ => Within.pure _
  | device d => exact Within.throw _

/-- Placing a loop spares filters and proxies. -/
lemma spares_placeLoop (name : String) (config : LinkConfig) :
    Within Spares (placeLoop name config) w :=
  Within.bind ⟨rfl, rfl, rfl⟩ fun _ _ _ => spares_rename fun _ => rfl

/-- Requesting a loop spares filters and proxies. -/
lemma spares_acquireLoop (name tag : String) : Within Spares (acquireLoop name tag) w := by
  refine Within.bind_reads (reads_loopNumber name) fun _ _ => ?_
  refine Within.bind (spares_changeLoop _ _) fun _ _ _ => Within.bind_reads Reads.get fun _ _ => ?_
  refine Within.bind (spares_rename fun _ => rfl) fun _ _ _ => ?_
  exact Within.optionForM fun _ _ => spares_changeLoop _ _

/-- Giving up a loop spares filters and proxies. -/
lemma spares_releaseLoop (tag : String) : Within Spares (releaseLoop tag) w := by
  refine Within.bind_reads Reads.get fun _ _ => Within.bind_reads (Reads.found _ _) fun _ _ => ?_
  exact Within.bind (spares_rename fun _ => rfl) fun _ _ _ => spares_changeLoop _ _

/-- Finding the number of a sink spares filters and proxies. -/
lemma spares_sinkNumber (tag : String) (refuses holds : Bool) :
    Within Spares (sinkNumber tag refuses holds) w := by
  refine Within.bind_reads Reads.get fun _ _ => ?_
  split
  · exact Within.pure _
  · refine Within.bind ⟨rfl, rfl, rfl⟩ fun _ _ _ => ?_
    exact Within.bind (spares_rename fun _ => rfl) fun _ _ _ => Within.pure _

/-- Routing reports to a sink spares filters and proxies. -/
lemma spares_routeToSink (name topic filter tag key : String) (refuses holds : Bool) :
    Within Spares (routeToSink name topic filter tag key refuses holds) w := by
  refine Within.bind_reads (reads_loopNumber name) fun _ _ => ?_
  refine Within.bind (spares_sinkNumber _ _ _) fun _ _ _ => ?_
  refine Within.bind (spares_addRoute _ _ _ _) fun _ _ _ =>
    Within.bind_reads Reads.get fun _ _ => ?_
  refine Within.bind (spares_rename fun _ => rfl) fun _ _ _ => ?_
  exact Within.optionForM fun _ _ => spares_dropRoute _

/-- Dropping a route by its name spares filters and proxies. -/
lemma spares_dropNamedRoute (key : String) : Within Spares (dropNamedRoute key) w := by
  refine Within.bind_reads Reads.get fun _ _ => Within.bind_reads (Reads.found _ _) fun _ _ => ?_
  exact Within.bind (spares_rename fun _ => rfl) fun _ _ _ => spares_dropRoute _

/-- Dropping a sink spares filters and proxies. -/
lemma spares_dropSink (tag : String) : Within Spares (dropSink tag) w := by
  refine Within.bind_reads Reads.get fun _ _ => Within.bind_reads (Reads.found _ _) fun _ _ => ?_
  exact Within.bind (spares_rename fun _ => rfl) fun _ _ _ => ⟨rfl, rfl, rfl⟩

/-- Opening a sink spares filters and proxies. -/
lemma spares_openSink (tag : String) : Within Spares (openSink tag) w := by
  refine Within.bind_reads Reads.get fun _ _ => Within.bind_reads (Reads.found _ _) fun _ _ => ?_
  exact ⟨rfl, rfl, rfl⟩

/-- Publishing reports goes on in order. -/
lemma orderly_publish (name topic filter : String) (messages : List (List Assignment)) :
    Within Orderly (publish name topic filter messages) w :=
  Within.bind_reads (reads_loopNumber name) fun n _ => Within.forM fun _ _ _ => orderly_post n _

/-- To publish one report is to post it at the loop with the name. -/
lemma exec_publish_single {name : String} {l : Nat} (hname : w.names.loops.get? name = some l)
    (topic filter : String) (options : List Assignment) :
    (publish name topic filter [options]).exec w =
      (post l fun d => d.publish topic ⟨filter, options⟩).exec w := by
  have hnumber : (loopNumber name).exec w = (.ok l, w) :=
    exec_lookup (fun w => w.names.loops.get? name) hname _
  rw [publish, exec_bind_ok hnumber]
  exact congrArg (·.exec w)
    (bind_pure_unit (x := post l fun d => d.publish topic ⟨filter, options⟩))

/-- Delivering a message to a loop goes on in order. -/
lemma orderly_deliver (name topic : String) (payload : ByteArray) :
    Within Orderly (deliver name topic payload) w :=
  Within.bind_reads (reads_loopNumber name) fun n _ => orderly_post n _

/-! ### Records and settings -/

/-- Looking up a record only reads. -/
lemma reads_record (name : String) : Reads (record name) := Reads.lookup _ _

/-- A record is left in the order that the former one under its name has, or in its own. -/
lemma orderly_leaveRecord {name : String} {changed : Except FilterError Unit × FilterRecord}
    (h : (∃ old, w.names.records.get? name = some old ∧ changed.2.SameOrder old) ∨
      changed.2.InOrder) :
    Within Orderly (leaveRecord name changed) w :=
  Within.bind (Workbench.orderly_putRecord h) fun _ _ _ => Within.of_reads (Reads.ofFilter _)

/-- A chain that looks a record up first is orderly if the rest is. -/
lemma Within.bind_record {α : Type} {name : String} {f : FilterRecord → Bench α}
    (hf : ∀ r, w.names.records.get? name = some r → Within Orderly (f r) w) :
    Within Orderly (record name >>= f) w :=
  Within.bind_reads (reads_record name) fun r hr =>
    hf r (of_lookup (fun w => w.names.records.get? name) hr).2

/-- A part of a record is stated. -/
lemma orderly_state {name : String} {r : FilterRecord} (hr : w.names.records.get? name = some r)
    (part : RecordPart) (content : part.Content) :
    Within Orderly (leaveRecord name (r.state part content)) w :=
  orderly_leaveRecord ((r.order_state part content).imp_left fun h => ⟨r, hr, h⟩)

/-- Stating a part of a record goes on in order. -/
lemma orderly_changeRecord (name : String) (part : RecordPart) (content : part.Content) :
    Within Orderly (changeRecord name fun r => r.state part content) w :=
  Within.bind_record fun _ hr => orderly_state hr part content

/-- A record of an advertisement goes on in order. -/
lemma orderly_recordAdvertised (name : String) (a : Advertisement) :
    Within Orderly (recordAdvertised name a) w := by
  refine Within.bind_ofFilter fun r hr => ?_
  have horder := FilterRecord.inOrder_of_ofAdvertisement hr
  exact Within.bind (Workbench.orderly_putRecord (.inr horder)) fun _ _ _ => Within.pure _

/-- A record of a text goes on in order. -/
lemma orderly_recordText (name text : String) : Within Orderly (recordText name text) w := by
  unfold recordText
  split
  · exact orderly_recordAdvertised _ _
  · exact Within.throw _

/-- A record of a source goes on in order. -/
lemma orderly_recordSource (name : String) (source : AdvertisementSource) :
    Within Orderly (recordSource name source) w :=
  Within.bind_reads (reads_advertisement source) fun _ _ => orderly_recordAdvertised _ _

/-- Declaring the options of a text goes on in order. -/
lemma orderly_declareText (name text : String) : Within Orderly (declareText name text) w := by
  refine Within.bind_record fun r hr => ?_
  exact Within.bind_reads (Reads.ofText _ _) fun _ _ => orderly_state hr .options _

/-- Stating the stream of a text goes on in order. -/
lemma orderly_streamText (name text : String) : Within Orderly (streamText name text) w := by
  refine Within.bind_record fun r hr => ?_
  exact Within.bind_reads (Reads.ofText _ _) fun _ _ => orderly_state hr .stream _

/-- The values of a record are replaced by others, in whatever order these are. -/
lemma continues_replaceValues (name : String) (values : List Assignment) :
    Within Continues (replaceValues name values) w := by
  refine Within.bind_reads (reads_record name) fun _ _ => ?_
  refine Within.bind ?_ fun _ _ _ => Within.pure _
  exact Workbench.continues_of_eq rfl rfl

/-- Looking up a store only reads. -/
lemma reads_store (name : String) : Reads (store name) := Reads.lookup _ _

/-- Setting a key of a store spares filters and proxies. -/
lemma spares_changeStore (name key : String) (value : OptionValue) :
    Within Spares (do putStore name ((← store name).set key value)) w :=
  Within.bind_reads (reads_store name) fun _ _ => spares_rename fun _ => rfl

/-- Saving a filter spares filters and proxies. -/
lemma spares_saveFilter (n : Nat) (storeName full : String) (enabled : Bool) :
    Within Spares (saveFilter n storeName full enabled) w := by
  refine Within.bind_reads (reads_store storeName) fun _ _ => ?_
  refine Within.bind_reads (reads_filter n) fun _ _ => ?_
  exact Within.bind (spares_rename fun _ => rfl) fun _ _ _ => Within.of_reads (Reads.ofFilter _)

/-- Saving a filter by its name spares filters and proxies. -/
lemma spares_saveNamed (name storeName full : String) (enabled : Bool) :
    Within Spares (saveNamed name storeName full enabled) w :=
  Within.bind_reads (reads_filterNumber name) fun _ _ => spares_saveFilter _ _ _ _

/-- Restoring a filter by its name goes on in order. -/
lemma orderly_restoreNamed (name storeName full : String) (default : Bool) :
    Within Orderly (restoreNamed name storeName full default) w := by
  refine Within.bind_reads (reads_filterNumber name) fun _ _ => ?_
  exact Within.bind_reads (reads_store storeName) fun _ _ => orderly_restore _ _ _ _

/-! ### Filters -/

/-- Adding a valid filter goes on in order, if its own values are in order. -/
lemma orderly_addFilter {f : Filter} (h : f.Valid)
    (horder : ∀ g, f = .remote g → g.proxy.record.InOrder) : Within Orderly (addFilter f) w :=
  Workbench.orderly_add h horder

/-- Letting a filter go goes on in order. -/
lemma orderly_letGo (h : FilterHandle) : Within Orderly (letGo h) w := by
  unfold letGo
  split
  · exact orderly_destroy _
  · exact Within.pure _

/-- Naming a filter goes on in order. -/
lemma orderly_nameFilter (name : String) (h : FilterHandle) :
    Within Orderly (nameFilter name h) w := by
  refine Within.bind_reads Reads.get fun _ _ => ?_
  refine Within.bind (orderly_rename fun _ => rfl) fun _ _ _ => ?_
  exact Within.optionForM fun _ _ => orderly_letGo _

/-- Placing a valid filter goes on in order, if its own values are in order. -/
lemma orderly_place (name : String) {f : Filter} (h : f.Valid)
    (horder : ∀ g, f = .remote g → g.proxy.record.InOrder) : Within Orderly (place name f) w := by
  refine Within.bind (orderly_addFilter h horder) fun _ _ _ => ?_
  exact Within.bind (orderly_nameFilter _ _) fun _ _ _ => Within.pure _

/-- Placing an offline filter goes on in order. -/
lemma orderly_placeOffline (name : String) (kind : FilterKind) (title : String)
    (params? : Option Parameters) : Within Orderly (placeOffline name kind title params?) w := by
  cases params? with
  | none => exact orderly_place _ (OfflineFilter.valid_new kind title) fun _ h => by cases h
  | some params =>
    refine Within.bind_ofFilter fun _ hf => ?_
    exact orderly_place _ (OfflineFilter.valid_withParams hf) fun _ h => by cases h

/-- A filter that is made for an advertisement has its values in the order of its declarations. -/
lemma inOrder_of_ofAdvertisement {kind : FilterKind} {a : Advertisement} {topic : String}
    {f : RemoteFilter} (h : RemoteFilter.ofAdvertisement kind a topic = .ok f) :
    f.proxy.record.InOrder :=
  FilterRecord.inOrder_of_ofAdvertisement (RemoteFilter.ofAdvertisement_ok h).2.2

/-- Placing a remote filter of an advertisement goes on in order. -/
lemma orderly_placeRemote (name : String) (kind : FilterKind) (source : AdvertisementSource)
    (topic : String) : Within Orderly (placeRemote name kind source topic) w := by
  refine Within.bind_reads (reads_advertisement source) fun a _ => ?_
  refine Within.bind_ofFilter fun f hf => ?_
  refine orderly_place _ (RemoteFilter.ofAdvertisement_ok hf).1 fun g hg => ?_
  cases hg
  exact inOrder_of_ofAdvertisement hf

/-- A remote filter that its advertisement allows is placed. -/
lemma exec_placeRemote (name : String) {topic : String} {kind : FilterKind}
    (source : AdvertisementSource) {a : Advertisement} {f : RemoteFilter}
    (ha : (advertisement source).exec w = (.ok a, w))
    (hf : RemoteFilter.ofAdvertisement kind a topic = .ok f) :
    (placeRemote name kind source topic).exec w = (place name (.remote f)).exec w := by
  rw [placeRemote, exec_bind_ok ha, hf]
  rfl

/-- A filter is declared from a record, in whatever order the values of that are. -/
lemma continues_placeDeclared (name : String) (kind : FilterKind) (record topic : String) :
    Within Continues (placeDeclared name kind record topic) w := by
  refine Within.bind_reads Reads.get fun _ _ => Within.bind_reads (Reads.found _ _) fun _ _ => ?_
  refine Within.bind_ofFilter fun f hf => ?_
  refine Within.bind (Workbench.continues_add (RemoteFilter.declare_ok hf).1) fun _ _ _ => ?_
  exact Within.continues (Within.bind (orderly_nameFilter _ _) fun _ _ _ => Within.pure _)

/-- Populating a filter goes on in order. -/
lemma orderly_populate (name : String) : Within Orderly (populate name) w := by
  refine Within.bind_reads (reads_filterNumber name) fun n _ => ?_
  refine Within.bind_remoteFilter fun f hf => Within.bind_ofFilter fun g hg => ?_
  exact Workbench.orderly_put hf (.remote (RemoteFilter.evolves_populate hg))

/-- Dropping a filter by its name goes on in order. -/
lemma orderly_dropFilter (name : String) : Within Orderly (dropFilter name) w := by
  refine Within.bind_reads Reads.get fun _ _ => Within.bind_reads (Reads.found _ _) fun _ _ => ?_
  exact Within.bind (orderly_rename fun _ => rfl) fun _ _ _ => orderly_letGo _

/-- Allowing an option goes on in order. -/
lemma orderly_allowOption (name : String) (id : OptionId) (on : Bool) :
    Within Orderly (allowOption name id on) w := by
  refine Within.bind_reads (reads_filterNumber name) fun n _ => ?_
  refine Within.bind_filter fun f hf => Within.bind_ofFilter fun _ _ => ?_
  exact Workbench.orderly_put hf (Filter.evolves_withOptionEnabled id on)

/-- Writing an option of a temporal filter goes on in order. -/
lemma orderly_writeTemporal (name : String) (id : OptionId) (value : OptionValue) :
    Within Orderly (writeTemporal name id value) w := by
  refine Within.bind_reads (reads_filterNumber name) fun n _ => Within.bind_filter fun f _ => ?_
  split
  · exact Within.bind (orderly_writeOption _ _ _) fun _ _ _ => Within.pure _
  · exact Within.pure _

/-- Wiring a filter goes on in order. -/
lemma orderly_wire (name link : String) : Within Orderly (wire name link) w := by
  refine Within.bind_reads (reads_filterNumber name) fun n _ => ?_
  refine Within.bind_reads (reads_remoteFilter n) fun _ _ => ?_
  refine Within.bind_reads (reads_linkNumber link) fun l _ => ?_
  exact orderly_wireProxyOf n l

/-- Subscribing a filter by its name goes on in order. -/
lemma orderly_subscribeNamed (name loop topic : String) :
    Within Orderly (subscribeNamed name loop topic) w := by
  refine Within.bind_reads (reads_filterNumber name) fun n _ => ?_
  exact Within.bind_reads (reads_loopNumber loop) fun _ _ => orderly_subscribe _ _ _

/-- The end of a subscription goes on in order. -/
lemma orderly_endWatch (watch : Watch) : Within Orderly (endWatch watch) w :=
  Within.bind_filter fun _ hf => Workbench.orderly_put hf (Filter.evolves_cancel _)

/-- A new subscription goes on in order. -/
lemma orderly_keepWatch (name : String) (id : OptionId) (tag : String) (listener : Listener)
    (mailbox? : Option Nat) : Within Orderly (keepWatch name id tag listener mailbox?) w := by
  refine Within.bind_reads (reads_filterNumber name) fun n _ => Within.bind_filter fun f hf => ?_
  refine Within.bind_ofFilter fun _ _ => Within.bind_ofFilter fun kept hkept => ?_
  refine Within.bind (Workbench.orderly_put hf (Filter.evolves_subscribe hkept)) fun _ _ _ => ?_
  refine Within.bind_reads Reads.get fun _ _ => ?_
  refine Within.bind (orderly_rename fun _ => rfl) fun _ _ _ => ?_
  exact Within.optionForM fun _ _ => orderly_endWatch _

/-- Watching an option goes on in order. -/
lemma orderly_watch (name : String) (id : OptionId) (tag : String) :
    Within Orderly (watch name id tag) w := by
  refine Within.bind (Within.orderly ⟨rfl, rfl, rfl⟩) fun _ _ _ => ?_
  exact orderly_keepWatch _ _ _ _ _

/-- Looking up a mailbox only reads. -/
lemma reads_mailbox (tag : String) : Reads (mailbox tag) := by
  refine Reads.get.bind fun _ => (Reads.found _ _).bind fun _ => (Reads.found _ _).bind fun _ => ?_
  exact Reads.get.bind fun _ => (Reads.found _ _).bind fun _ => Reads.pure _

/-- Asking for the next value spares filters and proxies. -/
lemma spares_nextValue (tag : String) : Within Spares (nextValue tag) w := by
  refine Within.bind_reads (reads_mailbox tag) fun out _ => ?_
  split
  · exact Within.pure _
  · exact Within.bind ⟨rfl, rfl, rfl⟩ fun _ _ _ => Within.pure _

/-- Giving up a handle goes on in order. -/
lemma orderly_cancel (tag : String) : Within Orderly (cancel tag) w := by
  refine Within.bind_reads Reads.get fun _ _ => Within.bind_reads (Reads.found _ _) fun _ _ => ?_
  exact Within.bind (orderly_rename fun _ => rfl) fun _ _ _ => orderly_endWatch _

/-! ### Proxies -/

/-- Looking up the number of a proxy only reads. -/
lemma reads_proxyNumber (name : String) : Reads (proxyNumber name) := Reads.lookup _ _

/-- A chain that looks a proxy up first goes on if the rest does. -/
lemma Within.bind_proxyAt {R : Workbench → Workbench → Prop} [Course R] {α : Type} {n : Nat}
    {f : RemoteProxy → Bench α}
    (hf : ∀ p, w.proxies.get? n = some p → Within R (f p) w) : Within R (proxyAt n >>= f) w := by
  have hreads : Reads (proxyAt n) := Reads.lookup _ _
  exact Within.bind_reads hreads fun p hp => hf p (of_lookup (fun w => w.proxies.get? n) hp).2

/-- A proxy is looked up under its name. -/
lemma exec_proxyAt {name : String} {n : Nat} {p : RemoteProxy} {α : Type}
    (f : Nat → RemoteProxy → Bench α) (hname : w.names.proxies.get? name = some n)
    (hget : w.proxies.get? n = some p) :
    (do let n ← proxyNumber name; f n (← proxyAt n) : Bench α).exec w = (f n p).exec w := by
  rw [proxyNumber, exec_bind_ok (exec_lookup (fun w => w.names.proxies.get? name) hname _),
    proxyAt, exec_bind_ok (exec_lookup (fun w => w.proxies.get? n) hget _)]

/-- Placing a proxy goes on in order. -/
lemma orderly_placeProxy (name : String) (kind : FilterKind) (recordName topic : String) :
    Within Orderly (placeProxy name kind recordName topic) w := by
  refine Within.bind_reads (reads_record recordName) fun r _ => ?_
  refine Within.bind_ofFilter fun p hp => ?_
  refine Within.bind (Workbench.orderly_addProxy (RemoteProxy.new_ok hp).1) fun _ _ _ => ?_
  exact Within.bind (orderly_rename fun _ => rfl) fun _ _ _ => Within.pure _

/-- Wiring a proxy goes on in order. -/
lemma orderly_wireProxy (name link : String) : Within Orderly (wireProxy name link) w := by
  refine Within.bind_reads (reads_proxyNumber name) fun n _ => ?_
  refine Within.bind_reads (reads_linkNumber link) fun l _ => ?_
  exact Workbench.orderly_modify fun p _ => RemoteProxy.evolves_wire l

/-- Writing an option through a proxy goes on in order. -/
lemma orderly_proxySetOption (name option : String) (value : OptionValue) :
    Within Orderly (proxySetOption name option value) w := by
  refine Within.bind_reads (reads_proxyNumber name) fun n _ => ?_
  refine Within.bind_proxyAt fun p hp => Within.bind_ofFilter fun s hs => ?_
  exact orderly_carry (.proxy n) hp trivial
    (RemoteProxy.fits_of_prepare (by simp) hs)

/-- Writing parameters through a proxy goes on in order. -/
lemma orderly_proxyApply (name : String) (params : Parameters) :
    Within Orderly (proxyApply name params) w := by
  refine Within.bind_reads (reads_proxyNumber name) fun n _ => ?_
  refine Within.bind_proxyAt fun p hp => Within.bind_ofFilter fun s hs => ?_
  exact orderly_carry (.proxy n) hp trivial (RemoteProxy.fits_of_prepareAll hs)

/-- A proxy that has become a later state of itself goes on in order. -/
lemma orderly_absorbed {n : Nat} {p : RemoteProxy} (hp : w.proxies.get? n = some p)
    {outcome : Except FilterError (List ChangedOption × RemoteProxy)}
    (h : ∀ changed q, outcome = .ok (changed, q) → p.Evolves q) :
    Within Orderly (absorbed n outcome) w := by
  refine Within.bind_ofFilter fun out hout => ?_
  refine Within.bind (Workbench.orderly_modify fun q hq => ?_) fun _ _ _ => Within.pure _
  rw [hp] at hq
  obtain rfl := Option.some.inj hq
  exact h out.1 out.2 hout

/-- Refreshing a proxy goes on in order. -/
lemma orderly_proxyRefresh (name : String) : Within Orderly (proxyRefresh name) w := by
  refine Within.bind_reads (reads_proxyNumber name) fun n _ => ?_
  refine Within.bind_proxyAt fun p _ => Within.bind_ofFilter fun i _ => ?_
  refine Within.bind (orderly_query _ _ _) fun outcome w' _ => ?_
  refine Within.bind_reads (Reads.exchanged _) fun reply _ => ?_
  refine Within.bind_proxyAt fun q hq => ?_
  exact orderly_absorbed hq fun _ _ h => RemoteProxy.evolves_accept h

/-- A report to a proxy goes on in order. -/
lemma orderly_proxyNotify (name : String) (options : List Assignment) :
    Within Orderly (proxyNotify name options) w := by
  refine Within.bind_reads (reads_proxyNumber name) fun n _ => ?_
  refine Within.bind_proxyAt fun p hp => ?_
  exact orderly_absorbed hp fun _ _ h => RemoteProxy.evolves_absorb h

/-! ### Sensors -/

/-- Looking up the number of a sensor only reads. -/
lemma reads_sensorNumber (name : String) : Reads (sensorNumber name) := Reads.lookup _ _

/-- Looking up a sensor by its number only reads. -/
lemma reads_sensorAt (n : Nat) : Reads (sensorAt n) := Reads.lookup _ _

/-- Looking up a sensor only reads. -/
lemma reads_sensor (name : String) : Reads (sensor name) :=
  (reads_sensorNumber name).bind fun n => reads_sensorAt n

/-- The number of a sensor is looked up under its name. -/
lemma exec_sensorNumber {name : String} {n : Nat} (hname : w.names.sensors.get? name = some n) :
    (sensorNumber name).exec w = (.ok n, w) :=
  exec_lookup (fun w => w.names.sensors.get? name) hname _

/-- A sensor is looked up under its number. -/
lemma exec_sensorAt {n : Nat} {s : Sensor} (hget : w.sensors.get? n = some s) :
    (sensorAt n).exec w = (.ok s, w) := exec_lookup (fun w => w.sensors.get? n) hget _

/-- A sensor is looked up under its name. -/
lemma exec_sensor {name : String} {n : Nat} {s : Sensor}
    (hname : w.names.sensors.get? name = some n) (hget : w.sensors.get? n = some s) :
    (sensor name).exec w = (.ok s, w) :=
  (exec_bind_ok (exec_sensorNumber hname) _).trans (exec_sensorAt hget)

/-- The number of a sensor's filter is found. -/
lemma exec_slot {name : String} {n : Nat} {s : Sensor} {kind : FilterKind} {slot : SensorSlot}
    {α : Type} (f : SensorSlot → Bench α) (hname : w.names.sensors.get? name = some n)
    (hget : w.sensors.get? n = some s) (hslot : s.slot kind = .ok slot) :
    (do f (← ofFilter ((← sensor name).slot kind)) : Bench α).exec w = (f slot).exec w := by
  rw [exec_bind_ok (exec_sensor hname hget), hslot, exec_bind_ok (exec_ofFilter_ok slot w)]

/-- Wiring a sensor goes on in order. -/
lemma orderly_wireSensor (n : Nat) (link : LinkNumber) :
    Within Orderly (wireSensor n link) w := by
  refine Within.bind_reads (reads_sensorAt n) fun s _ => Within.forM fun f _ v => ?_
  exact orderly_wireProxyOf f link

/-- Attaching a sensor goes on in order. -/
lemma orderly_attachSensor (n loop : Nat) : Within Orderly (attachSensor n loop) w := by
  refine Within.bind_reads (reads_sensorAt n) fun s _ => ?_
  refine Within.bind (Within.forM fun f _ v => orderly_subscribe f loop _) fun _ _ _ => ?_
  split
  · exact Within.bind (spares_changeLoop _ _).orderly fun _ _ _ => Within.orderly ⟨rfl, rfl, rfl⟩
  · exact Within.pure _

/-- The end of a sensor goes on in order. -/
lemma orderly_endSensor (n : Nat) : Within Orderly (endSensor n) w := by
  refine Within.bind_reads (reads_sensorAt n) fun s _ => ?_
  refine Within.bind (Within.forM fun slot _ v => orderly_destroy slot.filter) fun _ _ _ => ?_
  refine Within.bind (Within.optionForM fun l _ => (spares_changeLoop _ _).orderly) fun _ _ _ => ?_
  exact Within.orderly ⟨rfl, rfl, rfl⟩

/-- An offline filter of a sensor is valid. -/
lemma valid_offlineFilter {a : Advertisement} {f : OfflineFilter}
    (h : Sensor.offlineFilter a = .ok f) : f.Valid := by
  obtain ⟨r, -, h⟩ := Outcome.bind_eq_ok.mp h
  obtain ⟨name, -, h⟩ := Outcome.bind_eq_ok.mp h
  obtain ⟨kind, -, h⟩ := Outcome.bind_eq_ok.mp h
  obtain ⟨params, -, h⟩ := Outcome.bind_eq_ok.mp h
  exact OfflineFilter.valid_withParams h

/-- The filters for advertisements have whatever each of them has as it is made. -/
lemma forall_filtersFor {P : Filter → Prop} {offline : Bool} {topic : String}
    {list : List Advertisement} {built out : List Filter}
    (h : Sensor.filtersFor offline topic list built = .ok out) (hbuilt : ∀ f ∈ built, P f)
    (hmade : ∀ a f, Sensor.filterFor offline topic a = .ok f → P f) :
    ∀ f ∈ out, P f := by
  induction list generalizing built with
  | nil =>
    cases h
    exact hbuilt
  | cons a list ih =>
    unfold Sensor.filtersFor at h
    split at h
    · cases h
    · obtain ⟨f, hf, h⟩ := Outcome.bind_eq_ok.mp h
      exact ih h (List.forall_mem_append.mpr ⟨hbuilt, List.forall_mem_singleton.mpr (hmade a f hf)⟩)

/-- A remote filter of a sensor starts with its values in order. -/
lemma inOrder_filterFor {offline : Bool} {topic : String} {a : Advertisement} {f : Filter}
    (h : Sensor.filterFor offline topic a = .ok f) :
    ∀ g, f = .remote g → g.proxy.record.InOrder := by
  rintro g rfl
  unfold Sensor.filterFor at h
  split at h
  · obtain ⟨f, -, hf⟩ := Outcome.map_eq_ok.mp h
    cases hf
  · obtain ⟨k, hk, hf⟩ := Outcome.map_eq_ok.mp h
    cases hf
    exact inOrder_of_ofAdvertisement hk

/-- The remote filters for advertisements have their values in the order of their declarations. -/
lemma inOrder_filtersFor {offline : Bool} {topic : String} {list : List Advertisement}
    {out : List Filter} (h : Sensor.filtersFor offline topic list [] = .ok out) :
    ∀ f ∈ out, ∀ g, f = .remote g → g.proxy.record.InOrder :=
  forall_filtersFor h (fun _ hf => by cases hf) fun _ _ hf => inOrder_filterFor hf

/-- The filters of a sensor are valid. -/
lemma valid_filtersFor {offline : Bool} {topic : String} {list : List Advertisement}
    {out : List Filter} (h : Sensor.filtersFor offline topic list [] = .ok out) :
    ∀ f ∈ out, f.Valid := by
  refine forall_filtersFor h (fun _ hf => by cases hf) fun a f hf => ?_
  unfold Sensor.filterFor at hf
  split at hf
  · obtain ⟨f, hoffline, rfl⟩ := Outcome.map_eq_ok.mp hf
    exact valid_offlineFilter hoffline
  · obtain ⟨k, hk, rfl⟩ := Outcome.map_eq_ok.mp hf
    exact (RemoteFilter.ofAdvertisement_ok hk).1

/-- Building a sensor goes on in order. -/
lemma orderly_buildSensor (name title : String) (config : LinkConfig)
    (sources : List AdvertisementSource) (link? loop? : Option String) :
    Within Orderly (buildSensor name title config sources link? loop?) w := by
  refine Within.bind_reads (Reads.mapM reads_advertisement) fun list _ => ?_
  refine Within.bind_reads (Reads.optionMapM reads_linkNumber) fun l? _ => ?_
  refine Within.bind_reads (Reads.optionMapM reads_loopNumber) fun loop? _ => ?_
  refine Within.bind_reads (Reads.ofConfig _) fun _ _ => ?_
  refine Within.bind_ofFilter fun filters hfilters => ?_
  have hvalid := valid_filtersFor hfilters
  refine Within.bind (Within.mapM fun f hf v => ?_) fun slots _ _ => ?_
  · exact Within.bind (orderly_addFilter (hvalid f hf) (inOrder_filtersFor hfilters f hf))
      fun _ _ _ => Within.pure _
  refine Within.bind (Within.orderly ⟨rfl, rfl, rfl⟩) fun n _ _ => ?_
  refine Within.bind (Within.optionForM fun l _ => orderly_wireSensor _ _) fun _ _ _ => ?_
  refine Within.bind (Within.optionForM fun l _ => orderly_attachSensor _ _) fun _ _ _ => ?_
  refine Within.bind_reads Reads.get fun _ _ => ?_
  refine Within.bind (orderly_rename fun _ => rfl) fun _ _ _ => ?_
  refine Within.bind (Within.optionForM fun _ _ => orderly_endSensor _) fun _ _ _ => ?_
  exact Within.pure _

/-- Dropping a name of a sensor goes on in order. -/
lemma orderly_dropSensor (name : String) : Within Orderly (dropSensor name) w := by
  refine Within.bind_reads (reads_sensorNumber name) fun n _ => ?_
  exact Within.bind (orderly_rename fun _ => rfl) fun _ _ _ => orderly_endSensor _

/-- Naming a filter of a sensor goes on in order. -/
lemma orderly_nameSensorFilter (name : String) (kind : FilterKind) (filterName : String) :
    Within Orderly (nameSensorFilter name kind filterName) w := by
  refine Within.bind_reads (reads_sensor name) fun s _ => Within.bind_ofFilter fun slot _ => ?_
  refine Within.bind (orderly_nameFilter _ _) fun _ _ _ => ?_
  exact Within.bind_reads (reads_filter _) fun _ _ => Within.pure _

/-- Writing bytes to a sensor goes on in order. -/
lemma orderly_writeSensorBytes (name : String) (kind : FilterKind) (bytes : List UInt8) :
    Within Orderly (writeSensorBytes name kind bytes) w := by
  refine Within.bind_reads (reads_sensor name) fun s _ => Within.bind_ofFilter fun slot _ => ?_
  exact orderly_writeBytes _ _

/-- Refreshing a sensor goes on in order. -/
lemma orderly_refreshSensor (name : String) : Within Orderly (refreshSensor name) w := by
  refine Within.bind_reads (reads_sensor name) fun s _ => Within.foldlM fun count f _ v => ?_
  exact Within.bind (orderly_refresh f) fun _ _ _ => Within.pure _

/-- Saving a sensor spares filters and proxies. -/
lemma spares_saveSensor (name storeName : String) :
    Within Spares (saveSensor name storeName) w := by
  refine Within.bind_reads (reads_sensor name) fun s _ => ?_
  refine Within.bind_reads (reads_store storeName) fun _ _ => ?_
  refine Within.foldlM fun count slot _ v => Within.bind_reads (reads_filter _) fun f _ => ?_
  exact Within.bind (spares_saveFilter _ _ _ _) fun _ _ _ => Within.pure _

/-- Restoring a sensor goes on in order. -/
lemma orderly_restoreSensor (name storeName : String) :
    Within Orderly (restoreSensor name storeName) w := by
  refine Within.bind_reads (reads_sensor name) fun s _ => ?_
  refine Within.bind_reads (reads_store storeName) fun settings _ => Within.forM fun slot _ v => ?_
  refine Within.bind_reads (reads_filter _) fun f _ => ?_
  refine Within.bind (orderly_restore _ _ _ _) fun _ _ _ => ?_
  split
  · exact orderly_writeOption _ _ _
  · exact Within.pure _

end EmbeddedFilters.Bench
