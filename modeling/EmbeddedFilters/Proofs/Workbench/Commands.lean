import EmbeddedFilters.Proofs.Workbench.Operations

/-!
# Runs of the workbench

A command is an operation by name with all that it is given; those that only read are left out.
Declarations and advertisements may also be given as such, since a text cannot state infinite
bounds. A workbench is reachable if a run of commands leads to it from the empty one. Every command
lets the workbench go on (`Command.continues_act`), so reachable workbenches are sound
(`Workbench.Reachable.sound`) and filters live through every run (`Workbench.continues_run`).
-/

namespace EmbeddedFilters

/-- An operation on the workbench with all that it is given. -/
inductive Command where
  -- filters
  | placeOffline (name : String) (kind : FilterKind) (title : String) (params? : Option Parameters)
  | placeRemote (name : String) (kind : FilterKind) (source : AdvertisementSource) (topic : String)
  | placeDeclared (name : String) (kind : FilterKind) (record topic : String)
  | nameSensorFilter (sensor : String) (kind : FilterKind) (name : String)
  | dropFilter (name : String)
  | populate (name : String)
  | allowOption (name : String) (id : OptionId) (on : Bool)
  | wire (name link : String)
  | subscribe (name loop topic : String)
  | destroy (name : String)
  | writeOption (name : String) (id : OptionId) (value : OptionValue)
  | enable (name : String) (on : Bool)
  | writeTemporal (name : String) (id : OptionId) (value : OptionValue)
  | writeBytes (name : String) (bytes : List UInt8)
  | refresh (name : String)
  | notify (name : String) (options : List Assignment)
  | onChange (name : String) (id : OptionId) (tag : String) (panics : Bool)
  | watch (name : String) (id : OptionId) (tag : String)
  | nextValue (tag : String)
  | cancel (tag : String)
  -- settings
  | newStore (name : String)
  | changeStore (name key : String) (value : OptionValue)
  | save (name store full : String) (enabled : Bool)
  | restore (name store full : String) (default : Bool)
  -- records and proxies
  | newRecord (name : String)
  | recordText (name text : String)
  | recordSource (name : String) (source : AdvertisementSource)
  | stateName (name title : String)
  | stateKind (name : String) (kind : FilterKind)
  | declareText (name text : String)
  | declareOptions (name : String) (declarations : List Declaration)
  | streamText (name text : String)
  | replaceValues (name : String) (values : List Assignment)
  | placeProxy (name : String) (kind : FilterKind) (record topic : String)
  | wireProxy (name link : String)
  | proxySetOption (name option : String) (value : OptionValue)
  | proxyApply (name : String) (params : Parameters)
  | proxyRefresh (name : String)
  | proxyNotify (name : String) (options : List Assignment)
  -- devices, scripts and loops
  | placeDevice (name : String) (config : LinkConfig)
  | advertise (name : String) (kind : FilterKind) (title key : String)
  | keepAdvertisement (key : String) (a : Advertisement)
  | connectDevice (name loop : String)
  | setConnected (name : String) (on : Bool)
  | setRejection (name : String) (reason? : Option String)
  | push (name filter : String) (options : List Assignment)
  | sendToDevice (name topic : String) (payload : ByteArray)
  | queryDevice (name topic : String) (payload : ByteArray)
  | placeScript (name : String) (script : Script)
  | lookAtScript (name : String)
  | placeLoop (name : String) (config : LinkConfig := {})
  | acquireLoop (name tag : String)
  | releaseLoop (tag : String)
  | routeToSink (name topic filter tag key : String) (refuses holds : Bool)
  | dropNamedRoute (key : String)
  | dropSink (tag : String)
  | openSink (tag : String)
  | publish (name topic filter : String) (messages : List (List Assignment))
  | deliver (name topic : String) (payload : ByteArray)
  -- sensors
  | buildSensor (name title : String) (config : LinkConfig) (sources : List AdvertisementSource)
      (link? loop? : Option String)
  | wireSensor (name link : String)
  | attachSensor (name loop : String)
  | writeSensorBytes (name : String) (kind : FilterKind) (bytes : List UInt8)
  | refreshSensor (name : String)
  | saveSensor (name store : String)
  | restoreSensor (name store : String)
  | dropSensor (name : String)

namespace Command

open Bench

/-- What a command does; results are passed over. -/
def act : Command → Bench Unit
  | placeOffline name kind title params? => do let _ ← Bench.placeOffline name kind title params?
  | placeRemote name kind source topic => do let _ ← Bench.placeRemote name kind source topic
  | placeDeclared name kind record topic => do let _ ← Bench.placeDeclared name kind record topic
  | nameSensorFilter sensor kind name => do let _ ← Bench.nameSensorFilter sensor kind name
  | dropFilter name => Bench.dropFilter name
  | populate name => Bench.populate name
  | allowOption name id on => Bench.allowOption name id on
  | wire name link => Bench.wire name link
  | subscribe name loop topic => subscribeNamed name loop topic
  | destroy name => do Bench.destroy (← filterNumber name)
  | writeOption name id value => do Bench.writeOption (← filterNumber name) id value
  | enable name on => do Bench.enable (← filterNumber name) on
  | writeTemporal name id value => do let _ ← Bench.writeTemporal name id value
  | writeBytes name bytes => do Bench.writeBytes (← filterNumber name) bytes
  | refresh name => do let _ ← Bench.refresh (← filterNumber name)
  | notify name options => do let _ ← Bench.notify (← filterNumber name) options
  | onChange name id tag panics => Bench.onChange name id tag panics
  | watch name id tag => Bench.watch name id tag
  | nextValue tag => do let _ ← Bench.nextValue tag
  | cancel tag => Bench.cancel tag
  | newStore name => putStore name {}
  | changeStore name key value => do putStore name ((← store name).set key value)
  | save name store full enabled => do let _ ← saveNamed name store full enabled
  | restore name store full default => do let _ ← restoreNamed name store full default
  | newRecord name => putRecord name {}
  | recordText name text => do let _ ← Bench.recordText name text
  | recordSource name source => do let _ ← Bench.recordSource name source
  | stateName name title => changeRecord name fun r => r.setName title
  | stateKind name kind => changeRecord name fun r => r.setKind kind
  | declareText name text => Bench.declareText name text
  | declareOptions name declarations => changeRecord name fun r => r.declare declarations
  | streamText name text => Bench.streamText name text
  | replaceValues name values => do let _ ← Bench.replaceValues name values
  | placeProxy name kind record topic => do let _ ← Bench.placeProxy name kind record topic
  | wireProxy name link => Bench.wireProxy name link
  | proxySetOption name option value => Bench.proxySetOption name option value
  | proxyApply name params => Bench.proxyApply name params
  | proxyRefresh name => do let _ ← Bench.proxyRefresh name
  | proxyNotify name options => do let _ ← Bench.proxyNotify name options
  | placeDevice name config => Bench.placeDevice name config
  | advertise name kind title key => do let _ ← Bench.advertise name kind title key
  | keepAdvertisement key a =>
    rename fun names => { names with advertisements := names.advertisements.put key a }
  | connectDevice name loop => Bench.connectDevice name loop
  | setConnected name on => changeDevice name fun d => { d with connected := on }
  | setRejection name reason? => changeDevice name fun d => { d with rejection? := reason? }
  | push name filter options => Bench.push name filter options
  | sendToDevice name topic payload => Bench.sendToDevice name topic payload
  | queryDevice name topic payload => do let _ ← Bench.queryDevice name topic payload
  | placeScript name script => Bench.placeScript name script
  | lookAtScript name => do let _ ← Bench.lookAtScript name
  | placeLoop name config => Bench.placeLoop name config
  | acquireLoop name tag => Bench.acquireLoop name tag
  | releaseLoop tag => Bench.releaseLoop tag
  | routeToSink name topic filter tag key refuses holds =>
    Bench.routeToSink name topic filter tag key refuses holds
  | dropNamedRoute key => Bench.dropNamedRoute key
  | dropSink tag => Bench.dropSink tag
  | openSink tag => Bench.openSink tag
  | publish name topic filter messages => Bench.publish name topic filter messages
  | deliver name topic payload => Bench.deliver name topic payload
  | buildSensor name title config sources link? loop? => do
    let _ ← Bench.buildSensor name title config sources link? loop?
  | wireSensor name link => do Bench.wireSensor (← sensorNumber name) (← linkNumber link)
  | attachSensor name loop => do Bench.attachSensor (← sensorNumber name) (← loopNumber loop)
  | writeSensorBytes name kind bytes => Bench.writeSensorBytes name kind bytes
  | refreshSensor name => do let _ ← Bench.refreshSensor name
  | saveSensor name store => do let _ ← Bench.saveSensor name store
  | restoreSensor name store => Bench.restoreSensor name store
  | dropSensor name => Bench.dropSensor name

variable {w : Workbench}

/-- Does the command bring in values in another order than that of declarations? It replaces those
of a record, or it declares a filter from a record. -/
def reorders : Command → Bool
  | placeDeclared .. | replaceValues .. => true
  | _ => false

/-- Every command lets the workbench go on in order, unless it reorders values. -/
lemma orderly_act {c : Command} (hc : c.reorders = false) : Within Workbench.Orderly c.act w := by
  cases c with
  | placeDeclared | replaceValues => cases hc
  | placeOffline => exact Within.ignored (orderly_placeOffline _ _ _ _)
  | placeRemote => exact Within.ignored (orderly_placeRemote _ _ _ _)
  | nameSensorFilter => exact Within.ignored (orderly_nameSensorFilter _ _ _)
  | dropFilter => exact orderly_dropFilter _
  | populate => exact orderly_populate _
  | allowOption => exact orderly_allowOption _ _ _
  | wire => exact orderly_wire _ _
  | subscribe => exact orderly_subscribeNamed _ _ _
  | destroy => exact Within.named fun n => orderly_destroy n
  | writeOption => exact Within.named fun n => orderly_writeOption n _ _
  | enable => exact Within.named fun n => orderly_writeOption n _ _
  | writeTemporal => exact Within.ignored (orderly_writeTemporal _ _ _)
  | writeBytes => exact Within.named fun n => orderly_writeBytes n _
  | refresh => exact Within.named fun n => Within.ignored (orderly_refresh n)
  | notify => exact Within.named fun n => Within.ignored (orderly_notify n _)
  | onChange => exact orderly_keepWatch _ _ _ _ _
  | watch => exact orderly_watch _ _ _
  | nextValue => exact Within.ignored (spares_nextValue _).orderly
  | cancel => exact orderly_cancel _
  | newStore => exact orderly_rename fun _ => rfl
  | changeStore => exact (spares_changeStore _ _ _).orderly
  | save => exact Within.ignored (spares_saveNamed _ _ _ _).orderly
  | restore => exact Within.ignored (orderly_restoreNamed _ _ _ _)
  | newRecord => exact Workbench.orderly_putRecord (.inr rfl)
  | recordText => exact Within.ignored (orderly_recordText _ _)
  | recordSource => exact Within.ignored (orderly_recordSource _ _)
  | stateName name title => exact orderly_changeRecord name .name title
  | stateKind name kind => exact orderly_changeRecord name .kind kind
  | declareText => exact orderly_declareText _ _
  | declareOptions name declarations => exact orderly_changeRecord name .options declarations
  | streamText => exact orderly_streamText _ _
  | placeProxy => exact Within.ignored (orderly_placeProxy _ _ _ _)
  | wireProxy => exact orderly_wireProxy _ _
  | proxySetOption => exact orderly_proxySetOption _ _ _
  | proxyApply => exact orderly_proxyApply _ _
  | proxyRefresh => exact Within.ignored (orderly_proxyRefresh _)
  | proxyNotify => exact Within.ignored (orderly_proxyNotify _ _)
  | placeDevice => exact (spares_placeDevice _ _).orderly
  | advertise => exact Within.ignored (spares_advertise _ _ _ _).orderly
  | keepAdvertisement => exact orderly_rename fun _ => rfl
  | connectDevice => exact (spares_connectDevice _ _).orderly
  | setConnected name on =>
    exact (spares_changeDevice name fun d => { d with connected := on }).orderly
  | setRejection name reason? =>
    exact (spares_changeDevice name fun d => { d with rejection? := reason? }).orderly
  | push => exact orderly_push _ _ _
  | sendToDevice => exact orderly_sendToDevice _ _ _
  | queryDevice => exact Within.ignored (orderly_queryDevice _ _ _)
  | placeScript => exact (spares_placeScript _ _).orderly
  | lookAtScript => exact Within.ignored (spares_lookAtScript _).orderly
  | placeLoop => exact (spares_placeLoop _ _).orderly
  | acquireLoop => exact (spares_acquireLoop _ _).orderly
  | releaseLoop => exact (spares_releaseLoop _).orderly
  | routeToSink => exact (spares_routeToSink _ _ _ _ _ _ _).orderly
  | dropNamedRoute => exact (spares_dropNamedRoute _).orderly
  | dropSink => exact (spares_dropSink _).orderly
  | openSink => exact (spares_openSink _).orderly
  | publish => exact orderly_publish _ _ _ _
  | deliver => exact orderly_deliver _ _ _
  | buildSensor => exact Within.ignored (orderly_buildSensor _ _ _ _ _ _)
  | wireSensor =>
    refine Within.bind_reads (reads_sensorNumber _) fun _ _ => ?_
    exact Within.bind_reads (reads_linkNumber _) fun _ _ => orderly_wireSensor _ _
  | attachSensor =>
    refine Within.bind_reads (reads_sensorNumber _) fun _ _ => ?_
    exact Within.bind_reads (reads_loopNumber _) fun _ _ => orderly_attachSensor _ _
  | writeSensorBytes => exact orderly_writeSensorBytes _ _ _
  | refreshSensor => exact Within.ignored (orderly_refreshSensor _)
  | saveSensor => exact Within.ignored (spares_saveSensor _ _).orderly
  | restoreSensor => exact orderly_restoreSensor _ _
  | dropSensor => exact orderly_dropSensor _

/-- Every command lets the workbench go on. -/
lemma continues_act (c : Command) : Within Workbench.Continues c.act w := by
  cases hc : c.reorders with
  | false => exact Within.continues (orderly_act hc)
  | true =>
    cases c with
    | placeDeclared => exact Within.ignored (continues_placeDeclared _ _ _ _)
    | replaceValues => exact Within.ignored (continues_replaceValues _ _)
    | _ => cases hc

end Command

namespace Workbench

variable {w : Workbench}

/-- The workbench after a run of commands. Each comes with whether the calls it has noted down are
left for later. -/
def run (w : Workbench) : List (Command × Bool) → Workbench
  | [] => w
  | (c, leave) :: rest => (w.step c.act leave).2.2.run rest

/-- Commands are run one list after the other. -/
lemma run_append (w : Workbench) (first rest : List (Command × Bool)) :
    w.run (first ++ rest) = (w.run first).run rest := by
  induction first generalizing w with
  | nil => rfl
  | cons c first ih => exact ih _

/-- A run of commands leads from the empty workbench here. -/
inductive Reachable : Workbench → Prop where
  | start : Reachable {}
  | step {w : Workbench} (c : Command) (leave : Bool) :
    Reachable w → Reachable (w.step c.act leave).2.2

/-- A workbench goes on over any commands. -/
lemma continues_run (commands : List (Command × Bool)) : w.Continues (w.run commands) := by
  induction commands generalizing w with
  | nil => exact Bench.Course.refl w
  | cons c commands ih =>
    obtain ⟨c, leave⟩ := c
    exact Bench.Course.trans (continues_step c.continues_act leave) ih

/-- An empty workbench is sound. -/
lemma sound_empty : Sound {} where
  filters _ _ h := by cases h
  proxies _ _ h := by cases h

/-- A reachable workbench is sound. -/
lemma Reachable.sound (h : w.Reachable) : w.Sound := by
  induction h with
  | start => exact sound_empty
  | step c leave _ ih => exact (continues_step c.continues_act leave ih).1

/-- What commands make of a reachable workbench is reachable. -/
lemma Reachable.run (h : w.Reachable) (commands : List (Command × Bool)) :
    (w.run commands).Reachable := by
  induction commands generalizing w with
  | nil => exact h
  | cons c commands ih => exact ih (.step c.1 c.2 h)

end Workbench

end EmbeddedFilters
