import EmbeddedFilters.Proofs.Wire.RoundTrip
import EmbeddedFilters.Proofs.Workbench.DeclaredOptions
import EmbeddedFilters.Proofs.Workbench.Writes

/-!
# What writes send

A message that is carried over a link is the only thing that a write does to links
(`Bench.links_carry`): telling listeners and changing proxies does nothing to them. So a write sends
one message at most, and what is in it follows from what has been prepared: the request to set all
options to the values that the write makes of those at hand (`RemoteWrite.sends_complete_update`).
-/

namespace EmbeddedFilters

open Assignment

/-- A link after a message has been handed to it. -/
def Link.handed (topic : String) (payload : ByteArray) : Link → Link
  | .device d => .device (d.send topic payload).2
  | .script s => .script (s.nextSend topic payload).2

/-- The outcome of a message that is handed to a link. -/
def Link.outcome (topic : String) (payload : ByteArray) : Link → Except LinkError Unit
  | .device d => (d.send topic payload).1
  | .script s => (s.nextSend topic payload).1.outcome

/-- Does a link report something while the next message passes over it? -/
def Link.reportsNext : Link → Bool
  | .device _ => false
  | .script s => (s.sends.head?.bind (·.report?)).isSome

/-- A message on its way to a device. -/
structure Message where
  link : LinkNumber
  topic : String
  payload : ByteArray

namespace Message

/-- The links after a message has been handed to its link. -/
def hand (links : Pool Link) (m : Message) : Pool Link :=
  links.modify m.link (Link.handed m.topic m.payload)

/-- The message goes from a proxy to its device, and asks it to set the options of the proxy's
filter, which are complete and valid, to what the proxy has where nothing is assigned, and to what
the declarations make of the values that are assigned. -/
structure Sets (m : Message) (p : RemoteProxy) (assigned options : List Assignment) : Prop where
  link : p.link? = some m.link
  topic : m.topic = p.topic
  payload : Json.decodePayload ControlRequest.decoder m.payload =
    some (.setOptions p.name p.kind options)
  names : Assignment.names options = Assignment.names p.record.current
  complete : (Assignment.names options).Perm p.kind.optionNames
  valid : ∃ params, Parameters.ofOptions p.kind options = .ok params
  kept : ∀ name, name ∉ Assignment.names assigned →
    find? name options = find? name p.record.current
  assigned : ∀ a ∈ assigned, ∃ d v, p.record.declaration? a.name = some d ∧
    a.value.coerce d.kind d.name = .ok v ∧ find? a.name options = some v

end Message

namespace Workbench

/-- The links are what they were. -/
def KeepsLinks (w w' : Workbench) : Prop := w'.links = w.links

/-- What keeps the links may be done again and again. -/
instance : Bench.Course KeepsLinks where
  refl _ := rfl
  trans h h' := h'.trans h

end Workbench

namespace Bench

open Workbench (KeepsLinks)

variable {w : Workbench}

/-- Announcing changes keeps what has been sent over links. -/
lemma keepsLinks_announce (n : Nat) (t : Told Filter) : Within KeepsLinks (announce n t) w := by
  refine Within.bind rfl fun _ _ _ => ?_
  refine Within.bind (Within.forM fun d _ v => ?_) fun _ _ _ => ?_
  · obtain ⟨listener, id, value⟩ := d
    cases listener <;> rfl
  · split
    · exact Within.throw _
    · exact Within.pure _

/-- A report to a filter keeps what has been sent over links. -/
lemma keepsLinks_notify (n : Nat) (options : List Assignment) :
    Within KeepsLinks (notify n options) w :=
  Within.bind_remoteFilter fun _ _ => Within.bind_ofFilter fun _ _ => keepsLinks_announce _ _

/-- A scripted outcome keeps what has been sent over links. -/
lemma keepsLinks_play {α : Type} (o : ScriptedOutcome α) : Within KeepsLinks (play o) w := by
  unfold play
  split
  · refine Within.bind (Within.attempt ?_) fun _ _ _ => ?_
    · exact Within.bind_reads (reads_filterNumber _) fun n _ => keepsLinks_notify n _
    · exact Within.bind rfl fun _ _ _ => Within.pure _
  · exact Within.pure _

/-- Changing the proxy of a holder keeps what has been sent over links. -/
lemma keepsLinks_change (holder : Holder) (change : RemoteProxy → RemoteProxy) :
    Within KeepsLinks (holder.change change) w := by
  cases holder with
  | filter n => exact Within.bind_remoteFilter fun _ _ => rfl
  | proxy n => rfl

/-- A message is handed to its link, and nothing else happens to links. -/
lemma links_send (n : LinkNumber) (topic : String) (payload : ByteArray) :
    ((send n topic payload).exec w).2.links = w.links.modify n (Link.handed topic payload) := by
  have hmodify : ∀ l, w.links.get? n = some l → w.links.modify n (Link.handed topic payload) =
      w.links.put n (l.handed topic payload) := by
    intro l hl
    have htable : w.links.members.get? n = some l := hl
    unfold Pool.modify Pool.put Table.modify
    rw [htable]
  unfold send
  cases hl : w.links.get? n with
  | none =>
    have htable : w.links.members.get? n = none := hl
    have hlink : (link n).exec w = (.error (.noObject "transport"), w) := by
      rw [link, exec_bind_ok (exec_get w), hl]
      rfl
    rw [exec_bind_error hlink]
    unfold Pool.modify Table.modify
    rw [htable]
  | some l =>
    have hlink : (link n).exec w = (.ok l, w) := exec_lookup (fun w => w.links.get? n) hl _
    rw [exec_bind_ok hlink, hmodify l hl]
    cases l with
    | device d => rfl
    | script s =>
      dsimp only
      rw [exec_bind]
      exact keepsLinks_play _

/-- A message that is sent over a quiet link changes the link alone. -/
lemma exec_send_quiet {n : LinkNumber} {l : Link} (hget : w.links.get? n = some l)
    (hquiet : l.reportsNext = false) (topic : String) (payload : ByteArray) :
    (send n topic payload).exec w = (.ok (l.outcome topic payload),
      { w with links := w.links.put n (l.handed topic payload) }) := by
  have hlink : (link n).exec w = (.ok l, w) := exec_lookup (fun w => w.links.get? n) hget _
  rw [send, exec_bind_ok hlink]
  cases l with
  | device d => rfl
  | script s =>
    have hreport : (s.nextSend topic payload).1.report? = none := by
      have hnone : s.sends.head?.bind (·.report?) = none :=
        Option.isNone_iff_eq_none.mp (Option.isSome_eq_false_iff.mp hquiet)
      unfold Script.nextSend
      cases hsends : s.sends with
      | nil => rfl
      | cons o rest =>
        rw [hsends] at hnone
        exact hnone
    dsimp only
    rw [exec_bind, play, hreport]
    rfl

/-- A write that is carried over a quiet link is settled once the link has taken the message. -/
lemma exec_carry_ok {s : Submission} {l : Link} (hget : w.links.get? s.link = some l)
    (hquiet : l.reportsNext = false) (hok : l.outcome s.topic s.request.payload = .ok ())
    (change : (RemoteProxy → RemoteProxy) → Bench Unit) :
    (carry change s).exec w = (change fun p => p.settle s).exec
      { w with links := w.links.put s.link (l.handed s.topic s.request.payload) } := by
  have hsend := exec_send_quiet hget hquiet s.topic s.request.payload
  rw [hok] at hsend
  exact exec_carryBy_ok hsend change s

/-- A write that is carried over a quiet link that does not take the message changes the link
alone. -/
lemma exec_carry_refused {s : Submission} {l : Link} {e : LinkError}
    (hget : w.links.get? s.link = some l) (hquiet : l.reportsNext = false)
    (herror : l.outcome s.topic s.request.payload = .error e)
    (change : (RemoteProxy → RemoteProxy) → Bench Unit) :
    (carry change s).exec w = (.error (.filter e.toFilterError),
      { w with links := w.links.put s.link (l.handed s.topic s.request.payload) }) := by
  have hsend := exec_send_quiet hget hquiet s.topic s.request.payload
  rw [herror] at hsend
  exact exec_carryBy_error hsend change s

/-- A write that is carried hands its request to its link, and nothing else happens to links. -/
lemma links_carry (holder : Holder) (s : Submission) :
    ((carry holder.change s).exec w).2.links =
      Message.hand w.links ⟨s.link, s.topic, s.request.payload⟩ := by
  unfold carry carryBy
  refine Eq.trans (Within.after (R := KeepsLinks) fun outcome w' => ?_) ?_
  · exact Within.bind_reads (Reads.exchanged _) fun _ _ => keepsLinks_change _ _
  · refine Eq.trans (Within.afterCatch (R := KeepsLinks) fun e w' => ?_) (links_send _ _ _)
    cases e with
    | panic => exact Within.bind (keepsLinks_change _ _) fun _ _ _ => Within.throw _
    | _ => exact Within.throw _

end Bench

namespace RemoteWrite

variable {w : Workbench} {c : RemoteWrite} {p : RemoteProxy} {s : Submission}

/-- The request of a submission is read back as what it is made of. -/
lemma sets_of_updates {assigned : List Assignment} (h : s.Updates p assigned) :
    Message.Sets ⟨s.link, s.topic, s.request.payload⟩ p assigned s.merged := by
  obtain ⟨params, hvalid⟩ := h.params
  refine ⟨h.link, h.topic, ?_, FilterRecord.names_of_merge h.merged,
    Parameters.perm_of_ofOptions hvalid, ⟨params, hvalid⟩,
    fun name hname => FilterRecord.find?_of_merge h.merged hname, fun a ha => ?_⟩
  · show Json.decodePayload _ s.request.payload = _
    rw [h.request]
    exact ControlRequest.decode_setOptions (Parameters.isFinite_of_ofOptions hvalid)
  · obtain ⟨d, v, hd, hv, hfind⟩ := FilterRecord.checked_of_merge h.merged h.nodup ha
    exact ⟨d, v, hd, (Declaration.check_eq_ok.mp hv).1, hfind⟩

/-- A write to a remote filter sends one message at most, and only if it has passed every check. The
message is a request to set all options of the filter, and what it sets them to is complete and
valid, the same as before the write for every option that the write does not name, and the coerced
new value for every option that it names. A write that fails a check sends nothing. -/
theorem sends_complete_update (hw : w.Reachable) (c : RemoteWrite) (hp : c.proxy? w = some p) :
    ∃ messages : List Message, messages.length ≤ 1 ∧
      (c.act.exec w).2.links = messages.foldl Message.hand w.links ∧
      (messages ≠ [] → c.Admitted w p) ∧ (¬ c.Admitted w p → messages = []) ∧
      ∀ m ∈ messages, ∃ options, m.Sets p (c.assigned p.kind) options := by
  cases resolves hw.sound hp with
  | idle exec => exact ⟨[], by simp, by rw [exec]; rfl, by simp, by simp, by simp⟩
  | refused e exec => exact ⟨[], by simp, by rw [exec]; rfl, by simp, by simp, by simp⟩
  | carried holder s held admitted updates exec =>
    refine ⟨[⟨s.link, s.topic, s.request.payload⟩], le_rfl, ?_, fun _ => admitted,
      fun h => absurd admitted h, fun m hm => ?_⟩
    · rw [exec]
      exact Bench.links_carry holder s
    · rw [List.mem_singleton] at hm
      subst hm
      exact ⟨s.merged, sets_of_updates updates⟩

/-- The commands by which a remote temporal filter is placed and wired to a scripted link. -/
def wiring (s : Script) : List (Command × Bool) :=
  RemoteFilter.advertising .temporal ++
    [(.placeRemote "filter" .temporal (.kept "props") ({} : LinkConfig).controlTopic, false),
      (.placeScript "link" s, false), (.wire "filter" "link", false)]

/-- What has come by at the scripted link under a number. -/
def seen (w : Workbench) (n : LinkNumber) : List Sighting :=
  match w.links.get? n with
  | some (.script s) => s.seen
  | _ => []

/-- Switching a wired temporal filter on sends one message. -/
theorem enable_sends_one_update : ∃ (w : Workbench) (p : RemoteProxy) (m : Message),
    w.Reachable ∧ (RemoteWrite.enable 0 true).proxy? w = some p ∧
      ((RemoteWrite.enable 0 true).act.exec w).2.links = m.hand w.links ∧
      ∃ options, m.Sets p ((RemoteWrite.enable 0 true).assigned p.kind) options := by
  have hreach := Workbench.Reachable.start.run (wiring {})
  have hfound : ((RemoteWrite.enable 0 true).proxy?
      (({} : Workbench).run (wiring {}))).isSome = true := by decide +kernel
  -- the device has the first number, and the scripted link the second one
  have hbefore : (seen (({} : Workbench).run (wiring {})) 1).length = 0 := by decide +kernel
  have hafter : (seen ((RemoteWrite.enable 0 true).act.exec
      (({} : Workbench).run (wiring {}))).2 1).length = 1 := by decide +kernel
  generalize ({} : Workbench).run (wiring {}) = w at hreach hfound hbefore hafter
  obtain ⟨p, hp⟩ := Option.isSome_iff_exists.mp hfound
  obtain ⟨messages, hlength, hlinks, -, -, hsets⟩ :=
    sends_complete_update hreach (.enable 0 true) hp
  cases messages with
  | nil =>
    unfold seen at hbefore hafter
    rw [hlinks] at hafter
    exact absurd (hbefore.symm.trans hafter) (by decide)
  | cons m rest =>
    obtain rfl := List.eq_nil_of_length_eq_zero (Nat.le_zero.mp (Nat.le_of_succ_le_succ hlength))
    exact ⟨w, p, m, hreach, hp, hlinks, hsets m (List.mem_singleton_self m)⟩

end RemoteWrite

end EmbeddedFilters
