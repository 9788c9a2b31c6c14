import EmbeddedFilters.Proofs.Filter.Announcing
import EmbeddedFilters.Proofs.Workbench.FailedWrites
import EmbeddedFilters.Proofs.Workbench.Interludes
import EmbeddedFilters.Proofs.Workbench.ValueOrder

/-!
# Announcements on the workbench

What the device of a live filter reports, by itself or in answer to a question, is refused as a
whole and nothing changes, or it is taken over as a whole and everybody whom it concerns is told,
once and in order (`Workbench.Hears`). The order is that of the values that the filter has, which is
the order of the declarations unless the filter has been declared from a record whose values had
been put in another order (`Workbench.announces_in_order_of_values`). A write by the host tells
nobody (`Workbench.ToldAs`).

While a link has a question, other reports may come in, so the answer is heard by the filter as it
is then; as long as nobody fails badly, that is the former filter with another proxy
(`Workbench.Heeds`).
-/

namespace EmbeddedFilters

open Outcome Assignment

/-- A reason to refuse the answer to a question before its values are looked at: it cannot be read,
it is of another filter, or a write of the filter has been torn off. -/
inductive RemoteProxy.Rejects (p : RemoteProxy) (reply : ByteArray) : Prop where
  | unreadable : Json.decodePayload OptionReport.decoder reply = none → Rejects p reply
  | stray (r : OptionReport) : Json.decodePayload OptionReport.decoder reply = some r →
      r.filter ≠ p.name → Rejects p reply
  | spoiled : p.spoiled = true → Rejects p reply

namespace Workbench

/-- What comes of values that are reported of a filter: they are refused for a reason, and nothing
changes; or there is no reason to refuse them, the filter has them now, all that they call for is
told, and the number of those told is given. -/
inductive Hears (w : Workbench) (n : Nat) (f : RemoteFilter) (options : List Assignment) :
    Except Fault Nat × Workbench → Prop where
  | refused (e : FilterError) : f.proxy.Refuses options →
    Hears w n f options (.error (.filter e), w)
  | taken (merged : List Assignment) : ¬ f.proxy.Refuses options → f.proxy.Takes options merged →
      Hears w n f options
        (.ok (f.tidings (Assignment.names f.proxy.record.current) merged).length,
          telling
            { w with filters := w.filters.put n (.remote { f with
              proxy := f.proxy.withValues merged }) }
            (f.tidings (Assignment.names f.proxy.record.current) merged))

/-- What comes of the answer to a question: it is rejected, and nothing changes, or the values in it
are heard. -/
inductive Answered (w : Workbench) (n : Nat) (f : RemoteFilter) (reply : ByteArray) :
    Except Fault Nat × Workbench → Prop where
  | rejected (e : FilterError) : f.proxy.Rejects reply →
    Answered w n f reply (.error (.filter e), w)
  | heard (options : List Assignment) (out : Except Fault Nat × Workbench) :
      Json.decodePayload OptionReport.decoder reply = some ⟨f.name, options⟩ →
      ¬ f.proxy.Rejects reply → w.Hears n f options out → Answered w n f reply out

/-- Nobody has been told anything between the two. -/
def ToldAs (w v : Workbench) : Prop := v.calls = w.calls ∧ v.mailboxes = w.mailboxes

/-- Where nobody is told anything, nobody is told anything later. -/
instance : Bench.Course ToldAs where
  refl _ := ⟨rfl, rfl⟩
  trans h h' := ⟨h'.1.trans h.1, h'.2.trans h.2⟩

/-- The filter with a number changes in its proxy at most, if it is calm. -/
def Heeds (n : Nat) (w v : Workbench) : Prop :=
  ∀ f, w.filters.get? n = some (.remote f) → f.Calm →
    ∃ p, v.filters.get? n = some (.remote { f with proxy := p })

/-- A calm filter with another proxy is calm. -/
instance (n : Nat) : Bench.Course (Heeds n) where
  refl _ f h _ := ⟨f.proxy, h⟩
  trans h h' f hf hcalm := by
    obtain ⟨p, hp⟩ := h f hf hcalm
    obtain ⟨q, hq⟩ := h' _ hp hcalm
    exact ⟨q, hq⟩

variable {w v : Workbench} {n : Nat} {f : RemoteFilter}

/-- Where filters are spared, one of them heeds. -/
lemma Spares.heeds (h : w.Spares v) : w.Heeds n v := fun f hf _ => ⟨f.proxy, by rw [h.1]; exact hf⟩

end Workbench

namespace Bench

open Workbench (Heeds ToldAs)

variable {w : Workbench} {n : Nat} {f : RemoteFilter}

/-! ### Reports -/

/-- Values that are reported of a live and calm filter are heard. -/
lemma hears_notify (hf : f.Valid) (hget : w.filters.get? n = some (.remote f))
    (hlive : f.destroyed = false) (hcalm : f.Calm) (options : List Assignment) :
    w.Hears n f options ((notify n options).exec w) := by
  have hnotify := f.notify_calm hf hlive hcalm options
  cases hmerge : f.proxy.merge options with
  | error e =>
    rw [hmerge] at hnotify
    rw [exec_notify_error hget hnotify]
    exact .refused e (RemoteProxy.refuses_of_merge hf.proxy hmerge)
  | ok merged =>
    rw [hmerge] at hnotify
    rw [exec_notify_ok hget hnotify]
    exact .taken merged (RemoteProxy.not_refuses_of_merge hmerge)
      (RemoteProxy.takes_of_merge hmerge)

/-- The worker of a loop has a live and calm filter hear the values, and goes on in either case. -/
lemma hears_hand (hf : f.Valid) (hget : w.filters.get? n = some (.remote f))
    (hlive : f.destroyed = false) (hcalm : f.Calm) (options : List Assignment) :
    ∃ result v, w.Hears n f options (result, v) ∧ (hand (.filter n) options).exec w =
      (.ok (if result.toBool then .accepted else .refused), v) := by
  have hears := hears_notify hf hget hlive hcalm options
  cases hout : (notify n options).exec w with
  | mk result v =>
    rw [hout] at hears
    refine ⟨result, v, hears, ?_⟩
    rw [hand, exec_tryCatch, exec_bind, hout]
    cases hears <;> rfl

/-- A filter takes over reports, and what it tells others changes no other filter. -/
lemma heeds_notify (m : Nat) (options : List Assignment) :
    Within (Heeds n) (notify m options) w := by
  refine Within.bind_remoteFilter fun f hf => Within.bind_ofFilter fun t ht => ?_
  have hput : Within (Heeds n) (putFilter m (.remote t.state)) w := by
    intro g hg hcalm
    show ∃ p, (w.filters.put m (.remote t.state)).get? n = _
    rw [Pool.get?_put]
    split
    · rename_i heq
      subst heq
      cases hg.symm.trans hf
      obtain ⟨⟨⟩, -, ht⟩ := bind_eq_ok.mp ht
      obtain ⟨⟨changed, p⟩, -, ht⟩ := bind_eq_ok.mp ht
      obtain rfl := pure_eq_ok.mp ht
      refine ⟨p, ?_⟩
      rw [RemoteFilter.announce, Watcher.announce_calm hcalm]
      rfl
    · exact ⟨g.proxy, hg⟩
  refine Within.bind hput fun _ _ _ => ?_
  refine Within.bind (Within.forM fun d _ w => (spares_tell d).heeds) fun _ _ _ => ?_
  split
  · exact Within.throw _
  · exact Within.pure _

/-- What an outcome that has been scripted brings up changes a calm filter in its proxy at most. -/
lemma heeds_play {α : Type} (o : ScriptedOutcome α) : Within (Heeds n) (play o) w := by
  unfold play
  split
  · refine Within.bind (Within.attempt ?_) fun _ _ _ => ?_
    · exact Within.bind_reads (reads_filterNumber _) fun m _ => heeds_notify m _
    · exact Within.bind (spares_note _).heeds fun _ _ _ => Within.pure _
  · exact Within.pure _

/-- While a question is asked a calm filter changes in its proxy at most. -/
lemma heeds_query (link : LinkNumber) (topic : String) (payload : ByteArray) :
    Within (Heeds n) (query link topic payload) w := by
  refine Within.bind_reads (reads_link link) fun l _ => ?_
  cases l with
  | device d => exact Within.bind (spares_putLink _ _).heeds fun _ _ _ => Within.pure _
  | script s => exact Within.bind (spares_putLink _ _).heeds fun _ _ _ => heeds_play _

/-! ### Questions -/

/-- A filter that is asked for takes over the answer as it is then. -/
lemma exec_refresh_wired {link : LinkNumber} (hget : w.filters.get? n = some (.remote f))
    (hlive : f.destroyed = false) (hlink : f.proxy.link? = some link) :
    (refresh n).exec w =
      (do
        let reply ← exchanged (← query link f.proxy.topic
          (ControlRequest.getOptions f.name f.kind).payload)
        announce n ((← ofFilter ((← remoteFilter n).accept reply)).map .remote) :
        Bench Nat).exec w := by
  have hinquire : f.inquire = .ok ⟨link, f.proxy.topic, .getOptions f.name f.kind⟩ := by
    rw [RemoteFilter.inquire, RemoteFilter.ensureLive_eq_ok.mpr hlive, ok_bind, RemoteProxy.inquire,
      RemoteProxy.link, hlink]
    rfl
  rw [refresh, exec_bind_ok (exec_remoteFilter hget), hinquire, exec_bind_ok (exec_ofFilter_ok _ _)]

/-- The answer to a question is rejected, or what is in it is heard. -/
lemma answered_accept (hf : f.Valid) (hget : w.filters.get? n = some (.remote f))
    (hlive : f.destroyed = false) (hcalm : f.Calm) (reply : ByteArray) :
    w.Answered n f reply
      ((do announce n ((← ofFilter ((← remoteFilter n).accept reply)).map .remote) :
        Bench Nat).exec w) := by
  have hfound := exec_bind_ok (exec_remoteFilter hget) fun f =>
    (ofFilter (f.accept reply) >>= fun t => announce n (t.map .remote) : Bench Nat)
  rw [hfound]
  by_cases hrejects : f.proxy.Rejects reply
  · have hrefused : ∃ e, f.accept reply = .error e := by
      cases haccept : f.proxy.accept reply with
      | error e => exact ⟨e, by rw [RemoteFilter.accept, haccept]; rfl⟩
      | ok out =>
        obtain ⟨hsound, options, hdecode, -⟩ := RemoteProxy.accept_eq_ok.mp haccept
        cases hrejects with
        | unreadable hnone => cases hdecode.symm.trans hnone
        | stray r hr hname =>
          cases hdecode.symm.trans hr
          exact absurd rfl hname
        | spoiled hspoiled => cases hsound.symm.trans hspoiled
    obtain ⟨e, he⟩ := hrefused
    rw [he]
    exact .rejected e hrejects
  · have hsound : f.proxy.spoiled = false := by
      cases hspoiled : f.proxy.spoiled with
      | false => rfl
      | true => exact absurd (.spoiled hspoiled) hrejects
    cases hdecode : Json.decodePayload OptionReport.decoder reply with
    | none => exact absurd (.unreadable hdecode) hrejects
    | some r =>
      obtain ⟨name, options⟩ := r
      obtain rfl : name = f.name := by
        by_contra hname
        exact hrejects (.stray _ hdecode hname)
      refine .heard options _ hdecode hrejects ?_
      have hnotify := exec_bind_ok (exec_remoteFilter hget) fun f =>
        (ofFilter (f.notify options) >>= fun t => announce n (t.map .remote) : Bench Nat)
      rw [RemoteFilter.accept_of_decode hlive hdecode hsound, ← hnotify]
      exact hears_notify hf hget hlive hcalm options

/-! ### Writes -/

/-- To change the proxy of a holder tells nobody anything. -/
lemma toldAs_change (holder : Holder) (change : RemoteProxy → RemoteProxy) :
    Within ToldAs (holder.change change) w := by
  cases holder with
  | filter n => exact Within.bind_remoteFilter fun _ _ => ⟨rfl, rfl⟩
  | proxy n => exact ⟨rfl, rfl⟩

/-- A write that is carried tells nobody, after its message has passed over the link. -/
lemma toldAs_carry (holder : Holder) (s : Submission) :
    ((send s.link s.topic s.request.payload).exec w).2.ToldAs
      ((carry holder.change s).exec w).2 := by
  unfold carry carryBy
  refine Course.trans (Within.afterCatch (R := ToldAs) fun e w' => ?_)
    (Within.after (R := ToldAs) fun outcome w' => ?_)
  · cases e with
    | panic => exact Within.bind (toldAs_change _ _) fun _ _ _ => Within.throw _
    | _ => exact Within.throw _
  · exact Within.bind_reads (Reads.exchanged _) fun _ _ => toldAs_change _ _

/-- A quiet link tells nobody anything while a message passes over it. -/
lemma toldAs_send {link : LinkNumber}
    (hquiet : ∀ l, w.links.get? link = some l → l.reportsNext = false) (topic : String)
    (payload : ByteArray) : Within ToldAs (send link topic payload) w := by
  unfold Within
  cases hl : w.links.get? link with
  | none =>
    rw [exec_send_none hl]
    exact Course.refl w
  | some l =>
    rw [exec_send_quiet hl (hquiet l hl)]
    exact ⟨rfl, rfl⟩

end Bench

/-- A write to a filter tells nobody anything but what its link reports while it has the message. -/
lemma RemoteWrite.toldAs_act {w : Workbench} (hw : w.Sound) {c : RemoteWrite} {n : Nat}
    {f : RemoteFilter} (hget : w.filters.get? n = some (.remote f))
    (hheld : c.holder? w = some (.filter n)) :
    (w.ToldAs (c.act.exec w).2 ∨ ∃ m : Message, f.proxy.link? = some m.link ∧
        ((Bench.send m.link m.topic m.payload).exec w).2.ToldAs (c.act.exec w).2) ∧
      (f.proxy.Quiet w → w.ToldAs (c.act.exec w).2) := by
  have hp : c.proxy? w = some f.proxy := by
    rw [proxy?, hheld]
    exact Holder.proxy?_filter.mpr ⟨f, hget, rfl⟩
  cases resolves hw hp with
  | idle exec =>
    rw [exec]
    exact ⟨.inl ⟨rfl, rfl⟩, fun _ => ⟨rfl, rfl⟩⟩
  | refused e exec =>
    rw [exec]
    exact ⟨.inl ⟨rfl, rfl⟩, fun _ => ⟨rfl, rfl⟩⟩
  | carried holder s _ _ updates exec =>
    rw [exec]
    have hcarried := Bench.toldAs_carry (w := w) holder s
    refine ⟨.inr ⟨⟨s.link, s.topic, s.request.payload⟩, updates.link, hcarried⟩, fun hquiet => ?_⟩
    exact Bench.Course.trans (Bench.toldAs_send (fun l => hquiet _ l updates.link) _ _) hcarried

namespace Workbench

/-- All that the device of the filter with a number reports is taken over and announced exactly.
Reports that come by themselves are heard at once or by the worker of a loop; the answer to a
question is heard by the filter as it is when the answer is there, which is the former one with
another proxy at most. Writes tell nobody anything but what their links report meanwhile. -/
structure Announces (w : Workbench) (n : Nat) (f : RemoteFilter) : Prop where
  notify : ∀ options, w.Hears n f options ((Bench.notify n options).exec w)
  hand : ∀ options, ∃ result v, w.Hears n f options (result, v) ∧
    (Bench.hand (.filter n) options).exec w =
      (.ok (if result.toBool then .accepted else .refused), v)
  answer : ∀ link reply v, f.proxy.link? = some link →
    (Bench.query link f.proxy.topic (ControlRequest.getOptions f.name f.kind).payload).exec w =
      (.ok (.ok reply), v) →
    ∃ p, v.filters.get? n = some (.remote { f with proxy := p }) ∧ f.proxy.Evolves p ∧
      v.Answered n { f with proxy := p } reply ((Bench.refresh n).exec w)
  unanswered : ∀ link e v, f.proxy.link? = some link →
    (Bench.query link f.proxy.topic (ControlRequest.getOptions f.name f.kind).payload).exec w =
      (.ok (.error e), v) →
    (Bench.refresh n).exec w = (.error (.filter e.toFilterError), v)
  write : ∀ c : RemoteWrite, c.holder? w = some (.filter n) →
    w.ToldAs (c.act.exec w).2 ∨ ∃ m : Message, f.proxy.link? = some m.link ∧
      ((Bench.send m.link m.topic m.payload).exec w).2.ToldAs (c.act.exec w).2
  quietWrite : ∀ c : RemoteWrite, c.holder? w = some (.filter n) → f.proxy.Quiet w →
    w.ToldAs (c.act.exec w).2

variable {w : Workbench} {n : Nat} {f : RemoteFilter}

/-- Whatever the device of a live filter reports is taken over and announced exactly, whoever is
subscribed to it, as long as none of them fails badly. The order is that of the declarations, unless
the filter was declared from a record whose values had been replaced by some in the order that the
filter has. -/
theorem reports_announced_exactly (commands : List (Command × Bool))
    (hget : (({} : Workbench).run commands).filters.get? n = some (.remote f))
    (hlive : f.destroyed = false) (hcalm : f.Calm) :
    (({} : Workbench).run commands).Announces n f ∧
      (f.proxy.record.InOrder ∨ DeclaredReordered commands n f.proxy.record) := by
  have horder := (orderKnown_run commands).filters n f hget
  have hw : (({} : Workbench).run commands).Reachable := Reachable.start.run commands
  generalize ({} : Workbench).run commands = w at hget hw
  have hf : f.Valid := (hw.sound.filters n _ hget).2
  refine ⟨{
    notify := Bench.hears_notify hf hget hlive hcalm
    hand := Bench.hears_hand hf hget hlive hcalm
    answer := fun link reply v hlink hquery => ?_
    unanswered := fun link e v hlink hquery => ?_
    write := fun c hheld => (RemoteWrite.toldAs_act hw.sound hget hheld).1
    quietWrite := fun c hheld => (RemoteWrite.toldAs_act hw.sound hget hheld).2 }, horder⟩
  · have hcontinues := (Bench.listens_query link f.proxy.topic
      (ControlRequest.getOptions f.name f.kind).payload (w := w)).1 hw.sound
    have hheeds := Bench.heeds_query link f.proxy.topic
      (ControlRequest.getOptions f.name f.kind).payload (w := w) f hget hcalm
    rw [hquery] at hcontinues hheeds
    obtain ⟨hv, hevolves, -⟩ := hcontinues
    obtain ⟨p, hp⟩ := hheeds
    obtain ⟨_, hlater, hfg⟩ := hevolves.filters n _ hget
    cases hp.symm.trans hlater
    cases hfg with
    | remote hfg =>
      refine ⟨p, hp, hfg.proxy, ?_⟩
      rw [Bench.exec_refresh_wired hget hlive hlink, Bench.exec_bind_ok hquery]
      exact Bench.answered_accept (hfg.models hf) hp hlive hcalm reply
  · rw [Bench.exec_refresh_wired hget hlive hlink, Bench.exec_bind_ok hquery]
    rfl

/-- A temporal filter is wired, and two callbacks want to hear the values of delta from it. -/
def watchingDelta : List (Command × Bool) :=
  RemoteWrite.wiring {} ++
    [(.onChange "filter" .delta "first" false, false),
    (.onChange "filter" .delta "second" false, false)]

/-- What is reported of delta is announced to both callbacks, and the order is that of the
declarations. -/
theorem delta_announced_exactly : ∃ f,
    (({} : Workbench).run watchingDelta).filters.get? 0 = some (.remote f) ∧
    f.destroyed = false ∧ f.Calm ∧
    f.watcher.active.map (·.listener) = [.callback "first" false, .callback "second" false] ∧
    (({} : Workbench).run watchingDelta).Announces 0 f ∧ f.proxy.record.InOrder := by
  have hfound : ((({} : Workbench).run watchingDelta).remote? 0).any (fun f => !f.destroyed &&
      decide (f.watcher.active.map (·.listener) =
        [.callback "first" false, .callback "second" false])) = true := by decide +kernel
  obtain ⟨f, hf, hfound⟩ := (Option.any_eq_true _ _).mp hfound
  rw [Bool.and_eq_true, Bool.not_eq_true', decide_eq_true_eq] at hfound
  obtain ⟨hlive, hactive⟩ := hfound
  have hget := remote?_eq_some.mp hf
  have hcalm : f.Calm := by
    intro m hm
    have hmem := List.mem_map_of_mem (f := (·.listener)) hm
    rw [hactive, List.mem_pair] at hmem
    rcases hmem with h | h <;> rw [h] <;> rfl
  obtain ⟨hannounces, horder⟩ := reports_announced_exactly watchingDelta hget hlive hcalm
  refine ⟨f, hget, hlive, hcalm, hactive, hannounces, horder.resolve_right fun hdeclared => ?_⟩
  obtain ⟨name, values, leave, hmem⟩ := hdeclared.replaced
  simp [watchingDelta, RemoteWrite.wiring, RemoteFilter.advertising] at hmem

/-- A temporal filter for a record whose values have been put in another order by hand. -/
def reordered : Workbench :=
  ({} : Workbench).run (RemoteFilter.advertising .temporal ++
    [(.recordSource "record" (.kept "props"), false),
      (.replaceValues "record" [⟨"Delta", .int 20⟩, ⟨"Toggle", .int 0⟩, ⟨"Persistency", .int 3⟩,
        ⟨"Alpha", .float (.ofInt .double 1)⟩], false),
      (.placeDeclared "filter" .temporal "record" "control", false), (.populate "filter", false),
      (.onChange "filter" .toggle "toggle" false, false),
      (.onChange "filter" .delta "delta" false, false)])

/-- A filter for a record whose values have been put in another order announces changes in that
order, and not in the order of the declarations. -/
theorem announces_in_order_of_values : ¬ ∀ (w : Workbench) (n : Nat) (f : RemoteFilter)
    (options merged : List Assignment) (count : Nat) (v : Workbench), w.Reachable →
    w.filters.get? n = some (.remote f) → f.destroyed = false → f.Calm →
    f.proxy.merge options = .ok merged → (Bench.notify n options).exec w = (.ok count, v) →
    v.calls = w.calls ++ (f.tidings (f.proxy.record.declarations.map (·.name)) merged).filterMap
      Delivery.note? := by
  intro hall
  have hreach : reordered.Reachable := .run .start _
  have hfound : (reordered.remote? 0).any (fun f => !f.destroyed &&
      decide (f.watcher.active.map (·.listener.panics) = [false, false]) &&
      (f.proxy.merge [⟨"Toggle", .int 1⟩, ⟨"Delta", .int 77⟩]).toOption.any fun merged =>
        decide (f.tidings (Assignment.names f.proxy.record.current) merged =
          [⟨.callback "delta" false, .delta, .int 77⟩,
          ⟨.callback "toggle" false, .toggle, .int 1⟩]) &&
        decide (f.tidings (f.proxy.record.declarations.map (·.name)) merged =
          [⟨.callback "toggle" false, .toggle, .int 1⟩,
          ⟨.callback "delta" false, .delta, .int 77⟩])) =
      true := by decide +kernel
  generalize reordered = w at hreach hfound
  generalize ([⟨"Toggle", .int 1⟩, ⟨"Delta", .int 77⟩] : List Assignment) = options at hfound
  obtain ⟨f, hf, hfound⟩ := (Option.any_eq_true _ _).mp hfound
  rw [Bool.and_eq_true, Bool.and_eq_true, Bool.not_eq_true', decide_eq_true_eq] at hfound
  obtain ⟨⟨hlive, hactive⟩, hfound⟩ := hfound
  have hget := remote?_eq_some.mp hf
  have hvalid : f.Valid := (hreach.sound.filters 0 _ hget).2
  have hcalm : f.Calm := by
    intro m hm
    have hmem := List.mem_map_of_mem (f := (·.listener.panics)) hm
    rw [hactive] at hmem
    simpa using hmem
  obtain ⟨merged, hmerge, hfound⟩ := (Option.any_eq_true _ _).mp hfound
  have hmerge := Outcome.eq_ok_of_toOption hmerge
  rw [Bool.and_eq_true, decide_eq_true_eq, decide_eq_true_eq] at hfound
  obtain ⟨hvalues, hdeclared⟩ := hfound
  have hnotify := f.notify_calm hvalid hlive hcalm options
  rw [hmerge] at hnotify
  have hsame := hall w 0 f options merged _ _ hreach hget hlive hcalm hmerge
    (Bench.exec_notify_ok hget hnotify)
  have hcalls : (f.tidings (Assignment.names f.proxy.record.current) merged).filterMap
        Delivery.note? =
      (f.tidings (f.proxy.record.declarations.map (·.name)) merged).filterMap Delivery.note? :=
    List.append_cancel_left hsame
  rw [hvalues, hdeclared] at hcalls
  simp [Delivery.note?] at hcalls

end Workbench

end EmbeddedFilters
