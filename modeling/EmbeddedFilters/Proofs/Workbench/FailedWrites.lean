import EmbeddedFilters.Proofs.Workbench.Sending

/-!
# Writes that fail

A write that fails changes no value. It fails before anything is sent, or because of what the link
has answered; what it has prepared is laid over the values of the proxy only after that. As long as
nothing is reported meanwhile, all that a failed write leaves behind is at the link that has seen
the message (`RemoteWrite.failed_write_keeps_values`).
-/

namespace EmbeddedFilters

/-- Nothing is reported to the host while the next message of a proxy passes over its link. -/
def RemoteProxy.Quiet (p : RemoteProxy) (w : Workbench) : Prop :=
  ∀ n l, p.link? = some n → w.links.get? n = some l → l.reportsNext = false

namespace Bench

variable {w : Workbench}

/-- Nothing is sent over a link that is not there. -/
lemma exec_send_none {n : LinkNumber} (hget : w.links.get? n = none) (topic : String)
    (payload : ByteArray) :
    (send n topic payload).exec w = (.error (.noObject "transport"), w) := by
  have hlink : (link n).exec w = (.error (.noObject "transport"), w) := by
    rw [link, exec_bind_ok (exec_get w), hget]
    rfl
  exact exec_bind_error hlink _

/-- The proxy of a holder that is there can be changed. -/
lemma exec_change {holder : Holder} {p : RemoteProxy} (hp : holder.proxy? w = some p)
    (change : RemoteProxy → RemoteProxy) : ((holder.change change).exec w).1 = .ok () := by
  cases holder with
  | filter n =>
    obtain ⟨f, hf, -⟩ := Holder.proxy?_filter.mp hp
    exact congrArg Prod.fst (exec_changeProxy hf change)
  | proxy n => rfl

/-- A write that is carried over a quiet link and fails changes the link alone. -/
lemma exec_carry_error {holder : Holder} {p : RemoteProxy} {s : Submission} {e : Fault}
    (hp : holder.proxy? w = some p)
    (hquiet : ∀ l, w.links.get? s.link = some l → l.reportsNext = false)
    (herror : ((carry holder.change s).exec w).1 = .error e) :
    ∃ links, ((carry holder.change s).exec w).2 = { w with links } := by
  cases hl : w.links.get? s.link with
  | none =>
    refine ⟨w.links, ?_⟩
    rw [carry, carryBy, exec_bind, exec_tryCatch, exec_send_none hl]
    rfl
  | some l =>
    cases ho : l.outcome s.topic s.request.payload with
    | error _ => exact ⟨_, by rw [exec_carry_refused hl (hquiet l hl) ho]⟩
    | ok u =>
      rw [exec_carry_ok hl (hquiet l hl) ho] at herror
      -- the links have changed, so the proxy is looked up again
      have hproxy : holder.proxy? { w with
          links := w.links.put s.link (l.handed s.topic s.request.payload) } = some p := by
        cases holder <;> exact hp
      cases (exec_change hproxy fun p => p.settle s).symm.trans herror

end Bench

namespace RemoteWrite

variable {w : Workbench} {p : RemoteProxy} {e : Fault}

/-- A write to a remote filter that fails, for whatever reason, leaves everything but the links as
it was: all values and all filters, the listeners and what they have been told. -/
theorem failed_write_keeps_values (hw : w.Reachable) (c : RemoteWrite) (hp : c.proxy? w = some p)
    (hquiet : p.Quiet w) (herror : (c.act.exec w).1 = .error e) :
    ∃ links, (c.act.exec w).2 = { w with links } := by
  cases resolves hw.sound hp with
  | idle exec =>
    rw [exec] at herror
    cases herror
  | refused _ exec => exact ⟨w.links, by rw [exec]⟩
  | carried holder s held _ updates exec =>
    rw [exec] at herror ⊢
    have hholder : holder.proxy? w = some p := by
      rw [proxy?, held] at hp
      exact hp
    exact Bench.exec_carry_error hholder (fun l => hquiet _ l updates.link) herror

/-- The commands by which a remote temporal filter is wired to a link that loses the first
message. -/
def losing : List (Command × Bool) := wiring { sends := [{ outcome := .error .timeout }] }

/-- Switching a filter on over a link that loses the message fails, and all values stay. -/
theorem enable_over_lossy_link : ∃ (w : Workbench) (p : RemoteProxy) (e : Fault),
    w.Reachable ∧ (RemoteWrite.enable 0 true).proxy? w = some p ∧ p.Quiet w ∧
      p.isWired = true ∧ ((RemoteWrite.enable 0 true).act.exec w).1 = .error e ∧
      ∃ links, ((RemoteWrite.enable 0 true).act.exec w).2 = { w with links } := by
  have hreach := Workbench.Reachable.start.run losing
  have hfound : ((RemoteWrite.enable 0 true).proxy? (({} : Workbench).run losing)).any
      (fun p => p.isWired && (p.link?.bind (({} : Workbench).run losing).links.get?).all
        fun l => !l.reportsNext) = true := by decide +kernel
  have hfails : ((RemoteWrite.enable 0 true).act.exec
      (({} : Workbench).run losing)).1.toBool = false := by decide +kernel
  generalize ({} : Workbench).run losing = w at hreach hfound hfails
  obtain ⟨p, hp, hwired⟩ := (Option.any_eq_true _ _).mp hfound
  rw [Bool.and_eq_true] at hwired
  obtain ⟨hwired, hlink⟩ := hwired
  have hquiet : p.Quiet w := by
    intro n l hn hl
    rw [hn, Option.bind_some, hl, Option.all_some, Bool.not_eq_true'] at hlink
    exact hlink
  cases herror : ((RemoteWrite.enable 0 true).act.exec w).1 with
  | ok u => rw [herror] at hfails; cases hfails
  | error e =>
    exact ⟨w, p, e, hreach, hp, hquiet, hwired, herror,
      failed_write_keeps_values hreach (.enable 0 true) hp hquiet herror⟩

end RemoteWrite

end EmbeddedFilters
