import EmbeddedFilters.Proofs.Device.Operations
import Mathlib.Data.List.Basic

/-!
# What a device counts

A message or a question put to a device is an exchange with an outcome (`Device.Exchange`). The
statistics of the device account for exchanges (`LinkStatistics.Accounts`) if they count those that
have succeeded, with their bytes, and the messages that have failed, with the text of the last
failure. One exchange more is either recorded so, or it is a question that has failed, which is not
recorded at all. So the statistics account for every run, and the two counts give all exchanges
exactly if no question has failed (`Device.statistics_account_for_exchanges`).
-/

namespace EmbeddedFilters

namespace Device

/-- A message or a question that has been put to a device, with the length of its payload and its
outcome. -/
structure Exchange where
  question : Bool
  bytes : Nat
  outcome : Except LinkError Unit

namespace Exchange

/-- Did the exchange end well? -/
def succeeded (x : Exchange) : Bool := x.outcome.isOk

/-- The text of the failure. -/
def failure? (x : Exchange) : Option String :=
  match x.outcome with
  | .ok () => none
  | .error e => some e.message

end Exchange

/-- The exchange that an operation is. -/
def exchange? (d : Device) : Operation → Option Exchange
  | .send topic payload => some ⟨false, payload.size, (d.send topic payload).1⟩
  | .query topic payload => some ⟨true, payload.size, (d.query topic payload).1.map fun _ => ()⟩
  | _ => none

/-- The exchanges among operations, oldest first. -/
def exchanges (d : Device) : List Operation → List Exchange
  | [] => []
  | operation :: rest => (d.exchange? operation).toList ++ (d.perform operation).2.exchanges rest

end Device

open Device

namespace LinkStatistics

/-- The statistics count the exchanges that have succeeded, and the messages among those that have
failed. -/
structure Accounts (s : LinkStatistics) (xs : List Exchange) : Prop where
  sent : s.sent = xs.countP fun x => x.succeeded
  bytes : s.bytes = ((xs.filter fun x => x.succeeded).map (·.bytes)).sum
  failed : s.failed = xs.countP fun x => !x.question && !x.succeeded
  lastError : s.lastError = ((xs.filter fun x => !x.question).filterMap Exchange.failure?).getLast?

variable {s : LinkStatistics} {xs : List Exchange} {e : LinkError}

/-- Statistics start out with no exchanges to account for. -/
lemma accounts_start : Accounts {} [] := ⟨rfl, rfl, rfl, rfl⟩

/-- Reports of the device are counted beside the exchanges. -/
lemma Accounts.withReports (h : s.Accounts xs) (reports : Nat) : ({ s with reports }).Accounts xs :=
  ⟨h.sent, h.bytes, h.failed, h.lastError⟩

/-- What one exchange more adds to the statistics. -/
lemma Accounts.append {next : LinkStatistics} (h : s.Accounts xs) (x : Exchange)
    (hsent : next.sent = s.sent + if x.succeeded then 1 else 0)
    (hbytes : next.bytes = s.bytes + if x.succeeded then x.bytes else 0)
    (hfailed : next.failed = s.failed + if !x.question && !x.succeeded then 1 else 0)
    (hlast : next.lastError = if x.question then s.lastError else x.failure?.or s.lastError) :
    next.Accounts (xs ++ [x]) where
  sent := by rw [hsent, h.sent, List.countP_append, List.countP_singleton]
  bytes := by
    rw [hbytes, h.bytes, List.filter_append, List.map_append, List.sum_append]
    cases hsucceeded : x.succeeded <;> simp [hsucceeded]
  failed := by rw [hfailed, h.failed, List.countP_append, List.countP_singleton]
  lastError := by
    rw [hlast, h.lastError, List.filter_append, List.filterMap_append]
    cases hquestion : x.question <;> cases hfailure : x.failure? <;> simp [hquestion, hfailure]

/-- A message that has been sent is accounted for once it is recorded. -/
lemma Accounts.recordSent (h : s.Accounts xs) {x : Exchange} (hx : x.outcome = .ok ()) :
    (s.recordSent x.bytes).Accounts (xs ++ [x]) := by
  have hsucceeded : x.succeeded = true := by rw [Exchange.succeeded, hx]; rfl
  have hfailure : x.failure? = none := by rw [Exchange.failure?, hx]
  apply h.append x <;> simp [LinkStatistics.recordSent, hsucceeded, hfailure]

/-- A message that has failed is accounted for once its failure is recorded. -/
lemma Accounts.recordFailure (h : s.Accounts xs) {x : Exchange} (hmessage : x.question = false)
    (hx : x.outcome = .error e) : (s.recordFailure e).Accounts (xs ++ [x]) := by
  have hsucceeded : x.succeeded = false := by rw [Exchange.succeeded, hx]; rfl
  have hfailure : x.failure? = some e.message := by rw [Exchange.failure?, hx]
  apply h.append x <;> simp [LinkStatistics.recordFailure, hmessage, hsucceeded, hfailure]

/-- A question that has failed is not recorded. -/
lemma Accounts.unrecorded (h : s.Accounts xs) {x : Exchange} (hquestion : x.question = true)
    (hx : x.outcome = .error e) : s.Accounts (xs ++ [x]) := by
  have hsucceeded : x.succeeded = false := by rw [Exchange.succeeded, hx]; rfl
  apply h.append x <;> simp [hquestion, hsucceeded]

/-- An exchange has succeeded, is a message that has failed, or is a question that has failed. -/
lemma length_eq_count (xs : List Exchange) : xs.length = (xs.countP fun x => x.succeeded) +
    (xs.countP fun x => !x.question && !x.succeeded) + xs.countP fun x =>
      x.question && !x.succeeded := by
  induction xs with
  | nil => rfl
  | cons x xs ih =>
    simp only [List.length_cons, List.countP_cons, ih]
    cases x.succeeded <;> cases x.question <;> simp <;> omega

end LinkStatistics

namespace Device

variable {d : Device} {topic : String} {payload : ByteArray} {xs : List Exchange}

/-! ### One operation -/

/-- Receiving a message leaves the statistics alone. -/
lemma statistics_receive (d : Device) (topic : String) (payload : ByteArray) :
    (d.receive topic payload).2.statistics = d.statistics := by
  unfold receive
  split
  · rfl
  · split
    · rfl
    · split <;> rfl

/-- Handling a request leaves the statistics alone. -/
lemma statistics_handle (d : Device) (request : ControlRequest) :
    (d.handle request).2.statistics = d.statistics := by
  cases request with
  | getOptions => rfl
  | setOptions name kind options =>
    show (d.update name kind options).2.statistics = d.statistics
    rcases d.update_cases name kind options with ⟨e, hupdate⟩ | ⟨-, hupdate⟩
    · rw [hupdate]
    · rw [hupdate]
      rfl

/-- The outcome of a message is recorded, whatever it is. -/
lemma statistics_send (d : Device) (topic : String) (payload : ByteArray) :
    (d.send topic payload).2.statistics =
      d.statistics.record payload.size (d.send topic payload).1 := by
  have hreceive := d.statistics_receive topic payload
  unfold send
  generalize d.receive topic payload = received at hreceive
  obtain ⟨outcome, next⟩ := received
  cases outcome with
  | error e => exact congrArg (fun s => s.record payload.size (.error e)) hreceive
  | ok request =>
    exact congrArg (fun s => s.record payload.size (next.handle request).1)
      ((next.statistics_handle request).trans hreceive)

/-- A question is recorded if it is answered, and not if it fails. -/
lemma statistics_query (d : Device) (topic : String) (payload : ByteArray) :
    (∃ reply, (d.query topic payload).1 = .ok reply ∧
        (d.query topic payload).2.statistics = d.statistics.recordSent payload.size) ∨
      ∃ e, (d.query topic payload).1 = .error e ∧
        (d.query topic payload).2.statistics = d.statistics := by
  have hreceive := d.statistics_receive topic payload
  unfold query
  generalize d.receive topic payload = received at hreceive
  obtain ⟨outcome, next⟩ := received
  cases outcome with
  | error e => exact .inr ⟨e, rfl, hreceive⟩
  | ok request =>
    cases request with
    | setOptions => exact .inr ⟨_, rfl, hreceive⟩
    | getOptions name kind =>
      dsimp only
      split
      · exact .inr ⟨_, rfl, hreceive⟩
      · exact .inl ⟨_, rfl, congrArg (fun s => s.recordSent payload.size) hreceive⟩

/-- The statistics go on accounting for all exchanges when one more operation is asked for. -/
lemma accounts_perform (h : d.statistics.Accounts xs) (operation : Operation) :
    (d.perform operation).2.statistics.Accounts (xs ++ (d.exchange? operation).toList) := by
  cases operation with
  | advertise | connect | reject | report =>
    show d.statistics.Accounts (xs ++ [])
    rw [List.append_nil]
    exact h
  | push name options =>
    show (d.push name options).2.statistics.Accounts (xs ++ [])
    rw [List.append_nil]
    unfold push
    split
    · exact h
    · dsimp only
      split
      · exact h
      · exact h.withReports _
  | send topic payload =>
    show (d.send topic payload).2.statistics.Accounts
      (xs ++ [⟨false, payload.size, (d.send topic payload).1⟩])
    rw [statistics_send]
    cases houtcome : (d.send topic payload).1 with
    | ok =>
      have hx : (⟨false, payload.size, .ok ()⟩ : Exchange).outcome = .ok () := rfl
      exact h.recordSent hx
    | error e => exact h.recordFailure rfl rfl
  | query topic payload =>
    show (d.query topic payload).2.statistics.Accounts
      (xs ++ [⟨true, payload.size, (d.query topic payload).1.map fun _ => ()⟩])
    rcases d.statistics_query topic payload with
      ⟨reply, hreply, hstatistics⟩ | ⟨e, hfails, hstatistics⟩
    · have hx : (⟨true, payload.size, .ok ()⟩ : Exchange).outcome = .ok () := rfl
      rw [hreply, hstatistics]
      exact h.recordSent hx
    · rw [hfails, hstatistics]
      exact h.unrecorded rfl rfl

/-! ### Runs -/

/-- After any operations the statistics account for their exchanges too. -/
lemma accounts_run (h : d.statistics.Accounts xs) (operations : List Operation) :
    (d.run operations).statistics.Accounts (xs ++ d.exchanges operations) := by
  induction operations generalizing d xs with
  | nil =>
    rw [exchanges, List.append_nil]
    exact h
  | cons operation operations ih =>
    rw [exchanges, ← List.append_assoc]
    exact ih (accounts_perform h operation)

/-- Whatever has been asked of a device, its statistics count the exchanges that have succeeded and
sum up the bytes of just these; they count the messages that have failed, and keep the text of the
last of these failures. So the two counts give all exchanges exactly if no question has failed, and
then the text is that of the last exchange that has failed. -/
theorem statistics_account_for_exchanges (config : LinkConfig) (operations : List Operation) :
    let s := ((ofConfig config).run operations).statistics
    let xs := (ofConfig config).exchanges operations
    s.sent = (xs.countP fun x => x.succeeded) ∧
      s.bytes = ((xs.filter fun x => x.succeeded).map (·.bytes)).sum ∧
      s.failed = (xs.countP fun x => !x.question && !x.succeeded) ∧
      s.lastError = ((xs.filter fun x => !x.question).filterMap Exchange.failure?).getLast? ∧
      (s.sent + s.failed = xs.length ↔ ∀ x ∈ xs, x.question = true → x.succeeded = true) ∧
      ((∀ x ∈ xs, x.question = true → x.succeeded = true) →
        s.lastError = (xs.filterMap Exchange.failure?).getLast?) := by
  have haccounts := accounts_run (d := ofConfig config) LinkStatistics.accounts_start operations
  rw [List.nil_append] at haccounts
  refine ⟨haccounts.sent, haccounts.bytes, haccounts.failed, haccounts.lastError, ?_, ?_⟩
  · rw [LinkStatistics.length_eq_count, haccounts.sent, haccounts.failed,
      left_eq_add, List.countP_eq_zero]
    refine forall₂_congr fun x _ => ?_
    cases x.question <;> cases x.succeeded <;> simp
  · intro hanswered
    rw [haccounts.lastError, List.filterMap_filter]
    refine congrArg _ (List.filterMap_congr fun x hx => ?_)
    cases hquestion : x.question with
    | false => rfl
    | true =>
      -- a question that has been answered has no text of a failure
      have hsucceeded := hanswered x hx hquestion
      obtain ⟨_, _, outcome⟩ := x
      cases outcome with
      | ok => rfl
      | error e => cases hsucceeded

/-- A device is asked for the values of its filter, and then its link is cut and a message cannot
arrive. -/
def answeredThenCut : List Operation :=
  [.advertise .temporal "depth",
    .query "rt/device/control" (ControlRequest.getOptions "depth" .temporal).payload,
    .connect false, .send "rt/device/control" .empty]

/-- Both exchanges are counted, and the text is that of the message. -/
theorem answeredThenCut_is_counted :
    (∀ x ∈ (ofConfig {}).exchanges answeredThenCut, x.question = true → x.succeeded = true) ∧
      ((ofConfig {}).run answeredThenCut).statistics.sent +
        ((ofConfig {}).run answeredThenCut).statistics.failed =
        ((ofConfig {}).exchanges answeredThenCut).length ∧
      ((ofConfig {}).exchanges answeredThenCut).length = 2 ∧
      ((ofConfig {}).run answeredThenCut).statistics.lastError = some "Not connected" := by
  have hall : (((ofConfig {}).exchanges answeredThenCut).all fun x => !x.question || x.succeeded) =
      true := by
    decide +kernel
  have hanswered : ∀ x ∈ (ofConfig {}).exchanges answeredThenCut, x.question = true →
      x.succeeded = true := by
    intro x hx hquestion
    have hor := List.all_eq_true.mp hall x hx
    rwa [hquestion, Bool.not_true, Bool.false_or] at hor
  have hlast : (((ofConfig {}).exchanges answeredThenCut).filterMap Exchange.failure?).getLast? =
      some "Not connected" := by decide +kernel
  obtain ⟨-, -, -, -, htotal, htext⟩ := statistics_account_for_exchanges {} answeredThenCut
  exact ⟨hanswered, htotal.mpr hanswered, rfl, (htext hanswered).trans hlast⟩

/-- A question over a link that is cut fails, and is not counted. -/
theorem failed_question_is_not_counted : ¬ ∀ (config : LinkConfig) (operations : List Operation),
    ((ofConfig config).run operations).statistics.sent +
      ((ofConfig config).run operations).statistics.failed =
      ((ofConfig config).exchanges operations).length := by
  intro hall
  have hcounted := hall {} [.connect false, .query "rt/device/control" .empty]
  exact absurd hcounted (by decide)

end Device

end EmbeddedFilters
