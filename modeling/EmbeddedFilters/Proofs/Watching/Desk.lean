import EmbeddedFilters.Proofs.Outcome
import EmbeddedFilters.Proofs.Tables
import EmbeddedFilters.Proofs.Watching.Watcher
import EmbeddedFilters.Watching.Desk

/-!
# Operations at a watch desk

What each operation at a desk comes to: its result, the callbacks told meanwhile, and the desk
afterwards. Every equation is about a desk at which no told callbacks are left to be read off, as it
stands between two operations.
-/

namespace EmbeddedFilters

open Outcome (run_bind run_bind_ok)

/-- The deliveries to callbacks; the others go into mailboxes. -/
def Delivery.calls (deliveries : List Delivery) : List Delivery :=
  deliveries.filter fun d => match d.listener with
    | .callback _ _ => true
    | .mailbox _ => false

/-- The mailboxes after a listener has been told a value. -/
def Delivery.post (boxes : Pool (List OptionValue)) (d : Delivery) : Pool (List OptionValue) :=
  match d.listener with
  | .callback _ _ => boxes
  | .mailbox n => boxes.modify n (· ++ [d.value])

/-- A mailbox gets the values that are delivered to it, in their order. -/
lemma Delivery.get?_foldl_post (deliveries : List Delivery) (boxes : Pool (List OptionValue))
    (n : Nat) :
    (deliveries.foldl Delivery.post boxes).get? n = (boxes.get? n).map
      (· ++ (deliveries.filter (·.listener = .mailbox n)).map Delivery.value) := by
  induction deliveries generalizing boxes with
  | nil => simp
  | cons d rest ih =>
    obtain ⟨listener, id, value⟩ := d
    rw [List.foldl_cons, ih]
    cases listener with
    | callback label panics => simp [Delivery.post]
    | mailbox m =>
      by_cases h : m = n
      · subst h
        simp [Delivery.post, Pool.get?_modify, Function.comp_def]
      · simp [Delivery.post, Pool.get?_modify, h, Ne.symm h]

/-- Delivering values opens no mailbox. -/
lemma Delivery.next_foldl_post (deliveries : List Delivery) (boxes : Pool (List OptionValue)) :
    (deliveries.foldl Delivery.post boxes).next = boxes.next := by
  induction deliveries generalizing boxes with
  | nil => rfl
  | cons d rest ih =>
    rw [List.foldl_cons, ih]
    unfold Delivery.post
    split <;> rfl

namespace WatchDesk

variable {desk : WatchDesk} {w : Watcher} {absent : Fault}

/-- An operation that tells no callback. -/
lemma step_quiet {α : Type} {act : Action α} {result : Except Fault α} {after : WatchDesk}
    (h : act.run.run desk = (result, after)) (told : after.told = []) :
    desk.step act = (result, [], after) := by
  unfold step
  rw [h]
  obtain ⟨_, watches, mailboxes, _⟩ := after
  subst told
  rfl

/-- The watcher is looked up where it is there. -/
lemma run_watcher (hw : desk.watcher? = some w) :
    (watcher absent).run.run desk = (.ok w, desk) := by
  obtain ⟨_, watches, mailboxes, told⟩ := desk
  subst hw
  rfl

/-- The failure that stands for a missing watcher is given where there is none. -/
lemma run_watcher_none (hw : desk.watcher? = none) :
    (watcher absent).run.run desk = (.error absent, desk) := by
  obtain ⟨_, watches, mailboxes, told⟩ := desk
  subst hw
  rfl

/-- At a desk without a watcher, an operation that asks for it fails. -/
lemma step_watcher_none {α : Type} (hw : desk.watcher? = none) (told : desk.told = [])
    (f : Watcher → Action α) :
    desk.step (watcher absent >>= f) = (.error absent, [], desk) := by
  refine step_quiet ?_ told
  rw [run_bind, run_watcher_none hw]

/-- The desk after a subscription has been kept under a tag: what was kept there before has
ended. -/
def kept (desk : WatchDesk) (tag : String) (watch : DeskWatch) (w : Watcher) : WatchDesk :=
  { desk with
    watcher? := some ((desk.watches.get? tag).elim w fun earlier => w.cancel earlier.subscription)
    watches := desk.watches.put tag watch }

/-- A subscription that the watcher grants is kept under its tag. -/
lemma run_keep_ok {tag : String} {id : OptionId} {listener : Listener} {s : Subscription}
    {w' : Watcher} (hw : desk.watcher? = some w) (h : w.subscribe id listener = .ok (s, w'))
    (mailbox? : Option Nat) :
    (keep absent tag id listener mailbox?).run.run desk =
      (.ok s, desk.kept tag ⟨s, mailbox?⟩ w') := by
  unfold keep kept
  rw [run_bind_ok (run_watcher hw), h]
  show ((desk.watches.get? tag).forM endWatch >>= fun _ => pure s : Action Subscription).run.run
    { desk with watcher? := some w', watches := desk.watches.put tag ⟨s, mailbox?⟩ } = _
  cases desk.watches.get? tag <;> rfl

/-- A subscription that the watcher refuses changes nothing. -/
lemma run_keep_error {tag : String} {id : OptionId} {listener : Listener} {e : FilterError}
    (hw : desk.watcher? = some w) (h : w.subscribe id listener = .error e) (mailbox? : Option Nat) :
    (keep absent tag id listener mailbox?).run.run desk = (.error (.filter e), desk) := by
  unfold keep
  rw [run_bind_ok (run_watcher hw), h]
  rfl

/-- Deliveries are told one after the other. -/
lemma run_forM_tell (deliveries : List Delivery) :
    (deliveries.forM tell).run.run desk = (.ok (), { desk with
      told := desk.told ++ Delivery.calls deliveries
      mailboxes := deliveries.foldl Delivery.post desk.mailboxes }) := by
  induction deliveries generalizing desk with
  | nil => simp [Delivery.calls]; rfl
  | cons d rest ih =>
    obtain ⟨listener, id, value⟩ := d
    cases listener with
    | callback label panics =>
      refine (run_bind_ok rfl _).trans (ih.trans ?_)
      simp [Delivery.calls, Delivery.post]
    | mailbox n =>
      refine (run_bind_ok rfl _).trans (ih.trans ?_)
      simp [Delivery.calls, Delivery.post]

/-! ### Subscribing -/

section

variable {tag : String} {id : OptionId} {s : Subscription} {w' : Watcher} {e : FilterError}

variable (absent) in
/-- A callback that the watcher takes is kept under its tag. -/
lemma step_onChange_ok {panics : Bool} (hw : desk.watcher? = some w) (told : desk.told = [])
    (h : w.subscribe id (.callback tag panics) = .ok (s, w')) :
    desk.step (onChange absent tag id panics) = (.ok s, [], desk.kept tag ⟨s, none⟩ w') :=
  step_quiet (run_keep_ok hw h none) told

/-- A callback that the watcher refuses changes nothing. -/
lemma step_onChange_error {panics : Bool} (hw : desk.watcher? = some w) (told : desk.told = [])
    (h : w.subscribe id (.callback tag panics) = .error e) :
    desk.step (onChange absent tag id panics) = (.error (.filter e), [], desk) :=
  step_quiet (run_keep_error hw h none) told

/-- The desk with a new mailbox. -/
def withMailbox (desk : WatchDesk) : WatchDesk :=
  { desk with mailboxes := (desk.mailboxes.add []).2 }

/-- A mailbox is put up before the subscription is asked for. -/
lemma run_collect : (collect absent tag id).run.run desk =
    (keep absent tag id (.mailbox desk.mailboxes.next) (some desk.mailboxes.next) >>=
      fun _ => pure ()).run.run desk.withMailbox := rfl

variable (absent tag) in
/-- A mailbox that the watcher takes is opened and kept under its tag. -/
lemma step_collect_ok (hw : desk.watcher? = some w) (told : desk.told = [])
    (h : w.subscribe id (.mailbox desk.mailboxes.next) = .ok (s, w')) :
    desk.step (collect absent tag id) =
      (.ok (), [], desk.withMailbox.kept tag ⟨s, some desk.mailboxes.next⟩ w') := by
  have hbox : desk.withMailbox.watcher? = some w := hw
  refine step_quiet ?_ told
  rw [run_collect, run_bind_ok (run_keep_ok hbox h _)]
  rfl

/-- A mailbox that the watcher refuses is opened for nothing. -/
lemma step_collect_error (hw : desk.watcher? = some w) (told : desk.told = [])
    (h : w.subscribe id (.mailbox desk.mailboxes.next) = .error e) :
    desk.step (collect absent tag id) = (.error (.filter e), [], desk.withMailbox) := by
  have hbox : desk.withMailbox.watcher? = some w := hw
  refine step_quiet ?_ told
  rw [run_collect, run_bind, run_keep_error hbox h _]

/-- Where there is no watcher a mailbox is opened for nothing. -/
lemma step_collect_none (hw : desk.watcher? = none) (told : desk.told = []) :
    desk.step (collect absent tag id) = (.error absent, [], desk.withMailbox) := by
  have hbox : desk.withMailbox.watcher? = none := hw
  refine step_quiet ?_ told
  rw [run_collect, keep, run_bind, run_bind, run_watcher_none hbox]

end

/-! ### What lies in mailboxes, and the end of subscriptions -/

section

variable {tag : String} {watch : DeskWatch}

/-- The state of a desk is read as it is. -/
lemma run_get : (get : Action WatchDesk).run.run desk = (.ok desk, desk) := rfl

/-- A handle is looked up under its tag. -/
lemma run_watch (hwatch : desk.watches.get? tag = some watch) :
    (WatchDesk.watch tag).run.run desk = (.ok watch, desk) := by
  rw [WatchDesk.watch, run_bind_ok run_get, hwatch]
  rfl

/-- A tag without a handle is no object. -/
lemma run_watch_none (hwatch : desk.watches.get? tag = none) :
    (WatchDesk.watch tag).run.run desk = (.error (.noObject "tag"), desk) := by
  rw [WatchDesk.watch, run_bind_ok run_get, hwatch]
  rfl

/-- What lies in a mailbox. -/
def contents (desk : WatchDesk) (n : Nat) : List OptionValue := (desk.mailboxes.get? n).getD []

/-- What lies in the mailbox of the subscription kept under a tag. -/
def queue (desk : WatchDesk) (tag : String) : List OptionValue :=
  ((desk.watches.get? tag).bind (·.mailbox?)).elim [] desk.contents

/-- The desk after the first value has been taken out of a mailbox. -/
def taken (desk : WatchDesk) (n : Nat) : WatchDesk :=
  match desk.contents n with
  | [] => desk
  | _ :: rest => { desk with mailboxes := desk.mailboxes.put n rest }

/-- Taking a value from a mailbox leaves those behind it. -/
lemma contents_taken_self (n : Nat) :
    (desk.contents n).head?.toList ++ (desk.taken n).contents n = desk.contents n := by
  unfold taken
  cases h : desk.contents n with
  | nil => exact h
  | cons value rest => simp [contents, Pool.get?_put_self]

/-- Taking a value from a mailbox leaves the others. -/
lemma contents_taken_of_ne {n m : Nat} (h : n ≠ m) :
    (desk.taken m).contents n = desk.contents n := by
  unfold taken
  split
  · rfl
  · exact congrArg (Option.getD · []) (Pool.get?_put_of_ne _ h _)

/-- The next value of a handle is the first one in its mailbox. -/
lemma step_next {s : Subscription} {n : Nat} (hwatch : desk.watches.get? tag = some ⟨s, some n⟩)
    (told : desk.told = []) :
    desk.step (next tag) = (.ok (desk.contents n).head?, [], desk.taken n) := by
  have hmailbox : (mailbox tag).run.run desk = (.ok (n, desk.contents n), desk) := by
    unfold mailbox
    rw [run_bind_ok (run_watch hwatch)]
    rfl
  refine step_quiet ?_ (by unfold taken; split <;> exact told)
  unfold next taken
  rw [run_bind_ok hmailbox]
  cases desk.contents n <;> rfl

/-- There is no next value for a callback. -/
lemma step_next_callback {s : Subscription} (hwatch : desk.watches.get? tag = some ⟨s, none⟩)
    (told : desk.told = []) :
    desk.step (next tag) = (.error (.noObject "tag"), [], desk) := by
  refine step_quiet ?_ told
  unfold next mailbox
  rw [run_bind, run_bind_ok (run_watch hwatch)]
  rfl

/-- There is no next value under a tag without a handle. -/
lemma step_next_none (hwatch : desk.watches.get? tag = none) (told : desk.told = []) :
    desk.step (next tag) = (.error (.noObject "tag"), [], desk) := by
  refine step_quiet ?_ told
  unfold next mailbox
  rw [run_bind, run_bind, run_watch_none hwatch]

/-- Asking for the next value leaves the watcher. -/
lemma watcher?_step_next (tag : String) (told : desk.told = []) :
    (desk.step (next tag)).2.2.watcher? = desk.watcher? := by
  cases hwatch : desk.watches.get? tag with
  | none => rw [step_next_none hwatch told]
  | some watch =>
    obtain ⟨s, _ | n⟩ := watch
    · rw [step_next_callback hwatch told]
    · rw [step_next hwatch told]
      unfold taken
      split <;> rfl

/-- Giving up a handle ends its subscription. -/
lemma step_cancel (hwatch : desk.watches.get? tag = some watch) (told : desk.told = []) :
    desk.step (cancel tag) = (.ok (), [], { desk with
      watcher? := desk.watcher?.map fun w => w.cancel watch.subscription
      watches := desk.watches.erase tag }) := by
  refine step_quiet ?_ told
  unfold cancel
  rw [run_bind_ok (run_watch hwatch)]
  rfl

/-- A tag without a handle cannot be given up. -/
lemma step_cancel_none (hwatch : desk.watches.get? tag = none) (told : desk.told = []) :
    desk.step (cancel tag) = (.error (.noObject "tag"), [], desk) := by
  refine step_quiet ?_ told
  unfold cancel
  rw [run_bind, run_watch_none hwatch]

/-- Giving up a tag changes the watcher by the end of a subscription at most. -/
lemma watcher?_step_cancel (tag : String) (told : desk.told = []) :
    (desk.step (cancel tag)).2.2.watcher? = desk.watcher? ∨
      ∃ s, (desk.step (cancel tag)).2.2.watcher? = desk.watcher?.map (·.cancel s) := by
  cases hwatch : desk.watches.get? tag with
  | none => exact .inl (by rw [step_cancel_none hwatch told])
  | some watch => exact .inr ⟨watch.subscription, by rw [step_cancel hwatch told]⟩

end

/-! ### The watcher -/

/-- The desk after its watcher has announced changes. -/
def announced (desk : WatchDesk) (w : Watcher) (changes : List Change) : WatchDesk :=
  { desk with
    watcher? := some (w.announce changes).state
    mailboxes := (w.announce changes).deliveries.foldl Delivery.post desk.mailboxes }

/-- Dispatching tells what the watcher announces, and fails if a callback panics. -/
lemma step_dispatch (hw : desk.watcher? = some w) (told : desk.told = []) (changes : List Change) :
    desk.step (dispatch changes) =
      (if (w.announce changes).panicked then .error .panic
        else .ok (w.announce changes).deliveries.length,
      Delivery.calls (w.announce changes).deliveries, desk.announced w changes) := by
  have hrun : (dispatch changes).run.run desk =
      (if (w.announce changes).panicked then .error .panic
        else .ok (w.announce changes).deliveries.length,
      { desk with
        watcher? := some (w.announce changes).state
        mailboxes := (w.announce changes).deliveries.foldl Delivery.post desk.mailboxes
        told := desk.told ++ Delivery.calls (w.announce changes).deliveries }) := by
    unfold dispatch
    rw [run_bind_ok (run_watcher hw)]
    show (List.forM (w.announce changes).deliveries tell >>= fun _ => _ : Action Nat).run.run
      { desk with watcher? := some (w.announce changes).state } = _
    rw [run_bind_ok (run_forM_tell _)]
    cases (w.announce changes).panicked <;> rfl
  unfold step
  rw [hrun, told]
  obtain ⟨_, watches, mailboxes, _⟩ := desk
  subst told
  rfl

/-- Closing the watcher has no other effect. -/
lemma step_close (hw : desk.watcher? = some w) (told : desk.told = []) :
    desk.step close = (.ok (), [], { desk with watcher? := some w.close }) := by
  refine step_quiet ?_ told
  unfold close
  rw [run_bind_ok (run_watcher hw)]
  rfl

/-- Counting subscriptions changes nothing. -/
lemma step_count (hw : desk.watcher? = some w) (told : desk.told = []) (id : OptionId) :
    desk.step (count id) = (.ok (w.count id), [], desk) := by
  refine step_quiet ?_ told
  unfold count
  rw [run_bind_ok (run_watcher hw)]
  rfl

/-- Taking the watcher away leaves the rest of the desk. -/
lemma step_takeAway (hw : desk.watcher? = some w) (told : desk.told = []) :
    desk.step takeAway = (.ok (), [], { desk with watcher? := none }) := by
  refine step_quiet ?_ told
  unfold takeAway
  rw [run_bind_ok (run_watcher hw)]
  rfl

end WatchDesk

end EmbeddedFilters
