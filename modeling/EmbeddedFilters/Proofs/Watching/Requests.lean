import EmbeddedFilters.Proofs.Watching.Desk
import Mathlib.Data.List.Induction
import Mathlib.Data.List.Nodup
import Mathlib.Data.List.TakeWhile

/-!
# Histories of a watch desk

What the owner of a desk can ask of it, one request after the other, and what becomes of the
requests (`WatchDesk.run`). A subscription stands from its registration until its handle is given up
or its tag is used again: `WatchDesk.standing` reads the subscriptions that stand off a history of
requests, without looking at the desk, and `WatchDesk.dueTo` says who of them is to be told which
value.
-/

namespace EmbeddedFilters.WatchDesk

/-! ### Requests and what they leave standing -/

/-- How a subscriber is told of new values: by a callback, which may fail badly, or by a channel. -/
inductive Reception where
  | callback (panics : Bool)
  | channel
  deriving DecidableEq, Repr

/-- A subscription that stands, as its owner knows it. -/
structure Standing where
  tag : String
  id : OptionId
  reception : Reception
  deriving DecidableEq, Repr

/-- Does the subscriber fail badly when it is told? -/
def Standing.panics (s : Standing) : Bool := s.reception == .callback true

/-- What the owner of a desk can ask of it. -/
inductive Request where
  | onChange (tag : String) (id : OptionId) (panics : Bool)
  | collect (tag : String) (id : OptionId)
  | next (tag : String)
  | cancel (tag : String)
  | dispatch (changes : List Change)
  | close
  | takeAway
  deriving DecidableEq

/-- What a request gives. -/
inductive Answer where
  | done
  | subscribed (s : Subscription)
  | value (value? : Option OptionValue)
  | number (n : Nat)
  deriving DecidableEq

namespace Request

/-- The operation that a request stands for; `absent` is the fault of subscribing without a
watcher. -/
def act (absent : Fault) : Request → Action Answer
  | .onChange tag id panics => .subscribed <$> WatchDesk.onChange absent tag id panics
  | .collect tag id => (fun _ => .done) <$> WatchDesk.collect absent tag id
  | .next tag => .value <$> WatchDesk.next tag
  | .cancel tag => (fun _ => .done) <$> WatchDesk.cancel tag
  | .dispatch changes => .number <$> WatchDesk.dispatch changes
  | .close => (fun _ => .done) <$> WatchDesk.close
  | .takeAway => (fun _ => .done) <$> WatchDesk.takeAway

/-- The subscriptions that a request registers. -/
def registers : Request → List Standing
  | .onChange tag id panics => [⟨tag, id, .callback panics⟩]
  | .collect tag id => [⟨tag, id, .channel⟩]
  | _ => []

/-- Does the request end what has been kept under a tag? -/
def ends (tag : String) : Request → Bool
  | .onChange t _ _ => tag == t
  | .collect t _ => tag == t
  | .cancel t => tag == t
  | _ => false

/-- The changes that a request dispatches. -/
def changes : Request → List Change
  | .dispatch changes => changes
  | _ => []

/-- A request of an owner whose callbacks do not fail and who leaves the watcher in place. -/
def calm : Request → Bool
  | .onChange _ _ panics => !panics
  | .close => false
  | .takeAway => false
  | _ => true

end Request

/-- The subscriptions that stand after a history of requests, in the order of registration: those
that have been registered and that nothing later has ended. -/
def standing : List Request → List Standing
  | [] => []
  | r :: later => (r.registers.filter fun s => !later.any (·.ends s.tag)) ++ standing later

/-- Who is to be told which value: for one change after the other, the subscriptions of its
option. -/
def dueTo (subscriptions : List Standing) (changes : List Change) : List (Standing × OptionValue) :=
  changes.flatMap fun (id, value) => (subscriptions.filter (·.id == id)).map (·, value)

/-- A list up to its first member with a property, and that member. -/
def upTo {α : Type} (p : α → Bool) (l : List α) : List α :=
  l.takeWhile (!p ·) ++ (l.dropWhile (!p ·)).take 1

/-- Does a subscriber to whom a value is due fail badly when it is told? -/
def anyPanics (due : List (Standing × OptionValue)) : Bool := due.any (·.1.panics)

/-- What subscriptions are told of what is due to them: all, up to the first that fails badly. -/
def untilPanic (due : List (Standing × OptionValue)) : List (Standing × OptionValue) :=
  upTo (·.1.panics) due

/-- The calls of callbacks among what subscriptions are told. -/
def callsOf (told : List (Standing × OptionValue)) : List Delivery :=
  told.filterMap fun (s, value) => match s.reception with
    | .callback panics => some ⟨.callback s.tag panics, s.id, value⟩
    | .channel => none

/-- The values that changes give to an option. -/
def valuesOf (id : OptionId) (changes : List Change) : List OptionValue :=
  (changes.filter (·.1 == id)).map (·.2)

/-- Does a request leave the watcher in order, as far as the subscriptions that stand know? -/
def Request.orderly (subscriptions : List Standing) : Request → Bool
  | .dispatch changes => !anyPanics (dueTo subscriptions changes)
  | .close => false
  | .takeAway => false
  | _ => true

/-- What has become of a request. -/
structure Event where
  request : Request
  answer : Except Fault Answer
  told : List Delivery

/-- The value that the owner of a channel has taken out of it. -/
def Event.yield? (tag : String) (e : Event) : Option OptionValue :=
  match e.request, e.answer with
  | .next t, .ok (.value value?) => if t = tag then value? else none
  | _, _ => none

/-- Has a callback failed badly? -/
def Event.panics (e : Event) : Bool :=
  match e.request, e.answer with
  | .dispatch _, .error .panic => true
  | _, _ => false

/-- Has the watcher been closed? -/
def Event.closes (e : Event) : Bool :=
  match e.request, e.answer with
  | .close, .ok _ => true
  | _, _ => false

/-- What becomes of a request, and the desk afterwards. -/
def serve (absent : Fault) (desk : WatchDesk) (r : Request) : Event × WatchDesk :=
  let (answer, told, after) := desk.step (r.act absent)
  (⟨r, answer, told⟩, after)

/-- What becomes of one request after the other, and the desk afterwards. -/
def run (absent : Fault) (desk : WatchDesk) : List Request → List Event × WatchDesk
  | [] => ([], desk)
  | r :: rest =>
    let (event, desk) := desk.serve absent r
    let (events, desk) := desk.run absent rest
    (event :: events, desk)

variable {desk : WatchDesk} {w : Watcher} {absent : Fault} {history : List Request} {tag : String}
  {id : OptionId}

section

variable {α β : Type} (p : α → Bool)

/-- The front of a list that is mapped is the front of the list, mapped. -/
lemma upTo_map (p : β → Bool) (f : α → β) (l : List α) :
    upTo p (l.map f) = (upTo (fun a => p (f a)) l).map f := by
  simp only [upTo, List.takeWhile_map, List.dropWhile_map, List.map_append, List.map_take]
  rfl

/-- A list in which nothing is met is its own front. -/
lemma upTo_eq_self {l : List α} (h : l.any p = false) : upTo p l = l := by
  have hnot : ∀ a ∈ l, (!p a) = true := by simpa using h
  rw [upTo, List.takeWhile_eq_self_iff.mpr hnot, List.dropWhile_eq_nil_iff.mpr hnot, List.take_nil,
    List.append_nil]

/-- The front of a list is a part of it, in order. -/
lemma upTo_sublist (l : List α) : (upTo p l).Sublist l := by
  have h := (List.take_sublist 1 (l.dropWhile (!p ·))).append_left (l.takeWhile (!p ·))
  rwa [List.takeWhile_append_dropWhile] at h

end

/-- What stands after one more request is what it does not end, and what it registers. -/
lemma standing_append (history : List Request) (r : Request) :
    standing (history ++ [r]) =
      (standing history).filter (fun s => !r.ends s.tag) ++ r.registers := by
  induction history with
  | nil => simp [standing]
  | cons first rest ih =>
    rw [List.cons_append, standing, ih, standing, List.filter_append, List.append_assoc,
      List.filter_filter]
    congr 1
    refine List.filter_congr fun s _ => ?_
    simp [Bool.and_comm]

/-- A tag stands for one subscription at a time. -/
lemma nodup_tags (history : List Request) : ((standing history).map (·.tag)).Nodup := by
  induction history using List.reverseRecOn with
  | nil => exact List.nodup_nil
  | append_singleton history r ih =>
    rw [standing_append, List.map_append]
    refine List.Nodup.append ((List.filter_sublist.map _).nodup ih) ?_ ?_
    · cases r <;> simp [Request.registers]
    · -- What a request registers stands under a tag that the request ends.
      intro t hold hnew
      obtain ⟨s, hs, rfl⟩ := List.mem_map.mp hold
      obtain ⟨hs, hends⟩ := List.mem_filter.mp hs
      obtain ⟨s', hs', htag⟩ := List.mem_map.mp hnew
      cases r <;> simp_all [Request.registers, Request.ends]

/-- A step whose answer is turned into another leaves the same desk. -/
lemma step_map {α β : Type} (act : Action α) (f : α → β) :
    desk.step (f <$> act) = ((desk.step act).1.map f, (desk.step act).2) := by
  unfold step
  show (let r := (act >>= fun a => pure (f a)).run.run desk;
    (r.1, r.2.told, { r.2 with told := [] })) = _
  rw [Outcome.run_bind]
  obtain ⟨_ | _, _⟩ : Except Fault α × WatchDesk := act.run.run desk <;> rfl

/-- To serve a request is to step with what it asks for. -/
lemma serve_eq {r : Request} {answer : Except Fault Answer} {told : List Delivery}
    {after : WatchDesk} (h : desk.step (r.act absent) = (answer, told, after)) :
    desk.serve absent r = (⟨r, answer, told⟩, after) := by
  unfold serve
  rw [h]

/-- Once a request has been served nothing is left to be told. -/
lemma told_serve (r : Request) : (desk.serve absent r).2.told = [] := rfl

/-- Requests are served one list after the other. -/
lemma run_append (before later : List Request) :
    desk.run absent (before ++ later) =
      ((desk.run absent before).1 ++ ((desk.run absent before).2.run absent later).1,
        ((desk.run absent before).2.run absent later).2) := by
  induction before generalizing desk with
  | nil => rfl
  | cons r rest ih => simp only [List.cons_append, run, ih]

/-- The last request is served where the others have left the desk. -/
lemma run_concat (history : List Request) (r : Request) :
    desk.run absent (history ++ [r]) =
      ((desk.run absent history).1 ++ [((desk.run absent history).2.serve absent r).1],
        ((desk.run absent history).2.serve absent r).2) := by
  rw [run_append]
  rfl

/-- Once requests have been served nothing is left to be told. -/
lemma told_run (htold : desk.told = []) (history : List Request) :
    (desk.run absent history).2.told = [] := by
  induction history generalizing desk with
  | nil => exact htold
  | cons r rest ih => exact ih (told_serve r)

/-! ### The state of the watcher -/

variable (absent) in
/-- A watcher that is gone does not come back. -/
lemma watcher?_serve_none (hw : desk.watcher? = none) (told : desk.told = []) (r : Request) :
    (desk.serve absent r).2.watcher? = none := by
  cases r with
  | onChange tag id panics =>
    have hstep : desk.step (onChange absent tag id panics) = (.error absent, [], desk) :=
      step_watcher_none hw told _
    rw [serve_eq (by rw [Request.act, step_map, hstep])]
    exact hw
  | collect tag id =>
    rw [serve_eq (by rw [Request.act, step_map, step_collect_none hw told])]
    exact hw
  | next tag =>
    rw [serve_eq (by rw [Request.act, step_map])]
    exact (watcher?_step_next tag told).trans hw
  | cancel tag =>
    rw [serve_eq (by rw [Request.act, step_map])]
    rcases watcher?_step_cancel tag told with h | ⟨s, h⟩
    · exact h.trans hw
    · exact h.trans (congrArg _ hw)
  | dispatch changes =>
    have hstep : desk.step (WatchDesk.dispatch changes) =
        (.error (.noObject "watcher"), [], desk) :=
      step_watcher_none hw told _
    rw [serve_eq (by rw [Request.act, step_map, hstep])]
    exact hw
  | close =>
    have hstep : desk.step WatchDesk.close = (.error (.noObject "watcher"), [], desk) :=
      step_watcher_none hw told _
    rw [serve_eq (by rw [Request.act, step_map, hstep])]
    exact hw
  | takeAway =>
    have hstep : desk.step WatchDesk.takeAway = (.error (.noObject "watcher"), [], desk) :=
      step_watcher_none hw told _
    rw [serve_eq (by rw [Request.act, step_map, hstep])]
    exact hw

/-- A watcher after a request: a callback that fails badly spoils it, and closing it leaves no
subscriber. -/
structure Becomes (w : Watcher) (e : Event) (w' : Watcher) : Prop where
  poisoned : w'.poisoned = (w.poisoned || e.panics)
  closing : w'.closing = (w.closing || e.closes)
  emptied : (w.closing = true → w.subscribers = []) → w'.closing = true → w'.subscribers = []

/-- An event that neither panics nor closes may leave the watcher as it is. -/
lemma Becomes.same {e : Event} (hp : e.panics = false) (hc : e.closes = false) : Becomes w e w :=
  ⟨by simp [hp], by simp [hc], fun h => h⟩

/-- After an event a subscription may end. -/
lemma Becomes.cancel {e : Event} {w' : Watcher} (h : Becomes w e w') (s : Subscription) :
    Becomes w e (w'.cancel s) := by
  unfold Watcher.cancel
  split
  · exact h
  · refine ⟨h.poisoned, h.closing, fun hempty hclosing => ?_⟩
    show w'.subscribers.filter _ = []
    rw [h.emptied hempty hclosing]
    rfl

/-- A subscription may come with an event that neither panics nor closes. -/
lemma Becomes.kept {e : Event} {listener : Listener} {s : Subscription} {w' : Watcher}
    (hp : e.panics = false) (hc : e.closes = false) (h : w.subscribe id listener = .ok (s, w'))
    (desk : WatchDesk) (watch : DeskWatch) :
    ∃ w'', (desk.kept tag watch w').watcher? = some w'' ∧ Becomes w e w'' := by
  obtain ⟨hwp, hwc, hp', hc'⟩ := Watcher.subscribe_ok h
  have hw' : Becomes w e w' := ⟨by simp [hwp, hp, hp'], by simp [hwc, hc, hc'], by simp [hc']⟩
  unfold WatchDesk.kept
  cases desk.watches.get? tag with
  | none => exact ⟨_, rfl, hw'⟩
  | some earlier => exact ⟨_, rfl, hw'.cancel _⟩

/-- A watcher that announces changes becomes poisoned exactly if the event panics. -/
lemma Becomes.announce {e : Event} {changes : List Change}
    (hp : e.panics = (w.announce changes).panicked) (hc : e.closes = false) :
    Becomes w e (w.announce changes).state := by
  cases h : w.poisoned || w.closing with
  | true =>
    rw [Watcher.announce_silent h] at hp ⊢
    exact .same hp hc
  | false =>
    obtain ⟨hwp, hwc⟩ := Bool.or_eq_false_iff.mp h
    rw [Watcher.announce, if_neg (by simp [h])] at hp ⊢
    exact ⟨by simp [hwp, hp], by simp [hc], fun h => h⟩

variable (absent) in
/-- After a request the watcher is gone, or is what the event makes of it. -/
lemma watcher?_serve (hw : desk.watcher? = some w) (told : desk.told = []) (r : Request) :
    (desk.serve absent r).2.watcher? = none ∨
      ∃ w', (desk.serve absent r).2.watcher? = some w' ∧ Becomes w (desk.serve absent r).1 w' := by
  cases r with
  | onChange tag id panics =>
    refine .inr ?_
    cases h : w.subscribe id (.callback tag panics) with
    | error e =>
      rw [serve_eq (by rw [Request.act, step_map, step_onChange_error hw told h])]
      exact ⟨w, hw, .same rfl rfl⟩
    | ok r =>
      rw [serve_eq (by rw [Request.act, step_map, step_onChange_ok absent hw told h])]
      exact Becomes.kept rfl rfl h _ _
  | collect tag id =>
    refine .inr ?_
    cases h : w.subscribe id (.mailbox desk.mailboxes.next) with
    | error e =>
      rw [serve_eq (by rw [Request.act, step_map, step_collect_error hw told h])]
      exact ⟨w, hw, .same rfl rfl⟩
    | ok r =>
      rw [serve_eq (by rw [Request.act, step_map, step_collect_ok absent tag hw told h])]
      exact Becomes.kept rfl rfl h _ _
  | next tag =>
    rw [serve_eq (by rw [Request.act, step_map])]
    exact .inr ⟨w, (watcher?_step_next tag told).trans hw, .same rfl rfl⟩
  | cancel tag =>
    rw [serve_eq (by rw [Request.act, step_map])]
    rcases watcher?_step_cancel tag told with h | ⟨s, h⟩
    · exact .inr ⟨w, h.trans hw, .same rfl rfl⟩
    · exact .inr ⟨_, h.trans (congrArg _ hw), (Becomes.same rfl rfl).cancel s⟩
  | dispatch changes =>
    rw [serve_eq (by rw [Request.act, step_map, step_dispatch hw told])]
    refine .inr ⟨_, rfl, Becomes.announce ?_ rfl⟩
    cases (w.announce changes).panicked <;> rfl
  | close =>
    rw [serve_eq (by rw [Request.act, step_map, step_close hw told])]
    exact .inr ⟨_, rfl, ⟨(Bool.or_false _).symm, (Bool.or_true _).symm, fun _ _ => rfl⟩⟩
  | takeAway =>
    rw [serve_eq (by rw [Request.act, step_map, step_takeAway hw told])]
    exact .inl rfl

end EmbeddedFilters.WatchDesk
