import EmbeddedFilters.Proofs.Watching.Holdings

/-!
# Watchers that tell nobody any more

Whether a watcher is spoiled or closed can be told from what has become of the requests so far
(`flags_run`). From the moment it has been closed, or a callback has failed badly, whatever is
requested in between, nobody is told anything, no subscription is taken and handles can be given up
without further effect; until then, a dispatch tells what is due up to the first callback that fails
badly (`WatchDesk.ended_watcher_is_silent`).
-/

namespace EmbeddedFilters.WatchDesk

variable {desk : WatchDesk} {w : Watcher} {absent : Fault} {tag : String} {id : OptionId}

/-- Has the watcher been closed, or has a callback failed badly? -/
def Event.ends (e : Event) : Bool := e.panics || e.closes

/-- Events end a watcher if one of them panics or closes it. -/
lemma any_ends (events : List Event) :
    events.any Event.ends = (events.any Event.panics || events.any Event.closes) := by
  induction events with
  | nil => rfl
  | cons e rest ih =>
    rw [List.any_cons, List.any_cons, List.any_cons, ih, Event.ends]
    cases e.panics <;> cases e.closes <;> simp

/-- How subscriptions to an option are refused: a callback that has failed badly outweighs a watcher
that has been closed. -/
def refusal (events : List Event) (id : OptionId) : Fault :=
  .filter (if events.any Event.panics then .lockPoisoned else .destroyed s!"watcher of {id.label}")

/-- What has become of the requests tells the state of the watcher. -/
lemma flags_run (history : List Request) (hw : (run absent {} history).2.watcher? = some w) :
    w.poisoned = (run absent {} history).1.any Event.panics ∧
      w.closing = (run absent {} history).1.any Event.closes ∧
      (w.closing = true → w.subscribers = []) := by
  induction history using List.reverseRecOn generalizing w with
  | nil =>
    cases hw
    exact ⟨rfl, rfl, fun _ => rfl⟩
  | append_singleton history r ih =>
    rw [run_concat] at hw ⊢
    have htold : (run absent {} history).2.told = [] := told_run rfl history
    cases hbefore : (run absent {} history).2.watcher? with
    | none =>
      have hnone := watcher?_serve_none absent hbefore htold r
      rw [hnone] at hw
      cases hw
    | some v =>
      obtain ⟨hpoisoned, hclosing, hempty⟩ := ih hbefore
      rcases watcher?_serve absent hbefore htold r with hnone | ⟨w', hw', hbecomes⟩
      · rw [hnone] at hw
        cases hw
      · cases hw'.symm.trans hw
        simp only [List.any_append, List.any_cons, List.any_nil, Bool.or_false]
        rw [← hpoisoned, ← hclosing]
        exact ⟨hbecomes.poisoned, hbecomes.closing, hbecomes.emptied hempty⟩

/-! ### Operations with a watcher that tells nobody -/

/-- A watcher that is closed or poisoned dispatches nothing. -/
lemma step_dispatch_silent (hw : desk.watcher? = some w) (told : desk.told = [])
    (hsilent : (w.poisoned || w.closing) = true) (changes : List Change) :
    desk.step (dispatch changes) = (.ok 0, [], desk) := by
  rw [step_dispatch hw told, announced, Watcher.announce_silent hsilent]
  obtain ⟨_, watches, mailboxes, told⟩ := desk
  cases hw
  rfl

/-- Giving up a handle of a watcher that is closed or poisoned has no other effect. -/
lemma step_cancel_silent (hflags : ∀ w, desk.watcher? = some w →
      (w.poisoned || w.closing) = true ∧ (w.closing = true → w.subscribers = []))
    {watch : DeskWatch} (hwatch : desk.watches.get? tag = some watch) (told : desk.told = []) :
    desk.step (cancel tag) = (.ok (), [], { desk with watches := desk.watches.erase tag }) := by
  have hsame : desk.watcher?.map (fun w => w.cancel watch.subscription) = desk.watcher? := by
    cases hw : desk.watcher? with
    | none => rfl
    | some w => exact congrArg some (Watcher.cancel_silent (hflags w hw).1 (hflags w hw).2 _)
  rw [step_cancel hwatch told, hsame]

/-! ### The end of a watcher -/

namespace Keeps

variable {held : List Holding} {g : Holding}

/-- The channel of a subscription that is kept lies under its tag. -/
lemma queue_eq (h : Keeps desk w held) (hg : g ∈ held) {n : Nat} (hn : g.listener = .mailbox n)
    (other : WatchDesk) (hother : other.watches = desk.watches) :
    other.queue g.tag = other.contents n := by
  unfold queue
  rw [hother, h.watches, h.find?_of_mem hg, Option.map_some, Option.bind_some, Holding.watch,
    Holding.mailbox?_eq_some.mpr hn]
  rfl

/-- A channel gets what its subscription is told, up to the first callback that fails badly. -/
lemma queue_step_dispatch (h : Keeps desk w held) (changes : List Change) {s : Standing}
    (hs : s ∈ held.map Holding.standing) (hchannel : s.reception = .channel) :
    (desk.step (dispatch changes)).2.2.queue s.tag = desk.queue s.tag ++
      ((untilPanic (dueTo (held.map Holding.standing) changes)).filter (·.1 == s)).map (·.2) := by
  obtain ⟨g, hg, rfl⟩ := List.mem_map.mp hs
  obtain ⟨n, hn⟩ := Holding.reception_eq_channel.mp hchannel
  rw [h.step_dispatch]
  show (desk.announced w changes).queue g.tag = desk.queue g.tag ++ _
  rw [h.queue_eq hg hn (desk.announced w changes) rfl, h.queue_eq hg hn desk rfl,
    h.contents_announced changes hg hn]

end Keeps

/-- Whatever is requested: until the watcher has been closed or a callback has failed badly, a
dispatch tells the standing subscriptions what is due to them, up to and with the first callback
that fails badly, and tells of that failure. From then on, every dispatch tells nobody and changes
nothing, every subscription is refused, because of the failure if there has been one and otherwise
because of the closing, and every handle can still be given up, with no other effect. The watcher
can be closed at any time, after a failure too, and then has no subscriber left. -/
theorem ended_watcher_is_silent (absent : Fault) (history : List Request) :
    let events := (run absent {} history).1
    let desk := (run absent {} history).2
    (events.any Event.ends = false → desk.watcher? ≠ none → ∀ changes,
      (desk.step (dispatch changes)).1 = (if anyPanics (dueTo (standing history) changes)
        then .error .panic else .ok (dueTo (standing history) changes).length) ∧
      (desk.step (dispatch changes)).2.1 =
        callsOf (untilPanic (dueTo (standing history) changes)) ∧
      ∀ s ∈ standing history, s.reception = .channel →
        (desk.step (dispatch changes)).2.2.queue s.tag = desk.queue s.tag ++
          ((untilPanic (dueTo (standing history) changes)).filter (·.1 == s)).map (·.2)) ∧
    (events.any Event.ends = true →
      (desk.watcher? ≠ none →
        (∀ changes, desk.step (dispatch changes) = (.ok 0, [], desk)) ∧
        (∀ tag id panics, desk.step (onChange absent tag id panics) =
          (.error (refusal events id), [], desk)) ∧
        (∀ tag id, desk.step (collect absent tag id) =
          (.error (refusal events id), [], desk.withMailbox)) ∧
        ∀ id, desk.step (count id) = (.ok 0, [], desk)) ∧
      ∀ tag watch, desk.watches.get? tag = some watch → desk.step (cancel tag) =
        (.ok (), [], { desk with watches := desk.watches.erase tag })) ∧
    ∀ w, desk.watcher? = some w → desk.step close =
      (.ok (), [], { desk with
        watcher? := some { w with closing := true, subscribers := [] } }) := by
  intro events desk
  have told : desk.told = [] := told_run rfl history
  have hends := any_ends events
  have hflags : events.any Event.ends = true → ∀ w, desk.watcher? = some w →
      (w.poisoned || w.closing) = true ∧ (w.closing = true → w.subscribers = []) := by
    intro hended w hw
    obtain ⟨hpoisoned, hclosing, hempty⟩ := flags_run history hw
    refine ⟨?_, hempty⟩
    rw [hpoisoned, hclosing]
    exact hends.symm.trans hended
  refine ⟨fun hopen hthere changes => ?_,
    fun hended => ⟨fun hthere => ?_, fun tag watch hwatch => ?_⟩,
    fun w hw => step_close hw told⟩
  · rw [hends, Bool.or_eq_false_iff] at hopen
    obtain ⟨w, held, hkeeps, hheld⟩ := keeps_standing hthere
      (fun e he => by simpa using List.any_eq_false.mp hopen.1 e he)
      (fun e he => by simpa using List.any_eq_false.mp hopen.2 e he)
    rw [← hheld]
    refine ⟨?_, ?_, fun s hs => hkeeps.queue_step_dispatch changes hs⟩
    · exact congrArg _ (hkeeps.step_dispatch changes)
    · exact congrArg (·.2.1) (hkeeps.step_dispatch changes)
  · obtain ⟨w, hw⟩ := Option.ne_none_iff_exists'.mp hthere
    obtain ⟨hsilent, hempty⟩ := hflags hended w hw
    have hrefusal : ∀ id listener, w.subscribe id listener = .error
        (if events.any Event.panics then .lockPoisoned else
            .destroyed s!"watcher of {id.label}") := by
      intro id listener
      rw [Watcher.subscribe_silent hsilent, (flags_run history hw).1]
    refine ⟨step_dispatch_silent hw told hsilent, fun tag id panics => ?_, fun tag id => ?_,
      fun id => ?_⟩
    · exact step_onChange_error hw told (hrefusal id _)
    · exact step_collect_error hw told (hrefusal id _)
    · rw [step_count hw told, Watcher.count_silent hsilent hempty]
  · exact step_cancel_silent (hflags hended) hwatch told

/-- The second of three callbacks fails badly: the third is not told, and from then on the watcher
tells nobody and takes no subscription, also after it has been closed. -/
theorem failing_callback_ends_watcher :
    let absent : Fault := .noObject "watcher"
    let subscribing : List Request := [.onChange "first" .alpha false,
      .onChange "failing" .alpha true, .onChange "third" .alpha false]
    let history : List Request := subscribing ++ [.dispatch [(.alpha, .int 1)], .close]
    ((run absent {} subscribing).2.step (dispatch [(.alpha, .int 1)])).2.1 =
        [⟨.callback "first" false, .alpha, .int 1⟩, ⟨.callback "failing" true, .alpha, .int 1⟩] ∧
      (run absent {} history).1.any Event.ends = true ∧
      ((run absent {} history).2.step (dispatch [(.alpha, .int 2)])).1 = .ok 0 ∧
      ((run absent {} history).2.step (onChange absent "late" .delta false)).1 =
        .error (.filter .lockPoisoned) := by
  intro absent subscribing history
  have hended : (run absent {} history).1.any Event.ends = true := by decide
  have hrefusal : refusal (run absent {} history).1 .delta = .filter .lockPoisoned := by
    have hpanics : (run absent {} history).1.any Event.panics = true := by decide
    rw [refusal, hpanics]
    rfl
  obtain ⟨hopen, -⟩ := ended_watcher_is_silent absent subscribing
  obtain ⟨-, hsilent, -⟩ := ended_watcher_is_silent absent history
  obtain ⟨⟨hdispatch, honChange, -⟩, -⟩ := And.imp_left (fun h => h (by decide)) (hsilent hended)
  refine ⟨?_, hended, congrArg _ (hdispatch _), hrefusal ▸ congrArg _ (honChange _ _ _)⟩
  exact (hopen (by decide) (by decide) [(.alpha, .int 1)]).2.1

end EmbeddedFilters.WatchDesk
