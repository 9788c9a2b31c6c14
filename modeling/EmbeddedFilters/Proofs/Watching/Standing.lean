import EmbeddedFilters.Proofs.Watching.Holdings

/-!
# Who is told

While callbacks do not fail and the watcher is left in place, a dispatch tells exactly the standing
subscriptions of each changed option, change by change and in the order of registration, and a
channel gives out exactly the values dispatched for its option since it has been asked for, in their
order (`WatchDesk.dispatch_tells_standing`). For the channels, what has been taken out and what is
still queued together is what has been sent: one request keeps this (`Keeps.contents_serve`), and so
does a history (`yields_append_contents`).
-/

namespace EmbeddedFilters.WatchDesk

/-- The values sent for an option in a history of requests. -/
def sent (id : OptionId) (history : List Request) : List OptionValue :=
  history.flatMap fun r => valuesOf id r.changes

/-- The values that have been taken out of a channel. -/
def yields (tag : String) (events : List Event) : List OptionValue :=
  events.filterMap (·.yield? tag)

/-! ### Calm histories -/

/-- Nothing that is due panics if no subscription does. -/
lemma anyPanics_dueTo {subscriptions : List Standing} (h : ∀ s ∈ subscriptions, s.panics = false)
    (changes : List Change) : anyPanics (dueTo subscriptions changes) = false := by
  refine List.any_eq_false.mpr fun due hdue => ?_
  obtain ⟨change, -, hdue⟩ := List.mem_flatMap.mp hdue
  obtain ⟨s, hs, rfl⟩ := List.mem_map.mp hdue
  simp [h s (List.mem_filter.mp hs).1]

/-- A calm request registers nothing that panics. -/
lemma panics_registers {r : Request} (hr : r.calm) : ∀ s ∈ r.registers, s.panics = false := by
  cases r <;> simp_all [Request.registers, Request.calm, Standing.panics]

/-- Nothing that stands after calm requests panics. -/
lemma panics_standing {history : List Request} (hcalm : ∀ r ∈ history, r.calm) :
    ∀ s ∈ standing history, s.panics = false := by
  induction history with
  | nil => exact fun _ hs => nomatch hs
  | cons r later ih =>
    intro s hs
    rcases List.mem_append.mp hs with hs | hs
    · exact panics_registers (hcalm r List.mem_cons_self) s (List.mem_filter.mp hs).1
    · exact ih (fun r hr => hcalm r (List.mem_cons_of_mem _ hr)) s hs

/-- A calm request is in order where no subscription panics. -/
lemma orderly_of_calm {subscriptions : List Standing} {r : Request} (hr : r.calm)
    (h : ∀ s ∈ subscriptions, s.panics = false) : r.orderly subscriptions := by
  cases r with
  | dispatch changes => simp [Request.orderly, anyPanics_dueTo h]
  | close => cases hr
  | takeAway => cases hr
  | _ => rfl

/-- After a calm history those subscriptions are kept that stand. -/
lemma keeps_calm (absent : Fault) {history : List Request} (hcalm : ∀ r ∈ history, r.calm) :
    ∃ w held, Keeps (run absent {} history).2 w held ∧
      held.map Holding.standing = standing history := by
  induction history using List.reverseRecOn with
  | nil => exact ⟨_, _, Keeps.start, rfl⟩
  | append_singleton history r ih =>
    have hbefore : ∀ r ∈ history, r.calm := fun r hr => hcalm r (List.mem_append_left _ hr)
    obtain ⟨w, held, hkeeps, hheld⟩ := ih hbefore
    have hr : r.orderly (held.map Holding.standing) :=
      orderly_of_calm (hcalm r (by simp)) (hheld ▸ panics_standing hbefore)
    obtain ⟨-, -, w', new, hkeeps', hnew⟩ := hkeeps.serve absent hr
    rw [run_concat]
    exact ⟨w', _, hkeeps', standing_served hheld hnew⟩

/-! ### Channels -/

/-- A subscription is told the values of its option, each once. -/
lemma values_dueTo {subscriptions : List Standing} (hnodup : subscriptions.Nodup) {s : Standing}
    (hs : s ∈ subscriptions) (changes : List Change) :
    ((dueTo subscriptions changes).filter (·.1 == s)).map (·.2) = valuesOf s.id changes := by
  induction changes with
  | nil => rfl
  | cons change rest ih =>
    obtain ⟨id, value⟩ := change
    have hself : subscriptions.filter (· == s) = [s] := by
      rw [List.filter_beq, List.count_eq_one_of_mem hnodup hs]
      rfl
    have hhead : (((subscriptions.filter (·.id == id)).map (·, value)).filter (·.1 == s)).map
        (·.2) =
        if id = s.id then [value] else [] := by
      rw [List.filter_map, List.map_map, List.filter_filter]
      split
      · rename_i hid
        have hsame : subscriptions.filter (fun a => a == s && a.id == id) = [s] := by
          rw [← hself]
          refine List.filter_congr fun a _ => ?_
          by_cases ha : a = s <;> simp [ha, hid]
        exact congrArg _ hsame
      · rename_i hid
        have hnone : subscriptions.filter (fun a => a == s && a.id == id) = [] := by
          refine List.filter_eq_nil_iff.mpr fun a _ => ?_
          by_cases ha : a = s <;> simp [ha, Ne.symm hid]
        exact congrArg _ hnone
    show List.map _ (List.filter _ (_ ++ dueTo subscriptions rest)) = _
    rw [List.filter_append, List.map_append, ih, hhead, valuesOf, valuesOf, List.filter_cons]
    by_cases hid : id = s.id <;> simp [hid]

/-- Asking for the next value of a tag yields nothing under another one. -/
lemma yield?_next_of_ne {tag other : String} (h : other ≠ tag)
    (answer : Except Fault Answer) (told : List Delivery) :
    Event.yield? tag ⟨.next other, answer, told⟩ = none := by
  unfold Event.yield?
  split
  · rename_i heq _
    cases heq
    exact if_neg h
  · rfl

namespace Keeps

variable {desk : WatchDesk} {w : Watcher} {held : List Holding}
  {absent : Fault} {g : Holding} {n : Nat}

/-- A subscription that is held has its handle under its tag. -/
lemma get?_watches (h : Keeps desk w held) (hg : g ∈ held) :
    desk.watches.get? g.tag = some g.watch := by
  rw [h.watches, h.find?_of_mem hg]
  rfl

/-- The next value of a subscription that collects is the first one in its mailbox. -/
lemma step_next (h : Keeps desk w held) (hg : g ∈ held) (hn : g.listener = .mailbox n) :
    desk.step (next g.tag) = (.ok (desk.contents n).head?, [], desk.taken n) := by
  refine WatchDesk.step_next (s := ⟨g.id, g.token⟩) ?_ h.told
  rw [h.get?_watches hg, Holding.watch, Holding.mailbox?_eq_some.mpr hn]

/-- What is taken out of the channel of another tag is not taken out of this one. -/
lemma contents_taken_other (h : Keeps desk w held) (hg : g ∈ held) (hn : g.listener = .mailbox n)
    {tag : String} (htag : tag ≠ g.tag) {s : Subscription} {m : Nat}
    (hwatch : desk.watches.get? tag = some ⟨s, some m⟩) :
    (desk.taken m).contents n = desk.contents n := by
  refine contents_taken_of_ne fun hnm => htag ?_
  rw [h.watches] at hwatch
  obtain ⟨g', hfind, hg'⟩ := Option.map_eq_some_iff.mp hwatch
  have hlistener : g'.listener = .mailbox m :=
    Holding.mailbox?_eq_some.mp (congrArg DeskWatch.mailbox? hg')
  -- two subscriptions with one mailbox are the same
  have heq := List.inj_on_of_nodup_map h.listeners (List.mem_of_find?_eq_some hfind) hg
    (hlistener.trans (hnm ▸ hn.symm))
  have hfound : g'.tag = tag := by simpa using List.find?_some hfind
  rw [← hfound, heq]

variable (absent) in
/-- What is taken out of a channel and what is left in it are together what has been in it. -/
lemma contents_serve_next (h : Keeps desk w held) (hg : g ∈ held) (hn : g.listener = .mailbox n)
    (tag : String) : ((desk.serve absent (.next tag)).1.yield? g.tag).toList ++
      (desk.serve absent (.next tag)).2.contents n = desk.contents n := by
  by_cases htag : tag = g.tag
  · subst htag
    rw [serve_eq (by rw [Request.act, step_map, h.step_next hg hn])]
    refine Eq.trans ?_ (contents_taken_self n)
    simp [Event.yield?, Except.map]
  · have hyield := fun answer told => yield?_next_of_ne htag answer told
    cases hwatch : desk.watches.get? tag with
    | none =>
      rw [serve_eq (by rw [Request.act, step_map, step_next_none hwatch h.told]), hyield]
      rfl
    | some watch =>
      obtain ⟨s, _ | m⟩ := watch
      · rw [serve_eq (by rw [Request.act, step_map, step_next_callback hwatch h.told]), hyield]
        rfl
      · rw [serve_eq (by rw [Request.act, step_map, WatchDesk.step_next hwatch h.told]), hyield]
        exact h.contents_taken_other hg hn htag hwatch

variable (absent) in
/-- As long as a channel stands, a calm request takes its first value out of it or appends the
values that it sends. -/
lemma contents_serve (h : Keeps desk w held) (hg : g ∈ held) (hn : g.listener = .mailbox n)
    {r : Request} (hr : r.orderly (held.map Holding.standing)) (hends : r.ends g.tag = false) :
    ((desk.serve absent r).1.yield? g.tag).toList ++ (desk.serve absent r).2.contents n =
      desk.contents n ++ valuesOf g.id r.changes := by
  cases r with
  | onChange tag id panics =>
    have hstep := step_onChange_ok absent h.watcher h.told
      (h.subscribe_eq id (.callback tag panics))
    rw [serve_eq (by rw [Request.act, step_map, hstep])]
    exact (List.append_nil _).symm
  | collect tag id =>
    have hstep := step_collect_ok absent tag h.watcher h.told
      (h.subscribe_eq id (.mailbox desk.mailboxes.next))
    rw [serve_eq (by rw [Request.act, step_map, hstep])]
    refine Eq.trans ?_ (List.append_nil _).symm
    show (desk.withMailbox.contents n) = desk.contents n
    unfold contents WatchDesk.withMailbox
    rw [Pool.get?_add, if_neg (Nat.ne_of_lt (h.boxes g hg n hn).1)]
  | next tag => exact (h.contents_serve_next absent hg hn tag).trans (List.append_nil _).symm
  | cancel tag =>
    refine Eq.trans ?_ (List.append_nil _).symm
    cases hwatch : desk.watches.get? tag with
    | none =>
      rw [serve_eq (by rw [Request.act, step_map, step_cancel_none hwatch h.told])]
      rfl
    | some watch =>
      rw [serve_eq (by rw [Request.act, step_map, step_cancel hwatch h.told])]
      rfl
  | dispatch changes =>
    have hcalm : anyPanics (dueTo (held.map Holding.standing) changes) = false := by
      simpa [Request.orderly] using hr
    have hnodup : (held.map Holding.standing).Nodup :=
      List.Nodup.of_map Standing.tag (by rw [List.map_map]; exact h.tags)
    rw [serve_eq (by rw [Request.act, step_map, h.step_dispatch changes])]
    show (desk.announced w changes).contents n = _
    rw [h.contents_announced changes hg hn, untilPanic, upTo_eq_self _ hcalm,
      values_dueTo hnodup (List.mem_map_of_mem hg)]
    rfl
  | close => cases hr
  | takeAway => cases hr

end Keeps

/-- Events yield one after the other. -/
lemma yields_cons (tag : String) (e : Event) (events : List Event) :
    yields tag (e :: events) = (e.yield? tag).toList ++ yields tag events := by
  unfold yields
  cases h : e.yield? tag with
  | none => exact List.filterMap_cons_none h
  | some value => exact List.filterMap_cons_some h

/-- While a channel stands, what has been taken out of it and what is still in it together are what
has been in it before and what has been sent since. -/
lemma yields_append_contents {absent : Fault} {desk : WatchDesk} {w : Watcher} {held : List Holding}
    {g : Holding} {n : Nat} (h : Keeps desk w held)
    (hcalm : ∀ s ∈ held.map Holding.standing, s.panics = false) (hg : g ∈ held)
    (hn : g.listener = .mailbox n) {during : List Request} (hduring : ∀ r ∈ during, r.calm)
    (hends : ∀ r ∈ during, r.ends g.tag = false) :
    ∃ w' held', Keeps (desk.run absent during).2 w' held' ∧ g ∈ held' ∧
      yields g.tag (desk.run absent during).1 ++ (desk.run absent during).2.contents n =
        desk.contents n ++ sent g.id during := by
  induction during generalizing desk w held with
  | nil => exact ⟨w, held, h, hg, (List.append_nil _).symm⟩
  | cons r later ih =>
    have hr := orderly_of_calm (hduring r List.mem_cons_self) hcalm
    have hrg := hends r List.mem_cons_self
    obtain ⟨-, -, w', new, hkeeps, hnew⟩ := h.serve absent hr
    have hcontents := h.contents_serve absent hg hn hr hrg
    have hcalm' : ∀ s ∈ (held.filter (fun g => !r.ends g.tag) ++ new).map Holding.standing,
        s.panics = false := by
      intro s hs
      rw [List.map_append, hnew] at hs
      rcases List.mem_append.mp hs with hs | hs
      · exact hcalm s ((List.filter_sublist.map _).subset hs)
      · exact panics_registers (hduring r List.mem_cons_self) s hs
    obtain ⟨w'', held'', hkeeps', hg', hyields⟩ := ih hkeeps hcalm'
      (List.mem_append_left _ (List.mem_filter.mpr ⟨hg, by simp [hrg]⟩))
      (fun r hr => hduring r (List.mem_cons_of_mem _ hr))
      (fun r hr => hends r (List.mem_cons_of_mem _ hr))
    refine ⟨w'', held'', hkeeps', hg', ?_⟩
    calc yields g.tag (desk.run absent (r :: later)).1 ++
      (desk.run absent (r :: later)).2.contents n
        = ((desk.serve absent r).1.yield? g.tag).toList ++
            (yields g.tag ((desk.serve absent r).2.run absent later).1 ++
              ((desk.serve absent r).2.run absent later).2.contents n) := by
          rw [← List.append_assoc, ← yields_cons]
          rfl
      _ = ((desk.serve absent r).1.yield? g.tag).toList ++
            ((desk.serve absent r).2.contents n ++ sent g.id later) := by rw [hyields]
      _ = desk.contents n ++ sent g.id (r :: later) := by
          rw [← List.append_assoc, hcontents, List.append_assoc]
          rfl

/-- A channel gives out the values sent for its option since it has been put up. -/
lemma channel_yields (absent : Fault) {before during : List Request} (tag : String) (id : OptionId)
    (hbefore : ∀ r ∈ before, r.calm) (hduring : ∀ r ∈ during, r.calm)
    (hends : ∀ r ∈ during, r.ends tag = false) :
    yields tag ((run absent {} (before ++ [.collect tag id])).2.run absent during).1 <+:
        sent id during ∧
      (((run absent {} (before ++ [.collect tag id])).2.run absent during).2.step (next tag)).1 =
        .ok (sent id during)[(yields tag
          ((run absent {} (before ++ [.collect tag id])).2.run absent during).1).length]? := by
  obtain ⟨w, held, hkeeps, hheld⟩ := keeps_calm absent hbefore
  obtain ⟨w', hkeeps', -, -, hempty⟩ := hkeeps.serve_collect absent tag id
  rw [run_concat]
  have hcalm : ∀ s ∈ (Holding.without held tag ++ [(⟨tag, id, w.nextToken,
      .mailbox (run absent {} before).2.mailboxes.next⟩ : Holding)]).map Holding.standing,
      s.panics = false := by
    intro s hs
    rw [List.map_append] at hs
    rcases List.mem_append.mp hs with hs | hs
    · exact panics_standing hbefore s (hheld ▸ ((Holding.without_sublist _ _).map _).subset hs)
    · rw [List.mem_singleton.mp hs]
      rfl
  obtain ⟨_, _, hkeeps'', hg, hyields⟩ := yields_append_contents hkeeps' hcalm
    (List.mem_append_right _ (List.mem_singleton_self _)) rfl hduring hends
  rw [hempty, List.nil_append] at hyields
  refine ⟨⟨_, hyields⟩, ?_⟩
  rw [hkeeps''.step_next hg rfl, ← hyields, List.getElem?_append_right (Nat.le_refl _),
    Nat.sub_self,
    List.head?_eq_getElem?]

/-! ### Dispatches -/

/-- As long as callbacks do not fail and the watcher is left in place: a dispatch calls, for one
change after the other, the callbacks of the subscriptions of its option that stand, each once and
in the order of registration, and gives the number of subscriptions told; the watcher counts the
subscriptions that stand; giving one of them up succeeds, tells nobody and takes away only that one;
and a channel gives out the values sent for its option since it has been asked for, one after the
other. -/
theorem dispatch_tells_standing (absent : Fault) {history : List Request}
    (hcalm : ∀ r ∈ history, r.calm) :
    (∀ changes, ((run absent {} history).2.step (dispatch changes)).1 =
        .ok (dueTo (standing history) changes).length ∧
      ((run absent {} history).2.step (dispatch changes)).2.1 =
        callsOf (dueTo (standing history) changes)) ∧
    (∀ id, ((run absent {} history).2.step (count id)).1 =
      .ok ((standing history).countP (·.id == id))) ∧
    (∀ s ∈ standing history, ((run absent {} history).2.step (cancel s.tag)).1 = .ok () ∧
      ((run absent {} history).2.step (cancel s.tag)).2.1 = [] ∧
      standing (history ++ [.cancel s.tag]) = (standing history).erase s) ∧
    ∀ before tag id during, history = before ++ .collect tag id :: during →
      (∀ r ∈ during, r.ends tag = false) →
      yields tag ((run absent {} (before ++ [.collect tag id])).2.run absent during).1 <+:
          sent id during ∧
        ((run absent {} history).2.step (next tag)).1 = .ok
          (sent id during)[(yields tag
            ((run absent {} (before ++ [.collect tag id])).2.run absent during).1).length]? := by
  obtain ⟨w, held, hkeeps, hheld⟩ := keeps_calm absent hcalm
  have hnone := anyPanics_dueTo (panics_standing hcalm)
  refine ⟨fun changes => ?_, fun id => ?_, fun s hs => ?_,
    fun before tag id during hsplit hends => ?_⟩
  · rw [hkeeps.step_dispatch, hheld, hnone, untilPanic, upTo_eq_self _ (hnone changes)]
    exact ⟨rfl, rfl⟩
  · rw [step_count hkeeps.watcher hkeeps.told, hkeeps.count_eq, hheld]
  · obtain ⟨g, hg, rfl⟩ := List.mem_map.mp (hheld ▸ hs)
    have hcancel := step_cancel (hkeeps.get?_watches hg) hkeeps.told
    refine ⟨congrArg _ hcancel, congrArg (·.2.1) hcancel, ?_⟩
    have hnodup : (standing history).Nodup := List.Nodup.of_map _ (nodup_tags history)
    rw [standing_append, hnodup.erase_eq_filter]
    refine (List.append_nil _).trans (List.filter_congr fun s hs' => ?_)
    show (!(s.tag == g.standing.tag)) = !(s == g.standing)
    by_cases heq : s = g.standing
    · simp [heq]
    · have htag : s.tag ≠ g.standing.tag := fun htag =>
        heq (List.inj_on_of_nodup_map (nodup_tags history) hs' hs htag)
      rw [beq_eq_false_iff_ne.mpr heq, beq_eq_false_iff_ne.mpr htag]
  · subst hsplit
    have hall : before ++ .collect tag id :: during =
      (before ++ [.collect tag id]) ++ during := by simp
    have hopened := channel_yields absent tag id
      (fun r hr => hcalm r (List.mem_append_left _ hr))
      (fun r hr => hcalm r (List.mem_append_right _ (List.mem_cons_of_mem _ hr))) hends
    rwa [hall, run_append (before ++ [Request.collect tag id]) during]

/-- Two callbacks and a channel for one option and a callback for another, of which the first
callback has been given up: three changes are told five times. -/
theorem dispatch_after_cancel :
    let history : List Request := [.onChange "first" .alpha false, .collect "values" .alpha,
      .onChange "edges" .delta false, .onChange "second" .alpha false, .cancel "first"]
    let changes : List Change := [(.alpha, .int 7), (.delta, .int 8), (.alpha, .int 9)]
    (∀ r ∈ history, r.calm) ∧
      ((run (.noObject "watcher") {} history).2.step (dispatch changes)).1 = .ok 5 ∧
      ((run (.noObject "watcher") {} history).2.step (dispatch changes)).2.1 =
        [⟨.callback "second" false, .alpha, .int 7⟩, ⟨.callback "edges" false, .delta, .int 8⟩,
          ⟨.callback "second" false, .alpha, .int 9⟩] := by
  intro history changes
  have hcalm : ∀ r ∈ history, r.calm := by decide
  obtain ⟨hnumber, hcalls⟩ := (dispatch_tells_standing (.noObject "watcher") hcalm).1 changes
  have hlength : (dueTo (standing history) changes).length = 5 := by decide
  have hcallsOf : callsOf (dueTo (standing history) changes) =
      [⟨.callback "second" false, .alpha, .int 7⟩, ⟨.callback "edges" false, .delta, .int 8⟩,
        ⟨.callback "second" false, .alpha, .int 9⟩] := by decide
  exact ⟨hcalm, hlength ▸ hnumber, hcallsOf ▸ hcalls⟩

end EmbeddedFilters.WatchDesk
