import EmbeddedFilters.Proofs.Watching.Requests

/-!
# What a desk and its watcher keep

As long as the watcher is in order, the desk and its watcher keep the same subscriptions
(`WatchDesk.Keeps`): the desk by their tags, the watcher in the order of registration. Each request
changes what is kept in the way in which it changes the subscriptions that stand (`Keeps.serve`), so
after a history of requests those are kept that stand (`keeps_standing`).
-/

namespace EmbeddedFilters

/-- What is delivered: all that is due, up to the first that fails badly. -/
lemma Watcher.untilPanic_eq (due : List Delivery) :
    Watcher.untilPanic due =
      (WatchDesk.upTo (·.listener.panics) due, due.any (·.listener.panics)) := by
  induction due with
  | nil => rfl
  | cons d rest ih =>
    cases h : d.listener.panics <;> simp [Watcher.untilPanic, WatchDesk.upTo, ih, h]

/-- The watcher with one more subscriber. -/
def Watcher.joined (w : Watcher) (id : OptionId) (listener : Listener) : Watcher :=
  { w with
    subscribers := w.subscribers ++ [⟨id, w.nextToken, listener⟩]
    nextToken := w.nextToken + 1 }

namespace WatchDesk

/-- What the desk and the watcher together keep of a subscription. -/
structure Holding where
  tag : String
  id : OptionId
  token : Nat
  listener : Listener

namespace Holding

/-- How the subscription receives its values. -/
def reception (h : Holding) : Reception :=
  match h.listener with
  | .callback _ panics => .callback panics
  | .mailbox _ => .channel

/-- What the owner knows of the subscription. -/
def standing (h : Holding) : Standing := ⟨h.tag, h.id, h.reception⟩

/-- What the watcher knows of the subscription. -/
def subscriber (h : Holding) : Subscriber := ⟨h.id, h.token, h.listener⟩

/-- The mailbox that the values are collected in, if they are. -/
def mailbox? (h : Holding) : Option Nat :=
  match h.listener with
  | .callback _ _ => none
  | .mailbox n => some n

/-- The handle of the subscription. -/
def watch (h : Holding) : DeskWatch := ⟨⟨h.id, h.token⟩, h.mailbox?⟩

/-- The delivery of a value. -/
def delivery (due : Holding × OptionValue) : Delivery := ⟨due.1.listener, due.1.id, due.2⟩

/-- A subscription has a mailbox exactly if it collects. -/
lemma mailbox?_eq_some {h : Holding} {n : Nat} : h.mailbox? = some n ↔ h.listener = .mailbox n := by
  unfold mailbox?
  split <;> rename_i hl <;> simp [hl]

/-- A subscription receives through a channel exactly if it has a mailbox. -/
lemma reception_eq_channel {h : Holding} :
    h.reception = .channel ↔ ∃ n, h.listener = .mailbox n := by
  unfold reception
  split <;> rename_i hl <;> simp [hl]

/-- A subscription panics as its listener does. -/
lemma panics_standing (h : Holding) : h.standing.panics = h.listener.panics := by
  unfold standing reception Standing.panics Listener.panics
  cases h.listener with
  | callback label panics => cases panics <;> rfl
  | mailbox n => rfl

/-- Who is to be told which value. -/
def dueTo (held : List Holding) (changes : List Change) : List (Holding × OptionValue) :=
  changes.flatMap fun (id, value) => (held.filter (·.id == id)).map (·, value)

/-- What is due to subscriptions is due to what stands for them. -/
lemma standing_dueTo (held : List Holding) (changes : List Change) :
    (dueTo held changes).map (fun due => (due.1.standing, due.2)) =
      WatchDesk.dueTo (held.map standing) changes := by
  simp only [dueTo, WatchDesk.dueTo, List.map_flatMap, List.map_map, List.filter_map]
  rfl

/-- What is due is due to a subscription that is held. -/
lemma mem_of_mem_dueTo {held : List Holding} {changes : List Change} {due : Holding × OptionValue}
    (h : due ∈ dueTo held changes) : due.1 ∈ held := by
  obtain ⟨change, _, h⟩ := List.mem_flatMap.mp h
  obtain ⟨g, hg, rfl⟩ := List.mem_map.mp h
  exact (List.mem_filter.mp hg).1

/-- What is kept, less what is kept under a tag. -/
def without (held : List Holding) (tag : String) : List Holding :=
  held.filter fun h => !(h.tag == tag)

/-- Giving up a tag leaves the other subscriptions in their order. -/
lemma without_sublist (held : List Holding) (tag : String) : (without held tag).Sublist held :=
  List.filter_sublist

/-- Giving up a tag leaves what is found under the others. -/
lemma find?_without (held : List Holding) (tag other : String) :
    (without held tag).find? (·.tag == other) =
      if other = tag then none else held.find? (·.tag == other) := by
  rw [without, List.find?_filter]
  split
  · rename_i heq
    rw [List.find?_eq_none]
    simp [heq]
  · rename_i hne
    congr 1
    funext h
    by_cases htag : h.tag = other
    · simp [htag, hne]
    · simp [htag]

/-- A subscription that is left is one that was held under another tag. -/
lemma mem_without {held : List Holding} {tag : String} {h : Holding} :
    h ∈ without held tag ↔ h ∈ held ∧ h.tag ≠ tag := by
  simp [without]

/-- Giving up a tag that nothing is held under changes nothing. -/
lemma without_eq_self {held : List Holding} {tag : String}
    (h : held.find? (·.tag == tag) = none) : without held tag = held := by
  refine List.filter_eq_self.mpr fun g hg => ?_
  simpa using List.find?_eq_none.mp h g hg

/-- The callbacks that are called when callbacks carry the tags of their subscriptions. -/
lemma calls_map {due : List (Holding × OptionValue)}
    (h : ∀ d ∈ due, ∀ label panics, d.1.listener = .callback label panics → label = d.1.tag) :
    Delivery.calls (due.map delivery) = callsOf (due.map fun d => (d.1.standing, d.2)) := by
  induction due with
  | nil => rfl
  | cons d rest ih =>
    obtain ⟨⟨tag, id, token, listener⟩, value⟩ := d
    have hrest := ih fun d hd => h d (List.mem_cons_of_mem _ hd)
    cases listener with
    | callback label panics =>
      have hlabel : label = tag := h _ List.mem_cons_self label panics rfl
      subst hlabel
      exact congrArg (List.cons _) hrest
    | mailbox n => exact hrest

end Holding

/-- The desk and its watcher, which is in order, keep the same subscriptions. -/
structure Keeps (desk : WatchDesk) (w : Watcher) (held : List Holding) : Prop where
  watcher : desk.watcher? = some w
  told : desk.told = []
  sound : w.poisoned = false
  opened : w.closing = false
  subscribers : w.subscribers = held.map Holding.subscriber
  watches : ∀ tag, desk.watches.get? tag = (held.find? (·.tag == tag)).map Holding.watch
  tags : (held.map Holding.tag).Nodup
  tokens : (held.map Holding.token).Nodup
  fresh : ∀ h ∈ held, h.token < w.nextToken
  listeners : (held.map Holding.listener).Nodup
  labels : ∀ h ∈ held, ∀ label panics, h.listener = .callback label panics → label = h.tag
  boxes : ∀ h ∈ held, ∀ n, h.listener = .mailbox n →
    n < desk.mailboxes.next ∧ (desk.mailboxes.get? n).isSome

namespace Keeps

variable {desk : WatchDesk} {w : Watcher} {held : List Holding} {absent : Fault} {tag : String}
  {id : OptionId}

/-- A new desk keeps no subscriptions. -/
lemma start : Keeps {} {} [] where
  watcher := rfl
  told := rfl
  sound := rfl
  opened := rfl
  subscribers := rfl
  watches _ := rfl
  tags := List.nodup_nil
  tokens := List.nodup_nil
  fresh _ h := nomatch h
  listeners := List.nodup_nil
  labels _ h := nomatch h
  boxes _ h := nomatch h

/-- A subscription that is held is found under its tag. -/
lemma find?_of_mem (h : Keeps desk w held) {g : Holding} (hg : g ∈ held) :
    held.find? (·.tag == g.tag) = some g := by
  cases hfind : held.find? (·.tag == g.tag) with
  | none => exact absurd (List.find?_eq_none.mp hfind g hg) (by simp)
  | some g' =>
    have htag : g'.tag = g.tag := by simpa using List.find?_some hfind
    rw [List.inj_on_of_nodup_map h.tags (List.mem_of_find?_eq_some hfind) hg htag]

/-- The watcher gives up a subscription exactly where the desk does. -/
lemma filter_subscribers (h : Keeps desk w held) {g : Holding} (hg : g ∈ held) :
    (held.map Holding.subscriber).filter (fun m => !(m.id == g.id && m.token == g.token)) =
      (Holding.without held g.tag).map Holding.subscriber := by
  rw [List.filter_map]
  congr 1
  refine List.filter_congr fun g' hg' => ?_
  by_cases heq : g' = g
  · simp [heq, Holding.subscriber]
  · have htag : (g'.tag == g.tag) = false :=
      beq_eq_false_iff_ne.mpr fun e => heq (List.inj_on_of_nodup_map h.tags hg' hg e)
    have htoken : (g'.token == g.token) = false :=
      beq_eq_false_iff_ne.mpr fun e => heq (List.inj_on_of_nodup_map h.tokens hg' hg e)
    simp [htag, htoken, Holding.subscriber]

/-- A handle is given up. -/
lemma cancel (h : Keeps desk w held) {g : Holding} (hg : g ∈ held) :
    Keeps { desk with
      watcher? := desk.watcher?.map fun w => w.cancel g.watch.subscription
      watches := desk.watches.erase g.tag } (w.cancel g.watch.subscription)
      (Holding.without held g.tag) := by
  have hsub := Holding.without_sublist held g.tag
  have hcancel : w.cancel g.watch.subscription =
      { w with subscribers := (Holding.without held g.tag).map Holding.subscriber } := by
    unfold Watcher.cancel
    rw [h.sound, h.subscribers, ← h.filter_subscribers hg]
    rfl
  rw [h.watcher, Option.map_some, hcancel]
  exact {
    watcher := rfl
    told := h.told
    sound := h.sound
    opened := h.opened
    subscribers := rfl
    watches := fun tag => by
      show (desk.watches.erase g.tag).get? tag = _
      rw [Table.get?_erase, h.watches, Holding.find?_without]
      split <;> rfl
    tags := h.tags.sublist (hsub.map _)
    tokens := h.tokens.sublist (hsub.map _)
    fresh := fun g' hg' => h.fresh g' (hsub.subset hg')
    listeners := h.listeners.sublist (hsub.map _)
    labels := fun g' hg' => h.labels g' (hsub.subset hg')
    boxes := fun g' hg' => h.boxes g' (hsub.subset hg') }

/-- The watcher of a desk that is in step grants every subscription. -/
lemma subscribe_eq (h : Keeps desk w held) (id : OptionId) (listener : Listener) :
    w.subscribe id listener = .ok (⟨id, w.nextToken⟩, w.joined id listener) := by
  unfold Watcher.subscribe Watcher.joined
  rw [if_neg (by simp [h.sound]), if_neg (by simp [h.opened])]

/-- A subscription is kept under a tag under which nothing is kept. -/
lemma join (h : Keeps desk w held) (new : Holding) (htoken : new.token = w.nextToken)
    (htag : ∀ g ∈ held, g.tag ≠ new.tag) (hlistener : ∀ g ∈ held, g.listener ≠ new.listener)
    (hlabel : ∀ label panics, new.listener = .callback label panics → label = new.tag)
    (hbox : ∀ n, new.listener = .mailbox n →
      n < desk.mailboxes.next ∧ (desk.mailboxes.get? n).isSome) :
    Keeps { desk with
      watcher? := some (w.joined new.id new.listener)
      watches := desk.watches.put new.tag new.watch } (w.joined new.id new.listener)
      (held ++ [new]) where
  watcher := rfl
  told := h.told
  sound := h.sound
  opened := h.opened
  subscribers := by
    show w.subscribers ++ _ = _
    rw [h.subscribers, List.map_append, ← htoken]
    rfl
  watches tag := by
    show (desk.watches.put new.tag new.watch).get? tag = _
    rw [Table.get?_put, h.watches, List.find?_append]
    split
    · rename_i heq
      have hnone : held.find? (·.tag == new.tag) = none :=
        List.find?_eq_none.mpr fun g hg => by simpa using htag g hg
      simp [hnone, heq]
    · rename_i hne
      simp [Ne.symm hne]
  tags := by
    rw [List.map_append]
    exact h.tags.append (List.nodup_singleton _) (by simpa [List.disjoint_singleton] using htag)
  tokens := by
    rw [List.map_append]
    refine h.tokens.append (List.nodup_singleton _) ?_
    have hlt : ∀ g ∈ held, g.token ≠ new.token := fun g hg => by
      have := h.fresh g hg
      omega
    simpa [List.disjoint_singleton] using hlt
  fresh g hg := by
    show g.token < w.nextToken + 1
    rcases List.mem_append.mp hg with hg | hg
    · have := h.fresh g hg
      omega
    · rw [List.mem_singleton.mp hg, htoken]
      omega
  listeners := by
    rw [List.map_append]
    exact h.listeners.append (List.nodup_singleton _)
      (by simpa [List.disjoint_singleton] using hlistener)
  labels g hg := by
    rcases List.mem_append.mp hg with hg | hg
    · exact h.labels g hg
    · rw [List.mem_singleton.mp hg]
      exact hlabel
  boxes g hg := by
    rcases List.mem_append.mp hg with hg | hg
    · exact h.boxes g hg
    · rw [List.mem_singleton.mp hg]
      exact hbox

/-- What is kept depends on what is found under the tags, not on the order of the tags. -/
lemma congr (h : Keeps desk w held) {other : WatchDesk} (hwatcher : other.watcher? = desk.watcher?)
    (htold : other.told = desk.told) (hboxes : other.mailboxes = desk.mailboxes)
    (hwatches : ∀ tag, other.watches.get? tag = desk.watches.get? tag) : Keeps other w held := by
  obtain ⟨_, watches, _, _⟩ := other
  subst hwatcher htold hboxes
  exact { h with watches := fun tag => (hwatches tag).trans (h.watches tag) }

/-- A subscription is kept under a tag; what has been kept there ends. -/
lemma kept (h : Keeps desk w held) (new : Holding) (htoken : new.token = w.nextToken)
    (hlistener : ∀ g ∈ held, g.tag ≠ new.tag → g.listener ≠ new.listener)
    (hlabel : ∀ label panics, new.listener = .callback label panics → label = new.tag)
    (hbox : ∀ n, new.listener = .mailbox n →
      n < desk.mailboxes.next ∧ (desk.mailboxes.get? n).isSome) :
    ∃ w', Keeps (desk.kept new.tag new.watch (w.joined new.id new.listener)) w'
      (Holding.without held new.tag ++ [new]) := by
  cases hfind : held.find? (·.tag == new.tag) with
  | none =>
    have htag : ∀ g ∈ held, g.tag ≠ new.tag := fun g hg => by
      simpa using List.find?_eq_none.mp hfind g hg
    have hkept : desk.kept new.tag new.watch (w.joined new.id new.listener) = { desk with
        watcher? := some (w.joined new.id new.listener)
        watches := desk.watches.put new.tag new.watch } := by
      unfold WatchDesk.kept
      rw [h.watches, hfind]
      rfl
    rw [Holding.without_eq_self hfind, hkept]
    exact ⟨_, h.join new htoken htag (fun g hg => hlistener g hg (htag g hg)) hlabel hbox⟩
  | some g =>
    have hg := List.mem_of_find?_eq_some hfind
    have htag : g.tag = new.tag := by simpa using List.find?_some hfind
    -- The earlier subscription can as well be given up first, as the new one has another token.
    have hcancel : (w.joined new.id new.listener).cancel g.watch.subscription =
        (w.cancel g.watch.subscription).joined new.id new.listener := by
      have hlt : w.nextToken ≠ g.token := Nat.ne_of_gt (h.fresh g hg)
      simp [Watcher.cancel, Watcher.joined, h.sound, List.filter_append, Holding.watch, hlt]
    have hjoined := (h.cancel hg).join new (htoken.trans (w.nextToken_cancel _).symm)
      (fun g' hg' => htag ▸ (Holding.mem_without.mp hg').2)
      (fun g' hg' => hlistener g' (Holding.mem_without.mp hg').1
        (htag ▸ (Holding.mem_without.mp hg').2))
      hlabel hbox
    rw [htag, ← hcancel] at hjoined
    refine ⟨_, hjoined.congr ?_ rfl rfl fun tag => ?_⟩
    · unfold WatchDesk.kept
      rw [h.watches, hfind]
      rfl
    · show (desk.watches.put new.tag new.watch).get? tag =
        ((desk.watches.erase new.tag).put new.tag new.watch).get? tag
      rw [Table.get?_put, Table.get?_put, Table.get?_erase]
      split <;> rfl

/-- Mailboxes may be put up and filled. -/
lemma withMailboxes (h : Keeps desk w held) (boxes : Pool (List OptionValue))
    (hnext : desk.mailboxes.next ≤ boxes.next)
    (hboxes : ∀ n, (desk.mailboxes.get? n).isSome → (boxes.get? n).isSome) :
    Keeps { desk with mailboxes := boxes } w held :=
  { h with boxes := fun g hg n hn =>
      ⟨Nat.lt_of_lt_of_le (h.boxes g hg n hn).1 hnext, hboxes n (h.boxes g hg n hn).2⟩ }

/-- Opening a mailbox keeps a desk in step. -/
lemma withMailbox (h : Keeps desk w held) : Keeps desk.withMailbox w held := by
  refine h.withMailboxes _ (Nat.le_succ _) fun n hn => ?_
  rw [Pool.get?_add]
  split
  · rfl
  · exact hn

/-- Taking a value from a mailbox keeps a desk in step. -/
lemma taken (h : Keeps desk w held) (n : Nat) : Keeps (desk.taken n) w held := by
  unfold WatchDesk.taken
  split
  · exact h
  · refine h.withMailboxes _ (Nat.le_refl _) fun m hm => ?_
    rw [Pool.get?_put]
    split
    · rfl
    · exact hm

/-- Who has subscribed to an option. -/
lemma count_eq (h : Keeps desk w held) (id : OptionId) :
    w.count id = (held.map Holding.standing).countP (·.id == id) := by
  unfold Watcher.count
  rw [if_neg (by simp [h.sound]), h.subscribers, List.countP_map, List.countP_map]
  rfl

/-! ### Dispatches -/

/-- What is due at the watcher is due to what is held. -/
lemma due_eq (h : Keeps desk w held) (changes : List Change) :
    w.due changes = (Holding.dueTo held changes).map Holding.delivery := by
  unfold Watcher.due Holding.dueTo
  rw [h.subscribers, List.map_flatMap]
  congr 1
  funext ⟨id, value⟩
  dsimp only
  rw [List.filter_map, List.map_map, List.map_map]
  refine List.map_congr_left fun g hg => ?_
  have hid : g.subscriber.id = id := by simpa using (List.mem_filter.mp hg).2
  simp [Holding.delivery, Holding.subscriber, ← hid]

/-- What is told to the subscriptions that are kept. -/
lemma announce_eq (h : Keeps desk w held) (changes : List Change) :
    w.announce changes =
      { state := { w with
        poisoned := anyPanics (WatchDesk.dueTo (held.map Holding.standing) changes) }
        deliveries := (upTo (·.1.listener.panics) (Holding.dueTo held changes)).map Holding.delivery
        panicked := anyPanics (WatchDesk.dueTo (held.map Holding.standing) changes) } := by
  have hpanics : (w.due changes).any (·.listener.panics) =
      anyPanics (WatchDesk.dueTo (held.map Holding.standing) changes) := by
    rw [h.due_eq, ← Holding.standing_dueTo, anyPanics, List.any_map, List.any_map]
    congr 1
    funext due
    exact (Holding.panics_standing due.1).symm
  unfold Watcher.announce
  rw [if_neg (by simp [h.sound, h.opened]), Watcher.untilPanic_eq, hpanics, h.due_eq, upTo_map]
  rfl

/-- What is due to the subscriptions that are kept, as far as it is told. -/
lemma untilPanic_dueTo (held : List Holding) (changes : List Change) :
    untilPanic (WatchDesk.dueTo (held.map Holding.standing) changes) =
      (upTo (·.1.listener.panics) (Holding.dueTo held changes)).map
        fun due => (due.1.standing, due.2) := by
  rw [← Holding.standing_dueTo, untilPanic, upTo_map]
  simp only [Holding.panics_standing]

/-- The callbacks that are called are those due, up to the first that panics. -/
lemma calls_announce (h : Keeps desk w held) (changes : List Change) :
    Delivery.calls (w.announce changes).deliveries =
      callsOf (untilPanic (WatchDesk.dueTo (held.map Holding.standing) changes)) := by
  rw [h.announce_eq, untilPanic_dueTo]
  refine Holding.calls_map fun due hdue => h.labels due.1 ?_
  exact Holding.mem_of_mem_dueTo ((upTo_sublist _ _).subset hdue)

/-- The values that come to the channel of a subscription that is kept. -/
lemma values_announce (h : Keeps desk w held) (changes : List Change) {g : Holding} (hg : g ∈ held)
    {n : Nat} (hn : g.listener = .mailbox n) :
    ((w.announce changes).deliveries.filter (·.listener = .mailbox n)).map Delivery.value =
      ((untilPanic (WatchDesk.dueTo (held.map Holding.standing) changes)).filter
        (·.1 == g.standing)).map (·.2) := by
  rw [h.announce_eq, untilPanic_dueTo, List.filter_map, List.filter_map, List.map_map, List.map_map]
  refine congrArg (List.map _) (List.filter_congr fun due hdue => ?_)
  have hmem := Holding.mem_of_mem_dueTo ((upTo_sublist _ _).subset hdue)
  by_cases heq : due.1 = g
  · simp [heq, Holding.delivery, hn]
  · have hlistener : due.1.listener ≠ .mailbox n := fun e =>
      heq (List.inj_on_of_nodup_map h.listeners hmem hg (e.trans hn.symm))
    have hstanding : due.1.standing ≠ g.standing := fun e =>
      heq (List.inj_on_of_nodup_map h.tags hmem hg (congrArg Standing.tag e))
    simp [Holding.delivery, hlistener, hstanding]

/-- As long as no callback fails badly, a dispatch changes nothing in what is kept. -/
lemma announced (h : Keeps desk w held) {changes : List Change}
    (hcalm : anyPanics (WatchDesk.dueTo (held.map Holding.standing) changes) = false) :
    Keeps (desk.announced w changes) w held := by
  have hstate : (w.announce changes).state = w := by
    rw [h.announce_eq, hcalm]
    obtain ⟨subscribers, nextToken, closing, _⟩ := w
    cases h.sound
    rfl
  unfold WatchDesk.announced
  rw [hstate]
  refine Keeps.congr (h.withMailboxes _ (Delivery.next_foldl_post _ _).ge fun n hn => ?_)
    h.watcher.symm rfl rfl fun _ => rfl
  rw [Delivery.get?_foldl_post, Option.isSome_map]
  exact hn

/-- Dispatching reaches what is held, up to the first callback that panics. -/
lemma step_dispatch (h : Keeps desk w held) (changes : List Change) :
    desk.step (dispatch changes) =
      (if anyPanics (WatchDesk.dueTo (held.map Holding.standing) changes) then .error .panic
        else .ok (WatchDesk.dueTo (held.map Holding.standing) changes).length,
      callsOf (untilPanic (WatchDesk.dueTo (held.map Holding.standing) changes)),
      desk.announced w changes) := by
  rw [WatchDesk.step_dispatch h.watcher h.told, h.calls_announce]
  have hpanicked : (w.announce changes).panicked =
      anyPanics (WatchDesk.dueTo (held.map Holding.standing) changes) := by
    rw [h.announce_eq]
  rw [hpanicked]
  split
  · rfl
  · rename_i hcalm
    have hall : untilPanic (WatchDesk.dueTo (held.map Holding.standing) changes) =
        WatchDesk.dueTo (held.map Holding.standing) changes :=
      upTo_eq_self _ (Bool.eq_false_iff.mpr hcalm)
    rw [untilPanic_dueTo] at hall
    rw [h.announce_eq, List.length_map, ← hall, List.length_map]

/-- The channel of a subscription that is kept gets the values that the subscription is told. -/
lemma contents_announced (h : Keeps desk w held) (changes : List Change) {g : Holding}
    (hg : g ∈ held) {n : Nat} (hn : g.listener = .mailbox n) :
    (desk.announced w changes).contents n = desk.contents n ++
      ((untilPanic (WatchDesk.dueTo (held.map Holding.standing) changes)).filter
        (·.1 == g.standing)).map (·.2) := by
  rw [← h.values_announce changes hg hn]
  obtain ⟨values, hvalues⟩ := Option.isSome_iff_exists.mp (h.boxes g hg n hn).2
  unfold contents WatchDesk.announced
  rw [Delivery.get?_foldl_post, hvalues]
  rfl

/-! ### Requests -/

variable (absent) in
/-- A channel is put up empty. -/
lemma serve_collect (h : Keeps desk w held) (tag : String) (id : OptionId) :
    ∃ w', Keeps (desk.serve absent (.collect tag id)).2 w' (Holding.without held tag ++
        [⟨tag, id, w.nextToken, .mailbox desk.mailboxes.next⟩]) ∧
      (desk.serve absent (.collect tag id)).1.panics = false ∧
      (desk.serve absent (.collect tag id)).1.closes = false ∧
      (desk.serve absent (.collect tag id)).2.contents desk.mailboxes.next = [] := by
  have hnew : desk.withMailbox.mailboxes.get? desk.mailboxes.next = some [] := by
    rw [WatchDesk.withMailbox, Pool.get?_add, if_pos rfl]
  obtain ⟨w', hkept⟩ := h.withMailbox.kept
    ⟨tag, id, w.nextToken, .mailbox desk.mailboxes.next⟩ rfl
    (fun g hg _ e => absurd (h.boxes g hg _ e).1 (Nat.lt_irrefl _)) (fun _ _ e => by cases e)
    (fun n e => by
      cases e
      exact ⟨Nat.lt_succ_self _, Option.isSome_of_eq_some hnew⟩)
  have hstep := step_collect_ok absent tag h.watcher h.told
    (h.subscribe_eq id (.mailbox desk.mailboxes.next))
  rw [serve_eq (by rw [Request.act, step_map, hstep])]
  exact ⟨w', hkept, rfl, rfl, congrArg (Option.getD · []) hnew⟩

variable (absent) in
/-- A request that leaves the watcher in order changes what is kept as what stands. -/
lemma serve (h : Keeps desk w held) {r : Request} (hr : r.orderly (held.map Holding.standing)) :
    (desk.serve absent r).1.panics = false ∧ (desk.serve absent r).1.closes = false ∧
      ∃ w' new, Keeps (desk.serve absent r).2 w' (held.filter (fun g => !r.ends g.tag) ++ new) ∧
        new.map Holding.standing = r.registers := by
  have hsame : held.filter (fun _ => !false) ++ [] = held := by simp
  cases r with
  | onChange tag id panics =>
    obtain ⟨w', hkept⟩ := h.kept ⟨tag, id, w.nextToken, .callback tag panics⟩ rfl
      (fun g hg htag e => htag (h.labels g hg _ _ e).symm) (fun _ _ e => by cases e; rfl)
      (fun _ e => by cases e)
    have hstep := step_onChange_ok absent h.watcher h.told
      (h.subscribe_eq id (.callback tag panics))
    rw [serve_eq (by rw [Request.act, step_map, hstep])]
    exact ⟨rfl, rfl, w', _, hkept, rfl⟩
  | collect tag id =>
    obtain ⟨w', hkeeps, hpanics, hcloses, -⟩ := h.serve_collect absent tag id
    exact ⟨hpanics, hcloses, w', _, hkeeps, rfl⟩
  | next tag =>
    cases hwatch : desk.watches.get? tag with
    | none =>
      rw [serve_eq (by rw [Request.act, step_map, step_next_none hwatch h.told])]
      exact ⟨rfl, rfl, w, [], hsame.symm ▸ h, rfl⟩
    | some watch =>
      obtain ⟨s, _ | n⟩ := watch
      · rw [serve_eq (by rw [Request.act, step_map, step_next_callback hwatch h.told])]
        exact ⟨rfl, rfl, w, [], hsame.symm ▸ h, rfl⟩
      · rw [serve_eq (by rw [Request.act, step_map, step_next hwatch h.told])]
        exact ⟨rfl, rfl, w, [], hsame.symm ▸ h.taken n, rfl⟩
  | cancel tag =>
    cases hfind : held.find? (·.tag == tag) with
    | none =>
      have hwatch : desk.watches.get? tag = none := by rw [h.watches, hfind]; rfl
      have hwithout : Holding.without held tag ++ [] = held := by
        rw [List.append_nil, Holding.without_eq_self hfind]
      rw [serve_eq (by rw [Request.act, step_map, step_cancel_none hwatch h.told])]
      exact ⟨rfl, rfl, w, [], hwithout.symm ▸ h, rfl⟩
    | some g =>
      have hg := List.mem_of_find?_eq_some hfind
      have htag : g.tag = tag := by simpa using List.find?_some hfind
      subst htag
      have hwatch : desk.watches.get? g.tag = some g.watch := by rw [h.watches, hfind]; rfl
      rw [serve_eq (by rw [Request.act, step_map, step_cancel hwatch h.told])]
      have happend : Holding.without held g.tag ++ [] = Holding.without held g.tag :=
        List.append_nil _
      exact ⟨rfl, rfl, _, [], happend.symm ▸ h.cancel hg, rfl⟩
  | dispatch changes =>
    have hcalm : anyPanics (WatchDesk.dueTo (held.map Holding.standing) changes) = false := by
      simpa [Request.orderly] using hr
    rw [serve_eq (by rw [Request.act, step_map, h.step_dispatch changes, hcalm])]
    exact ⟨rfl, rfl, w, [], hsame.symm ▸ h.announced hcalm, rfl⟩
  | close => cases hr
  | takeAway => cases hr

variable (absent) in
/-- A request that does not leave the watcher in order shows it. -/
lemma disturbed (h : Keeps desk w held) {r : Request}
    (hr : r.orderly (held.map Holding.standing) = false) :
    (desk.serve absent r).1.panics = true ∨ (desk.serve absent r).1.closes = true ∨
      (desk.serve absent r).2.watcher? = none := by
  cases r with
  | onChange tag id panics => cases hr
  | collect tag id => cases hr
  | next tag => cases hr
  | cancel tag => cases hr
  | dispatch changes =>
    have hpanics : anyPanics (WatchDesk.dueTo (held.map Holding.standing) changes) = true := by
      simpa [Request.orderly] using hr
    rw [serve_eq (by rw [Request.act, step_map, h.step_dispatch changes, hpanics])]
    exact .inl rfl
  | close =>
    rw [serve_eq (by rw [Request.act, step_map, step_close h.watcher h.told])]
    exact .inr (.inl rfl)
  | takeAway =>
    rw [serve_eq (by rw [Request.act, step_map, step_takeAway h.watcher h.told])]
    exact .inr (.inr rfl)

end Keeps

/-- What is kept after a request stands after it. -/
lemma standing_served {held new : List Holding} {history : List Request} {r : Request}
    (hheld : held.map Holding.standing = standing history)
    (hnew : new.map Holding.standing = r.registers) :
    (held.filter (fun g => !r.ends g.tag) ++ new).map Holding.standing =
      standing (history ++ [r]) := by
  rw [standing_append, ← hheld, List.map_append, hnew, List.filter_map]
  rfl

/-- As long as the watcher is there and in order, those subscriptions are kept that stand. -/
lemma keeps_standing {absent : Fault} {history : List Request}
    (hthere : (run absent {} history).2.watcher? ≠ none)
    (hpanics : ∀ e ∈ (run absent {} history).1, e.panics = false)
    (hcloses : ∀ e ∈ (run absent {} history).1, e.closes = false) :
    ∃ w held, Keeps (run absent {} history).2 w held ∧
      held.map Holding.standing = standing history := by
  induction history using List.reverseRecOn with
  | nil => exact ⟨_, _, Keeps.start, rfl⟩
  | append_singleton history r ih =>
    rw [run_concat] at hthere hpanics hcloses ⊢
    have htold : (run absent {} history).2.told = [] := told_run rfl history
    obtain ⟨w, held, hkeeps, hheld⟩ :=
      ih (fun hnone => hthere (watcher?_serve_none absent hnone htold r))
      (fun e he => hpanics e (List.mem_append_left _ he))
      (fun e he => hcloses e (List.mem_append_left _ he))
    cases hr : r.orderly (held.map Holding.standing) with
    | true =>
      obtain ⟨-, -, w', new, hkeeps', hnew⟩ := hkeeps.serve absent hr
      exact ⟨w', _, hkeeps', standing_served hheld hnew⟩
    | false =>
      rcases hkeeps.disturbed absent hr with hp | hc | hnone
      · rw [hpanics _ (List.mem_append_right _ (List.mem_singleton_self _))] at hp
        cases hp
      · rw [hcloses _ (List.mem_append_right _ (List.mem_singleton_self _))] at hc
        cases hc
      · exact absurd hnone hthere

end WatchDesk

end EmbeddedFilters
