import EmbeddedFilters.Proofs.Filter.Remote
import EmbeddedFilters.Proofs.Remote.Reporting
import Mathlib.Data.List.Flatten

/-!
# What a remote filter announces

A filter that takes over what its device reports tells the subscribers of each option whose value is
another one now (`RemoteFilter.tidings`). As long as none of those who are told fails badly
(`RemoteFilter.Calm`), the filter changes in the values of its proxy alone.
-/

namespace EmbeddedFilters

open Outcome Assignment

namespace Watcher

variable {w : Watcher}

/-- The subscribers that are told of changes: all, unless the watcher is spoiled or closed. -/
def active (w : Watcher) : List Subscriber :=
  if w.poisoned || w.closing then [] else w.subscribers

/-- Listeners that do not panic are all called. -/
lemma untilPanic_of_calm {due : List Delivery} (h : ∀ d ∈ due, d.listener.panics = false) :
    untilPanic due = (due, false) := by
  induction due with
  | nil => rfl
  | cons d rest ih =>
    have hrest := ih fun e he => h e (List.mem_cons_of_mem d he)
    rw [untilPanic, h d List.mem_cons_self, hrest]
    rfl

/-- A watcher whose active subscribers do not fail badly tells them all, and stays as it is. -/
lemma announce_calm (h : ∀ m ∈ w.active, m.listener.panics = false) (changes : List Change) :
    w.announce changes = ⟨w, changes.flatMap fun (id, value) =>
      (w.active.filter (·.id == id)).map fun m => ⟨m.listener, id, value⟩, false⟩ := by
  cases hsilent : w.poisoned || w.closing with
  | true =>
    rw [announce_silent hsilent]
    simp [active, hsilent]
  | false =>
    have hactive : w.active = w.subscribers := by simp [active, hsilent]
    rw [hactive] at h ⊢
    have hcalm : ∀ d ∈ w.due changes, d.listener.panics = false := by
      intro d hd
      obtain ⟨change, -, hd⟩ := List.mem_flatMap.mp hd
      obtain ⟨m, hm, rfl⟩ := List.mem_map.mp hd
      exact h m (List.mem_filter.mp hm).1
    have hpoisoned : w.poisoned = false := (Bool.or_eq_false_iff.mp hsilent).1
    have hsame : { w with poisoned := false } = w := by rw [← hpoisoned]
    rw [announce, hsilent, if_neg Bool.false_ne_true, untilPanic_of_calm hcalm]
    show (⟨{ w with poisoned := false }, w.due changes, false⟩ : Told Watcher) = _
    rw [hsame]
    rfl

end Watcher

namespace RemoteFilter

variable {f : RemoteFilter}

/-- None of the subscribers that are told of changes fails badly. -/
def Calm (f : RemoteFilter) : Prop := ∀ m ∈ f.watcher.active, m.listener.panics = false

/-- The deliveries that new values call for: for one option after another, if its value is another
one now, the new value to every active subscriber of the option, in the order of subscription. -/
def tidings (f : RemoteFilter) (order : List String) (values : List Assignment) : List Delivery :=
  order.flatMap fun name =>
    match find? name values, OptionId.ofName? name with
    | some value, some id =>
      if (f.proxy.record.value? name).all fun old => !value.agrees old then
        (f.watcher.active.filter (·.id == id)).map fun m => ⟨m.listener, id, value⟩
      else []
    | _, _ => []

/-- What a list of changed values calls for, value by value. -/
lemma flatMap_changed (r : FilterRecord) (told : Change → List Delivery)
    (values : List Assignment) :
    ((r.changed values).filterMap ChangedOption.change?).flatMap told =
      values.flatMap fun a => match OptionId.ofName? a.name with
        | some id => if r.differsAt a then told (id, a.value) else []
        | none => [] := by
  induction values with
  | nil => rfl
  | cons a values ih =>
    rw [List.flatMap_cons, ← ih]
    unfold FilterRecord.changed
    cases hdiffers : r.differsAt a with
    | false =>
      rw [List.filter_cons_of_neg (by rw [hdiffers]; exact Bool.false_ne_true)]
      cases OptionId.ofName? a.name <;> rfl
    | true =>
      rw [List.filter_cons_of_pos hdiffers, List.map_cons]
      cases hid : OptionId.ofName? a.name <;> simp [List.filterMap_cons, ChangedOption.change?]

/-- A filter announces a list of values in which no name comes twice in the order of the list. -/
lemma announce_calm (hcalm : f.Calm) {values : List Assignment} (hnd : (names values).Nodup)
    (p : RemoteProxy) :
    f.announce (f.proxy.record.changed values) p =
      ⟨{ f with proxy := p }, f.tidings (names values) values, false⟩ := by
  have htidings : f.tidings (names values) values = values.flatMap fun a =>
      match OptionId.ofName? a.name with
      | some id =>
        if f.proxy.record.differsAt a then
          (f.watcher.active.filter (·.id == id)).map fun m => ⟨m.listener, id, a.value⟩
        else []
      | none => [] := by
    rw [tidings, names, List.flatMap_map]
    refine List.flatMap_congr fun a ha => ?_
    have hdiffers : ((f.proxy.record.value? a.name).all fun old => !a.value.agrees old) =
        f.proxy.record.differsAt a := by
      unfold FilterRecord.differsAt
      cases f.proxy.record.value? a.name <;> rfl
    rw [find?_of_mem hnd ha, ← hdiffers]
    cases OptionId.ofName? a.name <;> rfl
  rw [announce, Watcher.announce_calm hcalm, flatMap_changed, htidings]
  rfl

/-- A live and calm filter takes reported values over as its proxy does, and announces them. -/
lemma notify_calm (hf : f.Valid) (hlive : f.destroyed = false) (hcalm : f.Calm)
    (options : List Assignment) :
    f.notify options = (f.proxy.merge options).map fun merged =>
      ⟨{ f with proxy := f.proxy.withValues merged },
        f.tidings (names f.proxy.record.current) merged, false⟩ := by
  rw [notify, ensureLive_eq_ok.mpr hlive, ok_bind, RemoteProxy.absorb]
  cases hmerge : f.proxy.merge options with
  | error e => rfl
  | ok merged =>
    have hnames := (RemoteProxy.takes_of_merge hmerge).names
    have hnd : (names merged).Nodup := hnames ▸ hf.proxy.nodup
    have hannounce := announce_calm hcalm hnd (f.proxy.withValues merged)
    rw [hnames] at hannounce
    exact congrArg Except.ok hannounce

/-- A live filter takes the answer to its question over like a report of the values in it. -/
lemma accept_of_decode (hlive : f.destroyed = false) {reply : ByteArray} {options : List Assignment}
    (hreply : Json.decodePayload OptionReport.decoder reply = some ⟨f.name, options⟩)
    (hsound : f.proxy.spoiled = false) : f.accept reply = f.notify options := by
  have haccept : f.proxy.accept reply = f.proxy.absorb options := by
    rw [RemoteProxy.accept, hreply]
    simp [RemoteProxy.checkSound, hsound, name]
  rw [accept, haccept, notify, ensureLive_eq_ok.mpr hlive]
  rfl

end RemoteFilter

end EmbeddedFilters
