import EmbeddedFilters.Watching.Watcher
import Mathlib.Tactic.Common

/-!
# What watchers do

A watcher with nobody to tell announces nothing, and one that is silent, because it is spoiled or
closed, does nothing at all any more: it tells nobody, takes no subscription and counts no
subscriber.
-/

namespace EmbeddedFilters.Watcher

variable {w w' : Watcher} {id : OptionId} {listener : Listener} {s : Subscription}

/-- Where nothing is due, nobody is told anything. -/
lemma announce_of_due {changes : List Change} (h : w.due changes = []) :
    w.announce changes = ⟨w, [], false⟩ := by
  unfold announce
  split
  · rfl
  · rename_i hopen
    obtain ⟨subscribers, nextToken, closing, poisoned⟩ := w
    have hpoisoned : poisoned = false := by
      simpa using (Bool.or_eq_false_iff.mp (by simpa using hopen)).1
    rw [h, hpoisoned]
    rfl

/-- A subscription is taken where the watcher is in order, and leaves it in order. -/
lemma subscribe_ok (h : w.subscribe id listener = .ok (s, w')) : w.poisoned = false ∧
    w.closing = false ∧ w'.poisoned = false ∧ w'.closing = false := by
  unfold subscribe at h
  split at h
  · cases h
  · split at h
    · cases h
    · rename_i hp hc
      cases h
      simp_all

/-- The end of a subscription gives no token back. -/
lemma nextToken_cancel (w : Watcher) (s : Subscription) : (w.cancel s).nextToken = w.nextToken := by
  unfold cancel
  split <;> rfl

/-! ### Silent watchers -/

section Silent

variable (hsilent : (w.poisoned || w.closing) = true)
include hsilent

/-- A silent watcher announces nothing. -/
lemma announce_silent (changes : List Change) : w.announce changes = ⟨w, [], false⟩ :=
  if_pos hsilent

/-- A silent watcher takes no subscription, and says why. -/
lemma subscribe_silent (listener : Listener) : w.subscribe id listener =
    .error (if w.poisoned then .lockPoisoned else .destroyed s!"watcher of {id.label}") := by
  unfold subscribe
  cases hp : w.poisoned with
  | true => rfl
  | false =>
    have hc : w.closing = true := by simpa [hp] using hsilent
    simp [hc]

variable (hempty : w.closing = true → w.subscribers = [])
include hempty

/-- No subscription of a silent watcher is left to be ended. -/
lemma cancel_silent (s : Subscription) : w.cancel s = w := by
  unfold cancel
  split
  · rfl
  · rename_i hp
    have hc : w.closing = true := by simpa [hp] using hsilent
    obtain ⟨subscribers, nextToken, closing, poisoned⟩ := w
    cases hempty hc
    rfl

/-- A silent watcher has no subscriptions. -/
lemma count_silent (id : OptionId) : w.count id = 0 := by
  unfold count
  split
  · rfl
  · rename_i hp
    have hc : w.closing = true := by simpa [hp] using hsilent
    rw [hempty hc]
    rfl

end Silent

end EmbeddedFilters.Watcher
