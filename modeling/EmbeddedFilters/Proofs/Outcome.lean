import Mathlib.Tactic.Common

/-!
# Outcomes

A chain of checks succeeds when every check in it does. The lemmas here take such chains apart, one
operation at a time.
-/

namespace EmbeddedFilters.Outcome

variable {ε α β : Type}

/-- A chain has a result exactly if both of its parts have one. -/
@[simp] lemma bind_eq_ok {x : Except ε α} {f : α → Except ε β} {b : β} :
    (x >>= f) = .ok b ↔ ∃ a, x = .ok a ∧ f a = .ok b := by
  cases x with
  | ok a =>
    constructor
    · exact fun h => ⟨a, rfl, h⟩
    · rintro ⟨_, ha, h⟩
      cases ha
      exact h
  | error e =>
    constructor
    · intro h
      cases h
    · rintro ⟨_, ha, _⟩
      cases ha

/-- A result is returned as it is. -/
@[simp] lemma pure_eq_ok {a b : α} : (pure a : Except ε α) = .ok b ↔ a = b := by
  constructor
  · intro h
    cases h
    rfl
  · rintro rfl
    rfl

/-- An error is no result. -/
@[simp] lemma throw_ne_ok {e : ε} {a : α} : (throw e : Except ε α) ≠ .ok a := by
  intro h
  cases h

/-- An outcome with another result comes from a result. -/
@[simp] lemma map_eq_ok {f : α → β} {x : Except ε α} {b : β} :
    x.map f = .ok b ↔ ∃ a, x = .ok a ∧ f a = b := by
  cases x with
  | ok a => simp [Except.map]
  | error e => simp [Except.map]

/-- A chain goes on with the result of its first part. -/
@[simp] lemma ok_bind {a : α} {f : α → Except ε β} : ((Except.ok a : Except ε α) >>= f) = f a := rfl

/-- A chain ends with the error of its first part. -/
@[simp] lemma error_bind {e : ε} {f : α → Except ε β} :
    ((Except.error e : Except ε α) >>= f) = .error e := rfl

/-- An outcome can be told by what it gives where it gives something. -/
lemma eq_ok_of_toOption {x : Except ε α} {a : α} (h : x.toOption = some a) : x = .ok a := by
  cases x with
  | ok b => exact congrArg Except.ok (Option.some.inj h)
  | error e => cases h

/-- What is told to be a result is one. -/
lemma exists_of_toBool {x : Except ε α} (h : x.toBool = true) : ∃ a, x = .ok a := by
  cases x with
  | ok a => exact ⟨a, rfl⟩
  | error e => cases h

/-! ### Operations on a state -/

variable {σ : Type}

/-- A chain of operations goes on where its first part has ended with a result. -/
lemma run_bind (x : ExceptT ε (StateM σ) α) (f : α → ExceptT ε (StateM σ) β) (s : σ) :
    (x >>= f).run.run s = match (x.run.run s : Except ε α × σ) with
      | (.ok a, s) => (f a).run.run s
      | (.error e, s) => (.error e, s) := by
  show ((x.run >>= ExceptT.bindCont f).run s : Except ε β × σ) = _
  show (let r : Except ε α × σ := x.run.run s
    ((ExceptT.bindCont f r.1).run r.2 : Except ε β × σ)) = _
  obtain ⟨r, s'⟩ : Except ε α × σ := x.run.run s
  cases r <;> rfl

/-- A chain of operations goes on in the state that its first part has left. -/
lemma run_bind_ok {x : ExceptT ε (StateM σ) α} {s s' : σ} {a : α}
    (h : (x.run.run s : Except ε α × σ) = (.ok a, s')) (f : α → ExceptT ε (StateM σ) β) :
    (x >>= f).run.run s = (f a).run.run s' := by
  rw [run_bind, h]

end EmbeddedFilters.Outcome
