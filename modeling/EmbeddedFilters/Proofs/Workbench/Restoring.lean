import EmbeddedFilters.Proofs.Filter.Restoring
import EmbeddedFilters.Proofs.Workbench.OfflineWrites

/-!
# Restoring without trying

Restoring an offline filter passes over stored values that lie out of range or are there already.
The filter and its subscribers cannot tell this from trying every stored value on every option but
the flag and passing over what fails (`Workbench.restore_tries_stored`). Both are steps for the
options in turn, each of which leaves the workbench as it was but for the filter and for what has
been told (`Bench.exec_inTurn`).
-/

namespace EmbeddedFilters

open Outcome

/-- The workbench after a step of an offline filter. -/
def Workbench.afterStep (w : Workbench) (n : Nat) (t : Told OfflineFilter) : Workbench :=
  (w.withOffline n t.state).telling t.deliveries

/-- What a step of an offline filter gives: nothing comes back if a subscriber fails badly. -/
def OfflineFilter.gives {α : Type} (t : Told OfflineFilter) (a : α) : Except Fault α :=
  if t.panicked then .error .panic else .ok a

namespace Workbench

variable {w : Workbench} {n : Nat} {f : OfflineFilter}

/-- A quiet step changes nothing. -/
lemma afterStep_quiet (hget : w.filters.get? n = some (.offline f)) :
    w.afterStep n f.quiet = w := by
  show (w.withOffline n f).telling [] = w
  rw [telling_nil, withOffline_self hget]

/-- One step after another tells what both tell. -/
lemma afterStep_afterStep (w : Workbench) (n : Nat) (t u : Told OfflineFilter) :
    (w.afterStep n t).afterStep n u =
      w.afterStep n ⟨u.state, t.deliveries ++ u.deliveries, u.panicked⟩ := by
  show (((w.withOffline n t.state).telling t.deliveries).withOffline n u.state).telling
    u.deliveries = _
  rw [withOffline_telling, withOffline_withOffline, afterStep, telling_append]

/-- After a step the filter is as the step has left it. -/
lemma filters_afterStep (w : Workbench) (n : Nat) (t : Told OfflineFilter) :
    (w.afterStep n t).filters.get? n = some (.offline t.state) := Pool.get?_put_self _ _ _

end Workbench

namespace Bench

open OfflineFilter

variable {w : Workbench} {n : Nat} {f : OfflineFilter}

/-- An operation that fails with the error of a filter gives the error where failures are caught. -/
lemma exec_attempt_error {α : Type} {x : Bench α} {v : Workbench} {e : FilterError}
    (h : x.exec w = (.error (.filter e), v)) : (attempt x).exec w = (.ok (.error e), v) := by
  have hmap : exec (ExceptT.map Except.ok x : Bench (Except FilterError α)) w =
      (.error (.filter e), v) :=
    exec_bind_error h (fun a => pure (.ok a) : α → Bench (Except FilterError α))
  refine (exec_tryCatch _ _ w).trans ?_
  rw [hmap]
  rfl

/-- A subscriber who fails badly is not caught. -/
lemma exec_attempt_panic {α : Type} {x : Bench α} {v : Workbench}
    (h : x.exec w = (.error .panic, v)) :
    (attempt x).exec w = (.error .panic, v) := by
  have hmap : exec (ExceptT.map Except.ok x : Bench (Except FilterError α)) w =
      (.error .panic, v) :=
    exec_bind_error h (fun a => pure (.ok a) : α → Bench (Except FilterError α))
  refine (exec_tryCatch _ _ w).trans ?_
  rw [hmap]
  rfl

/-- What follows a step is done unless a subscriber has failed badly. -/
lemma exec_bind_gives {α β : Type} {x : Bench α} {t : Told OfflineFilter} {a : α} {v : Workbench}
    (h : x.exec w = (gives t a, v)) (k : α → Bench β) :
    (x >>= k).exec w = if t.panicked then (.error .panic, v) else (k a).exec v := by
  rw [gives] at h
  cases hpanicked : t.panicked with
  | true =>
    rw [hpanicked, if_pos rfl] at h
    exact exec_bind_error h k
  | false =>
    rw [hpanicked, if_neg Bool.false_ne_true] at h
    exact exec_bind_ok h k

/-- An attempt gives the outcome of its operation as a value, unless it panics. -/
lemma exec_attempt_gives {α : Type} {x : Bench α} {t : Told OfflineFilter} {a : α} {v : Workbench}
    (h : x.exec w = (gives t a, v)) : (attempt x).exec w = (gives t (.ok a), v) := by
  rw [gives] at h ⊢
  cases hpanicked : t.panicked with
  | true =>
    rw [hpanicked, if_pos rfl] at h
    exact exec_attempt_panic h
  | false =>
    rw [hpanicked, if_neg Bool.false_ne_true] at h
    exact exec_attempt_ok h

/-- Tries a value on an option. What the filter refuses is passed over. -/
def tryOption (n : Nat) (id : OptionId) (value : OptionValue) : Bench Unit := do
  let _ ← attempt (writeOption n id value)

/-- Trying a value on an option comes to what the filter makes of it, and failures are passed
over. -/
lemma exec_tries (hget : w.filters.get? n = some (.offline f)) (id : OptionId) (v : OptionValue) :
    (tryOption n id v).exec w = (gives (f.tries id v) (), w.afterStep n (f.tries id v)) := by
  rw [tryOption, tries]
  cases hset : f.setOption id v with
  | error e =>
    have hwrite : (writeOption n id v).exec w = (.error (.filter e), w) := by
      rw [exec_writeOption_at hget, hset]
      rfl
    rw [exec_bind_ok (exec_attempt_error hwrite), Workbench.afterStep_quiet hget]
    rfl
  | ok t =>
    have hwrite : (writeOption n id v).exec w = (gives t (), w.afterStep n t) := by
      rw [exec_writeOption_at hget, hset]
      exact exec_announced n t w
    rw [exec_bind_gives (exec_attempt_gives hwrite)]
    cases hpanicked : t.panicked <;> simp [gives, hpanicked]

/-- One round of a loop that tries values on options, where there are any. -/
def roundWith (n : Nat) (id : OptionId) : Option OptionValue → Bench (ForInStep PUnit)
  | some value => do
    tryOption n id value
    return .yield ⟨⟩
  | none => return .yield ⟨⟩

/-- A round tries the value, if there is one, and goes on. -/
lemma exec_roundWith (hget : w.filters.get? n = some (.offline f)) (id : OptionId)
    (value? : Option OptionValue) :
    (roundWith n id value?).exec w =
      (gives (f.triesAny id value?) (.yield ⟨⟩), w.afterStep n (f.triesAny id value?)) := by
  cases value? with
  | none =>
    rw [triesAny, Workbench.afterStep_quiet hget]
    rfl
  | some v =>
    refine (exec_bind_gives (exec_tries hget id v) _).trans ?_
    cases hpanicked : (f.tries id v).panicked <;> simp [triesAny, gives, hpanicked]

/-- A loop over options in which every round is a step of the filter comes to the steps in turn. -/
lemma exec_inTurn {step : OfflineFilter → OptionId → Told OfflineFilter}
    {round : OptionId → Bench (ForInStep PUnit)}
    (hround : ∀ (w : Workbench) (f : OfflineFilter) (id : OptionId),
      w.filters.get? n = some (.offline f) →
      (round id).exec w = (gives (step f id) (.yield ⟨⟩), w.afterStep n (step f id)))
    (hget : w.filters.get? n = some (.offline f)) (ids : List OptionId) :
    (ForIn.forIn ids PUnit.unit fun id _ => round id).exec w =
      (gives (f.inTurn step ids) ⟨⟩, w.afterStep n (f.inTurn step ids)) := by
  induction ids generalizing w f with
  | nil =>
    rw [inTurn, Workbench.afterStep_quiet hget]
    rfl
  | cons id ids ih =>
    have hrest := ih (Workbench.filters_afterStep w n (step f id))
    rw [Workbench.afterStep_afterStep] at hrest
    rw [List.forIn_cons, exec_bind_gives (hround w f id hget), inTurn]
    cases hpanicked : (step f id).panicked with
    | true => simp [gives, hpanicked]
    | false => simpa [gives] using hrest

/-- Tries the stored values on all options but the flag, in the order of their numbers. -/
def tryStored (n : Nat) (s : Settings) (full : String) : Bench Unit := do
  for id in Settings.ordinaryOptions (← filter n) do
    if let some value := s.stored? full (← filter n) id then tryOption n id value

/-- Trying the stored values goes through the ordinary options round by round. -/
lemma tryStored_eq (n : Nat) (s : Settings) (full : String) :
    tryStored n s full = do
      let f ← filter n
      let _ ← ForIn.forIn (Settings.ordinaryOptions f) PUnit.unit fun id _ => do
        roundWith n id (s.stored? full (← filter n) id)
      return () := by
  refine congrArg _ (funext fun f => congr (congrArg _ (congrArg _ (funext fun id => ?_))) rfl)
  funext _
  refine congrArg _ (funext fun g => ?_)
  cases s.stored? full g id <;> rfl

/-- Restoring a filter comes to restoring its options in turn. -/
lemma exec_restore_at (s : Settings) (full : String) (default : Bool)
    (hget : w.filters.get? n = some (.offline f)) :
    let t := f.inTurn (s.restores full) (Settings.ordinaryOptions (.offline f))
    (restore n s full default).exec w = (gives t (s.flag full default), w.afterStep n t) := by
  intro t
  have hround : ∀ (w : Workbench) (f : OfflineFilter) (id : OptionId),
      w.filters.get? n = some (.offline f) →
      (restoreRound n s full id).exec w =
        (gives (s.restores full f id) (.yield ⟨⟩), w.afterStep n (s.restores full f id)) := by
    intro w f id hget
    refine (exec_bind_ok (exec_filter hget) _).trans ?_
    refine Eq.trans ?_ (exec_roundWith hget id (s.candidate? full (.offline f) id))
    cases s.candidate? full (.offline f) id <;> rfl
  have hloop := exec_inTurn hround hget (Settings.ordinaryOptions (.offline f))
  rw [restore_eq, exec_bind_ok (exec_filter hget), exec_bind_gives hloop]
  show (if t.panicked then _ else _) = _
  cases hpanicked : t.panicked <;> simp [gives, hpanicked] <;> rfl

/-- Trying the stored values comes to trying them in turn. -/
lemma exec_tryStored_at (s : Settings) (full : String)
    (hget : w.filters.get? n = some (.offline f)) :
    let t := f.inTurn (s.triesStored full) (Settings.ordinaryOptions (.offline f))
    (tryStored n s full).exec w = (gives t (), w.afterStep n t) := by
  intro t
  have hround : ∀ (w : Workbench) (f : OfflineFilter) (id : OptionId),
      w.filters.get? n = some (.offline f) →
      (do roundWith n id (s.stored? full (← filter n) id) : Bench (ForInStep PUnit)).exec w =
        (gives (s.triesStored full f id) (.yield ⟨⟩), w.afterStep n (s.triesStored full f id)) := by
    intro w f id hget
    exact (exec_bind_ok (exec_filter hget) _).trans (exec_roundWith hget id _)
  have hloop := exec_inTurn hround hget (Settings.ordinaryOptions (.offline f))
  rw [tryStored_eq, exec_bind_ok (exec_filter hget), exec_bind_gives hloop]
  show (if t.panicked then _ else _) = _
  cases hpanicked : t.panicked <;> simp [gives, hpanicked] <;> rfl

end Bench

namespace Workbench

open OfflineFilter

variable {w : Workbench} {n : Nat} {f : OfflineFilter}

/-- A live offline filter that is restored cannot be told from one on which every stored value is
tried: for all options that it has but the flag, in the order of their numbers, and with failures
passed over. Both have parameters that agree, and the same has been told. The flag is left as it is,
and no subscriber who does not fail badly makes restoring fail. What comes back is whether a number
other than zero is stored for the flag, or the default if nothing is. -/
theorem restore_tries_stored (hw : w.Reachable) (hget : w.filters.get? n = some (.offline f))
    (hlive : f.destroyed = false) (s : Settings) (full : String) (default : Bool) :
    ∃ t u : Told OfflineFilter,
      (Bench.restore n s full default).exec w = (gives t (s.flag full default), w.afterStep n t) ∧
      (Bench.tryStored n s full).exec w = (gives u (), w.afterStep n u) ∧ ToldAlike t u ∧
      t.state.params.enabled = f.params.enabled ∧ (f.Calm → t.panicked = false) ∧
      (∀ id, id ∈ Settings.ordinaryOptions (.offline f) ↔
        id ≠ .toggle ∧ ∃ m, (Filter.offline f).model id = .ok m) ∧
      (Settings.ordinaryOptions (.offline f)).Pairwise (fun i j => i.value < j.value) ∧
      (s.flag full default = true ↔
        (∃ v, s.get? (Settings.enabledKey full) = some v ∧ v.number? ≠ some 0) ∨
          s.get? (Settings.enabledKey full) = none ∧ default = true) := by
  have hf : f.Valid := (hw.sound.filters n _ hget).2
  have hordinary : ∀ id ∈ Settings.ordinaryOptions (.offline f), id ≠ .toggle :=
    fun id hid => ((Settings.mem_ordinaryOptions hf).mp hid).1
  have halike : ToldAlike (f.inTurn (s.restores full) (Settings.ordinaryOptions (.offline f)))
      (f.inTurn (s.triesStored full) (Settings.ordinaryOptions (.offline f))) :=
    inTurn_alike
      (fun id hid g hg => ⟨(keeps_triesAny hg (hordinary id hid) _).1,
        (keeps_triesAny hg (hordinary id hid) _).1⟩)
      (fun id _ g k hg hk hopen h => Settings.restores_alike hg hk hopen h) hf hf hlive (.refl hf)
  have hkeeps : f.Keeps (f.inTurn (s.restores full) (Settings.ordinaryOptions (.offline f))).state ∧
      _ :=
    keeps_inTurn (fun id hid g hg => keeps_triesAny hg (hordinary id hid) _) hf
  exact ⟨_, _, Bench.exec_restore_at s full default hget,
    Bench.exec_tryStored_at s full hget, halike,
    hkeeps.1.enabled, hkeeps.2, fun id =>
      Settings.mem_ordinaryOptions hf, Settings.sorted_ordinaryOptions hf,
    Settings.flag_iff⟩

/-- Settings with a value in the other form, one that is infinite, one that is there already, and no
number for the flag. -/
def oddSettings : Settings := ⟨[
  ("depth.Alpha", .int 1),
  ("depth.Delta", .float (.ofBits .double 0x7FF0000000000000)),
  ("depth.Persistency", .int 3),
  ("depth.Toggle", .int 1),
  ("depth.enabled", .float (.ofBits .double 0x7FF8000000000000))]⟩

/-- The odd settings are restored to a filter of which delta and the flag are watched. -/
theorem odd_settings_restored : ∃ f, watchedOffline.Reachable ∧
    watchedOffline.filters.get? 0 = some (.offline f) ∧ f.destroyed = false ∧
    ∃ t u : Told OfflineFilter,
      (Bench.restore 0 oddSettings "depth" false).exec watchedOffline =
        (gives t (oddSettings.flag "depth" false), watchedOffline.afterStep 0 t) ∧
      (Bench.tryStored 0 oddSettings "depth").exec watchedOffline =
        (gives u (), watchedOffline.afterStep 0 u) ∧ ToldAlike t u ∧
      t.state.params.enabled = f.params.enabled ∧ (f.Calm → t.panicked = false) ∧
      (∀ id, id ∈ Settings.ordinaryOptions (.offline f) ↔
        id ≠ .toggle ∧ ∃ m, (Filter.offline f).model id = .ok m) ∧
      (Settings.ordinaryOptions (.offline f)).Pairwise (fun i j => i.value < j.value) ∧
      (oddSettings.flag "depth" false = true ↔
        (∃ v, oddSettings.get? (Settings.enabledKey "depth") = some v ∧ v.number? ≠ some 0) ∨
          oddSettings.get? (Settings.enabledKey "depth") = none ∧ false = true) := by
  have hreach : watchedOffline.Reachable := .run .start _
  obtain ⟨f, hget, hlive, -⟩ := exists_watchedOffline
  exact ⟨f, hreach, hget, hlive, restore_tries_stored hreach hget hlive oddSettings "depth" false⟩

end Workbench

end EmbeddedFilters
