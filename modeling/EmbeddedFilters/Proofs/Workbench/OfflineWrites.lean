import EmbeddedFilters.Proofs.Filter.OfflineWrites
import EmbeddedFilters.Proofs.Workbench.SettingsRoundTrip

/-!
# Writes to offline filters

What a write to an offline filter does on the workbench: it is refused and nothing changes, or the
filter moves to other parameters and its news are told (`Workbench.WritesOffline`, `Bench.exec_to`).
So a run of writes leaves the workbench as it was but for the filter and for what its subscribers
have been told (`Workbench.offline_writes_exact`).
-/

namespace EmbeddedFilters

open Outcome

namespace FilterWrite

/-- What an offline filter makes of a write. A setter that only temporal filters have is nothing to
another one. -/
def attempt? (f : OfflineFilter) : FilterWrite → Option (Except FilterError (Told OfflineFilter))
  | option id value => some (f.setOption id value)
  | enable on => some (f.setOption .toggle (.ofBool on))
  | temporal setter =>
    if f.kind = .temporal then some (f.setOption setter.id setter.value) else none
  | bytes buffer => some (f.setBytes buffer)

/-- The parameters of a filter after a write: the option that is named has been set, or the buffer
denotes them. -/
def Makes (f : OfflineFilter) (p : Parameters) : FilterWrite → Prop
  | option id value => f.SetsOption id value p
  | enable on => f.SetsOption .toggle (.ofBool on) p
  | temporal setter => f.SetsOption setter.id setter.value p
  | bytes buffer => Parameters.decode f.kind buffer = .ok p

variable {f : OfflineFilter} {c : FilterWrite}

/-- A write that is taken makes valid parameters of the filter's kind, and the filter moves to
them. -/
lemma of_attempt? (hf : f.Valid) {t : Told OfflineFilter} (h : c.attempt? f = some (.ok t)) :
    ∃ p, c.Makes f p ∧ p.kind = f.kind ∧ p.validate = .ok () ∧ t = f.moved p := by
  cases c with
  | option id value => exact OfflineFilter.of_setOption hf (Option.some.inj h)
  | enable on => exact OfflineFilter.of_setOption hf (Option.some.inj h)
  | temporal setter =>
    rw [attempt?] at h
    split at h
    · exact OfflineFilter.of_setOption hf (Option.some.inj h)
    · cases h
  | bytes buffer => exact OfflineFilter.of_setBytes (Option.some.inj h)

/-- The only writes that a filter lacks are those of temporal options. -/
lemma lacks_of_attempt? (h : c.attempt? f = none) :
    (∃ setter, c = .temporal setter) ∧ f.kind ≠ .temporal := by
  cases c with
  | temporal setter =>
    rw [attempt?] at h
    split at h
    · cases h
    · rename_i hkind
      exact ⟨⟨setter, rfl⟩, hkind⟩
  | _ => cases h

end FilterWrite

namespace Workbench

/-- What comes of a write to an offline filter. It is refused and nothing changes; or it is by a
setter that the filter does not have, and has nothing to do; or the filter has the parameters that
the write makes, which pass their checks, and the news of that are told. -/
inductive WritesOffline (w : Workbench) (n : Nat) (f : OfflineFilter) (c : FilterWrite) :
    Except Fault Unit × Workbench → Prop where
  | refused (e : FilterError) : WritesOffline w n f c (.error (.filter e), w)
  | lacking (setter : TemporalSetter) : c = .temporal setter → f.kind ≠ .temporal →
      WritesOffline w n f c (.ok (), w)
  | taken (p : Parameters) : c.Makes f p → p.kind = f.kind → p.validate = .ok () →
      WritesOffline w n f c (.ok (),
        (w.withOffline n { f with params := p }).telling (f.news { f with params := p }))

/-- The workbench after writes to a filter, one after another, whatever comes of each. -/
def afterWrites (n : Nat) (w : Workbench) (writes : List FilterWrite) : Workbench :=
  writes.foldl (fun w c => ((c.to n).exec w).2) w

variable {w : Workbench} {n : Nat}

/-- Deliveries are told one list after the other. -/
lemma telling_append (w : Workbench) (first last : List Delivery) :
    w.telling (first ++ last) = (w.telling first).telling last := by
  simp only [telling, List.filterMap_append, List.append_assoc, List.foldl_append]

/-- Telling and putting a filter in place do not disturb each other. -/
lemma withOffline_telling (w : Workbench) (told : List Delivery) (n : Nat) (f : OfflineFilter) :
    (w.telling told).withOffline n f = (w.withOffline n f).telling told := rfl

end Workbench

namespace Bench

variable {w : Workbench} {n : Nat} {f : OfflineFilter}

/-- What an offline filter makes of a write of an option is announced. -/
lemma exec_writeOption_at (hget : w.filters.get? n = some (.offline f))
    (id : OptionId) (value : OptionValue) :
    (writeOption n id value).exec w = (do
      let _ ← announce n ((← ofFilter (f.setOption id value)).map .offline) : Bench Unit).exec w :=
  exec_bind_ok (exec_filter hget) _

/-- What an offline filter makes of a write of bytes is announced. -/
lemma exec_writeBytes_at (hget : w.filters.get? n = some (.offline f)) (buffer : List UInt8) :
    (writeBytes n buffer).exec w = (do
      let _ ← announce n ((← ofFilter (f.setBytes buffer)).map .offline) : Bench Unit).exec w :=
  exec_bind_ok (exec_filter hget) _

/-- A write to an offline filter comes to what the filter makes of it. -/
lemma exec_to (hget : w.filters.get? n = some (.offline f)) (c : FilterWrite) :
    (c.to n).exec w = match c.attempt? f with
      | none => (.ok (), w)
      | some outcome => (do
          let _ ← announce n ((← ofFilter outcome).map .offline) : Bench Unit).exec w := by
  cases c with
  | option id value => exact exec_writeOption_at hget id value
  | enable on => exact exec_writeOption_at hget _ _
  | bytes buffer => exact exec_writeBytes_at hget buffer
  | temporal setter =>
    rw [FilterWrite.to, exec_bind_ok (exec_filter hget), FilterWrite.attempt?]
    show (if f.kind = .temporal then writeOption n setter.id setter.value else pure ()).exec w = _
    split
    · exact exec_writeOption_at hget _ _
    · rfl

/-- What is announced is told, and the filter put in its place. -/
lemma exec_announced (n : Nat) (t : Told OfflineFilter) (w : Workbench) :
    (do let _ ← announce n ((← ofFilter (.ok t)).map .offline) : Bench Unit).exec w =
      (if t.panicked then .error .panic else .ok (),
        (w.withOffline n t.state).telling t.deliveries) := by
  rw [exec_bind_ok (exec_ofFilter_ok _ _), exec_bind, exec_announce]
  cases hpanicked : t.panicked <;> simp [Told.map, hpanicked, Workbench.withOffline]

/-- A write to an offline filter of which nobody who is told fails badly. -/
lemma writesOffline_to (hf : f.Valid) (hcalm : f.Calm) (hget : w.filters.get? n = some (.offline f))
    (c : FilterWrite) : w.WritesOffline n f c ((c.to n).exec w) := by
  rw [exec_to hget]
  cases hc : c.attempt? f with
  | none =>
    obtain ⟨⟨setter, rfl⟩, hkind⟩ := FilterWrite.lacks_of_attempt? hc
    exact .lacking setter rfl hkind
  | some outcome =>
    cases outcome with
    | error e => exact .refused e
    | ok t =>
      obtain ⟨p, hmakes, hkind, hp, rfl⟩ := FilterWrite.of_attempt? hf hc
      dsimp only
      rw [exec_announced, OfflineFilter.moved_calm hf hcalm hkind hp]
      exact .taken p hmakes hkind hp

end Bench

namespace Workbench

variable {w : Workbench} {n : Nat} {f : OfflineFilter}

/-- A filter that has moved to other parameters has the same subscribers, who are told of the next
writes. -/
lemma exists_afterWrites (hf : f.Valid) (hcalm : f.Calm)
    (hget : w.filters.get? n = some (.offline f)) (writes : List FilterWrite) :
    ∃ (p : Parameters) (told : List Delivery), p.kind = f.kind ∧ p.validate = .ok () ∧
      w.afterWrites n writes = (w.withOffline n { f with params := p }).telling told ∧
      ∀ m ∈ f.watcher.active, ∀ v u, (Filter.offline f).query m.id = .ok u → v.agrees u = true →
        ∃ u', (Filter.offline { f with params := p }).query m.id = .ok u' ∧
          (m.remembers v told).agrees u' = true := by
  induction writes generalizing w f with
  | nil =>
    refine ⟨f.params, [], rfl, hf.params, ?_, fun m _ v u hu hv => ⟨u, hu, hv⟩⟩
    rw [telling_nil, withOffline_self hget]
    rfl
  | cons c writes ih =>
    have hcons : w.afterWrites n (c :: writes) = ((c.to n).exec w).2.afterWrites n writes := rfl
    rw [hcons]
    cases hwrites : (c.to n).exec w with
    | mk r v =>
      have hfirst := Bench.writesOffline_to hf hcalm hget c
      rw [hwrites] at hfirst
      cases hfirst with
      | refused e => exact ih hf hcalm hget
      | lacking setter _ _ => exact ih hf hcalm hget
      | taken q hmakes hkind hq =>
        have hg := hf.withParams hkind hq
        obtain ⟨p, told, hp, hvalid, hafter, hremembers⟩ := ih (f := { f with params := q })
          (w := (w.withOffline n { f with params := q }).telling (f.news { f with params := q }))
          hg hcalm (Pool.get?_put_self _ _ _)
        refine ⟨p, f.news { f with params := q } ++ told, hp.trans hkind, hvalid, ?_, ?_⟩
        · rw [hafter, withOffline_telling, withOffline_withOffline, telling_append]
        · intro m hm v u hu hv
          obtain ⟨u', hu', hv'⟩ := OfflineFilter.remembers_news hf hg hkind hm hu hv
          rw [Subscriber.remembers_append]
          exact hremembers m hm _ u' hu' hv'

/-- Writes to an offline filter do what they state and nothing else. After any writes the filter has
parameters that pass their checks, and the workbench is what it was but for these and for what has
been told. The next write is refused and changes nothing, or it sets what it names and the news are
told. And every subscriber who has started from what could be queried has what can be queried
now. -/
theorem offline_writes_exact (hw : w.Reachable) (hget : w.filters.get? n = some (.offline f))
    (hcalm : f.Calm) (writes : List FilterWrite) :
    ∃ (g : OfflineFilter) (told : List Delivery), g = { f with params := g.params } ∧
      g.kind = f.kind ∧
      g.params.validate = .ok () ∧ w.afterWrites n writes = (w.withOffline n g).telling told ∧
      (∀ c : FilterWrite,
        (w.afterWrites n writes).WritesOffline n g c ((c.to n).exec (w.afterWrites n writes))) ∧
      ∀ m ∈ f.watcher.active, ∀ start, (Filter.offline f).query m.id = .ok start →
        ∃ v, (Filter.offline g).query m.id = .ok v ∧ (m.remembers start told).agrees v = true := by
  have hf : f.Valid := (hw.sound.filters n _ hget).2
  obtain ⟨p, told, hkind, hp, hafter, hremembers⟩ := exists_afterWrites hf hcalm hget writes
  refine ⟨{ f with params := p }, told, rfl, hkind, hp, hafter, fun c => ?_,
    fun m hm start hstart => ?_⟩
  · refine Bench.writesOffline_to (hf.withParams hkind hp) hcalm ?_ c
    rw [hafter]
    exact Pool.get?_put_self _ _ _
  · obtain ⟨name, -, -, hfind⟩ := hf.of_query hstart
    exact hremembers m hm start start hstart (Parameters.agrees_self hf.params hfind)

/-- A temporal filter that works offline, with a callback that has subscribed to delta and one that
has subscribed to the flag. -/
def watchedOffline : Workbench :=
  ({} : Workbench).run [(.placeOffline "filter" .temporal "depth" none, false),
    (.onChange "filter" .delta "delta" false, false),
    (.onChange "filter" .toggle "toggle" false, false)]

/-- The filter is there, and its two callbacks do not fail badly. -/
lemma exists_watchedOffline :
    ∃ f, watchedOffline.filters.get? 0 = some (.offline f) ∧ f.destroyed = false ∧
      f.Calm ∧ f.watcher.active.map (·.id) = [.delta, .toggle] := by
  have hoffline : (watchedOffline.remote? 0).isNone = true := by decide +kernel
  have hthere : (watchedOffline.filters.get? 0).map (fun f => (f.state, f.watcher.active.map (·.id),
      f.watcher.active.all (!·.listener.panics))) = some (.populated, [.delta, .toggle], true) := by
    decide +kernel
  obtain ⟨f, hget, hf⟩ := Option.map_eq_some_iff.mp hthere
  obtain ⟨hstate, hf⟩ := Prod.ext_iff.mp hf
  obtain ⟨hactive, hcalm⟩ := Prod.ext_iff.mp hf
  cases f with
  | remote f =>
    rw [remote?_eq_some.mpr hget] at hoffline
    cases hoffline
  | offline f =>
    refine ⟨f, hget, ?_, fun m hm => ?_, hactive⟩
    · cases hdestroyed : f.destroyed with
      | false => rfl
      | true =>
        have hstate : f.state = .populated := hstate
        rw [OfflineFilter.state, hdestroyed] at hstate
        cases hstate
    · exact Bool.not_eq_true' _ ▸ List.all_eq_true.mp hcalm m hm

/-- Delta is set, refused and set again, and the filter is switched on. Both callbacks have what can
be queried. -/
theorem delta_and_flag_remembered : ∃ f, watchedOffline.Reachable ∧
    watchedOffline.filters.get? 0 = some (.offline f) ∧ f.Calm ∧
    f.watcher.active.map (·.id) = [.delta, .toggle] ∧
    let writes : List FilterWrite :=
      [.option .delta (.int 30), .temporal (.delta 500), .enable true]
    ∃ (g : OfflineFilter) (told : List Delivery), g = { f with params := g.params } ∧
      g.kind = f.kind ∧
      g.params.validate = .ok () ∧
      watchedOffline.afterWrites 0 writes = (watchedOffline.withOffline 0 g).telling told ∧
      (∀ c : FilterWrite, (watchedOffline.afterWrites 0 writes).WritesOffline 0 g c
        ((c.to 0).exec (watchedOffline.afterWrites 0 writes))) ∧
      ∀ m ∈ f.watcher.active, ∀ start, (Filter.offline f).query m.id = .ok start →
        ∃ v, (Filter.offline g).query m.id = .ok v ∧ (m.remembers start told).agrees v = true := by
  have hreach : watchedOffline.Reachable := .run .start _
  obtain ⟨f, hget, -, hcalm, hactive⟩ := exists_watchedOffline
  exact ⟨f, hreach, hget, hcalm, hactive, offline_writes_exact hreach hget hcalm _⟩

end Workbench

end EmbeddedFilters
