import EmbeddedFilters.Proofs.Remote.Hearing
import EmbeddedFilters.Proofs.Workbench.Reports

/-!
# Writes with reports in between

While a link has the message of a write, the filter may be handed any number of reports
(`Bench.intervene`). What it takes over of them stays: a write that goes through lays the options
that it assigns over the values as they are then, and one that fails leaves them alone
(`RemoteFilter.reports_survive_write`).
-/

namespace EmbeddedFilters

open Outcome Assignment

/-- What happens while a link has a message: a filter is handed reports one after another, and then
the link gives the outcome. -/
structure Interlude where
  reports : List (List Assignment)
  outcome : Except LinkError Unit

namespace RemoteFilter

/-- A write to a filter that passes all checks is prepared, and assigns the option that it names, or
those that the parameters in a buffer stand for. -/
inductive Prepares (f : RemoteFilter) (s : Submission) : List Assignment → Prop where
  | option {id : OptionId} {value : OptionValue} {name : String} :
    f.prepareOption id value = .ok s → IdTable.name? {} id = some name →
    f.Prepares s [⟨name, value⟩]
  | bytes {bytes : List UInt8} {params : Parameters} :
    f.prepareBytes bytes = .ok s → Parameters.decode f.kind bytes = .ok params →
      f.Prepares s params.toOptions

variable {f : RemoteFilter} {s : Submission} {own : List Assignment}

/-- Only a live filter has prepared a write. -/
lemma Prepares.live (h : f.Prepares s own) : f.destroyed = false := by
  cases h with
  | option h _ =>
    obtain ⟨_, _, _, -, -, -, hlive, -⟩ := prepareOption_eq_ok.mp h
    exact hlive
  | bytes h _ => exact (prepareBytes_eq_ok.mp h).1

/-- A write through a model names the option that the model is of. -/
lemma prepares_of_prepareOption (hf : f.Valid) {id : OptionId} {value : OptionValue}
    (h : f.prepareOption id value = .ok s) :
    ∃ name, IdTable.name? {} id = some name ∧ f.Prepares s [⟨name, value⟩] := by
  obtain ⟨models, m, v, hmodels, hm, -⟩ := prepareOption_eq_ok.mp h
  have hname := OptionId.name?_of_ofName? (hf.of_model hmodels hm).1
  exact ⟨m.name, hname, .option h hname⟩

/-- What has been prepared follows from what the write assigns. -/
lemma Prepares.updates (hf : f.Valid) (h : f.Prepares s own) : s.Updates f.proxy own := by
  cases h with
  | option h hname =>
    have hupdates := (RemoteWrite.of_prepareOption hf h).1
    rw [hname] at hupdates
    exact hupdates
  | bytes h hdecode =>
    obtain ⟨params, hparams, hupdates, -⟩ := RemoteWrite.of_prepareBytes h
    cases hdecode.symm.trans hparams
    exact hupdates

/-- What has been prepared is settled like what the write assigns. -/
lemma Prepares.merge_updates (hf : f.Valid) (h : f.Prepares s own) {q : RemoteProxy}
    (hq : f.proxy.Evolves q) : q.merge s.updates = q.merge own := by
  cases h with
  | option h hname =>
    obtain ⟨models, m, v, hmodels, hm, haccept, -, hprepare⟩ := prepareOption_eq_ok.mp h
    obtain ⟨-, -, hcheck⟩ := OptionModel.of_accept haccept
    obtain ⟨hid, hdeclaration⟩ := hf.of_model hmodels hm
    obtain ⟨-, merged, link, -, -, rfl⟩ := RemoteProxy.prepare_eq_ok.mp hprepare
    cases (OptionId.name?_of_ofName? hid).symm.trans hname
    have hlater : q.record.declaration? m.name = some m.declaration := by
      rw [hq.record]
      exact hdeclaration
    simp only [RemoteProxy.merge, RemoteWrite.merge_checked hlater hcheck]
  | bytes h hdecode =>
    obtain ⟨-, params, hparams, hprepare⟩ := prepareBytes_eq_ok.mp h
    cases hdecode.symm.trans hparams
    obtain ⟨⟨⟩, -, hprepare⟩ := bind_eq_ok.mp hprepare
    obtain ⟨-, merged, link, -, -, rfl⟩ := RemoteProxy.prepare_eq_ok.mp hprepare
    rfl

/-- A live filter takes a report over exactly if its proxy does. -/
lemma notify_of_live (hlive : f.destroyed = false) (options : List Assignment) :
    f.notify options = (f.proxy.absorb options).map fun out => f.announce out.1 out.2 := by
  rw [notify, ensureLive_eq_ok.mpr hlive, ok_bind]
  cases f.proxy.absorb options <;> rfl

end RemoteFilter

namespace Bench

variable {w : Workbench}

/-- Hands a filter the reports of an interlude and gives its outcome. -/
def intervene (n : Nat) (i : Interlude) : Bench (Except LinkError Unit) := do
  i.reports.forM fun options => do let _ ← hand (.filter n) options
  return i.outcome

/-- A filter that is handed a report has heard it afterwards. -/
lemma exec_hand_report {n : Nat} {f : RemoteFilter} (hget : w.filters.get? n = some (.remote f))
    (hlive : f.destroyed = false) (options : List Assignment) :
    ∃ outcome v g, (hand (.filter n) options).exec w = (.ok outcome, v) ∧
      v.filters.get? n = some (.remote g) ∧ g.destroyed = false ∧
      g.proxy = f.proxy.hear [options] := by
  have hnotify := f.notify_of_live hlive options
  unfold RemoteProxy.hear
  cases habsorb : f.proxy.absorb options with
  | error e =>
    rw [habsorb] at hnotify
    exact ⟨_, w, f, exec_hand_refused hget hnotify, hget, hlive, rfl⟩
  | ok out =>
    rw [habsorb] at hnotify
    have hexec := exec_hand_taken hget hnotify
    exact ⟨_, _, (f.announce out.1 out.2).state, hexec, Pool.get?_put_self _ _ _, hlive, rfl⟩

/-- A filter that is handed reports one after another has heard all of them afterwards. -/
lemma exec_hand_reports {n : Nat} {f : RemoteFilter} (hget : w.filters.get? n = some (.remote f))
    (hlive : f.destroyed = false) (reports : List (List Assignment)) :
    ∃ v g, (reports.forM fun options => do let _ ← hand (.filter n) options).exec w = (.ok (), v) ∧
      v.filters.get? n = some (.remote g) ∧ g.proxy = f.proxy.hear reports := by
  induction reports generalizing w f with
  | nil => exact ⟨w, f, rfl, hget, rfl⟩
  | cons options reports ih =>
    obtain ⟨outcome, v, g, hhand, hgetv, hliveg, hg⟩ := exec_hand_report hget hlive options
    obtain ⟨u, k, hrest, hgetu, hk⟩ := ih hgetv hliveg
    refine ⟨u, k, ?_, hgetu, ?_⟩
    · exact (exec_bind_ok (exec_bind_ok hhand _) _).trans hrest
    · rw [RemoteProxy.hear_cons, ← hg, hk]

end Bench

namespace RemoteFilter

variable {f : RemoteFilter} {s : Submission} {own : List Assignment}

/-- Reports that a filter takes over while a write is on its way survive the write. If the write
goes through, the values are the former ones with the heeded reports merged into them and the
options of the write, and these alone, laid over that; this cannot fail, so the values that were
sent are not fallen back on. If the link fails, the values are the former ones with the heeded
reports merged into them. -/
theorem reports_survive_write {w : Workbench} (hw : w.Reachable) {n : Nat}
    (hget : w.filters.get? n = some (.remote f)) (hprepared : f.Prepares s own) (i : Interlude) :
    ∃ g heard,
      f.proxy.record.merge (f.proxy.heeded i.reports).flatten = .ok heard ∧
      ((Bench.carryBy (Bench.intervene n i) (Bench.changeProxy n) s).exec w).2.filters.get? n =
        some (.remote g) ∧
      (i.outcome = .ok () →
        ((Bench.carryBy (Bench.intervene n i) (Bench.changeProxy n) s).exec w).1 = .ok () ∧
          (f.proxy.record.withValues heard).merge own = .ok g.proxy.record.current ∧
          ∃ values, (f.proxy.hear i.reports).merge s.updates = .ok values ∧
            g.proxy = (f.proxy.hear i.reports).withValues values) ∧
      ∀ e, i.outcome = .error e →
        ((Bench.carryBy (Bench.intervene n i) (Bench.changeProxy n) s).exec w).1 =
            .error (.filter e.toFilterError) ∧
          g.proxy.record.current = heard := by
  have hf : f.Valid := (hw.sound.filters n _ hget).2
  obtain ⟨v, k, hreports, hgetv, hk⟩ := Bench.exec_hand_reports hget hprepared.live i.reports
  have hintervene : (Bench.intervene n i).exec w = (.ok i.outcome, v) :=
    Bench.exec_bind_ok hreports _
  have hheard := RemoteProxy.merge_heeded hf.proxy i.reports
  have hevolves := f.proxy.evolves_hear i.reports
  cases houtcome : i.outcome with
  | error e =>
    rw [houtcome] at hintervene
    rw [Bench.exec_carryBy_error hintervene]
    refine ⟨k, _, hheard, hgetv, fun h => ?_, fun _ h => ?_⟩
    · cases h
    · cases h
      rw [hk]
      exact ⟨rfl, rfl⟩
  | ok u =>
    rw [houtcome] at hintervene
    have hupdates := hprepared.updates hf
    have hmerge : f.proxy.merge own = .ok s.merged :=
      RemoteProxy.merge_eq_ok.mpr ⟨hupdates.merged, hupdates.params⟩
    obtain ⟨values, hvalues⟩ :=
      RemoteProxy.exists_merge_of_evolves hf.proxy hevolves hmerge hupdates.nodup
    have hsettled : (f.proxy.hear i.reports).merge s.updates = .ok values :=
      (hprepared.merge_updates hf hevolves).trans hvalues
    rw [Bench.exec_carryBy_ok hintervene, Bench.exec_changeProxy hgetv, hk, RemoteProxy.settle,
      hsettled]
    refine ⟨_, _, hheard, Pool.get?_put_self _ _ _, fun _ => ⟨rfl, ?_, values, rfl, rfl⟩,
      fun _ h => ?_⟩
    · rw [← hevolves.record]
      exact (RemoteProxy.merge_eq_ok.mp hvalues).1
    · cases h

/-- A link on whose way the device reports a value for delta and then one that is out of range. -/
def reportingDelta : Interlude := ⟨[[⟨"Delta", .int 77⟩], [⟨"Delta", .int 101⟩]], .ok ()⟩

/-- The value that is reported for delta survives a write to alpha; the other one is refused. -/
theorem delta_survives_alpha : ∃ (w : Workbench) (f : RemoteFilter) (s : Submission)
    (g : RemoteFilter) (heard : List Assignment),
    w.Reachable ∧ w.filters.get? 0 = some (.remote f) ∧ f.Prepares s [⟨"Alpha", .int 1⟩] ∧
      f.proxy.heeded reportingDelta.reports = [[⟨"Delta", .int 77⟩]] ∧
      f.proxy.record.merge [⟨"Delta", .int 77⟩] = .ok heard ∧
      ((Bench.carryBy (Bench.intervene 0 reportingDelta) (Bench.changeProxy 0) s).exec
        w).2.filters.get? 0 = some (.remote g) ∧
      (f.proxy.record.withValues heard).merge [⟨"Alpha", .int 1⟩] =
        .ok g.proxy.record.current := by
  have hreach := Workbench.Reachable.start.run (RemoteWrite.wiring {})
  have hprepared : (((({} : Workbench).run (RemoteWrite.wiring {})).remote? 0).any fun f =>
      (f.prepareOption .alpha (.int 1)).toBool) = true := by decide +kernel
  have hheeded : ((({} : Workbench).run (RemoteWrite.wiring {})).remote? 0).map (fun f =>
      f.proxy.heeded reportingDelta.reports) = some [[⟨"Delta", .int 77⟩]] := by decide +kernel
  generalize ({} : Workbench).run (RemoteWrite.wiring {}) = w at hreach hprepared hheeded
  obtain ⟨f, hf, hheeded⟩ := Option.map_eq_some_iff.mp hheeded
  have hget := Workbench.remote?_eq_some.mp hf
  rw [hf, Option.any_some] at hprepared
  cases hs : f.prepareOption .alpha (.int 1) with
  | error e => rw [hs] at hprepared; cases hprepared
  | ok s =>
    have hprepares : f.Prepares s [⟨"Alpha", .int 1⟩] := .option hs (by decide)
    obtain ⟨g, heard, hheard, hg, hok, -⟩ :=
      reports_survive_write hreach hget hprepares reportingDelta
    rw [hheeded] at hheard
    exact ⟨w, f, s, g, heard, hreach, hget, hprepares, hheeded, hheard, hg, (hok rfl).2.1⟩

end RemoteFilter

end EmbeddedFilters
