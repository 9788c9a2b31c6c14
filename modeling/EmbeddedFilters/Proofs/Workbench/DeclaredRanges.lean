import EmbeddedFilters.Proofs.Options.Ranges
import EmbeddedFilters.Proofs.Workbench.Sending

/-!
# Values within what is declared

What is written to a filter or reported of it is checked against the declarations of its options, so
a filter whose values are within what is declared keeps them there, whatever is done with it
(`RemoteProxy.Evolves.conforms`), and sends nothing else. The values that a filter starts with are
checked only where the advertisement lists them apart from the declarations. A present value or a
default that stands in a declaration itself is taken as it is, so a filter stays within what is
declared exactly if these seeds are (`RemoteFilter.stays_within_declarations`), and one that starts
outside shows and sends what the device has not declared
(`RemoteFilter.seed_outside_declared_range`).
-/

namespace EmbeddedFilters

open Outcome Assignment

/-- The value is of the declared kind, passes the check as it is, and lies in the range, if the
bounds that are stated are numbers. -/
structure Declaration.Holds (d : Declaration) (v : OptionValue) : Prop where
  kind : v.kind = d.kind
  check : d.check v = .ok v
  range : d.Bounded → d.range.contains v.toDouble = true

/-- The present values and defaults that an advertisement does not replace by current ones pass the
checks of their own declarations as they are. -/
def Advertisement.SeedsAdmitted (a : Advertisement) : Prop :=
  ∀ d ∈ a.options, d.name ∉ names a.current → d.check d.initial = .ok d.initial

/-- The message asks to set options to values that these declarations hold. -/
def Message.Respects (declarations : List Declaration) (m : Message) : Prop :=
  ∃ name kind options,
    Json.decodePayload ControlRequest.decoder m.payload = some (.setOptions name kind options) ∧
    ∀ a ∈ options, ∃ d ∈ declarations, d.name = a.name ∧ d.Holds a.value

namespace FilterRecord

variable {r : FilterRecord} {a : Assignment}

/-- A finite value that is allowed is held by its declaration. -/
lemma Allows.holds (h : r.Allows a) (hfinite : a.value.IsFinite) :
    ∃ d, r.declaration? a.name = some d ∧ d.Holds a.value := by
  obtain ⟨d, hd, hcheck⟩ := h
  exact ⟨d, hd, Declaration.kind_of_check hcheck, hcheck,
    fun hbounded => Declaration.contains_of_check hbounded hcheck hfinite⟩

/-- The values that the record of an advertised filter starts with are all allowed exactly if the
seeds are. -/
lemma conforms_ofAdvertisement {a : Advertisement} (h : ofAdvertisement a = .ok r)
    (hnd : (a.options.map (·.name)).Nodup) : r.Conforms ↔ a.SeedsAdmitted := by
  obtain ⟨values, hmerge, rfl⟩ := ofAdvertisement_eq h
  have hdeclared : names (declared a).current = a.options.map (·.name) := by
    simp [declared, names, Declaration.assignment]
  have hvalues : names values = a.options.map (·.name) := (names_of_merge hmerge).trans hdeclared
  have hfound : ∀ d ∈ a.options, ((declared a).withValues values).declaration? d.name = some d :=
    fun d hd => declaration?_of_mem (r := (declared a).withValues values) hnd hd
  -- an option that no current value names has its seed
  have hseed : ∀ d ∈ a.options, d.name ∉ names a.current →
      find? d.name values = some d.initial := by
    intro d hd hname
    rw [find?_of_merge hmerge hname]
    exact find?_of_mem (a := d.assignment) (hdeclared ▸ hnd) (List.mem_map_of_mem hd)
  constructor
  · intro hconforms d hd hname
    obtain ⟨e, he, hcheck⟩ := hconforms _ (mem_of_find? (hseed d hd hname))
    rw [hfound d hd] at he
    exact Option.some.inj he ▸ hcheck
  · intro hseeds b hb
    have hvalue : find? b.name values = some b.value := find?_of_mem (hvalues ▸ hnd) hb
    by_cases hname : b.name ∈ names a.current
    · obtain ⟨v, hv⟩ := exists_find?_reverse hname
      obtain ⟨d, checked, hd, hcheck, hfind⟩ := last_of_merge hmerge hv
      rw [hvalue] at hfind
      obtain rfl := Option.some.inj hfind
      exact ⟨d, hd, Declaration.check_idem hcheck⟩
    · have hmem : b.name ∈ a.options.map (·.name) := hvalues ▸ List.mem_map_of_mem hb
      obtain ⟨d, hd, hdname⟩ := List.mem_map.mp hmem
      have hseeded := hseed d hd (hdname ▸ hname)
      rw [hdname, hvalue] at hseeded
      exact ⟨d, hdname ▸ hfound d hd, Option.some.inj hseeded ▸ hseeds d hd (hdname ▸ hname)⟩

end FilterRecord

namespace Workbench

/-- A valid filter with a number has these declarations, and values within them. -/
def Within (w : Workbench) (n : Nat) (declarations : List Declaration) : Prop :=
  w.Sound ∧ ∃ f, w.filters.get? n = some (.remote f) ∧ f.proxy.record.declarations = declarations ∧
    f.proxy.record.Conforms

/-- As long as the values of a filter are within these declarations they stay so, and all that is
sent meanwhile respects the declarations. -/
def SendsWithin (n : Nat) (declarations : List Declaration) (w v : Workbench) : Prop :=
  w.Within n declarations → v.Within n declarations ∧
    ∃ messages : List Message, v.links = messages.foldl Message.hand w.links ∧
      ∀ m ∈ messages, m.Respects declarations

/-- What is sent in two parts is sent one after the other. -/
instance (n : Nat) (declarations : List Declaration) :
    Bench.Course (SendsWithin n declarations) where
  refl _ h := ⟨h, [], rfl, by simp⟩
  trans h h' hwithin := by
    obtain ⟨hv, first, hfirst, hrespects⟩ := h hwithin
    obtain ⟨hu, second, hsecond, hrespects'⟩ := h' hv
    refine ⟨hu, first ++ second, ?_, fun m hm => ?_⟩
    · rw [hsecond, hfirst, List.foldl_append]
    · exact (List.mem_append.mp hm).elim (hrespects m) (hrespects' m)

end Workbench

namespace RemoteWrite

variable {w : Workbench} {p : RemoteProxy} {s : Submission}

/-- The request of a submission for values that are allowed respects the declarations. -/
lemma respects_of_updates {assigned : List Assignment} (h : s.Updates p assigned)
    (hp : p.record.Conforms) :
    Message.Respects p.record.declarations ⟨s.link, s.topic, s.request.payload⟩ := by
  refine ⟨p.name, p.kind, s.merged, (sets_of_updates h).payload, fun a ha => ?_⟩
  obtain ⟨params, hvalid⟩ := h.params
  obtain ⟨d, hd, hholds⟩ := (FilterRecord.allows_of_merge h.merged hp a ha).holds
    (Parameters.isFinite_of_ofOptions hvalid a ha)
  obtain ⟨hmem, hname⟩ := FilterRecord.of_declaration? hd
  exact ⟨d, hmem, hname, hholds⟩

/-- A write to a filter whose values are within its declarations sends nothing else. -/
lemma sends_within (hw : w.Sound) {c : RemoteWrite} (hp : c.proxy? w = some p)
    (hconforms : p.record.Conforms) :
    ∃ messages : List Message, (c.act.exec w).2.links = messages.foldl Message.hand w.links ∧
      ∀ m ∈ messages, m.Respects p.record.declarations := by
  cases resolves hw hp with
  | idle exec => exact ⟨[], by rw [exec]; rfl, by simp⟩
  | refused e exec => exact ⟨[], by rw [exec]; rfl, by simp⟩
  | carried holder s _ _ updates exec =>
    refine ⟨[⟨s.link, s.topic, s.request.payload⟩], ?_, fun m hm => ?_⟩
    · rw [exec]
      exact Bench.links_carry holder s
    · obtain rfl := List.mem_singleton.mp hm
      exact respects_of_updates updates hconforms

end RemoteWrite

namespace Bench

variable {w : Workbench} {n : Nat} {declarations : List Declaration}

/-- The write of an option keeps a filter within its declarations. -/
lemma sendsWithin_writeOption (id : OptionId) (value : OptionValue) :
    Within (Workbench.SendsWithin n declarations) (writeOption n id value) w := by
  rintro ⟨hw, f, hget, rfl, hconforms⟩
  obtain ⟨hv, hevolves⟩ := (orderly_writeOption n id value).continues hw
  obtain ⟨_, hgetv, hfg⟩ := hevolves.filters n _ hget
  cases hfg with
  | @remote _ g hfg =>
    refine ⟨⟨hv, g, hgetv, ?_, hfg.proxy.conforms hconforms⟩, ?_⟩
    · rw [FilterRecord.declarations, hfg.proxy.declarations?, FilterRecord.declarations]
    · exact RemoteWrite.sends_within (c := .option n id value) hw
        (Holder.proxy?_filter.mpr ⟨f, hget, rfl⟩) hconforms

end Bench

/-- All that the filter with a number has, shows and sends is held by these declarations. -/
structure Workbench.HoldsTo (w : Workbench) (n : Nat) (f : RemoteFilter)
    (declarations : List Declaration) : Prop where
  values : ∀ d ∈ declarations, ∃ v, f.proxy.value d.name = .ok v ∧ d.Holds v
  queries : ∀ id v, (Filter.remote f).query id = .ok v → ∃ m, (Filter.remote f).model id = .ok m ∧
    m.declaration ∈ declarations ∧ m.declaration.Holds v
  writes : ∀ c : RemoteWrite, c.holder? w = some (.filter n) → ∃ messages : List Message,
    (c.act.exec w).2.links = messages.foldl Message.hand w.links ∧
      ∀ m ∈ messages, m.Respects declarations
  restores : ∀ s full default, ∃ messages : List Message,
    ((Bench.restore n s full default).exec w).2.links = messages.foldl Message.hand w.links ∧
      ∀ m ∈ messages, m.Respects declarations

namespace RemoteFilter

variable {w : Workbench} {n : Nat} {f : RemoteFilter} {kind : FilterKind} {a : Advertisement}
  {topic : String}

/-- A filter that has been made for an advertisement starts within its declarations exactly if the
seeds do. -/
lemma MadeFor.conforms_iff (h : f.MadeFor kind a topic) :
    f.proxy.record.Conforms ↔ a.SeedsAdmitted := by
  obtain ⟨hvalid, -, hnames⟩ := h.valid
  exact FilterRecord.conforms_ofAdvertisement h.record.2.2 (hnames ▸ hvalid.proxy.nodup)

/-- A value of a valid filter that is allowed is held by its declaration. -/
lemma Valid.holds (hf : f.Valid) (hconforms : f.proxy.record.Conforms) {name : String}
    {v : OptionValue} (hv : f.proxy.value name = .ok v) :
    ∃ d, f.proxy.record.declaration? name = some d ∧ d.Holds v := by
  obtain ⟨params, hparams⟩ := hf.proxy.params
  have hmem := mem_of_find? (RemoteProxy.value_eq_ok.mp hv)
  exact (hconforms _ hmem).holds (Parameters.isFinite_of_ofOptions hparams _ hmem)

/-- A sound workbench holds a filter to its declarations as long as its values are within them and
there is one for each of them. -/
lemma holdsTo (hw : w.Sound) (hget : w.filters.get? n = some (.remote f))
    (hconforms : f.proxy.record.Conforms)
    (hnames : names f.proxy.record.current = f.proxy.record.declarations.map (·.name)) :
    w.HoldsTo n f f.proxy.record.declarations := by
  have hf : f.Valid := (hw.filters n _ hget).2
  refine ⟨fun d hd => ?_, fun id v hquery => ?_, fun c hheld => ?_, fun s full default => ?_⟩
  · have hmem : d.name ∈ names f.proxy.record.current := hnames ▸ List.mem_map_of_mem hd
    obtain ⟨v, hv⟩ := Option.isSome_iff_exists.mp ((isSome_find? _ _).mpr hmem)
    have hvalue : f.proxy.value d.name = .ok v := RemoteProxy.value_eq_ok.mpr hv
    obtain ⟨e, he, hholds⟩ := hf.holds hconforms hvalue
    rw [FilterRecord.declaration?_of_mem (hnames ▸ hf.proxy.nodup) hd] at he
    exact ⟨v, hvalue, Option.some.inj he ▸ hholds⟩
  · obtain ⟨m, hmodel, hvalue⟩ := bind_eq_ok.mp hquery
    obtain ⟨models, hmodels, hfind⟩ := bind_eq_ok.mp hmodel
    have hdeclared := (hf.of_model (models_eq_ok.mp hmodels) hfind).2
    obtain ⟨d, hd, hholds⟩ := hf.holds hconforms hvalue
    rw [hdeclared] at hd
    obtain rfl := Option.some.inj hd
    exact ⟨m, hmodel, (FilterRecord.of_declaration? hdeclared).1, hholds⟩
  · refine RemoteWrite.sends_within hw ?_ hconforms
    rw [RemoteWrite.proxy?, hheld]
    exact Holder.proxy?_filter.mpr ⟨f, hget, rfl⟩
  · have hrestore : Bench.Within (Workbench.SendsWithin n f.proxy.record.declarations)
        (Bench.restore n s full default) w :=
      Bench.Within.restore (fun id value _ => Bench.sendsWithin_writeOption id value) s full default
    exact (hrestore ⟨hw, f, hget, rfl, hconforms⟩).2

/-- Whatever is done after a remote filter has been made for an advertisement, all that the filter
has, shows and sends is held by the declarations of the options, exactly if the advertisement admits
its own seeds. -/
theorem stays_within_declarations (hw : w.Reachable) (hget : w.filters.get? n = some (.remote f))
    (hmade : f.MadeFor kind a topic) :
    a.SeedsAdmitted ↔ ∀ commands : List (Command × Bool), ∃ g : RemoteFilter,
      (w.run commands).filters.get? n = some (.remote g) ∧
        (w.run commands).HoldsTo n g a.options := by
  obtain ⟨-, -, hdeclared, hnames⟩ := FilterRecord.ofAdvertisement_ok hmade.record.2.2
  constructor
  · intro hseeds commands
    obtain ⟨hsound, hevolves⟩ := Workbench.continues_run commands hw.sound
    obtain ⟨_, hg, hfg⟩ := hevolves.filters n _ hget
    cases hfg with
    | @remote _ g hfg =>
      have hoptions : g.proxy.record.declarations = a.options := by
        rw [FilterRecord.declarations, hfg.proxy.declarations?, hdeclared]
        rfl
      refine ⟨g, hg, hoptions ▸ holdsTo hsound hg ?_ ?_⟩
      · exact hfg.proxy.conforms (hmade.conforms_iff.mpr hseeds)
      · rw [hfg.proxy.names, hnames, hoptions]
  · intro hall
    obtain ⟨g, hg, hholds⟩ := hall []
    cases hget.symm.trans hg
    refine hmade.conforms_iff.mp fun b hb => ?_
    have hmem : b.name ∈ a.options.map (·.name) := hnames ▸ List.mem_map_of_mem hb
    obtain ⟨d, hd, hdname⟩ := List.mem_map.mp hmem
    obtain ⟨v, hv, hdv⟩ := hholds.values d hd
    have hvalid : f.Valid := (hw.sound.filters n _ hget).2
    have hvalue := find?_of_mem hvalid.proxy.nodup hb
    rw [RemoteProxy.value_eq_ok, hdname] at hv
    obtain rfl := Option.some.inj (hvalue.symm.trans hv)
    have hoptions : f.proxy.record.declarations = a.options := by
      rw [FilterRecord.declarations, hdeclared]
      rfl
    have hnd : (f.proxy.record.declarations.map (·.name)).Nodup := by
      rw [hoptions, ← hnames]
      exact hvalid.proxy.nodup
    exact ⟨d, hdname ▸ FilterRecord.declaration?_of_mem hnd (hoptions ▸ hd), hdv.check⟩

/-- A temporal filter that its device advertises stays within its declarations when it is switched
on. -/
theorem temporal_stays_within_declarations :
    ∃ (w : Workbench) (f g : RemoteFilter) (a : Advertisement),
    w.Reachable ∧ w.filters.get? 0 = some (.remote f) ∧ f.MadeFor .temporal a "control" ∧
      a.SeedsAdmitted ∧ (w.run [(.enable "filter" true, false)]).filters.get? 0 = some (.remote g) ∧
      (w.run [(.enable "filter" true, false)]).HoldsTo 0 g a.options := by
  have hmade : (ofAdvertisement .temporal
      ((Device.ofConfig {}).advertise .temporal "depth").1 "control").toBool = true := by
    decide +kernel
  have hseeds : ((Device.ofConfig {}).advertise .temporal "depth").1.SeedsAdmitted := by
    have hall : ∀ d ∈ ((Device.ofConfig {}).advertise .temporal "depth").1.options,
        d.check d.initial = .ok d.initial := by decide +kernel
    exact fun d hd _ => hall d hd
  obtain ⟨f, hf⟩ := exists_of_toBool hmade
  have hreach := (Workbench.Reachable.start.run (advertising .temporal)).step
    (.placeRemote "filter" .temporal (.kept "props") "control") false
  obtain ⟨g, hg, hholds⟩ := (stays_within_declarations hreach (get?_placeRemote hf) (.inl hf)).mp
    hseeds [(.enable "filter" true, false)]
  exact ⟨_, f, g, _, hreach, get?_placeRemote hf, .inl hf, hseeds, hg, hholds⟩

/-- A temporal filter with a present value for delta beyond the maximum that is declared for it. -/
def narrow : Advertisement where
  name := "depth"
  kind := .temporal
  options := (Parameters.declarations .temporal).map fun d =>
    if d.name = "Delta" then { d with maximum := some (.int 50), value := some (.int 80) } else d

/-- The narrow filter is placed. -/
def narrowed : Workbench :=
  (({} : Workbench).run [(.keepAdvertisement "props" narrow, false)]).step
    (Command.placeRemote "filter" .temporal (.kept "props") "control").act false |>.2.2

/-- The filter that has been placed is made for the narrow advertisement. -/
lemma get?_narrowed : ∃ f, narrowed.filters.get? 0 = some (.remote f) ∧
    f.MadeFor .temporal narrow "control" := by
  have hmade : (ofAdvertisement .temporal narrow "control").toBool = true := by decide +kernel
  obtain ⟨f, hf⟩ := exists_of_toBool hmade
  refine ⟨f, ?_, .inl hf⟩
  have hexec := Bench.exec_placeRemote
    (w := ({} : Workbench).run [(.keepAdvertisement "props" narrow, false)])
    "filter" (.kept "props") rfl hf
  rw [narrowed, Workbench.step_state, Command.act, Bench.exec_bind, hexec]
  rfl

/-- The commands by which the narrow filter is wired to a scripted link. -/
def wiringNarrow : List (Command × Bool) :=
  [(.placeScript "link" {}, false), (.wire "filter" "link", false)]

/-- The narrow filter shows a value for delta that its declaration does not admit and that is not in
the range of its model; and it sends that value when it is switched on. -/
theorem seed_outside_declared_range : ∃ (f g : RemoteFilter) (m : OptionModel) (v : OptionValue)
    (message : Message) (options : List Assignment),
    narrowed.Reachable ∧ narrowed.filters.get? 0 = some (.remote f) ∧
      f.MadeFor .temporal narrow "control" ∧
      (narrowed.run wiringNarrow).filters.get? 0 = some (.remote g) ∧
      (Filter.remote g).model .delta = .ok m ∧ (Filter.remote g).query .delta = .ok v ∧
      m.declaration.check v ≠ .ok v ∧ m.declaration.range.contains v.toDouble = false ∧
      ((RemoteWrite.enable 0 true).act.exec (narrowed.run wiringNarrow)).2.links =
        message.hand (narrowed.run wiringNarrow).links ∧
      message.Sets g.proxy ((RemoteWrite.enable 0 true).assigned g.kind) options ∧
      find? "Delta" options = some v := by
  obtain ⟨f, hget, hmade⟩ := get?_narrowed
  have hreach : narrowed.Reachable := .step _ _ (.run .start _)
  have hlater := hreach.run wiringNarrow
  have hshown : ((narrowed.run wiringNarrow).remote? 0).any (fun g =>
      ((Filter.remote g).model .delta).toOption.any fun m =>
        ((Filter.remote g).query .delta).toOption.any fun v =>
          decide (m.name = "Delta") && !(m.declaration.check v).toBool &&
            !m.declaration.range.contains v.toDouble) = true := by decide +kernel
  have hbefore : (RemoteWrite.seen (narrowed.run wiringNarrow) 0).length = 0 := by decide +kernel
  have hafter : (RemoteWrite.seen ((RemoteWrite.enable 0 true).act.exec
      (narrowed.run wiringNarrow)).2 0).length = 1 := by decide +kernel
  generalize narrowed.run wiringNarrow = w at hlater hshown hbefore hafter ⊢
  obtain ⟨g, hg, hshown⟩ := (Option.any_eq_true _ _).mp hshown
  have hgetg := Workbench.remote?_eq_some.mp hg
  obtain ⟨m, hm, hshown⟩ := (Option.any_eq_true _ _).mp hshown
  obtain ⟨v, hv, hshown⟩ := (Option.any_eq_true _ _).mp hshown
  have hm := eq_ok_of_toOption hm
  have hv := eq_ok_of_toOption hv
  simp only [Bool.and_eq_true, Bool.not_eq_true', decide_eq_true_eq] at hshown
  obtain ⟨⟨hname, hcheck⟩, hrange⟩ := hshown
  have hp : (RemoteWrite.enable 0 true).proxy? w = some g.proxy :=
    Holder.proxy?_filter.mpr ⟨g, hgetg, rfl⟩
  have hquiet : ((RemoteWrite.enable 0 true).act.exec w).2 ≠ w := by
    intro hsame
    rw [hsame, hbefore] at hafter
    cases hafter
  cases RemoteWrite.resolves hlater.sound hp with
  | idle exec => exact absurd (by rw [exec]) hquiet
  | refused e exec => exact absurd (by rw [exec]) hquiet
  | carried holder s _ _ updates exec =>
    have hsets := RemoteWrite.sets_of_updates updates
    have hother : "Delta" ∉ names ((RemoteWrite.enable 0 true).assigned g.proxy.kind) := by
      cases g.proxy.kind <;> decide
    refine ⟨f, g, m, v, ⟨s.link, s.topic, s.request.payload⟩, s.merged, hreach, hget, hmade, hgetg,
      hm, hv, fun hok => ?_, hrange, ?_, hsets, ?_⟩
    · rw [hok] at hcheck
      cases hcheck
    · rw [exec]
      exact Bench.links_carry holder s
    · obtain ⟨m', hm', hvalue⟩ := bind_eq_ok.mp hv
      rw [hm] at hm'
      cases hm'
      rw [hsets.kept "Delta" hother, ← hname]
      exact RemoteProxy.value_eq_ok.mp hvalue

end RemoteFilter

end EmbeddedFilters
