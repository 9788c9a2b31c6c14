import EmbeddedFilters.Proofs.Workbench.Assembly

/-!
# Sensors agree with their devices

A sensor whose filters are used while its device goes on by itself agrees with the device after
every step, as long as no report is lost: each filter has the values of the device, in the same
order, each in the kind that is declared for it. So what the device answers when it is asked for its
values changes nothing.
-/

namespace EmbeddedFilters

open Assignment

namespace Workbench

variable {w : Workbench} {d : Device} {l : DeliveryLoop Target}

/-- A run of which every step is smooth. -/
def SmoothRun (w : Workbench) : List (Command × Bool) → Prop
  | [] => True
  | (c, leave) :: rest => w.Smooth c leave ∧ SmoothRun (w.step c.act leave).2.2 rest

/-- A smooth run of exchanges keeps host and device in step. -/
theorem InStep.run {commands : List (Command × Bool)} (hw : w.Sound) (h : w.InStep d l)
    (hcommands : ∀ c ∈ commands, c.1.Exchanges) (hsmooth : w.SmoothRun commands) :
    ∃ d' l', (w.run commands).InStep d' l' := by
  induction commands generalizing w d l with
  | nil => exact ⟨d, l, h⟩
  | cons c rest ih =>
    obtain ⟨c, leave⟩ := c
    obtain ⟨hfirst, hrest⟩ := hsmooth
    obtain ⟨d', l', hstep⟩ := h.step hw (hcommands _ List.mem_cons_self) hfirst
    have hsound := (continues_step c.continues_act leave hw).1
    exact ih hsound hstep (fun a ha => hcommands a (List.mem_cons_of_mem _ ha)) hrest

/-- A filter in step has the values of the device in their declared kinds, and takes them over
without any change. -/
lemma InStep.values (h : w.InStep d l) {n : Nat} {f : RemoteFilter}
    (hget : w.filters.get? n = some (.remote f)) :
    ∃ values, d.values? f.name = some values ∧
      values.mapM f.proxy.record.inDeclaredKind = some f.proxy.record.current ∧
      f.proxy.accept (OptionReport.payload ⟨f.name, values⟩) = .ok ([], f.proxy) := by
  have hmirrored := (h.coupled hget).mirrored
  obtain ⟨values, hhosted, hagrees, -⟩ := hmirrored.hosted
  have hvalues : d.values? f.name = some values := congrArg (Option.map HostedFilter.values) hhosted
  exact ⟨values, hvalues, FilterRecord.mapM_inDeclaredKind hagrees, hmirrored.accept_report hhosted⟩

/-- Reading back the values of a filter in step over a link that is not cut tells no listener
anything, and leaves everything but the link as it is. -/
lemma InStep.refresh (h : w.InStep d l) {n : Nat} {f : RemoteFilter}
    (hget : w.filters.get? n = some (.remote f)) (hconnected : d.connected = true) :
    ∃ links, (Bench.refresh n).exec w = (.ok 0, { w with links }) := by
  have hmirrored := (h.coupled hget).mirrored
  obtain ⟨values, hhosted, -⟩ := hmirrored.hosted
  have hanswer : (Bench.asked d f).1 = .ok (OptionReport.payload ⟨f.proxy.name, values⟩) :=
    Device.query_getOptions.mpr ⟨hconnected, hmirrored.topic, _, hhosted, rfl⟩
  refine ⟨w.links.put 0 (.device (Bench.asked d f).2), ?_⟩
  rw [Bench.exec_refresh h hget, hanswer]
  rfl

/-- A sensor that has been built from what a device has advertised, that is wired to the device and
attached to the loop that the device reports to, agrees with the device after any run of exchanges
in which no report has been lost: each of its filters has the values that the device has for it, in
the same order and in the declared kinds. Reading them back over the link then reports no change,
and changes nothing but the link. -/
theorem sensor_agrees_with_device {config : LinkConfig} (hconfig : config.validate = .ok ())
    {hosted chosen : List (FilterKind × String)} (hnames : (hosted.map Prod.snd).Nodup)
    (hchosen : ∀ c ∈ chosen, c ∈ hosted) (hkinds : (chosen.map Prod.fst).Nodup) (title : String)
    (hw : w = ({} : Workbench).run (assembling config hosted title chosen))
    {commands : List (Command × Bool)} (hcommands : ∀ c ∈ commands, c.1.Exchanges)
    (hsmooth : w.SmoothRun commands) :
    ∃ d s, (w.run commands).links.get? 0 = some (.device d) ∧
      (Bench.sensor "sensor").exec w = (.ok s, w) ∧
      s.slots.map (·.kind) = chosen.map Prod.fst ∧
      ∀ slot ∈ s.slots, ∃ f values,
        (w.run commands).filters.get? slot.filter = some (.remote f) ∧
        (slot.kind, f.name) ∈ chosen ∧ f.kind = slot.kind ∧
        d.values? f.name = some values ∧
        values.mapM f.proxy.record.inDeclaredKind = some f.proxy.record.current ∧
        f.proxy.accept (OptionReport.payload ⟨f.name, values⟩) = .ok ([], f.proxy) ∧
        (d.connected = true → ∃ links, (Bench.refresh slot.filter).exec (w.run commands) =
          (.ok 0, { w.run commands with links })) := by
  obtain ⟨d, l, s, hstart, hsensor, hslots, hfilters⟩ :=
    inStep_assembled hconfig hnames hchosen hkinds title hw
  have hsound : w.Sound := by
    rw [hw]
    exact (Reachable.start.run _).sound
  obtain ⟨d', l', hend⟩ := hstart.run hsound hcommands hsmooth
  refine ⟨d', s, hend.get?_link, hsensor, ?_, fun slot hslot => ?_⟩
  · have hkinds : (slotsFor chosen).map (·.kind) = (chosen.zipIdx.map Prod.fst).map Prod.fst := by
      rw [slotsFor, List.map_map, List.map_map]
      rfl
    rw [hslots, hkinds, List.zipIdx_map_fst]
  · rw [hslots] at hslot
    obtain ⟨⟨c, n⟩, hc, rfl⟩ := List.mem_map.mp hslot
    have hc : chosen[n]? = some c := List.mk_mem_zipIdx_iff_getElem?.mp hc
    obtain ⟨f, hget, hkind, hname⟩ := hfilters n c hc
    obtain ⟨-, hevolves⟩ := continues_run commands hsound
    obtain ⟨_, hlater, hfg⟩ := hevolves.filters n _ hget
    cases hfg with
    | @remote _ g hfg =>
      obtain ⟨values, hvalues, hagrees, haccept⟩ := hend.values hlater
      have hgkind : g.kind = c.1 := hfg.proxy.kind.trans hkind
      have hgname : g.name = c.2 := hfg.proxy.name.trans hname
      refine ⟨g, values, hlater, ?_, hgkind, hvalues, hagrees, haccept, hend.refresh hlater⟩
      rw [hgname]
      exact List.mem_of_getElem? hc

/-- A sensor with the temporal filter of a device that has filters of both kinds. -/
def depthSensor : Workbench :=
  ({} : Workbench).run (assembling {} [(.decimation, "small"), (.temporal, "depth")] "camera"
    [(.temporal, "depth")])

/-- The device gives a whole number to an option of doubles. -/
def pushing : Command := .push "device" "depth" [⟨"Alpha", .int 1⟩]

/-- The report of a whole number is delivered. -/
lemma smooth_pushing : depthSensor.Smooth pushing false := by
  have hsucceeds : (depthSensor.step pushing.act false).1.toBool = true := by decide +kernel
  have hbefore : depthSensor.loops.members.entries.all (fun e => e.2.dropped == 0) = true := by
    decide +kernel
  have hafter : (depthSensor.step pushing.act false).2.2.loops.members.entries.all
      (fun e => e.2.queue.isEmpty && e.2.inFlight.isEmpty && e.2.dropped == 0) = true := by
    decide +kernel
  rw [List.all_eq_true] at hbefore hafter
  refine ⟨fun _ _ _ e _ herror => ?_, fun n l hl => ?_, fun n l l' hl hl' => ?_⟩
  · rw [herror] at hsucceeds
    cases hsucceeds
  · have hrest := hafter _ (Table.mem_entries hl)
    simp only [Bool.and_eq_true, List.isEmpty_iff] at hrest
    exact hrest.1
  · have hrest := hafter _ (Table.mem_entries hl')
    simp only [Bool.and_eq_true, beq_iff_eq] at hrest
    rw [hrest.2, beq_iff_eq.mp (hbefore _ (Table.mem_entries hl))]

/-- What a device has for the filter of a name. -/
def hostedValues (w : Workbench) (name : String) : List Assignment :=
  match w.links.get? 0 with
  | some (.device d) => (d.values? name).getD []
  | _ => []

/-- A temporal filter whose device has given a whole number to an option of doubles agrees with
it. -/
theorem depthSensor_agrees_with_device : ∃ d n f values,
    (depthSensor.run [(pushing, false)]).links.get? 0 = some (.device d) ∧
      (depthSensor.run [(pushing, false)]).filters.get? n = some (.remote f) ∧
      d.values? f.name = some values ∧ ⟨"Alpha", .int 1⟩ ∈ values ∧
      values.mapM f.proxy.record.inDeclaredKind = some f.proxy.record.current := by
  have hconfig : ({} : LinkConfig).validate = .ok () := rfl
  have hcommands : ∀ c ∈ [(pushing, false)], c.1.Exchanges := by simp [pushing, Command.Exchanges]
  have hsmooth : depthSensor.SmoothRun [(pushing, false)] := ⟨smooth_pushing, trivial⟩
  have hbuilt : depthSensor = ({} : Workbench).run (assembling {}
    [(.decimation, "small"), (.temporal, "depth")] "camera" [(.temporal, "depth")]) := rfl
  obtain ⟨d, s, hlink, -, hkinds, hslots⟩ := sensor_agrees_with_device hconfig (by decide) (by simp)
    (by decide) "camera" hbuilt hcommands hsmooth
  have hslot : s.slots ≠ [] := fun hnone => by simp [hnone] at hkinds
  obtain ⟨slot, hmem⟩ := List.exists_mem_of_ne_nil _ hslot
  obtain ⟨f, values, hget, hchosen, -, hvalues, hagrees, -⟩ := hslots slot hmem
  have hname : f.name = "depth" := (Prod.mk.inj (List.mem_singleton.mp hchosen)).2
  have hwhole : (⟨"Alpha", .int 1⟩ : Assignment) ∈
      hostedValues (depthSensor.run [(pushing, false)]) "depth" := by decide +kernel
  rw [hostedValues, hlink] at hwhole
  rw [hname] at hvalues
  dsimp only at hwhole
  rw [hvalues] at hwhole
  exact ⟨d, slot.filter, f, values, hlink, hget, hname ▸ hvalues, hwhole, hagrees⟩

end Workbench

end EmbeddedFilters
