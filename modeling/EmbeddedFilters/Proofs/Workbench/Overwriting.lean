import EmbeddedFilters.Proofs.Workbench.Interludes

/-!
# Writes and changes that have not been heard of

A write sends all values that the host has, with the new one among them. The device has these values
afterwards, so a value that it has changed by itself stays exactly where the host has it too
(`RemoteFilter.write_sets_cached_values`); a change that the host has not heard of is undone
(`Workbench.unheard_change_is_undone`).
-/

namespace EmbeddedFilters

open Outcome Assignment

namespace RemoteFilter

variable {w : Workbench} {f : RemoteFilter} {d : Device} {n : Nat} {k : LinkNumber}

/-- A device that serves the filter takes the write of an option that passes all checks. -/
lemma exec_writeOption_served (hf : f.Valid) (hget : w.filters.get? n = some (.remote f))
    (hlink : f.proxy.link? = some k) (hdevice : w.links.get? k = some (.device d))
    (hserves : d.Serves f.proxy) {id : OptionId} {value : OptionValue} {s : Submission}
    (hs : f.prepareOption id value = .ok s) :
    ((Bench.writeOption n id value).exec w).1 = .ok () := by
  obtain ⟨name, -, hprepares⟩ := prepares_of_prepareOption hf hs
  have hupdates := hprepares.updates hf
  have hsets := RemoteWrite.sets_of_updates hupdates
  obtain rfl : k = s.link := Option.some.inj (hlink.symm.trans hupdates.link)
  have hsent : (d.send s.topic s.request.payload).1 = .ok () := by
    rw [hupdates.topic]
    exact hserves.send_ok hsets.payload hupdates.params
  rw [Bench.exec_writeOption hget, hs, Bench.exec_bind_ok (Bench.exec_ofFilter_ok s w),
    Bench.exec_carry_ok hdevice rfl hsent, Bench.exec_changeProxy (by exact hget)]

/-- After a write of one option that succeeds, the device has what the write has made of the values
of the host, and its other filters are as they were. -/
lemma exec_writeOption_ok (hf : f.Valid) (hget : w.filters.get? n = some (.remote f))
    (hlink : f.proxy.link? = some k) (hdevice : w.links.get? k = some (.device d)) {id : OptionId}
    {value : OptionValue} (hok : ((Bench.writeOption n id value).exec w).1 = .ok ()) :
    ∃ (s : Submission) (name : String) (d' : Device) (before : List Assignment),
      IdTable.name? {} id = some name ∧ s.Updates f.proxy [⟨name, value⟩] ∧
      ((Bench.writeOption n id value).exec w).2.links.get? k = some (.device d') ∧
      d.filter? f.name = some ⟨f.kind, before⟩ ∧
      d'.filters = (d.withFilter f.name ⟨f.kind, s.merged⟩).filters := by
  rw [Bench.exec_writeOption hget] at hok ⊢
  cases hs : f.prepareOption id value with
  | error e => rw [hs] at hok; cases hok
  | ok s =>
    rw [hs, Bench.exec_bind_ok (Bench.exec_ofFilter_ok s w)] at hok
    rw [Bench.exec_bind_ok (Bench.exec_ofFilter_ok s w)]
    obtain ⟨name, hname, hprepares⟩ := prepares_of_prepareOption hf hs
    have hupdates := hprepares.updates hf
    have hsets := RemoteWrite.sets_of_updates hupdates
    obtain rfl : k = s.link := Option.some.inj (hlink.symm.trans hupdates.link)
    obtain ⟨-, ⟨⟨e, hsent⟩, -⟩ | ⟨hsent, ⟨before, hbefore⟩, hfilters⟩⟩ :=
      Device.send_setOptions d s.topic hsets.payload
    · rw [Bench.exec_carry_refused hdevice rfl hsent] at hok
      cases hok
    · refine ⟨s, name, _, before, hname, hupdates, ?_, hbefore, hfilters⟩
      rw [Bench.exec_carry_ok hdevice rfl hsent, Bench.exec_changeProxy (by exact hget)]
      exact Pool.get?_put_self _ _ _

/-- A write of one option that succeeds sets the values of the filter on the device to those that
the host has, with the new value of the option among them, in the form that is declared. So every
other option keeps the value that the device has had exactly if that is the value that the host has;
and no other filter of the device changes. -/
theorem write_sets_cached_values (hw : w.Reachable) (hget : w.filters.get? n = some (.remote f))
    (hlink : f.proxy.link? = some k) (hdevice : w.links.get? k = some (.device d)) {id : OptionId}
    {value : OptionValue} (hok : ((Bench.writeOption n id value).exec w).1 = .ok ()) :
    ∃ d' name before after, IdTable.name? {} id = some name ∧
      ((Bench.writeOption n id value).exec w).2.links.get? k = some (.device d') ∧
      d.values? f.name = some before ∧ d'.values? f.name = some after ∧
      (∀ other, other ≠ f.name → d'.values? other = d.values? other) ∧
      (∃ declared v, f.proxy.record.declaration? name = some declared ∧
        value.coerce declared.kind declared.name = .ok v ∧ find? name after = some v) ∧
      ∀ other, other ≠ name → find? other after = find? other f.proxy.record.current ∧
        (find? other after = find? other before ↔
          find? other f.proxy.record.current = find? other before) := by
  have hf : f.Valid := (hw.sound.filters n _ hget).2
  obtain ⟨s, name, d', before, hname, hupdates, hlinks, hbefore, hfilters⟩ :=
    exec_writeOption_ok hf hget hlink hdevice hok
  have hsets := RemoteWrite.sets_of_updates hupdates
  have hfilter := Device.filter?_congr hfilters
  refine ⟨d', name, before, s.merged, hname, hlinks, ?_, ?_, fun other hother => ?_, ?_,
    fun other hother => ?_⟩
  · rw [Device.values?, hbefore, Option.map_some]
  · rw [Device.values?, hfilter, Device.filter?_withFilter_self, Option.map_some]
  · rw [Device.values?, hfilter, Device.filter?_withFilter_of_ne hother, Device.values?]
  · exact hsets.assigned _ (List.mem_singleton_self _)
  · have hkept := hsets.kept other (by simpa using hother)
    exact ⟨hkept, by rw [hkept]⟩

end RemoteFilter

namespace Workbench

/-- The device behind the link with a number. -/
def device? (w : Workbench) (k : LinkNumber) : Option Device :=
  match w.links.get? k with
  | some (.device d) => some d
  | _ => none

/-- A link leads to a device exactly if it is that device. -/
lemma device?_eq_some {w : Workbench} {k : LinkNumber} {d : Device} :
    w.device? k = some d ↔ w.links.get? k = some (.device d) := by
  unfold device?
  split
  · rename_i h
    simp [h]
  · rename_i h
    simp only [reduceCtorEq, false_iff]
    exact h d

/-- A remote temporal filter is wired to its device, on whose side delta is changed while no loop is
there to hear of it. -/
def unheard : Workbench :=
  ({} : Workbench).run (RemoteFilter.advertising .temporal ++
    [(.placeRemote "filter" .temporal (.kept "props") ({} : LinkConfig).controlTopic, false),
      (.wire "filter" "device", false), (.push "device" "depth" [⟨"Delta", .int 40⟩], false)])

/-- The workbench of the unheard report is reachable. -/
lemma reachable_unheard : unheard.Reachable :=
  .run .start _

/-- Alpha is written, while device and host differ in delta. -/
lemma exec_writeOption_unheard : ∃ f d, unheard.filters.get? 0 = some (.remote f) ∧
    unheard.links.get? 0 = some (.device d) ∧ f.proxy.link? = some 0 ∧
    ((Bench.writeOption 0 .alpha (.int 1)).exec unheard).1 = .ok () ∧
    (d.values? f.name).bind (find? "Delta") = some (.int 40) ∧
    find? "Delta" f.proxy.record.current = some (.int 20) := by
  have hfound : ((unheard.remote? 0).bind fun f => (unheard.device? 0).map fun d => decide
      (f.proxy.link? = some 0 ∧ d.Serves f.proxy ∧
        (f.prepareOption .alpha (.int 1)).toBool = true ∧
        (d.values? f.name).bind (find? "Delta") = some (.int 40) ∧
        find? "Delta" f.proxy.record.current = some (.int 20))) = some true := by decide +kernel
  obtain ⟨f, hf, hfound⟩ := Option.bind_eq_some_iff.mp hfound
  obtain ⟨d, hd, hfound⟩ := Option.map_eq_some_iff.mp hfound
  obtain ⟨hlink, hserves, hprepared, hbefore, hcached⟩ := of_decide_eq_true hfound
  have hget := remote?_eq_some.mp hf
  have hdevice := device?_eq_some.mp hd
  have hvalid : f.Valid := (reachable_unheard.sound.filters 0 _ hget).2
  cases hs : f.prepareOption .alpha (.int 1) with
  | error e => rw [hs] at hprepared; cases hprepared
  | ok s =>
    have hok := RemoteFilter.exec_writeOption_served hvalid hget hlink hdevice hserves hs
    exact ⟨f, d, hget, hdevice, hlink, hok, hbefore, hcached⟩

/-- A write of alpha undoes a change of delta that the host has not heard of. -/
theorem unheard_change_is_undone : ∃ (f : RemoteFilter) (d d' : Device),
    unheard.Reachable ∧ unheard.filters.get? 0 = some (.remote f) ∧ f.proxy.link? = some 0 ∧
      unheard.links.get? 0 = some (.device d) ∧
      ((Bench.writeOption 0 .alpha (.int 1)).exec unheard).1 = .ok () ∧
      ((Bench.writeOption 0 .alpha (.int 1)).exec unheard).2.links.get? 0 = some (.device d') ∧
      (d.values? f.name).bind (find? "Delta") = some (.int 40) ∧
      (d'.values? f.name).bind (find? "Delta") = some (.int 20) := by
  obtain ⟨f, d, hget, hdevice, hlink, hok, hbefore, hcached⟩ := exec_writeOption_unheard
  have hvalid : f.Valid := (reachable_unheard.sound.filters 0 _ hget).2
  obtain ⟨s, name, d', -, hname, hupdates, hlinks, -, hfilters⟩ :=
    RemoteFilter.exec_writeOption_ok hvalid hget hlink hdevice hok
  obtain rfl : "Alpha" = name := Option.some.inj hname
  refine ⟨f, d, d', reachable_unheard, hget, hlink, hdevice, hok, hlinks, hbefore, ?_⟩
  rw [Device.values?, Device.filter?_congr hfilters,
    Device.filter?_withFilter_self, Option.map_some,
    Option.bind_some, FilterRecord.find?_of_merge hupdates.merged (by decide), hcached]

end Workbench

namespace RemoteFilter

/-- A write of alpha sets delta to the value that the host has. -/
theorem alpha_sets_cached_delta : ∃ (f : RemoteFilter) (d d' : Device) (after : List Assignment),
    Workbench.unheard.Reachable ∧ Workbench.unheard.filters.get? 0 = some (.remote f) ∧
      Workbench.unheard.links.get? 0 = some (.device d) ∧
      ((Bench.writeOption 0 .alpha (.int 1)).exec Workbench.unheard).1 = .ok () ∧
      ((Bench.writeOption 0 .alpha (.int 1)).exec Workbench.unheard).2.links.get? 0 =
        some (.device d') ∧
      d'.values? f.name = some after ∧
      find? "Delta" after = find? "Delta" f.proxy.record.current := by
  obtain ⟨f, d, hget, hdevice, hlink, hok, -⟩ := Workbench.exec_writeOption_unheard
  obtain ⟨d', name, before, after, hname, hlinks, -, hafter, -, -, hothers⟩ :=
    write_sets_cached_values Workbench.reachable_unheard hget hlink hdevice hok
  obtain rfl : "Alpha" = name := Option.some.inj hname
  exact ⟨f, d, d', after, Workbench.reachable_unheard, hget, hdevice, hok, hlinks, hafter,
    (hothers "Delta" (by decide)).1⟩

end RemoteFilter

end EmbeddedFilters
