import EmbeddedFilters.Proofs.Workbench.Commands

/-!
# A remote filter keeps its declared options

A filter that has been made for an advertisement has one value for each declared option, in the
order of the declarations, whatever has been done since. As the values are those of a valid proxy,
the declared names are the option names of the kind, and the values can be read as parameters and
written as bytes.
-/

namespace EmbeddedFilters

open Assignment

namespace RemoteFilter

variable {f g : RemoteFilter}

/-- The filter has been made for an advertisement, populated or not. -/
def MadeFor (f : RemoteFilter) (kind : FilterKind) (a : Advertisement) (topic : String) : Prop :=
  ofAdvertisement kind a topic = .ok f ∨
    ∃ r, FilterRecord.ofAdvertisement a = .ok r ∧ declare kind r topic = .ok f

/-- A filter that has been made for an advertisement is valid, of the kind, and has the record of
it. -/
lemma MadeFor.record {kind : FilterKind} {a : Advertisement} {topic : String}
    (h : f.MadeFor kind a topic) :
    f.Valid ∧ f.proxy.kind = kind ∧ FilterRecord.ofAdvertisement a = .ok f.proxy.record := by
  rcases h with h | ⟨r, hr, h⟩
  · exact ofAdvertisement_ok h
  · obtain ⟨hvalid, hkind, rfl⟩ := declare_ok h
    exact ⟨hvalid, hkind, hr⟩

/-- A filter that has been made for an advertisement is valid, of the kind, and has values for the
advertised options in their order. -/
lemma MadeFor.valid {kind : FilterKind} {a : Advertisement} {topic : String}
    (h : f.MadeFor kind a topic) :
    f.Valid ∧ f.proxy.kind = kind ∧ names f.proxy.record.current = a.options.map (·.name) := by
  obtain ⟨hvalid, hkind, hrecord⟩ := h.record
  exact ⟨hvalid, hkind, (FilterRecord.ofAdvertisement_ok hrecord).2.2.2⟩

/-- A valid filter has the options of its kind, and its values can be written as bytes. -/
lemma Valid.bytes (h : f.Valid) :
    (names f.proxy.record.current).Perm f.proxy.kind.optionNames ∧
      ∃ p b, Parameters.ofOptions f.proxy.kind f.proxy.record.current = .ok p ∧
        (Filter.remote f).params = .ok p ∧ (Filter.remote f).bytes = .ok b ∧
        b.bytes.length = f.proxy.kind.bufferLength ∧
        Parameters.decode f.proxy.kind b.bytes = .ok p := by
  obtain ⟨p, hp⟩ := h.proxy.params
  obtain ⟨b, hb, hlength, hdecode⟩ := Parameters.encode_of_ofOptions hp
  refine ⟨Parameters.perm_of_ofOptions hp, p, b, hp, hp, ?_, hlength, hdecode⟩
  exact Outcome.bind_eq_ok.mpr ⟨p, hp, hb⟩

/-- Whatever is done after a remote filter has been made for an advertisement: the filter is still
there, its values have the declared names in the order of the declarations, these are the option
names of its kind, each once, and the values denote parameters, which are given out as bytes of the
length of the kind that denote the same. -/
theorem keeps_declared_options {w : Workbench} (hw : w.Reachable) {n : Nat}
    (hget : w.filters.get? n = some (.remote f)) {kind : FilterKind} {a : Advertisement}
    {topic : String} (hmade : f.MadeFor kind a topic) (commands : List (Command × Bool)) :
    ∃ g : RemoteFilter, (w.run commands).filters.get? n = some (.remote g) ∧ g.kind = kind ∧
      names g.proxy.record.current = a.options.map (·.name) ∧
      (a.options.map (·.name)).Perm kind.optionNames ∧
      ∃ p b, Parameters.ofOptions kind g.proxy.record.current = .ok p ∧
        (Filter.remote g).params = .ok p ∧ (Filter.remote g).bytes = .ok b ∧
        b.bytes.length = kind.bufferLength ∧ Parameters.decode kind b.bytes = .ok p := by
  obtain ⟨hvalid, hkind, hnames⟩ := hmade.valid
  obtain ⟨hsound, hevolves⟩ := Workbench.continues_run commands hw.sound
  obtain ⟨_, hg, hfg⟩ := hevolves.filters n _ hget
  cases hfg with
  | @remote _ g hfg =>
    have hgkind : g.proxy.kind = kind := hfg.proxy.kind.trans hkind
    have hgnames := hfg.proxy.names.trans hnames
    obtain ⟨hperm, p, b, hp, hparams, hb, hlength, hdecode⟩ := (hfg.models hvalid).bytes
    rw [hgkind] at hperm hp hlength hdecode
    rw [hgnames] at hperm
    exact ⟨g, hg, hgkind, hgnames, hperm, p, b, hp, hparams, hb, hlength, hdecode⟩

/-- The commands by which a device advertises a filter of a kind. -/
def advertising (kind : FilterKind) : List (Command × Bool) :=
  [(.placeDevice "device" {}, false), (.advertise "device" kind "depth" "props", false)]

/-- A remote filter for the advertisement of a device is placed under the first number. -/
lemma get?_placeRemote {kind : FilterKind}
    (hf : ofAdvertisement kind ((Device.ofConfig {}).advertise kind "depth").1 "control" = .ok f) :
    ((({} : Workbench).run (advertising kind)).step
      (Command.placeRemote "filter" kind (.kept "props") "control").act false).2.2.filters.get? 0 =
        some (.remote f) := by
  have hexec := Bench.exec_placeRemote (w := ({} : Workbench).run (advertising kind))
    "filter" (.kept "props") rfl hf
  rw [Workbench.step_state, Command.act, Bench.exec_bind, hexec]
  rfl

/-- A temporal filter keeps the four options that its device has advertised when it is written and
torn down. -/
theorem temporal_keeps_declared_options :
    ∃ (w : Workbench) (a : Advertisement) (f g : RemoteFilter),
    w.Reachable ∧ w.filters.get? 0 = some (.remote f) ∧ f.MadeFor .temporal a "control" ∧
      (w.run [(.enable "filter" true, false), (.destroy "filter", false)]).filters.get? 0 =
        some (.remote g) ∧
      names g.proxy.record.current = a.options.map (·.name) := by
  have hmade : (ofAdvertisement .temporal
      ((Device.ofConfig {}).advertise .temporal "depth").1 "control").toBool = true := by
    decide +kernel
  cases hf : ofAdvertisement .temporal ((Device.ofConfig {}).advertise .temporal "depth").1
      "control" with
  | error e => rw [hf] at hmade; cases hmade
  | ok f =>
    have hreach := (Workbench.Reachable.start.run (advertising .temporal)).step
      (.placeRemote "filter" .temporal (.kept "props") "control") false
    obtain ⟨g, hg, -, hnames, -⟩ := keeps_declared_options hreach (get?_placeRemote hf) (.inl hf)
      [(.enable "filter" true, false), (.destroy "filter", false)]
    exact ⟨_, _, f, g, hreach, get?_placeRemote hf, .inl hf, hg, hnames⟩

end RemoteFilter

end EmbeddedFilters
