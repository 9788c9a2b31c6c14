import EmbeddedFilters.Proofs.Filter.Advertised
import EmbeddedFilters.Proofs.Remote.Rebuilding
import EmbeddedFilters.Proofs.Wire.Reading
import EmbeddedFilters.Proofs.Workbench.DeclaredRanges

/-!
# A remote filter is rebuilt from what it advertises

A filter that has been made for an advertisement with a current value for every option has values
that pass the checks of their declarations as they are, whatever has been done since
(`RemoteProxy.Evolves.conforms`), and they are finite. What else it advertises has been read from a
text. So its advertisement is read back from its own text, and the record that is made of it is the
one that the filter has (`RemoteFilter.rebuilt_from_advertisement`).
-/

namespace EmbeddedFilters

open Outcome Assignment Json

/-- Every declared option has a current value. -/
def Advertisement.Complete (a : Advertisement) : Prop := ∀ d ∈ a.options, d.name ∈ names a.current

/-- A complete advertisement admits its own seeds. -/
lemma Advertisement.Complete.seedsAdmitted {a : Advertisement} (h : a.Complete) : a.SeedsAdmitted :=
  fun d hd hname => absurd (h d hd) hname

/-- What is read with other finite values can be read as well. -/
lemma Advertisement.Readable.withCurrent {a : Advertisement} (h : a.Readable)
    {values : List Assignment} (hvalues : ∀ b ∈ values, b.value.IsFinite) :
    Advertisement.Readable { a with current := values } where
  numbers v hv := by
    rcases List.mem_append.mp hv with hv | hv
    · exact h.numbers v (List.mem_append_left _ hv)
    · obtain ⟨b, hb, rfl⟩ := List.mem_map.mp hv
      exact hvalues b hb
  stream := h.stream
  depth := h.depth

/-- What a device advertises can be read. -/
lemma Advertisement.readable_fresh (kind : FilterKind) (name : String) :
    (fresh kind name).Readable where
  numbers := by
    have hall : ∀ v ∈ (fresh kind "").numbers, v.IsFinite := by
      cases kind <;> decide +kernel
    exact hall
  stream := by
    exact ⟨List.pairwise_pair.mpr (by decide), ⟨by decide, by decide⟩, trivial, trivial⟩
  depth := by
    show Device.stream.depth < depthLimit
    decide

namespace RemoteFilter

variable {f g : RemoteFilter} {kind : FilterKind} {a : Advertisement} {topic : String}

/-- A filter has still the name, the kind, the declarations and the stream of the advertisement that
it has been made for. -/
lemma MadeFor.advertises (h : f.MadeFor kind a topic) (hfg : f.Evolves g) :
    g.proxy.record.name? = some a.name ∧ g.proxy.record.kind? = some a.kind ∧
      g.proxy.record.declarations? = some a.options ∧ g.proxy.record.stream? = some a.stream := by
  obtain ⟨values, -, hrecord⟩ := FilterRecord.ofAdvertisement_eq h.record.2.2
  rw [hfg.proxy.record, hrecord]
  exact ⟨rfl, rfl, rfl, rfl⟩

/-- Whatever is done after a remote filter has been made for an advertisement that was read from a
text and has a current value for every option: what the filter advertises is the advertisement with
the present values, its text is read back, it gives the record of the filter, and a filter can be
made for that record. -/
theorem rebuilt_from_advertisement {w : Workbench} (hw : w.Reachable) {n : Nat}
    (hget : w.filters.get? n = some (.remote f)) {text : String}
    (htext : decodeText Advertisement.decoder text = some a) (hmade : f.MadeFor kind a topic)
    (hcomplete : a.Complete) (commands : List (Command × Bool)) :
    ∃ (g : RemoteFilter) (b : Advertisement), (w.run commands).filters.get? n = some (.remote g) ∧
      g.proxy.record.toAdvertisement = .ok b ∧ b = { a with current := g.proxy.record.current } ∧
      decodeText Advertisement.decoder b.toJson.text = some b ∧
      FilterRecord.ofAdvertisement b = .ok g.proxy.record ∧
      ∀ later : String, ∃ h, declare kind g.proxy.record later = .ok h := by
  obtain ⟨hvalid, hkind, hnames⟩ := hmade.valid
  obtain ⟨-, hevolves⟩ := Workbench.continues_run commands hw.sound
  obtain ⟨_, hg, hfg⟩ := hevolves.filters n _ hget
  cases hfg with
  | @remote _ g hfg =>
    have hgvalid := (hfg.models hvalid).proxy
    obtain ⟨params, hparams⟩ := hgvalid.params
    obtain ⟨hname, hstated, hdeclarations, hstream⟩ := hmade.advertises hfg
    have hconforms := hfg.proxy.conforms (hmade.conforms_iff.mpr hcomplete.seedsAdmitted)
    have hreadable := (Advertisement.readable_iff.mpr ⟨text, htext⟩).withCurrent
      (Parameters.isFinite_of_ofOptions hparams)
    have hgkind : g.proxy.kind = kind := hfg.proxy.kind.trans hkind
    refine ⟨g, _, hg, FilterRecord.toAdvertisement_eq hname hstated hdeclarations hstream, rfl,
      hreadable.decode_text, ?_, fun later => ?_⟩
    · exact FilterRecord.ofAdvertisement_toAdvertisement hname hstated hdeclarations hstream
        (hfg.proxy.names.trans hnames) hgvalid.nodup hconforms
    · rw [← hgkind]
      exact declare_of_valid hgvalid later

/-- A filter that is made for the advertisement in a text is the first one of a workbench. -/
lemma get?_placeText {text control : String}
    (htext : decodeText Advertisement.decoder text = some a)
    (hf : ofAdvertisement kind a control = .ok f) :
    ((({} : Workbench).step
      (Command.placeRemote "filter" kind (.text text) control).act false).2.2).filters.get?
      0 = some (.remote f) := by
  have hsource : (Bench.advertisement (.text text)).exec {} = (.ok a, {}) := by
    rw [Bench.advertisement, Bench.ofText, htext]
    rfl
  have hexec := Bench.exec_placeRemote "filter" (.text text) hsource hf
  rw [Workbench.step_state, Command.act, Bench.exec_bind, hexec]
  rfl

/-- The text in which a device advertises a temporal filter. -/
def depthText : String := (Advertisement.fresh .temporal "depth").toJson.text

/-- A temporal filter that is advertised in a text is rebuilt from what it advertises after it has
been switched on over a link. -/
theorem depth_rebuilt : ∃ (w : Workbench) (f g : RemoteFilter) (b : Advertisement),
    w.Reachable ∧ w.filters.get? 0 = some (.remote f) ∧
      decodeText Advertisement.decoder depthText = some (.fresh .temporal "depth") ∧
      f.MadeFor .temporal (.fresh .temporal "depth") "control" ∧
      (Advertisement.fresh .temporal "depth").Complete ∧
      (w.run [(.placeScript "link" {}, false), (.wire "filter" "link", false),
        (.enable "filter" true, false)]).filters.get? 0 = some (.remote g) ∧
      g.proxy.record.toAdvertisement = .ok b ∧
      decodeText Advertisement.decoder b.toJson.text = some b ∧
      FilterRecord.ofAdvertisement b = .ok g.proxy.record := by
  have htext : decodeText Advertisement.decoder depthText = some (.fresh .temporal "depth") :=
    (Advertisement.readable_fresh .temporal "depth").decode_text
  have hmade := ofAdvertisement_fresh .temporal "depth" "control"
  have hcomplete : (Advertisement.fresh .temporal "depth").Complete :=
    fun d hd => List.mem_map_of_mem (List.mem_map_of_mem hd)
  have hreach := Workbench.Reachable.start.step
    (.placeRemote "filter" .temporal (.text depthText) "control") false
  have hget := get?_placeText htext hmade
  obtain ⟨g, b, hg, hb, -, hread, hrecord, -⟩ :=
    rebuilt_from_advertisement hreach hget htext (.inl hmade)
    hcomplete [(.placeScript "link" {}, false), (.wire "filter" "link", false),
      (.enable "filter" true, false)]
  exact ⟨_, _, g, b, hreach, hget, htext, .inl hmade, hcomplete, hg, hb, hread, hrecord⟩

end RemoteFilter

end EmbeddedFilters
