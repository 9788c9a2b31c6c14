import EmbeddedFilters.Proofs.Parameters.Rules
import EmbeddedFilters.Proofs.Remote.Record
import EmbeddedFilters.Remote.Proxy

/-!
# The life of a proxy

A proxy is *valid* if its record is of its kind and its values denote parameters. Everything that
happens to a proxy once it is there changes nothing of it but its link, whether it is spoiled, and
the values of its options, whose names and order stay (`RemoteProxy.Evolves`); what is valid stays
valid, and values that are within what is declared stay so.

A write is prepared at one time and settled at another, when the values may have changed. What the
two have in common is that the updates of the write can be merged into the values
(`Submission.Fits`). Whatever has changed meanwhile, they still can
(`RemoteProxy.exists_merge_of_evolves`), so a write is never settled by the values that were sent.
-/

namespace EmbeddedFilters

open Outcome Assignment

namespace RemoteProxy

/-- A proxy whose record is of its kind and name, and whose values denote parameters. -/
structure Valid (p : RemoteProxy) : Prop where
  kind : p.record.kind? = some p.kind
  name : p.record.name? = some p.name
  params : ∃ q, p.params = .ok q

/-- The option names of a valid proxy are all different. -/
lemma Valid.nodup {p : RemoteProxy} (hp : p.Valid) : (names p.record.current).Nodup := by
  obtain ⟨params, hparams⟩ := hp.params
  exact Parameters.nodup_of_ofOptions hparams

/-- The second proxy is the first one at a later time. -/
structure Evolves (p q : RemoteProxy) : Prop where
  kind : q.kind = p.kind
  name : q.name = p.name
  topic : q.topic = p.topic
  record : q.record = p.record.withValues q.record.current
  names : names q.record.current = names p.record.current
  params : (∃ a, p.params = .ok a) → ∃ a, q.params = .ok a
  conforms : p.record.Conforms → q.record.Conforms

variable {p q s : RemoteProxy}

/-- A proxy is a later state of itself. -/
lemma Evolves.refl (p : RemoteProxy) : p.Evolves p := ⟨rfl, rfl, rfl, rfl, rfl, id, id⟩

/-- A later state of a later state of a proxy is a later state. -/
lemma Evolves.trans (h : p.Evolves q) (h' : q.Evolves s) : p.Evolves s where
  kind := h'.kind.trans h.kind
  name := h'.name.trans h.name
  topic := h'.topic.trans h.topic
  record := by
    rw [h'.record, h.record]
    rfl
  names := h'.names.trans h.names
  params := h'.params ∘ h.params
  conforms := h'.conforms ∘ h.conforms

/-- A proxy keeps its declarations. -/
lemma Evolves.declarations? (h : p.Evolves q) :
    q.record.declarations? = p.record.declarations? := by
  rw [h.record]
  rfl

/-- A later proxy has its values in the same order. -/
lemma Evolves.sameOrder (h : p.Evolves q) : q.record.SameOrder p.record :=
  ⟨by rw [FilterRecord.declarations, h.declarations?]; rfl, h.names⟩

/-- A valid proxy stays valid as it evolves. -/
lemma Evolves.valid (h : p.Evolves q) (hp : p.Valid) : q.Valid where
  kind := by
    rw [h.record, h.kind]
    exact hp.kind
  name := by
    rw [h.record, h.name]
    exact hp.name
  params := h.params hp.params

/-- Wiring a proxy makes a later state of it. -/
lemma evolves_wire (link : LinkNumber) : p.Evolves (p.wire link) :=
  ⟨rfl, rfl, rfl, rfl, rfl, id, id⟩

/-- Spoiling a proxy makes a later state of it. -/
lemma evolves_spoil : p.Evolves p.spoil := ⟨rfl, rfl, rfl, rfl, rfl, id, id⟩

/-- A proxy gives the value that its record has under a name. -/
lemma value_eq_ok {name : String} {value : OptionValue} :
    p.value name = .ok value ↔ p.record.value? name = some value := by
  unfold RemoteProxy.value
  cases p.record.value? name <;> simp

/-- A proxy is made for a record of its kind with values that denote parameters. -/
lemma new_ok {kind : FilterKind} {r : FilterRecord} {topic : String}
    (h : new kind r topic = .ok p) :
    p.Valid ∧ p.kind = kind ∧ p.record = r := by
  unfold new at h
  obtain ⟨stated, hstated, h⟩ := bind_eq_ok.mp h
  dsimp only at h
  split at h
  · cases h
  · rename_i hkind
    rw [not_not] at hkind
    obtain ⟨params, hparams, h⟩ := bind_eq_ok.mp h
    obtain ⟨name, hname, h⟩ := bind_eq_ok.mp h
    obtain rfl := pure_eq_ok.mp h
    refine ⟨⟨?_, ?_, params, hparams⟩, rfl, rfl⟩
    · unfold FilterRecord.kind at hstated
      cases hk : r.kind? with
      | none => simp [hk] at hstated
      | some k =>
        rw [hk] at hstated
        rw [Except.ok.inj hstated, hkind]
    · unfold FilterRecord.name at hname
      cases hn : r.name? with
      | none => simp [hn] at hname
      | some n =>
        rw [hn] at hname
        rw [Except.ok.inj hname]

/-- A merge gives values with the names of the proxy's, which denote parameters. -/
lemma merge_eq_ok {updates out : List Assignment} :
    p.merge updates = .ok out ↔
      p.record.merge updates = .ok out ∧ ∃ a, Parameters.ofOptions p.kind out = .ok a := by
  simp only [merge, bind_eq_ok, pure_eq_ok]
  constructor
  · rintro ⟨_, hmerge, a, ha, rfl⟩
    exact ⟨hmerge, a, ha⟩
  · rintro ⟨hmerge, a, ha⟩
    exact ⟨out, hmerge, a, ha, rfl⟩

/-- A proxy that takes the result of a merge becomes a later state of itself. -/
lemma evolves_of_merge {updates out : List Assignment} (h : p.merge updates = .ok out) :
    p.Evolves (p.withValues out) := by
  obtain ⟨hmerge, hvalid⟩ := merge_eq_ok.mp h
  exact ⟨rfl, rfl, rfl, rfl, FilterRecord.names_of_merge hmerge, fun _ => hvalid,
    FilterRecord.allows_of_merge hmerge⟩

/-- What is prepared has passed all checks, and is a request to set all options. -/
lemma prepare_eq_ok {updates : List Assignment} {sub : Submission} :
    p.prepare updates = .ok sub ↔ p.spoiled = false ∧ ∃ merged link, p.merge updates = .ok merged ∧
      p.link? = some link ∧
      sub = ⟨link, p.topic, .setOptions p.name p.kind merged, updates, merged⟩ := by
  have hlink : ∀ l, p.link = .ok l ↔ p.link? = some l := by
    intro l
    unfold link
    cases p.link? <;> simp
  have hsound : p.checkSound = .ok () ↔ p.spoiled = false := by
    unfold checkSound
    cases p.spoiled <;> simp
  simp only [prepare, bind_eq_ok, pure_eq_ok, hlink]
  constructor
  · rintro ⟨⟨⟩, hs, merged, hmerge, l, hl, rfl⟩
    exact ⟨hsound.mp hs, merged, l, hmerge, hl, rfl⟩
  · rintro ⟨hs, merged, l, hmerge, hl, rfl⟩
    exact ⟨(), hsound.mpr hs, merged, hmerge, l, hl, rfl⟩

end RemoteProxy

namespace RemoteProxy

variable {p q : RemoteProxy} {updates merged : List Assignment}

/-- Updates that can be merged into a proxy can still be merged into a later one. -/
lemma exists_merge_of_evolves (hp : p.Valid) (h : p.Evolves q)
    (hmerge : p.merge updates = .ok merged) (hnd : (names updates).Nodup) :
    ∃ values, q.merge updates = .ok values := by
  obtain ⟨hrecord, hparams⟩ := merge_eq_ok.mp hmerge
  have hq := h.valid hp
  have hdeclaration : ∀ name, q.record.declaration? name = p.record.declaration? name := by
    intro name
    rw [h.record]
    rfl
  obtain ⟨values, hvalues⟩ := FilterRecord.exists_merge hq.kind fun a ha => by
    rw [h.names, hdeclaration]
    exact FilterRecord.check_of_merge hrecord ha
  refine ⟨values, merge_eq_ok.mpr ⟨hvalues, ?_⟩⟩
  -- an option that is written has the value that was accepted before, and every other one its
  -- present one
  obtain ⟨params, hpresent⟩ := hq.params
  rw [RemoteProxy.params, h.kind] at hpresent
  rw [h.kind]
  refine Parameters.exists_ofOptions_of_either hparams ⟨params, hpresent⟩ ?_ fun name hname => ?_
  · rw [FilterRecord.names_of_merge hvalues]
    exact Parameters.perm_of_ofOptions hpresent
  · by_cases hmem : name ∈ names updates
    · left
      obtain ⟨a, ha, rfl⟩ := List.mem_map.mp hmem
      obtain ⟨d, v, hd, hv, hfind⟩ := FilterRecord.checked_of_merge hrecord hnd ha
      obtain ⟨d', v', hd', hv', hfind'⟩ := FilterRecord.checked_of_merge hvalues hnd ha
      rw [hdeclaration, hd] at hd'
      obtain rfl := Option.some.inj hd'
      rw [hv] at hv'
      rw [hfind', hfind, Except.ok.inj hv']
    · right
      exact FilterRecord.find?_of_merge hvalues hmem

end RemoteProxy

/-- The updates of a submission can be merged into the values of a proxy, and name no option
twice. -/
structure Submission.Fits (s : Submission) (p : RemoteProxy) : Prop where
  merges : ∃ values, p.merge s.updates = .ok values
  nodup : (Assignment.names s.updates).Nodup

namespace RemoteProxy

variable {p q : RemoteProxy} {s : Submission}

/-- A submission of updates that has been prepared fits the proxy. -/
lemma fits_of_prepare {updates : List Assignment} (hnd : (Assignment.names updates).Nodup)
    (h : p.prepare updates = .ok s) : s.Fits p := by
  obtain ⟨-, merged, link, hmerge, -, rfl⟩ := prepare_eq_ok.mp h
  exact ⟨⟨merged, hmerge⟩, hnd⟩

/-- A submission of parameters that has been prepared fits the proxy. -/
lemma fits_of_prepareAll {params : Parameters} (h : p.prepareAll params = .ok s) : s.Fits p := by
  obtain ⟨⟨⟩, -, h⟩ := bind_eq_ok.mp h
  exact fits_of_prepare (Parameters.nodup_toOptions params) h

/-- What fits a proxy fits a later one. -/
lemma Evolves.fits (h : p.Evolves q) (hp : p.Valid) (hs : s.Fits p) : s.Fits q where
  merges := by
    obtain ⟨merged, hmerge⟩ := hs.merges
    exact exists_merge_of_evolves hp h hmerge hs.nodup
  nodup := hs.nodup

/-- Settling a submission that fits makes a later state of the proxy. -/
lemma evolves_settle (hs : s.Fits p) : p.Evolves (p.settle s) := by
  obtain ⟨values, hmerge⟩ := hs.merges
  rw [settle, hmerge]
  exact evolves_of_merge hmerge

/-- What is reported is taken over as a merge. -/
lemma absorb_eq_ok {options : List Assignment} {changed : List ChangedOption} :
    p.absorb options = .ok (changed, q) ↔ ∃ values, p.merge options = .ok values ∧
      p.record.changed values = changed ∧ p.withValues values = q := by
  simp only [absorb, bind_eq_ok, pure_eq_ok, Prod.mk.injEq]

/-- Absorbing a report makes a later state of the proxy. -/
lemma evolves_absorb {options : List Assignment} {changed : List ChangedOption}
    (h : p.absorb options = .ok (changed, q)) : p.Evolves q := by
  obtain ⟨values, hmerge, -, rfl⟩ := absorb_eq_ok.mp h
  exact evolves_of_merge hmerge

/-- An answer is taken over if it is a report of the filter, and as such. -/
lemma accept_eq_ok {reply : ByteArray} {out : List ChangedOption × RemoteProxy} :
    p.accept reply = .ok out ↔ p.spoiled = false ∧ ∃ options,
      Json.decodePayload OptionReport.decoder reply = some ⟨p.name, options⟩ ∧
      p.absorb options = .ok out := by
  unfold accept checkSound
  cases Json.decodePayload OptionReport.decoder reply with
  | none => simp
  | some report =>
    obtain ⟨name, options⟩ := report
    by_cases hname : name = p.name
    · subst hname
      cases p.spoiled
      · simp
      · simp
    · simp [hname]

/-- Accepting an answer makes a later state of the proxy. -/
lemma evolves_accept {reply : ByteArray} {changed : List ChangedOption}
    (h : p.accept reply = .ok (changed, q)) : p.Evolves q := by
  obtain ⟨-, options, -, habsorb⟩ := accept_eq_ok.mp h
  exact evolves_absorb habsorb

end RemoteProxy

end EmbeddedFilters
