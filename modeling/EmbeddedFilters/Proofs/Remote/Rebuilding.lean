import EmbeddedFilters.Proofs.Filter.Remote

/-!
# Records rebuilt from what they advertise

A record whose values pass the checks of their declarations as they are can be rebuilt from its
advertisement. The values are seeded from the declarations and overwritten one by one, each by what
its check makes of it, and that is the value itself
(`FilterRecord.ofAdvertisement_toAdvertisement`). A filter of the kind can be made for the record
again if its values denote parameters (`RemoteFilter.declare_of_valid`).
-/

namespace EmbeddedFilters

open Outcome Assignment

namespace FilterRecord

variable {r : FilterRecord} {a : Advertisement}

/-- A record that states everything advertises what it has. -/
lemma toAdvertisement_eq (hname : r.name? = some a.name) (hkind : r.kind? = some a.kind)
    (hdeclarations : r.declarations? = some a.options) (hstream : r.stream? = some a.stream) :
    r.toAdvertisement = .ok { a with current := r.current } := by
  simp only [toAdvertisement, name, kind, hname, hkind, declarations,
    hdeclarations, stream, hstream,
    ok_bind, Option.getD_some]
  rfl

/-- A record whose values stand for all its declarations and pass their checks as they are is
rebuilt from what it advertises. -/
lemma ofAdvertisement_toAdvertisement (hname : r.name? = some a.name)
    (hkind : r.kind? = some a.kind) (hdeclarations : r.declarations? = some a.options)
    (hstream : r.stream? = some a.stream) (hnames : names r.current = a.options.map (·.name))
    (hnd : (names r.current).Nodup) (hconforms : r.Conforms) :
    ofAdvertisement { a with current := r.current } = .ok r := by
  let b : Advertisement := { a with current := r.current }
  have hseeds : names (declared b).current = names r.current := by
    rw [hnames]
    simp [declared, names, Declaration.assignment, b]
  have hdeclared : ∀ name, (declared b).declaration? name = r.declaration? name := by
    intro name
    rw [declaration?, declaration?, declarations, declarations, hdeclarations]
    rfl
  have hmerges : ∀ c ∈ r.current, c.name ∈ names (declared b).current ∧
      ∃ d v, (declared b).declaration? c.name = some d ∧ d.check c.value = .ok v := by
    intro c hc
    obtain ⟨d, hd, hcheck⟩ := hconforms c hc
    exact ⟨hseeds ▸ List.mem_map_of_mem hc, d, c.value, (hdeclared c.name).trans hd, hcheck⟩
  have hstated : (declared b).kind? = some a.kind := rfl
  obtain ⟨values, hmerge⟩ := exists_merge hstated hmerges
  obtain rfl : values = r.current := by
    refine eq_of_find? ((names_of_merge hmerge).trans hseeds) hnd fun c hc => ?_
    obtain ⟨d, v, hd, hv, hfind⟩ := checked_of_merge hmerge hnd hc
    obtain ⟨e, he, hcheck⟩ := hconforms c hc
    rw [hdeclared, he] at hd
    obtain rfl := Option.some.inj hd
    rw [hcheck] at hv
    rw [hfind, Except.ok.inj hv]
  refine (ofAdvertisement_of_merge hmerge).trans (congrArg Except.ok ?_)
  obtain ⟨_, _, _, _, current⟩ := r
  cases hname
  cases hkind
  cases hdeclarations
  cases hstream
  rfl

end FilterRecord

/-- A filter is made for the record of a valid proxy. -/
lemma RemoteFilter.declare_of_valid {p : RemoteProxy} (hp : p.Valid) (topic : String) :
    ∃ f, declare p.kind p.record topic = .ok f := by
  obtain ⟨params, hparams⟩ := hp.params
  have hkind : p.record.kind = .ok p.kind := by rw [FilterRecord.kind, hp.kind]
  have hname : p.record.name = .ok p.name := by rw [FilterRecord.name, hp.name]
  have hnew : RemoteProxy.new p.kind p.record topic =
      .ok { kind := p.kind, name := p.name, topic, record := p.record } := by
    rw [RemoteProxy.params] at hparams
    rw [RemoteProxy.new, hkind, ok_bind, if_neg (not_not.mpr rfl), hparams, ok_bind, hname]
    rfl
  rw [declare, hnew]
  exact ⟨_, rfl⟩

end EmbeddedFilters
