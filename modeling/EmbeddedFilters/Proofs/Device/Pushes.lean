import EmbeddedFilters.Proofs.Filter.Advertised
import EmbeddedFilters.Proofs.Parameters.Suitable

/-!
# Changes that a device makes and its host hears of

A device lays changed values over those that it has and looks only at what they come to; the host
checks each of them as it lays it over its own. The values that stay are the last ones for their
options, and these the host admits as well, since declarations and parameters state the same ranges.
So the host takes a change over exactly if it admits every entry of the report, those included that
are overridden in the same report; then it shows the values of the device again
(`Device.push_heard_as_far_as_admitted`).
-/

namespace EmbeddedFilters

open Outcome Assignment Json

namespace Device

variable {kind : FilterKind} {values options out : List Assignment}

/-- An overlay keeps the names and their order. -/
lemma names_of_overlay (h : overlay kind values options = .ok out) : names out = names values := by
  induction options generalizing values with
  | nil =>
    cases h
    rfl
  | cons a options ih =>
    rw [overlay, List.foldlM_cons] at h
    obtain ⟨next, hlaid, hrest⟩ := bind_eq_ok.mp h
    obtain ⟨-, rfl⟩ := overlay_eq_ok.mp hlaid
    rw [ih hrest, names_replace]

/-- What is laid over values is for options that they have. -/
lemma name_of_overlay (h : overlay kind values options = .ok out) {a : Assignment}
    (ha : a ∈ options) :
    a.name ∈ names values := by
  induction options generalizing values with
  | nil => cases ha
  | cons b options ih =>
    rw [overlay, List.foldlM_cons] at h
    obtain ⟨next, hlaid, hrest⟩ := bind_eq_ok.mp h
    obtain ⟨hname, rfl⟩ := overlay_eq_ok.mp hlaid
    rcases List.mem_cons.mp ha with rfl | ha
    · exact hname
    · rw [← names_replace b.name b.value values]
      exact ih hrest ha

/-- An option has the last value that is laid over it, or else keeps its own. -/
lemma find?_of_overlay (h : overlay kind values options = .ok out) (name : String) :
    find? name out = (find? name options.reverse).or (find? name values) := by
  induction options generalizing values with
  | nil =>
    cases h
    rfl
  | cons a options ih =>
    rw [overlay, List.foldlM_cons] at h
    obtain ⟨next, hlaid, hrest⟩ := bind_eq_ok.mp h
    obtain ⟨hname, rfl⟩ := overlay_eq_ok.mp hlaid
    rw [ih hrest, List.reverse_cons, find?_append, Option.or_assoc]
    congr 1
    by_cases heq : a.name = name
    · subst heq
      rw [find?_replace_self hname, find?_cons, if_pos rfl, Option.some_or]
    · rw [find?_replace_of_ne (Ne.symm heq), find?_cons, if_neg heq]
      rfl

/-- A change is accepted if there is a loop to report it to and the changed values denote
parameters. -/
lemma push_eq_ok {d d' : Device} {name : String} {posting : Posting}
    (h : d.push name options = (.ok posting, d')) : ∃ hosted values, d.filter? name = some hosted ∧
      overlay hosted.kind hosted.values options = .ok values ∧
      (∃ params, Parameters.ofOptions hosted.kind values = .ok params) ∧
      d'.filter? name = some ⟨hosted.kind, values⟩ ∧
      posting.payload = OptionReport.payload ⟨name, options⟩ := by
  cases hloop : d.loop? with
  | none =>
    unfold push at h
    rcases d.changed_cases name options with ⟨reason, hchanged⟩ |
      ⟨hosted, values, -, -, -, hchanged⟩
    · rw [hchanged] at h
      cases h
    · have hwith : (d.withFilter name ⟨hosted.kind, values⟩).loop? = none := hloop
      rw [hchanged] at h
      dsimp only at h
      rw [hwith] at h
      cases h
  | some loop =>
    rcases push_cases hloop name options with ⟨reason, hpush⟩ |
      ⟨hosted, values, hhosted, hoverlay, hparams, hposting, -, hfilters⟩
    · cases hpush.symm.trans h
    · rw [h] at hposting hfilters
      have hpayload : posting.payload = OptionReport.payload ⟨name, options⟩ := by
        rw [Except.ok.inj hposting]
      refine ⟨hosted, values, hhosted, hoverlay, hparams, ?_, hpayload⟩
      rw [filter?_congr hfilters, filter?_withFilter_self]

/-- A change that leaves values valid is accepted where there is a loop to report it to. -/
lemma exists_push (d : Device) (name : String) (options : List Assignment) {loop : Nat}
    (hloop : d.loop? = some loop) (h : (d.changed name options).toBool = true) :
    ∃ posting d', d.push name options = (.ok posting, d') := by
  obtain ⟨hosted, hchanged⟩ := exists_of_toBool h
  have hwith : (d.withFilter name hosted).loop? = some loop := hloop
  unfold push
  rw [hchanged]
  dsimp only
  rw [hwith]
  exact ⟨_, _, rfl⟩

end Device

namespace FilterRecord

variable {r : FilterRecord} {values updates out : List Assignment}

/-- The option of an assignment is declared, and its declaration admits the value. -/
def Admits (r : FilterRecord) (a : Assignment) : Prop :=
  ∃ d c, r.declaration? a.name = some d ∧ d.check a.value = .ok c

/-- The record has the values of a list, each in the form that it declares, and no others. -/
structure Shows (r : FilterRecord) (values : List Assignment) : Prop where
  names : (names values).Perm (names r.current)
  values : ∀ name v, find? name values = some v →
    ∃ d c, r.declaration? name = some d ∧ d.check v = .ok c ∧ find? name r.current = some c

/-- Values that match have the same names in the same order. -/
lemma names_of_matches {list : List Assignment} (h : List.Forall₂ r.Matches values list) :
    names values = names list := by
  induction h with
  | nil => rfl
  | cons hab _ ih => rw [names_cons, names_cons, hab.1, ih]

/-- A record that agrees with values shows them. -/
lemma shows_of_agrees (h : r.Agrees values) (hnd : (names r.current).Nodup) : r.Shows values where
  names := .of_eq (names_of_matches h)
  values name v hv := by
    obtain ⟨b, hb, hname, d, hd, hcheck⟩ := exists_match h (mem_of_find? hv)
    refine ⟨d, b.value, hd, hcheck, ?_⟩
    rw [show name = b.name from hname]
    exact find?_of_mem hnd hb

/-- A fresh record shows the initial values of its kind. -/
lemma shows_fresh (kind : FilterKind) (name : String) :
    (fresh kind name).Shows (Parameters.initialValues kind) :=
  shows_of_agrees (agrees_fresh kind name)
    (Parameters.nodup_of_ofOptions (Parameters.ofOptions_initialValues kind))

/-- Updates that a record and a list take over alike leave the record showing the list. -/
lemma Shows.of_overlay (h : r.Shows values) {kind : FilterKind} {changed : List Assignment}
    (hoverlay : Device.overlay kind values updates = .ok changed)
    (hmerge : r.merge updates = .ok out) :
    (r.withValues out).Shows changed where
  names := by
    show (Assignment.names changed).Perm (Assignment.names out)
    rw [Device.names_of_overlay hoverlay, names_of_merge hmerge]
    exact h.names
  values name v hv := by
    show ∃ d c, r.declaration? name = some d ∧ d.check v = .ok c ∧ find? name out = some c
    rw [Device.find?_of_overlay hoverlay] at hv
    cases hlast : find? name updates.reverse with
    | some u =>
      rw [hlast, Option.some_or] at hv
      obtain rfl := Option.some.inj hv
      exact last_of_merge hmerge hlast
    | none =>
      rw [hlast, Option.none_or] at hv
      rw [find?_reverse_eq_none] at hlast
      rw [find?_of_merge hmerge hlast]
      exact h.values name v hv

end FilterRecord

namespace RemoteProxy

variable {p q : RemoteProxy} {values options changed : List Assignment}

/-- The proxy reads a report of its filter and takes it over. -/
def Hears (p : RemoteProxy) (payload : ByteArray) (q : RemoteProxy) : Prop :=
  ∃ options list, decodePayload OptionReport.decoder payload = some ⟨p.name, options⟩ ∧
    p.absorb options = .ok (list, q)

/-- The proxy is that of a filter that a device has advertised. -/
structure Advertised (p : RemoteProxy) : Prop where
  valid : p.Valid
  declarations : p.record.declarations = Parameters.declarations p.kind

/-- The proxy that is made for an advertisement of a device is one, and so is every later one. -/
lemma advertised_of_evolves {kind : FilterKind} {name topic : String}
    (h : (RemoteFilter.fresh kind name topic).proxy.Evolves p) : p.Advertised where
  valid := h.valid (RemoteFilter.ofAdvertisement_ok
    (RemoteFilter.ofAdvertisement_fresh kind name topic)).1.proxy
  declarations := by
    rw [h.record, h.kind]
    rfl

/-- A proxy as advertised has the declarations of its kind. -/
lemma Advertised.declaration? (h : p.Advertised) (name : String) : p.record.declaration? name =
    (Parameters.declarations p.kind).find? (fun d => d.name == name) := by
  rw [FilterRecord.declaration?, h.declarations]

/-- A value that suits an option is admitted, and is made a value that suits it. -/
lemma Advertised.admits (h : p.Advertised) {name : String} {v : OptionValue}
    (hname : name ∈ p.kind.optionNames) (hv : v.Suits name) :
    ∃ d c, p.record.declaration? name = some d ∧ d.check v = .ok c ∧ c.Suits name := by
  obtain ⟨d, hd, c, hcheck, hsuits⟩ := Parameters.check_of_suits hname hv
  exact ⟨d, c, (h.declaration? name).trans hd, hcheck, hsuits⟩

/-- What is admitted is finite. -/
lemma Advertised.isFinite (h : p.Advertised) {a : Assignment} (ha : p.record.Admits a) :
    a.value.IsFinite := by
  obtain ⟨d, c, hd, hcheck⟩ := ha
  rw [h.declaration?] at hd
  exact Parameters.isFinite_of_check (List.mem_of_find?_eq_some hd) hcheck

/-- Changes that come to parameters on the device come to parameters on the host, if the host can
merge them. -/
lemma Advertised.merge_of_overlay (h : p.Advertised)
    (hoverlay : Device.overlay p.kind values options = .ok changed)
    (hparams : ∃ params, Parameters.ofOptions p.kind changed = .ok params)
    {merged : List Assignment} (hmerge : p.record.merge options = .ok merged) :
    p.merge options = .ok merged := by
  obtain ⟨hperm, hpresent⟩ := Parameters.exists_ofOptions.mp h.valid.params
  refine merge_eq_ok.mpr ⟨hmerge, Parameters.exists_ofOptions.mpr ⟨?_, fun name hname => ?_⟩⟩
  · rw [FilterRecord.names_of_merge hmerge]
    exact hperm
  · cases hlast : find? name options.reverse with
    -- what the host merges last, the device has accepted
    | some v =>
      obtain ⟨u, hu, hsuits⟩ := (Parameters.exists_ofOptions.mp hparams).2 name hname
      rw [Device.find?_of_overlay hoverlay, hlast, Option.some_or] at hu
      obtain rfl := Option.some.inj hu
      obtain ⟨d, c, hd, hcheck, hc⟩ := h.admits hname hsuits
      obtain ⟨d', c', hd', hcheck', hfind⟩ := FilterRecord.last_of_merge hmerge hlast
      cases hd.symm.trans hd'
      cases hcheck.symm.trans hcheck'
      exact ⟨c, hfind, hc⟩
    | none =>
      rw [find?_reverse_eq_none] at hlast
      rw [FilterRecord.find?_of_merge hmerge hlast]
      exact hpresent name hname

end RemoteProxy

namespace Device

variable {d d' : Device} {p : RemoteProxy} {values options : List Assignment} {posting : Posting}

/-- What a device changes by itself its host takes over exactly if it admits every value that is
reported, and then it shows the values of the device. It admits every value that is the last one for
its option, and so takes over every change in which no option comes twice. -/
theorem push_heard_as_far_as_admitted (hp : p.Advertised)
    (hhosted : d.filter? p.name = some ⟨p.kind, values⟩) (hshows : p.record.Shows values)
    (hpush : d.push p.name options = (.ok posting, d')) :
    ∃ changed, d'.filter? p.name = some ⟨p.kind, changed⟩ ∧
      ((∃ q, p.Hears posting.payload q) ↔ ∀ a ∈ options, p.record.Admits a) ∧
      (∀ q, p.Hears posting.payload q → q.record.Shows changed) ∧
      (∀ name v, find? name options.reverse = some v → p.record.Admits ⟨name, v⟩) ∧
      ((names options).Nodup → ∃ q, p.Hears posting.payload q) := by
  obtain ⟨_, changed, hfound, hoverlay, hparams, hchanged, hpayload⟩ := push_eq_ok hpush
  cases hhosted.symm.trans hfound
  have hread : ∀ report, decodePayload OptionReport.decoder posting.payload = some report →
      report = ⟨p.name, options⟩ := by
    intro report hdecode
    rw [hpayload] at hdecode
    exact OptionReport.eq_of_decode_payload hdecode
  have hheard : (∀ a ∈ options, p.record.Admits a) → ∃ q, p.Hears posting.payload q := by
    intro hadmits
    obtain ⟨merged, hmerge⟩ := FilterRecord.exists_merge hp.valid.kind fun a ha =>
      ⟨hshows.names.subset (name_of_overlay hoverlay ha), hadmits a ha⟩
    have hdecode : decodePayload OptionReport.decoder posting.payload = some ⟨p.name, options⟩ := by
      rw [hpayload]
      exact OptionReport.decode_payload fun a ha => hp.isFinite (hadmits a ha)
    exact ⟨p.withValues merged, options, _, hdecode, RemoteProxy.absorb_eq_ok.mpr
      ⟨merged, hp.merge_of_overlay hoverlay hparams hmerge, rfl, rfl⟩⟩
  have hlast : ∀ name v, find? name options.reverse = some v → p.record.Admits ⟨name, v⟩ := by
    intro name v hv
    have hname : name ∈ p.kind.optionNames := by
      have hmem := mem_of_find? hv
      rw [List.mem_reverse] at hmem
      have hperm := Parameters.perm_of_ofOptions hparams.choose_spec
      rw [names_of_overlay hoverlay] at hperm
      exact hperm.subset (name_of_overlay hoverlay hmem)
    obtain ⟨u, hu, hsuits⟩ := (Parameters.exists_ofOptions.mp hparams).2 name hname
    rw [find?_of_overlay hoverlay, hv, Option.some_or] at hu
    obtain rfl := Option.some.inj hu
    obtain ⟨decl, c, hdecl, hcheck, -⟩ := hp.admits hname hsuits
    exact ⟨decl, c, hdecl, hcheck⟩
  refine ⟨changed, hchanged, ⟨?_, hheard⟩, ?_, hlast, ?_⟩
  · rintro ⟨q, heard, list, hdecode, habsorb⟩ a ha
    cases hread _ hdecode
    obtain ⟨merged, hmerge, -, -⟩ := RemoteProxy.absorb_eq_ok.mp habsorb
    obtain ⟨-, decl, c, hdecl, hcheck⟩ :=
      FilterRecord.check_of_merge (RemoteProxy.merge_eq_ok.mp hmerge).1 ha
    exact ⟨decl, c, hdecl, hcheck⟩
  · rintro q ⟨heard, list, hdecode, habsorb⟩
    cases hread _ hdecode
    obtain ⟨merged, hmerge, -, rfl⟩ := RemoteProxy.absorb_eq_ok.mp habsorb
    exact hshows.of_overlay hoverlay (RemoteProxy.merge_eq_ok.mp hmerge).1
  · intro hnodup
    refine hheard fun a ha => hlast a.name a.value ?_
    refine find?_of_mem ?_ (List.mem_reverse.mpr ha)
    rw [names_reverse]
    exact List.nodup_reverse.mpr hnodup

/-- A device that hosts a temporal filter at the defaults and reports to a loop. -/
def reporting : Device := { ((ofConfig {}).advertise .temporal "depth").2 with loop? := some 0 }

/-- The host takes over a change in which an admitted value is overridden by another one. -/
theorem overridden_delta_is_heard : ∃ posting d' changed q,
    reporting.push "depth" [⟨"Delta", .int 25⟩, ⟨"Delta", .int 30⟩] = (.ok posting, d') ∧
      d'.filter? "depth" = some ⟨.temporal, changed⟩ ∧
      (RemoteFilter.fresh .temporal "depth" "control").proxy.Hears posting.payload q ∧
      q.record.Shows changed := by
  obtain ⟨posting, d', hpush⟩ := exists_push reporting "depth"
    [⟨"Delta", .int 25⟩, ⟨"Delta", .int 30⟩] rfl (by decide +kernel)
  obtain ⟨changed, hchanged, hheard, hshows, -⟩ := push_heard_as_far_as_admitted
    (RemoteProxy.advertised_of_evolves
      (.refl (RemoteFilter.fresh .temporal "depth" "control").proxy))
    rfl (FilterRecord.shows_fresh .temporal "depth") hpush
  have hadmits : ∀ i : Int64, i = 25 ∨ i = 30 →
      (FilterRecord.fresh .temporal "depth").Admits ⟨"Delta", .int i⟩ := by
    rintro i (rfl | rfl)
    · exact ⟨_, .int 25, rfl, eq_ok_of_toOption (by decide +kernel)⟩
    · exact ⟨_, .int 30, rfl, eq_ok_of_toOption (by decide +kernel)⟩
  obtain ⟨q, hq⟩ := hheard.mpr fun a ha => by
    rcases List.mem_pair.mp ha with rfl | rfl
    · exact hadmits 25 (.inl rfl)
    · exact hadmits 30 (.inr rfl)
  exact ⟨posting, d', changed, q, hpush, hchanged, hq, hshows q hq⟩

/-- A change that the device makes is not heard where an overridden value alone is out of range. -/
theorem overridden_entry_is_refused : ¬ ∀ (d d' : Device) (p : RemoteProxy)
    (values options : List Assignment) (posting : Posting), p.Advertised →
    d.filter? p.name = some ⟨p.kind, values⟩ → p.record.Shows values →
    d.push p.name options = (.ok posting, d') →
    ∃ changed q, d'.filter? p.name = some ⟨p.kind, changed⟩ ∧ p.Hears posting.payload q ∧
      q.record.Shows changed := by
  intro hall
  obtain ⟨posting, d', hpush⟩ := exists_push reporting "depth"
    [⟨"Delta", .int 500⟩, ⟨"Delta", .int 30⟩] rfl (by decide +kernel)
  obtain ⟨changed, q, -, ⟨heard, list, hdecode, habsorb⟩, -⟩ := hall reporting d'
    (RemoteFilter.fresh .temporal "depth" "control").proxy _ _ posting
    (RemoteProxy.advertised_of_evolves (.refl _))
      rfl (FilterRecord.shows_fresh .temporal "depth") hpush
  obtain ⟨-, -, -, -, -, -, hpayload⟩ := push_eq_ok hpush
  rw [hpayload] at hdecode
  cases OptionReport.eq_of_decode_payload hdecode
  have hrefused : ((RemoteFilter.fresh .temporal "depth" "control").proxy.absorb
      [⟨"Delta", .int 500⟩, ⟨"Delta", .int 30⟩]).toBool = false := by decide +kernel
  rw [habsorb] at hrefused
  cases hrefused

end Device

end EmbeddedFilters
