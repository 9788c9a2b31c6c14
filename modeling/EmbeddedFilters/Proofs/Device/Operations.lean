import EmbeddedFilters.Proofs.Filter.Advertised

/-!
# What can be asked of a device

A device advertises filters, takes messages and questions, changes values by itself, and has its
link cut, its updates rejected and its reports sent to a loop (`Device.Operation`). It turns down a
message, a question or a change for a stated reason (`Device.Declines`), and then holds the same
filters as before. Otherwise only the filter that is named has other values, and these denote
parameters. So every filter of a device denotes parameters, whatever has been asked of the device
(`Device.hosted_filters_stay_valid`).
-/

namespace EmbeddedFilters

open Outcome Assignment Json

/-- The values of the filter denote parameters of its kind. -/
def HostedFilter.Valid (f : HostedFilter) : Prop :=
  ∃ params, Parameters.ofOptions f.kind f.values = .ok params

namespace Device

/-- All filters of the device have values that denote parameters. -/
def Valid (d : Device) : Prop := ∀ f ∈ d.filters, f.2.Valid

/-- What can be asked of a device. -/
inductive Operation where
  | advertise (kind : FilterKind) (name : String)
  | send (topic : String) (payload : ByteArray)
  | query (topic : String) (payload : ByteArray)
  | push (name : String) (options : List Assignment)
  | connect (connected : Bool)
  | reject (reason? : Option String)
  | report (loop : Nat)

/-- Does what is asked, and tells whether it could be done. -/
def perform (d : Device) : Operation → Except LinkError Unit × Device
  | .advertise kind name => (.ok (), (d.advertise kind name).2)
  | .send topic payload => d.send topic payload
  | .query topic payload =>
    let (outcome, d) := d.query topic payload
    (outcome.map fun _ => (), d)
  | .push name options =>
    let (outcome, d) := d.push name options
    (outcome.map fun _ => (), d)
  | .connect connected => (.ok (), { d with connected })
  | .reject reason? => (.ok (), { d with rejection? := reason? })
  | .report loop => (.ok (), { d with loop? := some loop })

/-- The device after all that has been asked of it. -/
def run (d : Device) (operations : List Operation) : Device :=
  operations.foldl (fun d operation => (d.perform operation).2) d

/-- The filter that an operation may change. -/
def Operation.target? : Operation → Option String
  | .advertise _ name => some name
  | .send _ payload =>
    match decodePayload ControlRequest.decoder payload with
    | some (.setOptions name _ _) => some name
    | _ => none
  | .push name _ => some name
  | _ => none

/-! ### Reasons to turn down -/

/-- A message arrives over the link, on the topic on which the device listens, and can be
decoded. -/
structure Reads (d : Device) (topic : String) (payload : ByteArray)
  (request : ControlRequest) : Prop where
  connected : d.connected = true
  topic : topic = d.controlTopic
  decodes : decodePayload ControlRequest.decoder payload = some request

/-- Why a message is not read: the link is cut, it arrives on another topic, or it cannot be
decoded. -/
inductive Misses (d : Device) (topic : String) (payload : ByteArray) : LinkError → Prop where
  | cutOff : d.connected = false → Misses d topic payload .notConnected
  | misdirected : d.connected = true → topic ≠ d.controlTopic →
      Misses d topic payload (.protocol s!"unexpected topic {topic}")
  | malformed : d.connected = true → topic = d.controlTopic →
      decodePayload ControlRequest.decoder payload = none → Misses d topic payload .malformed

/-- Why new values of a filter are not taken: all updates are rejected, the values are incomplete or
out of range, or the device has no filter of the name and kind. -/
inductive Rejects (d : Device) (name : String) (kind : FilterKind) (options : List Assignment) :
    LinkError → Prop where
  | told (reason : String) : d.rejection? = some reason →
    Rejects d name kind options (.rejected reason)
  | invalid (e : FilterError) : d.rejection? = none → Parameters.ofOptions kind options = .error e →
      Rejects d name kind options (.rejected e.message)
  | unhosted : d.rejection? = none → (∃ params, Parameters.ofOptions kind options = .ok params) →
      (d.filter? name).map (·.kind) ≠ some kind →
      Rejects d name kind options (.rejected s!"no {kind.name} filter named '{name}'")

/-- Why a device does not change values by itself: it has no filter of the name, an option is
unknown to the filter, or the values would not denote parameters. -/
inductive Withholds (d : Device) (name : String) (options : List Assignment) : LinkError →
  Prop where
  | unhosted : d.filter? name = none → Withholds d name options (.protocol s!"no filter '{name}'")
  | unknown (hosted : HostedFilter) (earlier later : List Assignment) (a : Assignment) :
      d.filter? name = some hosted → options = earlier ++ a :: later →
      (∀ b ∈ earlier, b.name ∈ names hosted.values) → a.name ∉ names hosted.values →
      Withholds d name options (.protocol (FilterError.unknownOption hosted.kind a.name).message)
  | invalid (hosted : HostedFilter) (values : List Assignment) (e : FilterError) :
      d.filter? name = some hosted → overlay hosted.kind hosted.values options = .ok values →
      Parameters.ofOptions hosted.kind values = .error e →
      Withholds d name options (.protocol e.message)

/-- Why a device turns down what is asked of it. -/
inductive Declines (d : Device) : Operation → LinkError → Prop where
  | send (topic : String) (payload : ByteArray) (e : LinkError) : d.Misses topic payload e →
      Declines d (.send topic payload) e
  | question (topic : String) (payload : ByteArray) (name : String) (kind : FilterKind) :
      d.Reads topic payload (.getOptions name kind) →
      Declines d (.send topic payload) (.protocol "get_options must be sent as a query")
  | update (topic : String) (payload : ByteArray) (name : String) (kind : FilterKind)
      (options : List Assignment) (e : LinkError) :
        d.Reads topic payload (.setOptions name kind options) →
      d.Rejects name kind options e → Declines d (.send topic payload) e
  | query (topic : String) (payload : ByteArray) (e : LinkError) : d.Misses topic payload e →
      Declines d (.query topic payload) e
  | noQuestion (topic : String) (payload : ByteArray) (name : String) (kind : FilterKind)
      (options : List Assignment) : d.Reads topic payload (.setOptions name kind options) →
      Declines d (.query topic payload) (.protocol "query expects get_options")
  | unhosted (topic : String) (payload : ByteArray) (name : String) (kind : FilterKind) :
      d.Reads topic payload (.getOptions name kind) → d.filter? name = none →
      Declines d (.query topic payload) (.rejected s!"no filter '{name}'")
  | push (name : String) (options : List Assignment) (e : LinkError) : d.Withholds name options e →
      Declines d (.push name options) e

/-- What comes of an operation that nothing speaks against. A change that the device makes by itself
is made also where nobody listens to its report. -/
inductive Carries (d : Device) : Operation → Except LinkError Unit → Device → Prop where
  | advertise (kind : FilterKind) (name : String) (d' : Device) :
      d'.filters = (d.advertise kind name).2.filters → Carries d (.advertise kind name) (.ok ()) d'
  | send (topic : String) (payload : ByteArray) (name : String) (kind : FilterKind)
      (values options : List Assignment) (d' : Device) :
      d.Reads topic payload (.setOptions name kind options) → d.filter? name = some ⟨kind, values⟩ →
      HostedFilter.Valid ⟨kind, options⟩ →
      d'.filters = (d.withFilter name ⟨kind, options⟩).filters →
      Carries d (.send topic payload) (.ok ()) d'
  | push (name : String) (options values : List Assignment) (hosted : HostedFilter) (d' : Device) :
      d.filter? name = some hosted → overlay hosted.kind hosted.values options = .ok values →
      HostedFilter.Valid ⟨hosted.kind, values⟩ →
      d'.filters = (d.withFilter name ⟨hosted.kind, values⟩).filters →
      Carries d (.push name options) (if d.loop?.isSome then .ok () else .error .notConnected) d'
  | query (topic : String) (payload : ByteArray) (d' : Device) : d'.filters = d.filters →
      Carries d (.query topic payload) (.ok ()) d'
  | connect (connected : Bool) : Carries d (.connect connected) (.ok ()) { d with connected }
  | reject (reason? : Option String) :
      Carries d (.reject reason?) (.ok ()) { d with rejection? := reason? }
  | report (loop : Nat) : Carries d (.report loop) (.ok ()) { d with loop? := some loop }

/-- What comes of an operation: it is turned down for a reason and leaves all filters, or it is
carried out and leaves all filters but the one that it names. -/
inductive Answers (d : Device) (operation : Operation)
  (outcome : Except LinkError Unit) (d' : Device) :
    Prop where
  | declined (e : LinkError) : d.Declines operation e →
      outcome = .error e → d'.filters = d.filters →
      Answers d operation outcome d'
  | carried : (∀ e, ¬ d.Declines operation e) → d.Carries operation outcome d' →
      (∀ other, operation.target? ≠ some other → d'.filter? other = d.filter? other) →
      Answers d operation outcome d'

variable {d d' : Device} {topic name : String} {payload : ByteArray} {request : ControlRequest}
  {kind : FilterKind} {options : List Assignment} {operation : Operation} {e : LinkError}

/-! ### Messages -/

/-- A message that is read is logged, and handed on as the request that is in it. -/
lemma Reads.receive_eq (h : d.Reads topic payload request) :
    d.receive topic payload = (.ok request, { d with requests := d.requests ++ [request] }) :=
  receive_eq_ok.mpr ⟨h.connected, h.topic, h.decodes, rfl⟩

/-- A message that is missed changes nothing. -/
lemma Misses.receive_eq (h : d.Misses topic payload e) :
    d.receive topic payload = (.error e, d) := by
  cases h with
  | cutOff hconnected => simp [receive, hconnected]
  | misdirected hconnected htopic => simp [receive, hconnected, htopic]
  | malformed hconnected htopic hdecode => simp [receive, hconnected, htopic, hdecode]

/-- A message is read unless there is a reason to miss it. -/
lemma reads_or_misses (d : Device) (topic : String) (payload : ByteArray) :
    (∃ request, d.Reads topic payload request) ∨ ∃ e, d.Misses topic payload e := by
  cases hconnected : d.connected with
  | false => exact .inr ⟨_, .cutOff hconnected⟩
  | true =>
    by_cases htopic : topic = d.controlTopic
    · cases hdecode : decodePayload ControlRequest.decoder payload with
      | none => exact .inr ⟨_, .malformed hconnected htopic hdecode⟩
      | some request => exact .inl ⟨request, hconnected, htopic, hdecode⟩
    · exact .inr ⟨_, .misdirected hconnected htopic⟩

/-! ### Updates -/

/-- Reasons to reject values do not depend on the requests that have been read. -/
lemma Rejects.of_read (h : d.Rejects name kind options e) (requests : List ControlRequest) :
    ({ d with requests } : Device).Rejects name kind options e := by
  cases h with
  | told reason hreason => exact .told reason hreason
  | invalid e hreason hparams => exact .invalid e hreason hparams
  | unhosted hreason hparams hkind => exact .unhosted hreason hparams hkind

/-- An update that is rejected changes nothing. -/
lemma Rejects.update_eq (h : d.Rejects name kind options e) :
    d.update name kind options = (.error e, d) := by
  cases h with
  | told reason hreason => simp only [update, hreason]
  | invalid e hreason hparams => simp only [update, hreason, hparams]
  | unhosted hreason hparams hkind =>
    obtain ⟨params, hparams⟩ := hparams
    cases hhosted : d.filter? name with
    | none => simp only [update, hreason, hparams, hhosted]
    | some hosted =>
      have hother : hosted.kind ≠ kind := fun heq => hkind (by rw [hhosted, ← heq]; rfl)
      simp only [update, hreason, hparams, hhosted, if_neg hother]

/-- New values are taken unless there is a reason to reject them. -/
lemma update_or_rejects (d : Device) (name : String) (kind : FilterKind)
    (options : List Assignment) :
    (d.rejection? = none ∧ HostedFilter.Valid ⟨kind, options⟩ ∧
      ∃ values, d.filter? name = some ⟨kind, values⟩) ∨ ∃ e, d.Rejects name kind options e := by
  cases hreason : d.rejection? with
  | some reason => exact .inr ⟨_, .told reason hreason⟩
  | none =>
    cases hparams : Parameters.ofOptions kind options with
    | error e => exact .inr ⟨_, .invalid e hreason hparams⟩
    | ok params =>
      by_cases hkind : (d.filter? name).map (·.kind) = some kind
      · obtain ⟨⟨_, values⟩, hhosted, rfl⟩ := Option.map_eq_some_iff.mp hkind
        exact .inl ⟨rfl, ⟨params, hparams⟩, values, hhosted⟩
      · exact .inr ⟨_, .unhosted hreason ⟨params, hparams⟩ hkind⟩

/-! ### Changes by the device itself -/

/-- An overlay fails at the first name that is not there. -/
lemma overlay_unknown {values earlier : List Assignment} {a : Assignment}
    (h : ∀ b ∈ earlier, b.name ∈ names values) (ha : a.name ∉ names values)
    (later : List Assignment) :
    overlay kind values (earlier ++ a :: later) = .error (.unknownOption kind a.name) := by
  induction earlier generalizing values with
  | nil =>
    have hnone : (values.any fun b => b.name == a.name) = false := by
      simpa [names] using ha
    rw [overlay, List.nil_append, List.foldlM_cons, Assignment.overlay, if_neg (by simp [hnone])]
    rfl
  | cons b earlier ih =>
    have hlaid : Assignment.overlay kind b.name b.value values =
        .ok (replace b.name b.value values) :=
      overlay_eq_ok.mpr ⟨h b List.mem_cons_self, rfl⟩
    rw [overlay, List.cons_append, List.foldlM_cons, hlaid, ok_bind]
    refine ih (fun c hc => ?_) ?_
    · rw [names_replace]
      exact h c (List.mem_cons_of_mem _ hc)
    · rwa [names_replace]

/-- Values are laid over others unless one of them is for an option that is not there. -/
lemma overlay_or_unknown (kind : FilterKind) (values options : List Assignment) :
    (∃ out, overlay kind values options = .ok out) ∨ ∃ earlier a later,
      options = earlier ++ a :: later ∧ (∀ b ∈ earlier, b.name ∈ names values) ∧
        a.name ∉ names values := by
  induction options generalizing values with
  | nil => exact .inl ⟨values, rfl⟩
  | cons a options ih =>
    by_cases ha : a.name ∈ names values
    · have hlaid : Assignment.overlay kind a.name a.value values =
          .ok (replace a.name a.value values) :=
        overlay_eq_ok.mpr ⟨ha, rfl⟩
      rcases ih (replace a.name a.value values) with
        ⟨out, hout⟩ | ⟨earlier, b, later, rfl, hearlier, hb⟩
      · refine .inl ⟨out, ?_⟩
        rw [overlay, List.foldlM_cons, hlaid, ok_bind]
        exact hout
      · rw [names_replace] at hearlier hb
        exact .inr ⟨a :: earlier, b, later, rfl, List.forall_mem_cons.mpr ⟨ha, hearlier⟩, hb⟩
    · exact .inr ⟨[], a, options, rfl, by simp, ha⟩

/-- A change that is withheld fails as it says. -/
lemma Withholds.changed_eq (h : d.Withholds name options e) :
    d.changed name options = .error e := by
  cases h with
  | unhosted hhosted => simp only [changed, hhosted]
  | unknown hosted earlier later a hhosted hoptions hearlier ha =>
    subst hoptions
    simp only [changed, hhosted, overlay_unknown hearlier ha later, error_bind]
  | invalid hosted values e hhosted hoverlay hparams =>
    simp only [changed, hhosted, hoverlay, hparams, ok_bind, error_bind]

/-- A device changes values by itself unless there is a reason to withhold the change. -/
lemma changed_or_withholds (d : Device) (name : String) (options : List Assignment) :
    (∃ hosted values, d.filter? name = some hosted ∧
      overlay hosted.kind hosted.values options = .ok values ∧
      HostedFilter.Valid ⟨hosted.kind, values⟩ ∧
      d.changed name options = .ok ⟨hosted.kind, values⟩) ∨ ∃ e, d.Withholds name options e := by
  cases hhosted : d.filter? name with
  | none => exact .inr ⟨_, .unhosted hhosted⟩
  | some hosted =>
    rcases overlay_or_unknown hosted.kind hosted.values options with
      ⟨values, hoverlay⟩ | ⟨earlier, a, later, hoptions, hearlier, ha⟩
    · cases hparams : Parameters.ofOptions hosted.kind values with
      | error e => exact .inr ⟨_, .invalid hosted values e hhosted hoverlay hparams⟩
      | ok params =>
        refine .inl ⟨hosted, values, rfl, hoverlay, ⟨params, hparams⟩, ?_⟩
        simp only [changed, hhosted, hoverlay, hparams, ok_bind]
        rfl
    · exact .inr ⟨_, .unknown hosted earlier later a hhosted hoptions hearlier ha⟩

/-! ### Operations -/

/-- What is turned down fails for the reason for which it is turned down, and leaves all filters. -/
lemma Declines.perform_eq (h : d.Declines operation e) :
    (d.perform operation).1 = .error e ∧ (d.perform operation).2.filters = d.filters := by
  cases h with
  | send topic payload e hmisses =>
    rw [perform, Device.send, hmisses.receive_eq]
    exact ⟨rfl, rfl⟩
  | question topic payload name kind hreads =>
    rw [perform, Device.send, hreads.receive_eq]
    exact ⟨rfl, rfl⟩
  | update topic payload name kind options e hreads hrejects =>
    rw [perform, Device.send, hreads.receive_eq]
    dsimp only [handle]
    rw [(hrejects.of_read _).update_eq]
    exact ⟨rfl, rfl⟩
  | query topic payload e hmisses =>
    rw [perform, Device.query, hmisses.receive_eq]
    exact ⟨rfl, rfl⟩
  | noQuestion topic payload name kind options hreads =>
    rw [perform, Device.query, hreads.receive_eq]
    exact ⟨rfl, rfl⟩
  | unhosted topic payload name kind hreads hhosted =>
    have hvalues : ∀ requests : List ControlRequest,
        ({ d with requests } : Device).values? name = none :=
      fun _ => congrArg (Option.map HostedFilter.values) hhosted
    rw [perform, Device.query, hreads.receive_eq]
    dsimp only
    rw [hvalues]
    exact ⟨rfl, rfl⟩
  | push name options e hwithholds =>
    rw [perform, Device.push, hwithholds.changed_eq]
    exact ⟨rfl, rfl⟩

/-- A message is turned down, or sets all options of a filter that the device has. -/
lemma send_answers (d : Device) (topic : String) (payload : ByteArray) :
    (∃ e, d.Declines (.send topic payload) e) ∨
      d.Carries (.send topic payload) (d.send topic payload).1 (d.send topic payload).2 := by
  rcases d.reads_or_misses topic payload with ⟨request, hreads⟩ | ⟨e, hmisses⟩
  · cases request with
    | getOptions name kind => exact .inl ⟨_, .question topic payload name kind hreads⟩
    | setOptions name kind options =>
      rcases d.update_or_rejects name kind options with
        ⟨haccepts, hvalid, values, hhosted⟩ | ⟨e, hrejects⟩
      · right
        have hupdate : ∀ requests : List ControlRequest,
          ({ d with requests } : Device).update name kind
            options = (.ok (), ({ d with requests } : Device).withFilter name ⟨kind, options⟩) :=
          fun _ => update_ok haccepts (congrArg (Option.map (·.kind)) hhosted) hvalid
        rw [Device.send, hreads.receive_eq]
        dsimp only [handle]
        rw [hupdate]
        exact .send topic payload name kind values options _ hreads hhosted hvalid rfl
      · exact .inl ⟨e, .update topic payload name kind options e hreads hrejects⟩
  · exact .inl ⟨e, .send topic payload e hmisses⟩

/-- A question is turned down, or answered. -/
lemma query_answers (d : Device) (topic : String) (payload : ByteArray) :
    (∃ e, d.Declines (.query topic payload) e) ∨
      d.Carries (.query topic payload) (d.perform (.query topic payload)).1
        (d.perform (.query topic payload)).2 := by
  rcases d.reads_or_misses topic payload with ⟨request, hreads⟩ | ⟨e, hmisses⟩
  · cases request with
    | setOptions name kind options =>
      exact .inl ⟨_, .noQuestion topic payload name kind options hreads⟩
    | getOptions name kind =>
      cases hhosted : d.filter? name with
      | none => exact .inl ⟨_, .unhosted topic payload name kind hreads hhosted⟩
      | some hosted =>
        right
        have hvalues : ∀ requests : List ControlRequest,
            ({ d with requests } : Device).values? name = some hosted.values :=
          fun _ => congrArg (Option.map HostedFilter.values) hhosted
        rw [perform, Device.query, hreads.receive_eq]
        dsimp only
        rw [hvalues]
        exact .query topic payload _ rfl
  · exact .inl ⟨e, .query topic payload e hmisses⟩

/-- A change by the device itself is withheld, or made. -/
lemma push_answers (d : Device) (name : String) (options : List Assignment) :
    (∃ e, d.Declines (.push name options) e) ∨
      d.Carries (.push name options) (d.perform (.push name options)).1
        (d.perform (.push name options)).2 := by
  rcases d.changed_or_withholds name options with
    ⟨hosted, values, hhosted, hoverlay, hvalid, hchanged⟩ | ⟨e, hwithholds⟩
  · right
    have hcarries : ∀ d' : Device, d'.filters = (d.withFilter name ⟨hosted.kind, values⟩).filters →
        d.Carries (.push name options)
        (if d.loop?.isSome then .ok () else .error .notConnected) d' :=
      fun d' => .push name options values hosted d' hhosted hoverlay hvalid
    have hwith : (d.withFilter name ⟨hosted.kind, values⟩).loop? = d.loop? := rfl
    rw [perform, Device.push, hchanged]
    dsimp only
    rw [hwith]
    cases hloop : d.loop? with
    | none =>
      rw [hloop] at hcarries
      exact hcarries _ rfl
    | some loop =>
      rw [hloop] at hcarries
      exact hcarries _ rfl
  · exact .inl ⟨e, .push name options e hwithholds⟩

/-- An operation is carried out unless there is a reason to turn it down. -/
lemma carries_or_declines (d : Device) (operation : Operation) :
    (∃ e, d.Declines operation e) ∨
      d.Carries operation (d.perform operation).1 (d.perform operation).2 := by
  cases operation with
  | advertise kind name => exact .inr (.advertise kind name _ rfl)
  | send topic payload => exact d.send_answers topic payload
  | query topic payload => exact d.query_answers topic payload
  | push name options => exact d.push_answers name options
  | connect connected => exact .inr (.connect connected)
  | reject reason? => exact .inr (.reject reason?)
  | report loop => exact .inr (.report loop)

/-- A request to set options has the filter of its name as target. -/
lemma Reads.target_send (h : d.Reads topic payload (.setOptions name kind options)) :
    (Operation.send topic payload).target? = some name := by
  simp only [Operation.target?, h.decodes]

/-- What is carried out changes the filter that is named and leaves all others. -/
lemma Carries.others {outcome : Except LinkError Unit} (h : d.Carries operation outcome d')
    {other : String} (hother : operation.target? ≠ some other) :
    d'.filter? other = d.filter? other := by
  have hleaves : ∀ {name : String} {f : HostedFilter}, operation.target? = some name →
      d'.filters = (d.withFilter name f).filters → d'.filter? other = d.filter? other := by
    intro name f htarget hfilters
    have hne : other ≠ name := fun heq => hother (heq ▸ htarget)
    rw [filter?_congr hfilters, filter?_withFilter_of_ne hne]
  cases h with
  | advertise kind name _ hfilters => exact hleaves rfl hfilters
  | send topic payload name kind values options _ hreads _ _ hfilters =>
    exact hleaves hreads.target_send hfilters
  | push name options values hosted _ _ _ _ hfilters => exact hleaves rfl hfilters
  | query topic payload _ hfilters => exact filter?_congr hfilters other
  | connect | reject | report => rfl

/-- A device that hosts one more valid filter is valid. -/
lemma valid_withFilter {f : HostedFilter} (hd : d.Valid) (hf : f.Valid) :
    (d.withFilter name f).Valid := by
  intro g hg
  rcases List.mem_cons.mp hg with rfl | hg
  · exact hf
  · exact hd g (List.mem_of_mem_filter hg)

/-- Whether a device is valid depends on its hosted filters alone. -/
lemma valid_congr (hd : d.Valid) (h : d'.filters = d.filters) : d'.Valid := by
  rw [Valid, h]
  exact hd

/-- What is carried out on a device whose filters denote parameters leaves it such a device. -/
lemma Carries.valid {outcome : Except LinkError Unit} (h : d.Carries operation outcome d')
    (hd : d.Valid) : d'.Valid := by
  cases h with
  | advertise kind name _ hfilters =>
    exact valid_congr (valid_withFilter hd ⟨_, Parameters.ofOptions_initialValues kind⟩) hfilters
  | send topic payload name kind values options _ _ _ hvalid hfilters =>
    exact valid_congr (valid_withFilter hd hvalid) hfilters
  | push name options values hosted _ _ _ hvalid hfilters =>
    exact valid_congr (valid_withFilter hd hvalid) hfilters
  | query topic payload _ hfilters => exact valid_congr hd hfilters
  | connect | reject | report => exact hd

/-- A valid device stays valid whatever it is asked to do. -/
lemma Valid.perform (hd : d.Valid) (operation : Operation) : (d.perform operation).2.Valid := by
  rcases d.carries_or_declines operation with ⟨e, hdeclines⟩ | hcarries
  · exact valid_congr hd hdeclines.perform_eq.2
  · exact hcarries.valid hd

/-- A valid device stays valid over any operations. -/
lemma Valid.run (hd : d.Valid) (operations : List Operation) : (d.run operations).Valid := by
  induction operations generalizing d with
  | nil => exact hd
  | cons operation operations ih => exact ih (hd.perform operation)

/-- What is carried out succeeds, but for a change whose report nobody listens to. -/
lemma Carries.outcome {outcome : Except LinkError Unit} (h : d.Carries operation outcome d') :
    outcome = .ok () ∨ (∃ name options, operation = .push name options) ∧
    outcome = .error .notConnected := by
  cases h with
  | push name options =>
    cases d.loop? with
    | none => exact .inr ⟨⟨name, options, rfl⟩, rfl⟩
    | some loop => exact .inl rfl
  | _ => exact .inl rfl

/-- There is no reason to turn down what has been carried out. -/
lemma Carries.not_declines (h : d.Carries operation (d.perform operation).1 (d.perform operation).2)
    (e : LinkError) : ¬ d.Declines operation e := by
  intro hdeclines
  have hfails := hdeclines.perform_eq.1
  rcases h.outcome with hsucceeds | ⟨⟨name, options, rfl⟩, hunheard⟩
  · cases hsucceeds.symm.trans hfails
  -- a change is withheld for other reasons than that nobody listens
  · obtain rfl : LinkError.notConnected = e := Except.error.inj (hunheard.symm.trans hfails)
    cases hdeclines with
    | push _ _ _ hwithholds => cases hwithholds

/-- All filters of a device have values that denote parameters, whatever has been asked of the
device. What it is asked next it turns down for a reason and then leaves all filters as they are, or
it carries it out and leaves all filters but the one that is named. -/
theorem hosted_filters_stay_valid (config : LinkConfig) (operations : List Operation)
    (operation : Operation) :
    ((ofConfig config).run operations).Valid ∧
      ((ofConfig config).run operations).Answers operation
        (((ofConfig config).run operations).perform operation).1
        (((ofConfig config).run operations).perform operation).2 := by
  have hinitial : (ofConfig config).Valid := by
    intro f hf
    cases hf
  refine ⟨hinitial.run operations, ?_⟩
  rcases ((ofConfig config).run operations).carries_or_declines operation with
    ⟨e, hdeclines⟩ | hcarries
  · exact .declined e hdeclines hdeclines.perform_eq.1 hdeclines.perform_eq.2
  · exact .carried hcarries.not_declines hcarries fun _ hother => hcarries.others hother

end Device

end EmbeddedFilters
