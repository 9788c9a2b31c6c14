import EmbeddedFilters.Proofs.Remote.Agreement
import EmbeddedFilters.Proofs.Wire.RoundTrip

/-!
# Devices and the proxies of their filters

A device mirrors a proxy if it hosts a filter of its name and kind with values that the proxy's
record agrees with (`Device.Mirrors`). What can happen to the values on the device's side is that a
message sets them (`send_setOptions`), or that the device changes them by itself (`push_cases`);
everything else that is done to a device leaves them, and where it listens and reports to, as they
are (`Device.Keeps`).
-/

namespace EmbeddedFilters

open Outcome Assignment Json

namespace Device

variable {d d' d'' : Device} {p : RemoteProxy}

/-- A filter that has just been hosted is found under its name. -/
@[simp] lemma filter?_withFilter_self (d : Device) (name : String) (filter : HostedFilter) :
    (d.withFilter name filter).filter? name = some filter := by
  simp [filter?, withFilter]

/-- Hosting a filter leaves those with other names where they are. -/
lemma filter?_withFilter_of_ne {name other : String} (h : other ≠ name) (filter : HostedFilter) :
    (d.withFilter name filter).filter? other = d.filter? other := by
  have hsift : ∀ list : List (String × HostedFilter),
      (list.filter fun f => f.1 != name).find? (fun f => f.1 == other) =
        list.find? fun f => f.1 == other := by
    intro list
    rw [List.find?_filter]
    congr 1
    funext f
    by_cases hf : f.1 = other <;> simp [hf, h]
  simp [filter?, withFilter, hsift, Ne.symm h]

/-- What is found depends on the hosted filters alone. -/
lemma filter?_congr (h : d'.filters = d.filters) (name : String) :
    d'.filter? name = d.filter? name := by
  rw [filter?, filter?, h]

/-- The device listens and reports where it did. -/
structure Keeps (d d' : Device) : Prop where
  controlTopic : d'.controlTopic = d.controlTopic
  notificationTopic : d'.notificationTopic = d.notificationTopic
  loop? : d'.loop? = d.loop?

/-- A request is read if it arrives over the link on the control topic and can be decoded. -/
lemma receive_eq_ok {topic : String} {payload : ByteArray} {request : ControlRequest} :
    d.receive topic payload = (.ok request, d') ↔ d.connected = true ∧ topic = d.controlTopic ∧
      decodePayload ControlRequest.decoder payload = some request ∧
      d' = { d with requests := d.requests ++ [request] } := by
  unfold receive
  cases hconnected : d.connected with
  | false => simp
  | true =>
    by_cases htopic : topic = d.controlTopic
    · cases decodePayload ControlRequest.decoder payload with
      | none => simp [htopic]
      | some other =>
        simp only [Bool.not_true, Bool.false_eq_true, if_false, htopic, ne_eq, not_true_eq_false,
          Prod.mk.injEq, Except.ok.injEq, true_and, Option.some.injEq]
        constructor
        · rintro ⟨rfl, rfl⟩
          exact ⟨rfl, rfl⟩
        · rintro ⟨rfl, rfl⟩
          exact ⟨rfl, rfl⟩
    · simp [htopic]

/-- A request that cannot be read leaves the device as it is. -/
lemma receive_error {topic : String} {payload : ByteArray} {e : LinkError}
    (h : d.receive topic payload = (.error e, d')) : d' = d := by
  unfold receive at h
  split at h
  · cases h
    rfl
  · split at h
    · cases h
      rfl
    · split at h
      · cases h
        rfl
      · cases h

/-- An update of a hosted filter replaces its values, or fails and changes nothing. -/
lemma update_cases (d : Device) (name : String) (kind : FilterKind) (options : List Assignment) :
    (∃ e, d.update name kind options = (.error e, d)) ∨
      (∃ values, d.filter? name = some ⟨kind, values⟩) ∧
        d.update name kind options = (.ok (), d.withFilter name ⟨kind, options⟩) := by
  unfold update
  split
  · exact .inl ⟨_, rfl⟩
  · split
    · exact .inl ⟨_, rfl⟩
    · cases d.filter? name with
      | none => exact .inl ⟨_, rfl⟩
      | some filter =>
        obtain ⟨stated, values⟩ := filter
        by_cases hkind : stated = kind
        · subst hkind
          exact .inr ⟨⟨values, rfl⟩, if_pos rfl⟩
        · exact .inl ⟨_, if_neg hkind⟩

/-- A request to set all options of a filter sets them, or fails and leaves all filters. -/
lemma send_setOptions (d : Device) (topic : String) {payload : ByteArray} {name : String}
    {kind : FilterKind} {options : List Assignment}
    (h : decodePayload ControlRequest.decoder payload = some (.setOptions name kind options)) :
    d.Keeps (d.send topic payload).2 ∧
      ((∃ e, (d.send topic payload).1 = .error e) ∧ (d.send topic payload).2.filters = d.filters ∨
        (d.send topic payload).1 = .ok () ∧ (∃ values, d.filter? name = some ⟨kind, values⟩) ∧
          (d.send topic payload).2.filters = (d.withFilter name ⟨kind, options⟩).filters) := by
  unfold send
  cases hreceive : d.receive topic payload with
  | mk outcome next =>
    cases outcome with
    | error e =>
      obtain rfl := receive_error hreceive
      exact ⟨⟨rfl, rfl, rfl⟩, .inl ⟨⟨e, rfl⟩, rfl⟩⟩
    | ok request =>
      obtain ⟨-, -, hrequest, rfl⟩ := receive_eq_ok.mp hreceive
      obtain rfl := Option.some.inj (hrequest.symm.trans h)
      dsimp only [handle]
      rcases update_cases _ name kind options with ⟨e, hupdate⟩ | ⟨hosted, hupdate⟩
      · rw [hupdate]
        exact ⟨⟨rfl, rfl, rfl⟩, .inl ⟨⟨e, rfl⟩, rfl⟩⟩
      · rw [hupdate]
        exact ⟨⟨rfl, rfl, rfl⟩, .inr ⟨rfl, hosted, rfl⟩⟩

/-- The device takes what a proxy sends: it can be reached on the topic of the proxy, has not been
told to reject updates, and hosts a filter of the proxy's name and kind. -/
structure Serves (d : Device) (p : RemoteProxy) : Prop where
  connected : d.connected = true
  topic : p.topic = d.controlTopic
  accepts : d.rejection? = none
  hosted : (d.filter? p.name).map (·.kind) = some p.kind

instance (d : Device) (p : RemoteProxy) : Decidable (d.Serves p) :=
  decidable_of_iff (d.connected = true ∧ p.topic = d.controlTopic ∧ d.rejection? = none ∧
      (d.filter? p.name).map (·.kind) = some p.kind)
    ⟨fun ⟨hconnected, htopic, haccepts, hhosted⟩ => ⟨hconnected, htopic, haccepts, hhosted⟩,
      fun h => ⟨h.connected, h.topic, h.accepts, h.hosted⟩⟩

/-- An update of a hosted filter replaces its values if it is complete and valid. -/
lemma update_ok {name : String} {kind : FilterKind} {options : List Assignment}
    (haccepts : d.rejection? = none) (hhosted : (d.filter? name).map (·.kind) = some kind)
    (hparams : ∃ params, Parameters.ofOptions kind options = .ok params) :
    d.update name kind options = (.ok (), d.withFilter name ⟨kind, options⟩) := by
  obtain ⟨params, hparams⟩ := hparams
  obtain ⟨filter, hfilter, hkind⟩ := Option.map_eq_some_iff.mp hhosted
  simp only [update, haccepts, hparams, hfilter, hkind, if_true]

/-- A device that serves a proxy sets all options of its filter. -/
lemma Serves.send_eq (h : d.Serves p) {payload : ByteArray} {options : List Assignment}
    (hdecode : decodePayload ControlRequest.decoder payload =
      some (.setOptions p.name p.kind options))
    (hparams : ∃ params, Parameters.ofOptions p.kind options = .ok params) :
    ∃ requests statistics, d.send p.topic payload =
      (.ok (), { d.withFilter p.name ⟨p.kind, options⟩ with requests, statistics }) := by
  have hupdate : ({ d with requests := d.requests ++ [.setOptions p.name p.kind options] } :
      Device).update p.name p.kind options = (.ok (), _) := update_ok h.accepts h.hosted hparams
  refine ⟨d.requests ++ [.setOptions p.name p.kind options],
    d.statistics.record payload.size (.ok ()), ?_⟩
  rw [send, receive_eq_ok.mpr ⟨h.connected, h.topic, hdecode, rfl⟩]
  dsimp only [handle]
  rw [hupdate]
  rfl

/-- A device that serves a proxy takes a complete request for it. -/
lemma Serves.send_ok (h : d.Serves p) {payload : ByteArray} {options : List Assignment}
    (hdecode : decodePayload ControlRequest.decoder payload =
      some (.setOptions p.name p.kind options))
    (hparams : ∃ params, Parameters.ofOptions p.kind options = .ok params) :
    (d.send p.topic payload).1 = .ok () := by
  obtain ⟨requests, statistics, hsend⟩ := h.send_eq hdecode hparams
  rw [hsend]

/-- A device that has set all options of a proxy's filter goes on serving the proxy. -/
lemma Serves.send_serves (h : d.Serves p) {payload : ByteArray} {options : List Assignment}
    (hdecode : decodePayload ControlRequest.decoder payload =
      some (.setOptions p.name p.kind options))
    (hparams : ∃ params, Parameters.ofOptions p.kind options = .ok params) :
    (d.send p.topic payload).2.Serves p := by
  obtain ⟨requests, statistics, hsend⟩ := h.send_eq hdecode hparams
  rw [hsend]
  exact ⟨h.connected, h.topic, h.accepts,
    congrArg (Option.map (·.kind)) (filter?_withFilter_self _ _ _)⟩

/-- A device that serves a proxy serves it in its later states too. -/
lemma Serves.of_evolves {q : RemoteProxy} (h : d.Serves p) (hevolves : p.Evolves q) :
    d.Serves q where
  connected := h.connected
  topic := hevolves.topic.trans h.topic
  accepts := h.accepts
  hosted := by
    rw [hevolves.name, hevolves.kind]
    exact h.hosted

/-- A question leaves all filters. -/
lemma query_keeps (d : Device) (topic : String) (payload : ByteArray) :
    d.Keeps (d.query topic payload).2 ∧ (d.query topic payload).2.filters = d.filters := by
  unfold query
  cases hreceive : d.receive topic payload with
  | mk outcome next =>
    cases outcome with
    | error e =>
      obtain rfl := receive_error hreceive
      exact ⟨⟨rfl, rfl, rfl⟩, rfl⟩
    | ok request =>
      obtain ⟨-, -, -, rfl⟩ := receive_eq_ok.mp hreceive
      cases request with
      | setOptions => exact ⟨⟨rfl, rfl, rfl⟩, rfl⟩
      | getOptions name kind =>
        dsimp only
        split <;> exact ⟨⟨rfl, rfl, rfl⟩, rfl⟩

/-- A device that is asked over its link for the values of a filter reports them. -/
lemma query_getOptions {topic : String} {name : String} {kind : FilterKind} {reply : ByteArray} :
    (d.query topic (ControlRequest.getOptions name kind).payload).1 = .ok reply ↔
      d.connected = true ∧ topic = d.controlTopic ∧ ∃ hosted, d.filter? name = some hosted ∧
        reply = OptionReport.payload ⟨name, hosted.values⟩ := by
  have hdecode := ControlRequest.decode_getOptions name kind
  have hvalues : ∀ requests : List ControlRequest,
      ({ d with requests } : Device).values? name = (d.filter? name).map (·.values) := fun _ => rfl
  unfold query
  cases hreceive : d.receive topic (ControlRequest.getOptions name kind).payload with
  | mk outcome next =>
    cases outcome with
    | error e =>
      have hrefused : ¬ (d.connected = true ∧ topic = d.controlTopic) := by
        rintro ⟨hconnected, htopic⟩
        cases hreceive.symm.trans (receive_eq_ok.mpr ⟨hconnected, htopic, hdecode, rfl⟩)
      constructor
      · intro h
        cases h
      · rintro ⟨hconnected, htopic, -⟩
        exact absurd ⟨hconnected, htopic⟩ hrefused
    | ok request =>
      obtain ⟨hconnected, htopic, hrequest, rfl⟩ := receive_eq_ok.mp hreceive
      obtain rfl := Option.some.inj (hrequest.symm.trans hdecode)
      dsimp only
      rw [hvalues]
      cases d.filter? name with
      | none => simp
      | some hosted => simp [hconnected, htopic, eq_comm]

/-- Updates that a device makes by itself are refused, or laid over values that go on denoting
parameters. -/
lemma changed_cases (d : Device) (name : String) (options : List Assignment) :
    (∃ reason, d.changed name options = .error (.protocol reason)) ∨
      ∃ hosted values, d.filter? name = some hosted ∧
        overlay hosted.kind hosted.values options = .ok values ∧
        (∃ params, Parameters.ofOptions hosted.kind values = .ok params) ∧
        d.changed name options = .ok { hosted with values } := by
  unfold changed
  cases d.filter? name with
  | none => exact .inl ⟨_, rfl⟩
  | some hosted =>
    cases hover : overlay hosted.kind hosted.values options with
    | error e => exact .inl ⟨e.message, by simp [hover]⟩
    | ok values =>
      cases hparams : Parameters.ofOptions hosted.kind values with
      | error e => exact .inl ⟨e.message, by simp [hover, hparams]⟩
      | ok params =>
        exact .inr ⟨hosted, values, rfl, hover, ⟨params, hparams⟩, by simp [hover, hparams]⟩

/-- What a device that reports to a loop changes by itself is refused by the device, or laid over
the values and reported. -/
lemma push_cases {loop : Nat} (hloop : d.loop? = some loop) (name : String)
    (options : List Assignment) :
    (∃ reason, d.push name options = (.error (.protocol reason), d)) ∨
      ∃ hosted values, d.filter? name = some hosted ∧
        overlay hosted.kind hosted.values options = .ok values ∧
        (∃ params, Parameters.ofOptions hosted.kind values = .ok params) ∧
        (d.push name options).1 =
          .ok ⟨loop, d.notificationTopic, OptionReport.payload ⟨name, options⟩⟩ ∧
        d.Keeps (d.push name options).2 ∧
        (d.push name options).2.filters = (d.withFilter name { hosted with values }).filters := by
  unfold push
  rcases d.changed_cases name options with ⟨reason, hchanged⟩ |
    ⟨hosted, values, hhosted, hover, hparams, hchanged⟩
  · rw [hchanged]
    exact .inl ⟨reason, rfl⟩
  · have hwith : (d.withFilter name { hosted with values }).loop? = some loop := hloop
    rw [hchanged]
    dsimp only
    rw [hwith]
    exact .inr ⟨hosted, values, hhosted, hover, hparams, rfl, ⟨rfl, rfl, hloop.symm⟩, rfl⟩

/-- The device hosts the filter of a sound proxy, which sends where the device listens, under its
name and with values that the proxy agrees with. -/
structure Mirrors (d : Device) (p : RemoteProxy) : Prop where
  valid : p.Valid
  sound : p.spoiled = false
  topic : p.topic = d.controlTopic
  hosted : ∃ values, d.filter? p.name = some ⟨p.kind, values⟩ ∧ p.record.Agrees values ∧
    ∃ params, Parameters.ofOptions p.kind values = .ok params

/-- A proxy is mirrored as long as its hosted filter stays. -/
lemma Mirrors.of_keeps (h : d.Mirrors p) (hkeeps : d.Keeps d')
    (hfilter : d'.filter? p.name = d.filter? p.name) : d'.Mirrors p where
  valid := h.valid
  sound := h.sound
  topic := h.topic.trans hkeeps.controlTopic.symm
  hosted := by
    rw [hfilter]
    exact h.hosted

/-- A proxy whose hosted filter has taken the values that were sent is mirrored once it has them
too. -/
lemma Mirrors.of_send {updates merged : List Assignment} (h : d.Mirrors p) (hkeeps : d.Keeps d')
    (hmerge : p.merge updates = .ok merged)
    (hfilter : d'.filter? p.name = some ⟨p.kind, merged⟩) : d'.Mirrors (p.withValues merged) where
  valid := (RemoteProxy.evolves_of_merge hmerge).valid h.valid
  sound := h.sound
  topic := h.topic.trans hkeeps.controlTopic.symm
  hosted := by
    obtain ⟨values, -, hagrees, -⟩ := h.hosted
    obtain ⟨hrecord, hparams⟩ := RemoteProxy.merge_eq_ok.mp hmerge
    exact ⟨merged, hfilter, FilterRecord.agrees_of_merge hagrees hrecord, hparams⟩

/-- A proxy is mirrored again once it has taken over what the device has changed by itself. -/
lemma Mirrors.of_push {options values changed : List Assignment} {q : RemoteProxy}
    {list : List ChangedOption} (h : d.Mirrors p) (hkeeps : d.Keeps d')
    (hhosted : d.filter? p.name = some ⟨p.kind, values⟩)
    (hoverlay : overlay p.kind values options = .ok changed)
    (hparams : ∃ params, Parameters.ofOptions p.kind changed = .ok params)
    (hfilter : d'.filter? p.name = some ⟨p.kind, changed⟩)
    (habsorb : p.absorb options = .ok (list, q)) : d'.Mirrors q := by
  have hevolves := RemoteProxy.evolves_absorb habsorb
  obtain ⟨_, hfound, hagrees, -⟩ := h.hosted
  cases hhosted.symm.trans hfound
  refine ⟨hevolves.valid h.valid, ?_, ?_, changed, ?_, ?_, ?_⟩
  -- taking values over does not spoil a proxy
  · obtain ⟨merged, -, -, rfl⟩ := RemoteProxy.absorb_eq_ok.mp habsorb
    exact h.sound
  · exact (hevolves.topic.trans h.topic).trans hkeeps.controlTopic.symm
  · rw [hevolves.name, hevolves.kind]
    exact hfilter
  · exact RemoteProxy.agrees_of_absorb hagrees habsorb hoverlay
  · rw [hevolves.kind]
    exact hparams

/-- The report of a device on the values of a proxy that it mirrors is accepted and changes
nothing. -/
lemma Mirrors.accept_report (h : d.Mirrors p) {values : List Assignment}
    (hhosted : d.filter? p.name = some ⟨p.kind, values⟩) :
    p.accept (OptionReport.payload ⟨p.name, values⟩) = .ok ([], p) := by
  obtain ⟨_, hfound, hagrees, params, hparams⟩ := h.hosted
  cases hhosted.symm.trans hfound
  have hdecode : decodePayload OptionReport.decoder (OptionReport.payload ⟨p.name, values⟩) =
      some ⟨p.name, values⟩ :=
        OptionReport.decode_payload (Parameters.isFinite_of_ofOptions hparams)
  exact RemoteProxy.accept_eq_ok.mpr
    ⟨h.sound, values, hdecode, RemoteProxy.absorb_of_agrees h.valid hagrees⟩

/-- The answer of a device to a proxy that it mirrors is accepted and changes nothing. -/
lemma Mirrors.accept_answer (h : d.Mirrors p) {topic : String} {kind : FilterKind}
    {reply : ByteArray}
    (hreply : (d.query topic (ControlRequest.getOptions p.name kind).payload).1 = .ok reply) :
    p.accept reply = .ok ([], p) := by
  obtain ⟨values, hhosted, -⟩ := h.hosted
  obtain ⟨-, -, _, hfound, rfl⟩ := query_getOptions.mp hreply
  cases hhosted.symm.trans hfound
  exact h.accept_report hhosted

end Device

end EmbeddedFilters
