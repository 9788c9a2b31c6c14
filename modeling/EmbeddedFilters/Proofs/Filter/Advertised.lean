import EmbeddedFilters.Proofs.Device
import EmbeddedFilters.Proofs.Filter.Remote
import EmbeddedFilters.Sensor

/-!
# Filters as devices advertise them

A device that is told to offer a filter hosts it at the defaults of its kind. The defaults pass
their own checks (`Parameters.check_initial`), so the host can make a filter of the advertisement
(`RemoteFilter.ofAdvertisement_fresh`), and the device mirrors the proxy of that filter from the
start (`Device.mirrors_fresh`).
-/

namespace EmbeddedFilters

open Outcome Assignment

namespace Parameters

/-- The values that a filter of a kind starts with. -/
def initialValues (kind : FilterKind) : List Assignment :=
  (declarations kind).map Declaration.assignment

/-- Every declaration of a kind is found under its name, and admits its own default. -/
lemma check_initial (kind : FilterKind) {d : Declaration} (hd : d ∈ declarations kind) :
    (declarations kind).find? (fun e => e.name == d.name) = some d ∧
      d.check d.initial = .ok d.initial := by
  have hall : ∀ d ∈ declarations kind,
      (declarations kind).find? (fun e => e.name == d.name) = some d ∧
      (d.check d.initial).toOption = some d.initial := by
    cases kind <;> decide +kernel
  obtain ⟨hfind, hcheck⟩ := hall d hd
  exact ⟨hfind, eq_ok_of_toOption hcheck⟩

/-- The defaults of the declarations denote the parameters that a device starts with. -/
lemma ofOptions_initialValues (kind : FilterKind) :
    ofOptions kind (initialValues kind) = .ok (defaults kind) := by
  refine eq_ok_of_toOption ?_
  cases kind <;> decide +kernel

end Parameters

/-- What a device advertises of a filter that it hosts. -/
def Advertisement.fresh (kind : FilterKind) (name : String) : Advertisement where
  name := name
  kind := kind
  options := Parameters.declarations kind
  stream := Device.stream
  current := Parameters.initialValues kind

namespace FilterRecord

/-- The record of a filter that a device has advertised. -/
def fresh (kind : FilterKind) (name : String) : FilterRecord where
  name? := some name
  kind? := some kind
  declarations? := some (Parameters.declarations kind)
  stream? := some Device.stream
  current := Parameters.initialValues kind

/-- A fresh record agrees with the initial values of its kind. -/
lemma agrees_fresh (kind : FilterKind) (name : String) :
    (fresh kind name).Agrees (Parameters.initialValues kind) := by
  refine List.forall₂_same.mpr fun a ha => ?_
  obtain ⟨d, hd, rfl⟩ := List.mem_map.mp ha
  obtain ⟨hfind, hcheck⟩ := Parameters.check_initial kind hd
  exact ⟨rfl, d, hfind, hcheck⟩

/-- The record is that of the advertisement. -/
lemma ofAdvertisement_fresh (kind : FilterKind) (name : String) :
    ofAdvertisement (.fresh kind name) = .ok (fresh kind name) := by
  have hnames := Parameters.nodup_of_ofOptions (Parameters.ofOptions_initialValues kind)
  have hmerge : (fresh kind name).merge (Parameters.initialValues kind) =
      .ok (Parameters.initialValues kind) :=
    merge_of_agrees (agrees_fresh kind name) rfl hnames
  exact ofAdvertisement_of_merge hmerge

end FilterRecord

namespace RemoteFilter

/-- The filter that is made of an advertisement. -/
def fresh (kind : FilterKind) (name topic : String) : RemoteFilter where
  proxy := { kind, name, topic, record := .fresh kind name }
  models? := some (OptionModel.ofDeclarations (Parameters.declarations kind))

/-- The host makes a filter of what a device advertises. -/
lemma ofAdvertisement_fresh (kind : FilterKind) (name topic : String) :
    ofAdvertisement kind (.fresh kind name) topic = .ok (fresh kind name topic) := by
  have hparams := Parameters.ofOptions_initialValues kind
  have hnew : RemoteProxy.new kind (.fresh kind name) topic =
      .ok { kind, name, topic, record := .fresh kind name } := by
    unfold RemoteProxy.new
    rw [show (FilterRecord.fresh kind name).kind = .ok kind from rfl, ok_bind]
    simp only [ne_eq, not_true_eq_false, if_false]
    rw [show Parameters.ofOptions kind (FilterRecord.fresh kind name).current = .ok (.defaults kind)
      from hparams]
    rfl
  rw [ofAdvertisement, FilterRecord.ofAdvertisement_fresh, ok_bind, declare, hnew]
  rfl

end RemoteFilter

/-- A device mirrors the proxy of a filter that it hosts at the defaults. -/
lemma Device.mirrors_fresh {d : Device} {kind : FilterKind} {name : String}
    (h : d.filter? name = some ⟨kind, Parameters.initialValues kind⟩) (link : LinkNumber) :
    d.Mirrors ((RemoteFilter.fresh kind name d.controlTopic).proxy.wire link) := by
  refine ⟨⟨rfl, rfl, ?_⟩, rfl, rfl, Parameters.initialValues kind, h, ?_, ?_⟩
  · exact ⟨_, Parameters.ofOptions_initialValues kind⟩
  · exact FilterRecord.agrees_fresh kind name
  · exact ⟨_, Parameters.ofOptions_initialValues kind⟩

end EmbeddedFilters
