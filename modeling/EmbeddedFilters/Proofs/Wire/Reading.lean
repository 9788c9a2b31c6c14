import EmbeddedFilters.Proofs.Options.Ranges
import EmbeddedFilters.Proofs.Wire.Messages

/-!
# What is read can be read again

Whatever a reader takes from a text can be written and read back. The numbers that are read are
finite, also where a whole number is too large for 64 bits with a sign
(`OptionValue.isFinite_of_decoder`), and so are all numbers of what is read from a text. So the
advertisements that can be read from some text are those that are read back from their own
(`Advertisement.readable_iff`).
-/

namespace EmbeddedFilters

open Json

namespace Json

variable {α : Type} {decode : Decoder α} {depth : Nat}

/-- All members of a list that is read have been read. -/
lemma forall_of_listDecoder {P : α → Prop} (h : ∀ tree a, decode depth tree = some a → P a)
    {tree : Tree} {list : List α} (hread : listDecoder decode (depth + 1) tree = some list) :
    ∀ a ∈ list, P a := by
  cases tree with
  | array items =>
    change items.mapM (decode depth) = some list at hread
    induction items generalizing list with
    | nil =>
      cases hread
      exact List.forall_mem_nil P
    | cons item items ih =>
      simp only [List.mapM_cons, Option.bind_eq_bind, Option.bind_eq_some_iff, Option.pure_def,
        Option.some.injEq] at hread
      obtain ⟨a, ha, rest, hrest, rfl⟩ := hread
      exact List.forall_mem_cons.mpr ⟨h item a ha, ih hrest⟩
  | null | bool | number | string | object => cases hread

/-- What holds of all that a decoder reads holds of a field that may be left out. -/
lemma forall_of_optional {P : α → Prop} (h : ∀ tree a, decode depth tree = some a → P a)
    {field : Option Tree} {o : Option α} (hread : optional decode depth field = some o) :
    ∀ a ∈ o, P a := by
  intro a ha
  cases Option.mem_def.mp ha
  unfold optional at hread
  split at hread
  · cases hread
  · cases hread
  · obtain ⟨b, hb, heq⟩ := Option.map_eq_some_iff.mp hread
    cases heq
    exact h _ _ hb

/-- What is read, or the default where nothing is there to be read. -/
lemma of_orDefault {default a : α} {field : Option Tree}
    (hread : orDefault default decode depth field = some a) :
    a = default ∨ ∃ tree, decode depth tree = some a := by
  cases field with
  | none =>
    cases hread
    exact .inl rfl
  | some tree => exact .inr ⟨tree, hread⟩

/-- A record opens one container. -/
lemma depth_of_recordFields {names : List String} {depth rest : Nat} {tree : Tree}
    {fields : List (Option Tree)} (h : recordFields names depth tree = some (rest, fields)) :
    depth = rest + 1 := by
  unfold recordFields at h
  split at h
  · obtain ⟨trees, -, heq⟩ := Option.map_eq_some_iff.mp h
    cases heq
    rfl
  · split at h
    · cases h
      rfl
    · cases h
  · cases h

end Json

/-- A value that is read is finite. -/
lemma OptionValue.isFinite_of_decoder {depth : Nat} {tree : Tree} {v : OptionValue}
    (h : decoder depth tree = some v) : v.IsFinite := by
  obtain ⟨value, hkeep, hv⟩ := Option.bind_eq_some_iff.mp h
  have hkept := Tree.canBeKept_of_keep tree hkeep
  cases value with
  | integer i =>
    obtain ⟨hlow, hhigh⟩ := hkept
    obtain ⟨-, hv⟩ | ⟨-, hv⟩ := ite_eq_iff.mp hv
    · cases hv
      trivial
    · cases hv
      exact Binary.isFinite_ofInt_of_le (by omega)
  | number x =>
    cases hv
    exact hkept
  | null | bool | string | array | object => cases hv

/-- The value of an assignment that has been read is finite. -/
lemma Assignment.isFinite_of_decoder {depth : Nat} {tree : Tree} {a : Assignment}
    (h : decoder depth tree = some a) : a.value.IsFinite := by
  obtain ⟨⟨depth, fields⟩, -, h⟩ := Option.bind_eq_some_iff.mp h
  dsimp only at h
  split at h
  · simp only [Option.bind_eq_bind, Option.bind_eq_some_iff,
      Option.pure_def, Option.some.injEq] at h
    obtain ⟨name, -, value, hvalue, rfl⟩ := h
    obtain ⟨tree, -, hvalue⟩ := Option.bind_eq_some_iff.mp hvalue
    exact OptionValue.isFinite_of_decoder hvalue
  · cases h

/-- The numbers of a declaration that has been read are finite. -/
lemma Declaration.isFinite_of_decoder {depth : Nat} {tree : Tree} {d : Declaration}
    (h : decoder depth tree = some d) : ∀ v ∈ d.numbers, v.IsFinite := by
  obtain ⟨⟨depth, fields⟩, -, h⟩ := Option.bind_eq_some_iff.mp h
  dsimp only at h
  split at h
  · simp only [Option.bind_eq_bind, Option.bind_eq_some_iff,
      Option.pure_def, Option.some.injEq] at h
    obtain ⟨name, -, kind, -, minimum, hminimum, maximum, hmaximum, step, hstep,
      default, hdefault, value,
      hvalue, description, -, rfl⟩ := h
    have hoptional : ∀ {field : Option Tree} {o : Option OptionValue},
        optional OptionValue.decoder depth field = some o → ∀ v ∈ o, v.IsFinite :=
      fun h => forall_of_optional (fun _ _ hread => OptionValue.isFinite_of_decoder hread) h
    obtain ⟨tree, -, hdefault⟩ := Option.bind_eq_some_iff.mp hdefault
    have hfinite := OptionValue.isFinite_of_decoder hdefault
    intro v hv
    simp only [numbers, List.mem_filterMap, List.mem_cons, List.not_mem_nil, or_false, id] at hv
    obtain ⟨o, rfl | rfl | rfl | rfl | rfl, hv⟩ := hv
    · exact hoptional hminimum v hv
    · exact hoptional hmaximum v hv
    · exact hoptional hstep v hv
    · exact Option.some.inj hv ▸ hfinite
    · exact hoptional hvalue v hv
  · cases h

namespace Advertisement

/-- The numbers of the advertisement are finite, and its stream can be kept and is not nested too
deeply. -/
structure Readable (a : Advertisement) : Prop where
  numbers : ∀ v ∈ a.numbers, v.IsFinite
  stream : a.stream.CanBeKept
  depth : a.stream.depth < depthLimit

/-- A readable advertisement is read back from its text. -/
lemma Readable.decode_text {a : Advertisement} (h : a.Readable) :
    decodeText decoder a.toJson.text = some a :=
  (Advertisement.decode_text h.numbers h.stream).trans (if_pos h.depth)

/-- An advertisement that has been read is readable. -/
lemma readable_of_decoder {tree : Tree} {a : Advertisement} (h : decoder depthLimit tree = some a) :
    a.Readable := by
  obtain ⟨⟨depth, fields⟩, hfields, h⟩ := Option.bind_eq_some_iff.mp h
  obtain rfl : 126 = depth := Nat.succ.inj (depth_of_recordFields hfields)
  dsimp only at h
  split at h
  · simp only [Option.bind_eq_bind, Option.bind_eq_some_iff,
      Option.pure_def, Option.some.injEq] at h
    obtain ⟨name, -, kind, -, options, hoptions, stream, hstream, current, hcurrent, rfl⟩ := h
    obtain ⟨tree, -, hoptions⟩ := Option.bind_eq_some_iff.mp hoptions
    have hdeclared := forall_of_listDecoder
      (fun _ _ hread => Declaration.isFinite_of_decoder hread) hoptions
    have hassigned : ∀ b ∈ current, b.value.IsFinite := by
      rcases of_orDefault hcurrent with rfl | ⟨tree, hcurrent⟩
      · exact List.forall_mem_nil _
      · exact forall_of_listDecoder (fun _ _ hread => Assignment.isFinite_of_decoder hread) hcurrent
    have hkept : stream.CanBeKept ∧ stream.depth ≤ 126 := by
      rcases of_orDefault hstream with rfl | ⟨tree, hstream⟩
      · exact ⟨trivial, Nat.zero_le _⟩
      · exact ⟨tree.canBeKept_of_keep hstream, tree.depth_of_keep hstream⟩
    refine ⟨fun v hv => ?_, hkept.1, Nat.lt_succ_of_le hkept.2⟩
    rcases List.mem_append.mp hv with hv | hv
    · obtain ⟨d, hd, hv⟩ := List.mem_flatMap.mp hv
      exact hdeclared d hd v hv
    · obtain ⟨b, hb, rfl⟩ := List.mem_map.mp hv
      exact hassigned b hb
  · cases h

/-- The advertisements that can be read from some text are those that are read back from their
own. -/
theorem readable_iff {a : Advertisement} :
    a.Readable ↔ ∃ text, decodeText decoder text = some a := by
  constructor
  · intro h
    exact ⟨_, h.decode_text⟩
  · rintro ⟨text, h⟩
    obtain ⟨tree, -, htree⟩ := Option.bind_eq_some_iff.mp h
    exact readable_of_decoder htree

end Advertisement

end EmbeddedFilters
