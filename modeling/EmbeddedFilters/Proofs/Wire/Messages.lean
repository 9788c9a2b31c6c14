import EmbeddedFilters.Proofs.Json.Keeping
import EmbeddedFilters.Proofs.Wire.RoundTrip

/-!
# All messages are read back

A record whose fields may be left out is written as the fields that it has
(`Json.pickFields_written`). So declarations are read back whatever they leave out, and with them
advertisements, as long as the stream that is carried along is not nested too deeply
(`Advertisement.decode_text`). Every message whose numbers are finite is read back as it was written
(`messages_survive_writing`).
-/

namespace EmbeddedFilters

open Json

/-! ### Records with fields left out -/

namespace Json

/-- The trees of fields are those of their values, under their keys. -/
lemma fieldTrees_eq_map (fields : List (String × Value)) :
    fieldTrees fields = fields.map fun f => (some f.1, f.2.tree) := by
  induction fields with
  | nil => rfl
  | cons f fields ih =>
    obtain ⟨key, value⟩ := f
    rw [fieldTrees, ih, List.map_cons]

/-- The fields of a record that are written. -/
def writtenFields (fields : List (String × Option Value)) : List (String × Value) :=
  fields.filterMap fun f => f.2.map (f.1, ·)

/-- Of fields those that have a value are written, in their order. -/
lemma writtenFields_cons (key : String) (value? : Option Value)
    (rest : List (String × Option Value)) :
    writtenFields ((key, value?) :: rest) =
      (value?.map (key, ·)).toList ++ writtenFields rest := by
  cases value? <;> rfl

/-- Only keys of the record are written. -/
lemma writtenFields_keys (fields : List (String × Option Value)) :
    ((writtenFields fields).map Prod.fst).Sublist (fields.map Prod.fst) := by
  induction fields with
  | nil => exact .slnil
  | cons f rest ih =>
    obtain ⟨key, value?⟩ := f
    rw [writtenFields_cons]
    cases value? with
    | none => exact ih.cons key
    | some value => exact ih.cons_cons key

/-- What is found under a key of the record is the field, if it has been written. -/
lemma find?_writtenFields {fields : List (String × Option Value)}
    (hkeys : (fields.map Prod.fst).Nodup) {key : String} {value? : Option Value}
    (h : (key, value?) ∈ fields) :
    (writtenFields fields).find? (fun f => f.1 == key) = value?.map (key, ·) := by
  induction fields with
  | nil => cases h
  | cons f rest ih =>
    obtain ⟨first, firstValue?⟩ := f
    obtain ⟨hfirst, hrest⟩ := List.nodup_cons.mp hkeys
    rw [writtenFields_cons, List.find?_append]
    obtain heq | hmem := List.mem_cons.mp h
    · cases heq
      -- nothing else is written under the key
      have hnone : (writtenFields rest).find? (fun f => f.1 == key) = none := by
        refine List.find?_eq_none.mpr fun f hf hsame => hfirst ?_
        rw [← beq_iff_eq.mp hsame]
        exact (writtenFields_keys rest).subset (List.mem_map_of_mem hf)
      rw [hnone]
      cases value? <;> simp
    · have hne : ¬ first = key := by
        rintro rfl
        exact hfirst (List.mem_map.mpr ⟨_, hmem, rfl⟩)
      rw [ih hrest hmem]
      cases firstValue? <;> simp [hne]

/-- The fields of a record are picked out of those that have been written. -/
lemma pickFields_written {fields : List (String × Option Value)}
    (hkeys : (fields.map Prod.fst).Nodup) :
    pickFields (fields.map Prod.fst) (fieldTrees (writtenFields fields)) =
      some (fields.map fun f => f.2.map Value.tree) := by
  have hkeyed : (fieldTrees (writtenFields fields)).mapM
      (fun f : Option String × Tree => f.1.map fun key => (key, f.2)) =
        some ((writtenFields fields).map fun f => (f.1, f.2.tree)) := by
    rw [fieldTrees_eq_map]
    induction writtenFields fields with
    | nil => rfl
    | cons f rest ih =>
      simp only [List.map_cons, List.mapM_cons, ih]
      rfl
  have honce : ((fields.map Prod.fst).all fun name =>
      ((writtenFields fields).map fun f => (f.1, f.2.tree)).countP (fun f => f.1 == name) ≤
      1) = true := by
    refine List.all_eq_true.mpr fun name _ => decide_eq_true ?_
    have hnodup := List.nodup_iff_count_le_one.mp ((writtenFields_keys fields).nodup hkeys) name
    rw [List.countP_map]
    rw [List.count, List.countP_map] at hnodup
    exact hnodup
  have hpicked : ∀ f ∈ fields, (((writtenFields fields).map fun f => (f.1, f.2.tree)).find?
      fun g => g.1 == f.1).map Prod.snd = f.2.map Value.tree := by
    intro f hf
    have hfind : (writtenFields fields).find? (fun g => g.1 == f.1) = f.2.map (f.1, ·) :=
      find?_writtenFields hkeys hf
    rw [List.find?_map]
    show Option.map _ (Option.map _ ((writtenFields fields).find? fun g => g.1 == f.1)) = _
    rw [hfind, Option.map_map, Option.map_map]
    rfl
  rw [pickFields, hkeyed, Option.bind_eq_bind, Option.bind_some, honce]
  simp only [guard_true, Option.pure_def, Option.bind_eq_bind, Option.bind_some, List.map_map]
  exact congrArg some (List.map_congr_left hpicked)

variable {α : Type} {encode : α → Value} {decode : Decoder α} {depth : Nat}

/-- A field that may be left out is read back, if it is never written as null. -/
lemma optional_tree {o : Option α} (hnull : ∀ a ∈ o, (encode a).tree ≠ .null)
    (h : ∀ a ∈ o, decode depth (encode a).tree = some a) :
    optional decode depth ((o.map encode).map Value.tree) = some o := by
  cases o with
  | none => rfl
  | some a =>
    have ha := h a rfl
    show optional decode depth (some (encode a).tree) = _
    unfold optional
    split
    · cases ‹some _ = none›
    · exact absurd (Option.some.inj ‹_›) (hnull a rfl)
    · cases ‹some _ = some _›
      rw [ha]
      rfl

end Json

/-- The form of an option is read back. -/
lemma OptionKind.decoder_tree (k : OptionKind) (depth : Nat) :
    OptionKind.decoder depth k.toJson.tree = some k := by
  cases k <;> rfl

namespace Declaration

/-- The numbers that a declaration states. -/
def numbers (d : Declaration) : List OptionValue :=
  [d.minimum, d.maximum, d.step, some d.default, d.value].filterMap id

/-- The fields of a declaration, written or not. -/
def fields (d : Declaration) : List (String × Option Value) :=
  [("name", some (.string d.name)), ("type", some d.kind.toJson),
    ("minimum", d.minimum.map OptionValue.toJson), ("maximum", d.maximum.map OptionValue.toJson),
    ("step", d.step.map OptionValue.toJson), ("default", some d.default.toJson),
    ("value", d.value.map OptionValue.toJson), ("description", d.description.map Value.string)]

/-- A declaration is written as its fields that have a value. -/
lemma toJson_eq (d : Declaration) : d.toJson = .object (writtenFields d.fields) := by
  obtain ⟨name, kind, minimum, maximum, step, default, value, description⟩ := d
  cases minimum <;> cases maximum <;> cases step <;> cases value <;> cases description <;> rfl

/-- A finite number that a declaration may leave out is read back. -/
lemma optional_number {o : Option OptionValue} (h : ∀ v ∈ o, v.IsFinite) (depth : Nat) :
    optional OptionValue.decoder depth ((o.map OptionValue.toJson).map Value.tree) = some o := by
  refine optional_tree (fun v hv hnull => ?_) fun v hv => OptionValue.decoder_tree (h v hv) depth
  have hread := OptionValue.decoder_tree (h v hv) depth
  rw [hnull] at hread
  cases hread

/-- A declaration is read back if its numbers are finite. -/
lemma decoder_tree {d : Declaration} (h : ∀ v ∈ d.numbers, v.IsFinite) (depth : Nat) :
    decoder (depth + 1) d.toJson.tree = some d := by
  have hkeys : (d.fields.map Prod.fst).Nodup := by
    show ["name", "type", "minimum", "maximum", "step", "default", "value", "description"].Nodup
    decide
  have hfields : recordFields (d.fields.map Prod.fst) (depth + 1) d.toJson.tree =
      some (depth, d.fields.map fun f => f.2.map Value.tree) := by
    rw [toJson_eq, Value.tree, recordFields, pickFields_written hkeys]
    rfl
  have hminimum := optional_number (o := d.minimum) (fun v hv => h v (by simp_all [numbers])) depth
  have hmaximum := optional_number (o := d.maximum) (fun v hv => h v (by simp_all [numbers])) depth
  have hstep := optional_number (o := d.step) (fun v hv => h v (by simp_all [numbers])) depth
  have hvalue := optional_number (o := d.value) (fun v hv => h v (by simp_all [numbers])) depth
  have hdefault := OptionValue.decoder_tree (h d.default (by simp [numbers])) depth
  have hkind := OptionKind.decoder_tree d.kind depth
  have hdescription : optional textDecoder depth ((d.description.map Value.string).map Value.tree) =
      some d.description := optional_tree (fun _ _ hnull => by cases hnull) fun _ _ => rfl
  show (recordFields (d.fields.map Prod.fst) (depth + 1) d.toJson.tree).bind _ = _
  rw [hfields]
  simp only [fields, List.map_cons, List.map_nil, Option.map_some, Option.bind_some, required]
  rw [hminimum, hmaximum, hstep, hvalue, hdefault, hkind, hdescription]
  rfl

end Declaration

namespace Advertisement

/-- The numbers that an advertisement states. -/
def numbers (a : Advertisement) : List OptionValue :=
  a.options.flatMap Declaration.numbers ++ a.current.map Assignment.value

/-- What an advertisement is read back as depends on what is kept of its stream. -/
lemma decoder_tree {a : Advertisement} (h : ∀ v ∈ a.numbers, v.IsFinite) :
    decoder depthLimit a.toJson.tree = (a.stream.tree.keep 126).map fun stream =>
      { a with stream } := by
  have hkind := FilterKind.decoder_tree a.kind false 126
  have hoptions :
      listDecoder Declaration.decoder 126 (Value.array (a.options.map Declaration.toJson)).tree =
        some a.options :=
    listDecoder_tree fun d hd => Declaration.decoder_tree
      (fun v hv => h v (List.mem_append_left _ (List.mem_flatMap_of_mem hd hv))) 124
  have hcurrent : listDecoder Assignment.decoder 126 (Assignment.listToJson a.current).tree =
      some a.current :=
    listDecoder_tree fun b hb => Assignment.decoder_tree
      (h b.value (List.mem_append_right _ (List.mem_map_of_mem hb))) 124
  have htree : a.toJson.tree = .object [
      (some "name", .string (some a.name)),
      (some "type", a.kind.toJson.tree),
      (some "options", (Value.array (a.options.map Declaration.toJson)).tree),
      (some "stream_type", a.stream.tree),
      (some "current_values", (Assignment.listToJson a.current).tree)] :=
    rfl
  rw [htree]
  simp only [decoder, depthLimit, recordFields, pickFields, required, orDefault, valueDecoder]
  cases hkeep : a.stream.tree.keep 126 <;>
    simp [textDecoder_string, hkind, hoptions, hcurrent, hkeep]

/-- An advertisement is read back unless too many containers of its stream stand inside one
another. -/
lemma decode_text {a : Advertisement} (h : ∀ v ∈ a.numbers, v.IsFinite)
    (hstream : a.stream.CanBeKept) :
    decodeText decoder a.toJson.text = if a.stream.depth < depthLimit then some a else none := by
  have hsymbols : textSymbols a.toJson.text = a.toJson.print.map some := by
    rw [textSymbols, Value.text, String.toList_ofList]
  have hlimit : a.stream.depth ≤ 126 ↔ a.stream.depth < depthLimit := Nat.lt_succ_iff.symm
  rw [decodeText, decodeSymbols, hsymbols, parseTree_print, Option.bind_some, decoder_tree h,
    Value.keep_tree a.stream 126 hstream]
  simp only [hlimit]
  split <;> rfl

end Advertisement

/-! ### All messages -/

/-- The options that a request assigns. -/
def ControlRequest.options : ControlRequest → List Assignment
  | .setOptions _ _ options => options
  | .getOptions _ _ => []

/-- A message whose numbers are finite is read back as it was written: a request, a report, whether
it is an answer or not, and an advertisement. Whole numbers and doubles are told apart, and so are
the two zeros. An advertisement carries any value that a reader can keep, and is refused exactly if
too many containers of that value stand inside one another. -/
theorem messages_survive_writing :
    (∀ r : ControlRequest, (∀ a ∈ r.options, a.value.IsFinite) →
      decodePayload ControlRequest.decoder r.payload = some r) ∧
    (∀ r : OptionReport, (∀ a ∈ r.options, a.value.IsFinite) →
      decodePayload OptionReport.decoder r.payload = some r) ∧
    (∀ a : Advertisement, (∀ v ∈ a.numbers, v.IsFinite) → a.stream.CanBeKept →
      decodeText Advertisement.decoder a.toJson.text =
        if a.stream.depth < depthLimit then some a else none) := by
  refine ⟨fun r h => ?_, fun r => OptionReport.decode_payload, fun a => Advertisement.decode_text⟩
  cases r with
  | setOptions filter kind options => exact ControlRequest.decode_setOptions h
  | getOptions filter kind => exact ControlRequest.decode_getOptions filter kind

/-- A double among whole numbers, minus zero, and texts that have to be escaped are all read
back. -/
theorem messages_survive_writing_awkward :
    let name := "a \"b\" \\ ü\n"
    let one : OptionValue := .float (.ofBits .double 0x3FF0000000000000)
    let zero : OptionValue := .float (.ofBits .double 0x8000000000000000)
    let request := ControlRequest.setOptions name .temporal [⟨"Alpha", one⟩, ⟨name, zero⟩]
    let report := OptionReport.mk name [⟨"Delta", .int 1⟩, ⟨"Alpha", one⟩]
    let advertisement : Advertisement := {
      name := name
      kind := .decimation
      options := [
        { name := name, kind := .float, minimum := zero, default := one, description := name },
        { name := "Magnitude", kind := .int, maximum := some (.int 8), default := .int 2,
          value := one }]
      stream := .object [("\t", .array [.integer 0xffffffffffffffff, .null]), ("a", .string name)]
      current := [⟨"Magnitude", .int 2⟩, ⟨name, zero⟩] }
    decodePayload ControlRequest.decoder request.payload = some request ∧
      decodePayload OptionReport.decoder report.payload = some report ∧
      decodeText Advertisement.decoder advertisement.toJson.text = some advertisement := by
  intro name one zero request report advertisement
  have hwhole : ∀ i, (OptionValue.int i).IsFinite := fun _ => trivial
  have hone : one.IsFinite := by
    show (Binary.ofBits .double 0x3FF0000000000000).isFinite = true
    decide +kernel
  have hzero : zero.IsFinite := by
    show (Binary.ofBits .double 0x8000000000000000).isFinite = true
    decide +kernel
  have hnumbers : ∀ v ∈ advertisement.numbers, v.IsFinite := by
    have hlist : advertisement.numbers = [zero, one, .int 8, .int 2, one, .int 2, zero] := rfl
    simp [hlist, hwhole, hone, hzero]
  have hstream : advertisement.stream.CanBeKept := by
    refine ⟨List.pairwise_pair.mpr ?_, ⟨⟨?_, ?_⟩, trivial, trivial⟩, trivial, trivial⟩ <;> decide
  refine ⟨messages_survive_writing.1 request ?_, messages_survive_writing.2.1 report ?_,
    (messages_survive_writing.2.2 advertisement hnumbers hstream).trans (if_pos ?_)⟩
  · simp [request, ControlRequest.options, hone, hzero]
  · simp [report, hwhole, hone]
  · decide

end EmbeddedFilters
