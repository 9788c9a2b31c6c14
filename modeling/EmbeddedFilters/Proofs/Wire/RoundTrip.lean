import EmbeddedFilters.Proofs.Json.Trees
import EmbeddedFilters.Proofs.Parameters.Updates
import EmbeddedFilters.Wire.Message

/-!
# Messages are read back

Whatever a reader of messages is given was printed by the other side, so its decoders run on the
trees of printed values. The lemmas go up with the messages: values, assignments, lists of them, and
then requests and reports. A message with finite values is read back as it is
(`ControlRequest.decode_payload`, `OptionReport.decode_payload`), and a report that can be read back
at all is read back as it is (`OptionReport.eq_of_decode_payload`), because a value that is not
finite is printed as null and refused.
-/

namespace EmbeddedFilters

open Json

namespace Json

/-- The trees of items are those of the values. -/
lemma itemTrees_eq_map (items : List Value) : itemTrees items = items.map Value.tree := by
  induction items with
  | nil => rfl
  | cons item items ih => rw [itemTrees, ih, List.map_cons]

/-- A text is read as it is. -/
lemma textDecoder_string (depth : Nat) (text : Option String) :
    textDecoder depth (.string text) = text := rfl

variable {α : Type} {encode : α → Value} {decode : Decoder α} {depth : Nat} {list : List α}

/-- A printed list is read back if its items are. -/
lemma listDecoder_tree (h : ∀ a ∈ list, decode depth (encode a).tree = some a) :
    listDecoder decode (depth + 1) (Value.array (list.map encode)).tree = some list := by
  rw [Value.tree, itemTrees_eq_map]
  show (List.map _ _).mapM _ = _
  induction list with
  | nil => rfl
  | cons a list ih =>
    have hrest := ih fun b hb => h b (List.mem_cons_of_mem _ hb)
    simp only [List.map_cons, List.mapM_cons, h a List.mem_cons_self, hrest]
    rfl

/-- A list is read back as it was printed if nothing else can be read for its items. -/
lemma eq_of_listDecoder_tree (h : ∀ a b, decode depth (encode a).tree = some b → b = a)
    {out : List α}
    (hread : listDecoder decode (depth + 1) (Value.array (list.map encode)).tree = some out) :
    out = list := by
  rw [Value.tree, itemTrees_eq_map] at hread
  change (List.map _ _).mapM _ = _ at hread
  induction list generalizing out with
  | nil =>
    cases hread
    rfl
  | cons a list ih =>
    simp only [List.map_cons, List.mapM_cons, Option.bind_eq_bind, Option.bind_eq_some_iff,
      Option.pure_def, Option.some.injEq] at hread
    obtain ⟨b, hb, rest, hrest, rfl⟩ := hread
    rw [h a b hb, ih hrest]

end Json

namespace OptionValue

/-- A finite value is kept as it was printed. -/
lemma keep_tree {v : OptionValue} (h : v.IsFinite) (depth : Nat) :
    v.toJson.tree.keep depth = some v.toJson := by
  cases v with
  | int i =>
    have hlow := i.le_toInt
    have hhigh := i.toInt_lt
    exact keepNumber_integerParts hlow (by omega)
  | float x =>
    have hx : x.isFinite = true := h
    show (numberTree x).keep depth = some (.number x)
    rw [numberTree, if_pos hx]
    exact keepNumber_messageParts hx

/-- A finite value is read back. -/
lemma decoder_tree {v : OptionValue} (h : v.IsFinite) (depth : Nat) :
    decoder depth v.toJson.tree = some v := by
  rw [decoder, valueDecoder, keep_tree h]
  cases v with
  | int i =>
    show ofJson? (.integer i.toInt) = some (.int i)
    rw [ofJson?, if_pos ⟨i.le_toInt, i.toInt_lt⟩, Int64.ofInt_toInt]
  | float x => rfl

/-- A value that is read back was finite, and is the same. -/
lemma eq_of_decoder_tree {v w : OptionValue} {depth : Nat}
    (h : decoder depth v.toJson.tree = some w) : w = v := by
  cases v with
  | int i =>
    rw [decoder_tree (v := .int i) trivial] at h
    exact (Option.some.inj h).symm
  | float x =>
    cases hx : x.isFinite with
    | true =>
      rw [decoder_tree (v := .float x) hx] at h
      exact (Option.some.inj h).symm
    | false =>
      rw [toJson, Value.tree, numberTree, hx] at h
      cases h

end OptionValue

namespace Assignment

/-- An assignment is written as its name and its value. -/
lemma tree_toJson (a : Assignment) :
    a.toJson.tree =
      .object [(some "name", .string (some a.name)), (some "value", a.value.toJson.tree)] :=
  rfl

/-- An assignment is read back as far as its value is. -/
lemma decoder_eq (a : Assignment) (depth : Nat) :
    decoder (depth + 1) a.toJson.tree =
      (OptionValue.decoder depth a.value.toJson.tree).map (Assignment.mk a.name) := by
  rw [tree_toJson]
  simp only [decoder, recordFields, pickFields, required]
  cases hread : OptionValue.decoder depth a.value.toJson.tree <;> simp [textDecoder_string, hread]

/-- An assignment of a finite value is read back. -/
lemma decoder_tree {a : Assignment} (h : a.value.IsFinite) (depth : Nat) :
    decoder (depth + 1) a.toJson.tree = some a := by
  rw [decoder_eq, OptionValue.decoder_tree h]
  rfl

/-- An assignment is read back as nothing but itself. -/
lemma eq_of_decoder_tree {a b : Assignment} {depth : Nat}
    (h : decoder (depth + 1) a.toJson.tree = some b) : b = a := by
  rw [decoder_eq, Option.map_eq_some_iff] at h
  obtain ⟨v, hv, rfl⟩ := h
  rw [OptionValue.eq_of_decoder_tree hv]

/-- Assignments of finite values can be kept. -/
lemma keepItems_tree {list : List Assignment} (h : ∀ a ∈ list, a.value.IsFinite) (depth : Nat) :
    ∃ values, keepItems (depth + 1) (itemTrees (list.map toJson)) = some values := by
  induction list with
  | nil => exact ⟨[], rfl⟩
  | cons a list ih =>
    obtain ⟨values, hvalues⟩ := ih fun b hb => h b (List.mem_cons_of_mem _ hb)
    have hkeep := OptionValue.keep_tree (h a List.mem_cons_self) depth
    refine ⟨.object (sortFields [("name", .string a.name), ("value", a.value.toJson)]) :: values,
      ?_⟩
    rw [List.map_cons, itemTrees, keepItems, tree_toJson]
    simp [Tree.keep, keepFields, hkeep, hvalues]

end Assignment

/-- The kind of a filter is read back. -/
lemma FilterKind.decoder_tree (k : FilterKind) (buffered : Bool) (depth : Nat) :
    FilterKind.decoder buffered depth k.toJson.tree = some k := k.ofName?_name

namespace ControlRequest

/-- The request to set options is read back if their values are finite. -/
lemma decode_setOptions {name : String} {kind : FilterKind} {options : List Assignment}
    (h : ∀ a ∈ options, a.value.IsFinite) :
    decodePayload decoder (setOptions name kind options).payload =
      some (setOptions name kind options) := by
  have hlist := listDecoder_tree fun a ha => Assignment.decoder_tree (h a ha) 124
  obtain ⟨values, hvalues⟩ := Assignment.keepItems_tree h 124
  have hkind := FilterKind.decoder_tree kind true 126
  rw [payload, decodePayload_bytes]
  rw [Value.tree] at hlist
  simp only [toJson, Value.tree, fieldTrees, Assignment.listToJson, decoder, depthLimit,
    valueDecoder, Tree.keep, keepFields, hvalues, FilterKind.toJson]
  rw [FilterKind.toJson, Value.tree] at hkind
  simp [splitCommand, recordFields, pickFields, required, textDecoder_string, hkind, hlist]

/-- The request for all options is read back. -/
lemma decode_getOptions (name : String) (kind : FilterKind) :
    decodePayload decoder (getOptions name kind).payload = some (getOptions name kind) := by
  have hkind := FilterKind.decoder_tree kind true 126
  rw [payload, decodePayload_bytes]
  rw [FilterKind.toJson, Value.tree] at hkind
  simp only [toJson, Value.tree, fieldTrees, decoder, depthLimit, valueDecoder, Tree.keep,
    keepFields, FilterKind.toJson]
  simp [splitCommand, recordFields, pickFields, required, textDecoder_string, hkind]

end ControlRequest

namespace OptionReport

/-- What a report is read back as depends on its options alone. -/
lemma decode_eq (r : OptionReport) :
    decodePayload decoder r.payload =
      (listDecoder Assignment.decoder 126 (Assignment.listToJson r.options).tree).map
        (OptionReport.mk r.filter) := by
  rw [payload, decodePayload_bytes]
  have htree : r.toJson.tree = .object [(some "filter", .string (some r.filter)),
    (some "options", (Assignment.listToJson r.options).tree)] := rfl
  rw [htree]
  simp only [decoder, depthLimit, recordFields, pickFields, required]
  cases hread : listDecoder Assignment.decoder 126 (Assignment.listToJson r.options).tree <;>
    simp [textDecoder_string, hread]

/-- A report of finite values is read back. -/
lemma decode_payload {r : OptionReport} (h : ∀ a ∈ r.options, a.value.IsFinite) :
    decodePayload decoder r.payload = some r := by
  rw [decode_eq, Assignment.listToJson,
    listDecoder_tree fun a ha => Assignment.decoder_tree (h a ha) 124]
  rfl

/-- A report is read back as nothing but itself. -/
lemma eq_of_decode_payload {r s : OptionReport} (h : decodePayload decoder r.payload = some s) :
    s = r := by
  rw [decode_eq, Option.map_eq_some_iff] at h
  obtain ⟨options, hread, rfl⟩ := h
  rw [eq_of_listDecoder_tree (fun _ _ => Assignment.eq_of_decoder_tree) hread]

end OptionReport

end EmbeddedFilters
