import EmbeddedFilters.Proofs.Number.Widening
import EmbeddedFilters.Proofs.Parameters.Updates

/-!
# The three forms of parameters

Parameters stand in memory, in a buffer and in a complete update, and each form is read by checks of
its own. Here the forms are compared as a whole: buffers and parameters are converted into one
another without loss (`Parameters.encode_decode_inverse`), and parameters that one check refuses are
refused by all with the same error (`Parameters.accepted_in_all_forms_or_none`).

For each form there is one equation that says that it can be read back exactly if the parameters
pass `validate`, and else fails as `validate` does; the theorems follow from these.
-/

namespace EmbeddedFilters

open Outcome

/-- A word is read from its own bytes. -/
lemma word?_eq_some {bytes : List UInt8} {w : UInt32} (h : word? bytes = some w) :
    ∃ rest, bytes = wordBytes w ++ rest := by
  match bytes, h with
  | a :: b :: c :: d :: rest, h =>
    refine ⟨rest, ?_⟩
    obtain rfl := Option.some.inj h
    have ha := a.toNat_lt
    have hb := b.toNat_lt
    have hc := c.toNat_lt
    have hd := d.toNat_lt
    simp only [wordBytes, List.cons_append, List.nil_append, List.cons.injEq, and_true]
    refine ⟨?_, ?_, ?_, ?_⟩ <;> apply UInt8.toNat.inj <;>
      simp only [UInt32.toNat_toUInt8, UInt32.toNat_shiftRight, UInt32.reduceToNat,
        UInt32.toNat_ofNat', Nat.shiftRight_eq_div_pow, Nat.reduceMod, Nat.reducePow] <;>
      omega

/-- Bytes with the same value are the same. -/
lemma byte_inj {b c : UInt8} (h : Int64.ofNat b.toNat = Int64.ofNat c.toNat) : b = c := by
  have hvalue : ∀ b : UInt8, (Int64.ofNat b.toNat).toInt = b.toNat := fun b =>
    Int64.toInt_ofNat_of_lt (b.toNat_lt.trans (by decide))
  have hint := congrArg Int64.toInt h
  rw [hvalue, hvalue] at hint
  exact UInt8.toNat.inj (Int.natCast_inj.mp hint)

namespace Check

variable {filter : FilterKind} {bytes : List UInt8} {offset : Nat}

/-- What stands from an offset on begins with the word that is read there. -/
lemma drop_of_wordAt {w : UInt32} (h : wordAt filter bytes offset = .ok w) :
    bytes.drop offset = wordBytes w ++ bytes.drop (offset + 4) := by
  unfold wordAt at h
  split at h
  · rename_i v hv
    obtain rfl := Except.ok.inj h
    obtain ⟨rest, hrest⟩ := word?_eq_some hv
    have hdrop : bytes.drop (offset + 4) = rest := by
      rw [← List.drop_drop, hrest]
      rfl
    rw [hdrop, hrest]
  · cases h

/-- What stands from an offset on begins with the byte that is read there. -/
lemma drop_of_byteAt {b : UInt8} (h : byteAt filter bytes offset = .ok b) :
    bytes.drop offset = b :: bytes.drop (offset + 1) := by
  unfold byteAt at h
  split at h
  · rename_i c hc
    obtain rfl := Except.ok.inj h
    obtain ⟨hlt, hget⟩ := List.getElem?_eq_some_iff.mp hc
    rw [List.drop_eq_getElem_cons hlt, hget]
  · cases h

/-- A flag is read from its own byte. -/
lemma toUInt8_of_flag {field : String} {b : UInt8} {e : Bool}
    (h : flag field (.ofNat b.toNat) = .ok e) : e.toUInt8 = b := by
  have hb := flag_eq_ok.mp h
  cases e with
  | false => exact (byte_inj (c := 0) hb).symm
  | true => exact (byte_inj (c := 1) hb).symm

/-- A flag is read back from its number. -/
lemma flag_ofBool (field : String) (b : Bool) : flag field (if b then 1 else 0) = .ok b :=
  flag_eq_ok.mpr rfl

end Check

/-- What a decimation filter reads from bytes is laid out as these bytes. -/
lemma Decimation.flatten_of_readFields {bytes : List UInt8} {p : Decimation}
    (h : readFields bytes = .ok p) : p.fields.flatten = bytes := by
  simp only [readFields, bind_eq_ok, pure_eq_ok] at h
  obtain ⟨⟨⟩, hlength, b, hb, enabled, hflag, magnitude, hmagnitude, rfl⟩ := h
  have hend : bytes.drop 2 = [] := List.drop_eq_nil_of_le (Check.length_eq_ok.mp hlength).le
  calc [enabled.toUInt8, magnitude]
    _ = b :: magnitude :: bytes.drop 2 := by rw [Check.toUInt8_of_flag hflag, hend]
    _ = b :: bytes.drop 1 := by rw [Check.drop_of_byteAt hmagnitude]
    _ = bytes.drop 0 := (Check.drop_of_byteAt hb).symm
    _ = bytes := List.drop_zero

/-- What a temporal filter reads from bytes is laid out as these bytes. -/
lemma Temporal.flatten_of_readFields {bytes : List UInt8} {p : Temporal}
    (h : readFields bytes = .ok p) : p.fields.flatten = bytes := by
  simp only [readFields, bind_eq_ok, pure_eq_ok, Check.singleAt, Check.int32At, map_eq_ok] at h
  obtain ⟨⟨⟩, hlength, b, hb, enabled, hflag, -, ⟨alpha, halpha, rfl⟩, -, ⟨delta, hdelta, rfl⟩, -,
    ⟨persistency, hpersistency, rfl⟩, rfl⟩ := h
  have hend : bytes.drop 13 = [] := List.drop_eq_nil_of_le (Check.length_eq_ok.mp hlength).le
  have hbits : UInt32.ofNat (Binary.ofBits .single alpha.toNat).toBits = alpha := by
    rw [Binary.toBits_ofBits alpha.toNat_lt, UInt32.ofNat_toNat]
  calc Temporal.fields ⟨enabled, .ofBits .single alpha.toNat, delta.toInt32, persistency.toInt32⟩
        |>.flatten
    _ = b :: (wordBytes alpha ++
        (wordBytes delta ++ (wordBytes persistency ++ bytes.drop 13))) := by
      simp only [fields, List.flatten_cons, List.flatten_nil, List.cons_append, List.nil_append,
        Check.toUInt8_of_flag hflag, hbits, hend, UInt32.toUInt32_toInt32]
    _ = b :: bytes.drop 1 := by
      rw [← Check.drop_of_wordAt hpersistency, ← Check.drop_of_wordAt hdelta,
        ← Check.drop_of_wordAt halpha]
    _ = bytes.drop 0 := (Check.drop_of_byteAt hb).symm
    _ = bytes := List.drop_zero

/-- A magnitude that is accepted from its value is the same. -/
lemma Decimation.eq_of_checkMagnitude {magnitude out : UInt8}
    (h : checkMagnitude (.ofNat magnitude.toNat) = .ok out) : out = magnitude := by
  obtain ⟨htwo, rfl⟩ := checkMagnitude_eq_ok.mp h
  exact (byte_inj (c := 2) htwo).symm

/-- Alpha that is accepted from its value is the same to the bit. -/
lemma Temporal.eq_of_checkAlpha {alpha out : Single}
    (h : checkAlpha (alpha.convert .double) = .ok out) : out = alpha := by
  obtain ⟨⟨⟩, hcheck, hpure⟩ := bind_eq_ok.mp h
  obtain rfl := pure_eq_ok.mp hpure
  exact Binary.convert_convert (g := .double) (by decide) (by decide)
    (Check.number_unit.mp hcheck).isFinite

/-- A whole number that is accepted from its value is the same. -/
lemma Temporal.eq_of_whole {field : String} {i out : Int32} {high : Int64}
    (h : (do Check.whole field i.toInt64 0 high; return i.toInt64.toInt32 :
      Except FilterError Int32) = .ok out) : out = i := by
  obtain ⟨⟨⟩, -, hpure⟩ := bind_eq_ok.mp h
  obtain rfl := pure_eq_ok.mp hpure
  exact Int32.toInt32_toInt64 i

/-- Decimation parameters are read back from their options if they are valid. -/
lemma Decimation.ofOptions_toOptions (p : Decimation) :
    ofOptions p.toOptions = p.validate.map fun _ => p := by
  have hcomplete : Assignment.checkComplete .decimation p.toOptions = .ok () :=
    Assignment.checkComplete_eq_ok.mpr (.refl _)
  have htoggle : Assignment.find? "Toggle" p.toOptions = some (.ofBool p.enabled) := rfl
  have hvalue : Assignment.find? "Magnitude" p.toOptions =
      some (.int (.ofNat p.magnitude.toNat)) := rfl
  simp only [ofOptions, validate, hcomplete, Assignment.require_eq_ok.mpr htoggle,
    Assignment.require_eq_ok.mpr hvalue, OptionValue.ofBool, OptionValue.toWhole, ok_bind,
    Check.flag_ofBool]
  cases hmagnitude : checkMagnitude (.ofNat p.magnitude.toNat) with
  | error e => rfl
  | ok magnitude =>
    rw [eq_of_checkMagnitude hmagnitude]
    rfl

/-- Temporal parameters are read back from their options if they are valid. -/
lemma Temporal.ofOptions_toOptions (p : Temporal) :
    ofOptions p.toOptions = p.validate.map fun _ => p := by
  have hcomplete : Assignment.checkComplete .temporal p.toOptions = .ok () :=
    Assignment.checkComplete_eq_ok.mpr (.refl _)
  have htoggle : Assignment.find? "Toggle" p.toOptions = some (.ofBool p.enabled) := rfl
  have hweight : Assignment.find? "Alpha" p.toOptions = some (.ofSingle p.alpha) := rfl
  have hstep : Assignment.find? "Delta" p.toOptions = some (.ofInt32 p.delta) := rfl
  have hindex : Assignment.find? "Persistency" p.toOptions = some (.ofInt32 p.persistency) := rfl
  simp only [ofOptions, validate, hcomplete, Assignment.require_eq_ok.mpr htoggle,
    Assignment.require_eq_ok.mpr hweight, Assignment.require_eq_ok.mpr hstep,
    Assignment.require_eq_ok.mpr hindex, OptionValue.ofBool, OptionValue.ofInt32,
    OptionValue.ofSingle, OptionValue.toWhole, OptionValue.toDouble, ok_bind,
    Check.flag_ofBool]
  cases halpha : checkAlpha (p.alpha.convert .double) with
  | error e => rfl
  | ok alpha =>
    cases hdelta : checkDelta p.delta.toInt64 with
    | error e => rfl
    | ok delta =>
      cases hpersistency : checkPersistency p.persistency.toInt64 with
      | error e => rfl
      | ok persistency =>
        rw [eq_of_checkAlpha halpha, eq_of_whole hdelta, eq_of_whole hpersistency]
        rfl

namespace Parameters

variable {kind : FilterKind} {bytes : List UInt8} {p : Parameters}

/-- What is read from bytes is laid out as these bytes. -/
lemma flatten_of_readFields (h : readFields kind bytes = .ok p) :
    p.kind = kind ∧ p.fields.flatten = bytes := by
  cases kind with
  | decimation =>
    obtain ⟨q, hq, rfl⟩ := map_eq_ok.mp h
    exact ⟨rfl, Decimation.flatten_of_readFields hq⟩
  | temporal =>
    obtain ⟨q, hq, rfl⟩ := map_eq_ok.mp h
    exact ⟨rfl, Temporal.flatten_of_readFields hq⟩

/-- Bytes that are accepted begin with the flag of what they denote. -/
lemma head?_of_decode (h : decode kind bytes = .ok p) : bytes.head? = some p.enabled.toUInt8 := by
  obtain ⟨⟨⟩, -, h⟩ := bind_eq_ok.mp h
  obtain ⟨q, hread, h⟩ := bind_eq_ok.mp h
  obtain ⟨⟨⟩, -, h⟩ := bind_eq_ok.mp h
  obtain rfl := pure_eq_ok.mp h
  obtain ⟨-, rfl⟩ := flatten_of_readFields hread
  cases q <;> rfl

/-- Parameters are read back from their options if they are valid, and else refused alike. -/
lemma ofOptions_toOptions (p : Parameters) :
    ofOptions p.kind p.toOptions = p.validate.map fun _ => p := by
  cases p with
  | decimation p =>
    show (Decimation.ofOptions p.toOptions).map _ = p.validate.map _
    rw [Decimation.ofOptions_toOptions]
    cases p.validate <;> rfl
  | temporal p =>
    show (Temporal.ofOptions p.toOptions).map _ = p.validate.map _
    rw [Temporal.ofOptions_toOptions]
    cases p.validate <;> rfl

/-- Valid parameters are those that they state as an update. -/
lemma ofOptions_of_valid {p : Parameters} (h : p.validate = .ok ()) :
    ofOptions p.kind p.toOptions = .ok p := by
  rw [ofOptions_toOptions, h]
  rfl

/-- Encoding and decoding are inverse to one another: parameters pass their checks exactly if they
are encoded as a buffer that denotes them, with the same bits in alpha, and bytes are accepted
exactly if they are what the parameters that they denote are encoded as. -/
theorem encode_decode_inverse (p : Parameters) (kind : FilterKind) (bytes : List UInt8) :
    (p.validate = .ok () ↔ ∃ b, p.encode = .ok b ∧ decode p.kind b.bytes = .ok p) ∧
      (decode kind bytes = .ok p ↔ p.kind = kind ∧ ∃ b, p.encode = .ok b ∧ b.bytes = bytes) := by
  obtain ⟨b, hb, hbytes⟩ := p.writeFields_empty
  have hencode := encode_eq hb
  have hdecode := p.decode_flatten
  refine ⟨⟨fun hvalid => ?_, ?_⟩, ⟨fun h => ?_, ?_⟩⟩
  · rw [hvalid] at hencode hdecode
    exact ⟨b, hencode, hbytes ▸ hdecode⟩
  · rintro ⟨c, hc, -⟩
    rw [hencode] at hc
    obtain ⟨⟨⟩, hvalid, -⟩ := map_eq_ok.mp hc
    exact hvalid
  · obtain ⟨⟨⟩, -, hrest⟩ := bind_eq_ok.mp h
    obtain ⟨q, hread, hrest⟩ := bind_eq_ok.mp hrest
    obtain ⟨⟨⟩, hvalid, hpure⟩ := bind_eq_ok.mp hrest
    obtain rfl := pure_eq_ok.mp hpure
    obtain ⟨hkind, hflatten⟩ := flatten_of_readFields hread
    rw [hvalid] at hencode
    exact ⟨hkind, b, hencode, hbytes.trans hflatten⟩
  · rintro ⟨rfl, c, hc, rfl⟩
    exact (decode_encode hc).2

/-- Parameters are accepted in every form, and then every form denotes them, or in none, and then
every form is refused with the error of their own checks. -/
theorem accepted_in_all_forms_or_none (p : Parameters) :
    ∃ b, p.writeFields .empty = (.ok (), b) ∧
      ((p.validate = .ok () ∧ p.encode = .ok b ∧ decode p.kind b.bytes = .ok p ∧
          ofOptions p.kind p.toOptions = .ok p) ∨
        ∃ e, p.validate = .error e ∧ p.encode = .error e ∧ decode p.kind b.bytes = .error e ∧
          ofOptions p.kind p.toOptions = .error e) := by
  obtain ⟨b, hb, hbytes⟩ := p.writeFields_empty
  refine ⟨b, hb, ?_⟩
  rw [encode_eq hb, hbytes, p.decode_flatten, p.ofOptions_toOptions]
  cases hvalid : p.validate with
  | ok _ => exact .inl ⟨rfl, rfl, rfl, rfl⟩
  | error e => exact .inr ⟨e, rfl, rfl, rfl, rfl⟩

end Parameters

end EmbeddedFilters
