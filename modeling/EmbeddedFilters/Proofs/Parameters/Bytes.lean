import EmbeddedFilters.Proofs.Number.Narrowing
import EmbeddedFilters.Proofs.Outcome
import EmbeddedFilters.Proofs.Parameters.Filling

/-!
# Parameters as bytes

Words are read back from their bytes, and so are the fields of parameters that pass their checks:
such parameters always have a byte buffer of the length of their kind, and the buffer denotes them
(`Parameters.decode_encode`).
-/

namespace EmbeddedFilters

open Outcome

/-- A word is read back from its bytes. -/
lemma word?_wordBytes (w : UInt32) (rest : List UInt8) : word? (wordBytes w ++ rest) = some w := by
  simp only [wordBytes, List.cons_append, List.nil_append, word?, Option.some.injEq]
  apply UInt32.toNat.inj
  have hlt := w.toNat_lt
  simp only [UInt32.toNat_toUInt8, UInt32.toNat_shiftRight, UInt32.reduceToNat,
    UInt32.toNat_ofNat', Nat.shiftRight_eq_div_pow, Nat.reduceMod, Nat.reducePow]
  omega

namespace Check

/-- The length of bytes passes its check exactly if it is that of the layout. -/
lemma length_eq_ok {filter : FilterKind} {bytes : List UInt8} :
    length filter bytes = .ok () ↔ bytes.length = filter.bufferLength := by
  unfold length
  split <;> simp_all

/-- A flag is read back from its byte. -/
lemma flag_toUInt8 (field : String) (b : Bool) :
    flag field (.ofNat b.toUInt8.toNat) = .ok b := by
  cases b <;> rfl

/-- A word is read back from its offset. -/
lemma wordAt_append (filter : FilterKind) (before : List UInt8) (offset : Nat)
    (h : before.length = offset) (w : UInt32) (rest : List UInt8) :
    wordAt filter (before ++ (wordBytes w ++ rest)) offset = .ok w := by
  rw [wordAt, ← h, List.drop_left, word?_wordBytes]

end Check

namespace Parameters

/-- The fields of parameters fill the buffer of their kind. -/
lemma length_fields (p : Parameters) : p.fields.flatten.length = p.kind.bufferLength := by
  cases p <;> rfl

/-- The fields always fit into a buffer. -/
lemma writeFields_empty (p : Parameters) :
    ∃ b : ParameterBuffer, p.writeFields .empty = (.ok (), b) ∧ b.bytes = p.fields.flatten := by
  have hfit : (ParameterBuffer.empty.bytes ++ p.fields.flatten).length ≤ bufferCapacity := by
    rw [show ParameterBuffer.empty.bytes = [] from rfl, List.nil_append, p.length_fields]
    cases p.kind <;> decide
  obtain ⟨run, hrun, hbytes, -⟩ := p.exists_written .empty
  obtain rfl := hrun.eq_of_fits hfit
  exact ⟨_, Prod.ext (writeFields_eq_ok.mpr hfit) rfl, hbytes⟩

/-- Parameters are encoded as the buffer that holds their fields. -/
lemma encode_eq {p : Parameters} {b : ParameterBuffer}
    (h : p.writeFields .empty = (.ok (), b)) :
    p.encode = p.validate.map fun _ => b := by
  obtain ⟨c, hc, hbytes⟩ := p.writeFields_empty
  obtain rfl : c = b := by simpa [hc] using h
  have hlength : Check.length p.kind c.bytes = .ok () :=
    Check.length_eq_ok.mpr (by rw [hbytes, p.length_fields])
  simp only [encode, hc, hlength, ok_bind]
  cases p.validate <;> rfl

/-- Parameters that pass their checks have a buffer with their fields. -/
lemma encode_of_validate {p : Parameters} (h : p.validate = .ok ()) :
    ∃ b, p.encode = .ok b ∧ b.bytes = p.fields.flatten := by
  obtain ⟨b, hb, hbytes⟩ := p.writeFields_empty
  rw [encode_eq hb, h]
  exact ⟨b, rfl, hbytes⟩

/-- The fields of a kind are read back from their bytes. -/
lemma readFields_flatten (p : Parameters) : readFields p.kind p.fields.flatten = .ok p := by
  cases p with
  | decimation p =>
    obtain ⟨enabled, magnitude⟩ := p
    simp [kind, fields, readFields, Decimation.fields, Decimation.readFields, Check.length,
      FilterKind.bufferLength, Check.byteAt, Check.flag_toUInt8]
  | temporal p =>
    obtain ⟨enabled, alpha, delta, persistency⟩ := p
    have hflat : (fields (.temporal ⟨enabled, alpha, delta, persistency⟩)).flatten =
        enabled.toUInt8 :: (wordBytes (.ofNat alpha.toBits) ++ (wordBytes delta.toUInt32 ++
          (wordBytes persistency.toUInt32 ++ []))) := rfl
    have hbits : (UInt32.ofNat alpha.toBits).toNat = alpha.toBits := by
      have hlt := alpha.toBits_lt
      exact UInt32.toNat_ofNat_of_lt' hlt
    have halpha := Check.wordAt_append .temporal [enabled.toUInt8] 1 rfl
      (.ofNat alpha.toBits) (wordBytes delta.toUInt32 ++ (wordBytes persistency.toUInt32 ++ []))
    have hdelta := Check.wordAt_append .temporal
      (enabled.toUInt8 :: wordBytes (.ofNat alpha.toBits)) 5 rfl
      delta.toUInt32 (wordBytes persistency.toUInt32 ++ [])
    have hpersistency := Check.wordAt_append .temporal
      (enabled.toUInt8 :: (wordBytes (.ofNat alpha.toBits) ++ wordBytes delta.toUInt32)) 9 rfl
      persistency.toUInt32 []
    simp only [List.cons_append, List.nil_append, List.append_assoc] at halpha hdelta hpersistency
    rw [hflat]
    simp only [kind, readFields, Temporal.readFields, Check.length, Check.byteAt, Check.singleAt,
      Check.int32At, halpha, hdelta, hpersistency, Except.map, ok_bind, List.getElem?_cons_zero,
      Check.flag_toUInt8, hbits, Binary.ofBits_toBits, Int32.toInt32_toUInt32]
    rfl

/-- The fields as bytes denote the parameters if these pass their checks. -/
lemma decode_flatten (p : Parameters) :
    decode p.kind p.fields.flatten = p.validate.map fun _ => p := by
  have hlength : Check.length p.kind p.fields.flatten = .ok () :=
    Check.length_eq_ok.mpr p.length_fields
  simp only [decode, hlength, p.readFields_flatten, ok_bind]
  cases p.validate <;> rfl

/-- Parameters that pass their checks are read back from their buffer. -/
lemma decode_encode {p : Parameters} {b : ParameterBuffer} (h : p.encode = .ok b) :
    b.bytes.length = p.kind.bufferLength ∧ decode p.kind b.bytes = .ok p := by
  obtain ⟨c, hc, hbytes⟩ := p.writeFields_empty
  rw [encode_eq hc] at h
  obtain ⟨⟨⟩, hvalid, rfl⟩ := map_eq_ok.mp h
  rw [hbytes, p.length_fields, p.decode_flatten, hvalid]
  exact ⟨rfl, rfl⟩

end Parameters

end EmbeddedFilters
