import EmbeddedFilters.Proofs.Options.Assignments
import EmbeddedFilters.Proofs.Parameters.Bytes

/-!
# Complete updates

What a list of assignments must be like to denote parameters: it is complete, its values are finite,
and the parameters pass their own checks, although alpha is narrowed to 32 bits after it has been
checked (`Parameters.validate_of_ofOptions`). So whatever is accepted as an update can be written as
bytes, and is read back from them.
-/

namespace EmbeddedFilters

open Outcome

/-- Is the value finite? Whole numbers are. -/
def OptionValue.IsFinite : OptionValue → Prop
  | .int _ => True
  | .float x => x.isFinite = true

instance (v : OptionValue) : Decidable v.IsFinite :=
  match v with
  | .int _ => .isTrue trivial
  | .float x => inferInstanceAs (Decidable (x.isFinite = true))

/-- A value that denotes a whole number is finite. -/
lemma OptionValue.isFinite_of_toWhole {field : String} {v : OptionValue} {i : Int64}
    (h : v.toWhole field = .ok i) : v.IsFinite := by
  cases v with
  | int i => trivial
  | float x =>
    cases hw : x.isWhole with
    | true => exact (Bool.and_eq_true_iff.mp hw).1
    | false => simp [toWhole, hw] at h

namespace Check

/-- A number that is checked against zero and one lies between them. -/
lemma number_unit {field : String} {x : Double} :
    number field x (.ofInt .double 0) (.ofInt .double 1) = .ok () ↔ x.InUnit := by
  unfold number
  constructor
  · intro h
    split at h
    · cases h
    · split at h
      · cases h
      · split at h
        · cases h
        · exact ⟨by simp_all, by simp_all, by simp_all⟩
  · rintro ⟨hnan, hlow, hhigh⟩
    simp [hnan, hlow, hhigh]

/-- A flag is 0 or 1. -/
lemma flag_eq_ok {field : String} {i : Int64} {b : Bool} :
    flag field i = .ok b ↔ i = if b then 1 else 0 := by
  unfold flag
  constructor
  · intro h
    split at h
    · rename_i hzero
      obtain rfl := Except.ok.inj h
      exact hzero
    · split at h
      · rename_i hone
        obtain rfl := Except.ok.inj h
        exact hone
      · cases h
  · rintro rfl
    cases b <;> rfl

/-- A whole number that is checked against two bounds lies between them. -/
lemma whole_eq_ok {field : String} {i low high : Int64} :
    whole field i low high = .ok () ↔ low.toInt ≤ i.toInt ∧ i.toInt ≤ high.toInt := by
  unfold whole
  split
  · rename_i h
    rw [Int64.lt_iff_toInt_lt] at h
    simp only [reduceCtorEq, false_iff]
    omega
  · rename_i hlow
    split
    · rename_i h
      rw [Int64.lt_iff_toInt_lt] at h
      simp only [reduceCtorEq, false_iff]
      omega
    · rename_i hhigh
      rw [Int64.lt_iff_toInt_lt] at hlow hhigh
      simp only [true_iff]
      omega

end Check

/-- A small number stays the same when it is narrowed and widened again. -/
lemma toInt64_toInt32 {i : Int64} (hlow : 0 ≤ i.toInt) (hhigh : i.toInt < 2 ^ 31) :
    i.toInt32.toInt64 = i := by
  apply Int64.toInt_inj.mp
  rw [Int32.toInt_toInt64, Int64.toInt_toInt32, Int.bmod_eq_of_le (by omega) (by omega)]

namespace Decimation

/-- Two is the only number that passes for a magnitude. -/
lemma checkMagnitude_eq_ok {i : Int64} {m : UInt8} : checkMagnitude i = .ok m ↔ i = 2 ∧ m = 2 := by
  unfold checkMagnitude
  constructor
  · intro h
    split at h
    · rename_i htwo
      exact ⟨htwo, (Except.ok.inj h).symm⟩
    · cases h
  · rintro ⟨rfl, rfl⟩
    rfl

/-- What an accepted update is like. -/
lemma ofOptions_ok {list : List Assignment} {p : Decimation} (h : ofOptions list = .ok p) :
    Assignment.checkComplete .decimation list = .ok () ∧ p.validate = .ok () ∧
      ∀ name ∈ FilterKind.optionNames .decimation, ∃ v,
        Assignment.find? name list = some v ∧ v.IsFinite := by
  simp only [ofOptions, bind_eq_ok, pure_eq_ok, Assignment.require_eq_ok] at h
  obtain ⟨⟨⟩, hcomplete, v, hv, i, hi, w, hw, j, hj, b, hb, m, hm, rfl⟩ := h
  refine ⟨hcomplete, ?_, ?_⟩
  · obtain ⟨-, rfl⟩ := checkMagnitude_eq_ok.mp hm
    rfl
  · intro name hname
    obtain rfl | rfl := Assignment.mem_decimation.mp hname
    · exact ⟨v, hv, OptionValue.isFinite_of_toWhole hi⟩
    · exact ⟨w, hw, OptionValue.isFinite_of_toWhole hj⟩

end Decimation

namespace Temporal

/-- Alpha passes its check again after it has been narrowed. -/
lemma checkAlpha_ok {x : Double} {alpha : Single} (h : checkAlpha x = .ok alpha) :
    x.InUnit ∧ checkAlpha (alpha.convert .double) =
      .ok ((alpha.convert .double).convert .single) := by
  obtain ⟨⟨⟩, hcheck, hpure⟩ := bind_eq_ok.mp h
  obtain rfl := pure_eq_ok.mp hpure
  have hunit := Check.number_unit.mp hcheck
  refine ⟨hunit, bind_eq_ok.mpr ⟨(), ?_, rfl⟩⟩
  exact Check.number_unit.mpr
    (Binary.inUnit_convert_double (Binary.inUnit_convert_single hunit))

/-- A whole number that has passed a check passes it again after it has been narrowed. -/
lemma whole_narrowed {field : String} {i high : Int64} {out : Int32} (hhigh : high.toInt < 2 ^ 31)
    (h : (do Check.whole field i 0 high; return i.toInt32 : Except FilterError Int32) = .ok out) :
    Check.whole field out.toInt64 0 high = .ok () := by
  obtain ⟨⟨⟩, hcheck, hpure⟩ := bind_eq_ok.mp h
  obtain rfl := pure_eq_ok.mp hpure
  have hbounds := Check.whole_eq_ok.mp hcheck
  have hzero : (0 : Int64).toInt = 0 := rfl
  rw [toInt64_toInt32 (by omega) (by omega)]
  exact hcheck

/-- What an accepted update is like. -/
lemma ofOptions_ok {list : List Assignment} {p : Temporal} (h : ofOptions list = .ok p) :
    Assignment.checkComplete .temporal list = .ok () ∧ p.validate = .ok () ∧
      ∀ name ∈ FilterKind.optionNames .temporal, ∃ v,
        Assignment.find? name list = some v ∧ v.IsFinite := by
  simp only [ofOptions, bind_eq_ok, pure_eq_ok, Assignment.require_eq_ok] at h
  obtain ⟨⟨⟩, hcomplete, v, hv, i, hi, w, hw, d, hd, j, hj, q, hq, k, hk, b, hb, alpha, halpha,
    delta, hdelta, persistency, hpersistency, rfl⟩ := h
  have hunit := checkAlpha_ok halpha
  refine ⟨hcomplete, ?_, ?_⟩
  · refine bind_eq_ok.mpr ⟨_, hunit.2, bind_eq_ok.mpr ⟨delta.toInt64.toInt32, ?_,
      bind_eq_ok.mpr ⟨persistency.toInt64.toInt32, ?_, rfl⟩⟩⟩
    · exact bind_eq_ok.mpr ⟨(), whole_narrowed (by decide) hdelta, rfl⟩
    · exact bind_eq_ok.mpr ⟨(), whole_narrowed (by decide) hpersistency, rfl⟩
  · intro name hname
    obtain rfl | rfl | rfl | rfl := Assignment.mem_temporal.mp hname
    · exact ⟨v, hv, OptionValue.isFinite_of_toWhole hi⟩
    -- alpha is the only option that need not be whole
    · refine ⟨w, hw, ?_⟩
      cases w with
      | int i => trivial
      | float x => exact hunit.1.isFinite
    · exact ⟨d, hd, OptionValue.isFinite_of_toWhole hj⟩
    · exact ⟨q, hq, OptionValue.isFinite_of_toWhole hk⟩

end Temporal

namespace Parameters

/-- What an accepted update is like. -/
lemma ofOptions_ok {kind : FilterKind} {list : List Assignment} {p : Parameters}
    (h : ofOptions kind list = .ok p) :
    p.kind = kind ∧ Assignment.checkComplete kind list = .ok () ∧ p.validate = .ok () ∧
      ∀ name ∈ kind.optionNames, ∃ v, Assignment.find? name list = some v ∧ v.IsFinite := by
  cases kind with
  | decimation =>
    obtain ⟨q, hq, rfl⟩ := map_eq_ok.mp h
    exact ⟨rfl, Decimation.ofOptions_ok hq⟩
  | temporal =>
    obtain ⟨q, hq, rfl⟩ := map_eq_ok.mp h
    exact ⟨rfl, Temporal.ofOptions_ok hq⟩

variable {kind : FilterKind} {list : List Assignment} {p : Parameters}

/-- Parameters have the options of their kind, in the order of the kind. -/
lemma names_toOptions (p : Parameters) : Assignment.names p.toOptions = p.kind.optionNames := by
  cases p <;> rfl

/-- Parameters have each option once. -/
lemma nodup_toOptions (p : Parameters) : (Assignment.names p.toOptions).Nodup := by
  rw [names_toOptions]
  exact Assignment.nodup_optionNames p.kind

/-- Values denote parameters of the kind that they are read for. -/
lemma kind_of_ofOptions (h : ofOptions kind list = .ok p) : p.kind = kind := (ofOptions_ok h).1

/-- Values that denote parameters have the names of the kind, in any order. -/
lemma perm_of_ofOptions (h : ofOptions kind list = .ok p) :
    (Assignment.names list).Perm kind.optionNames :=
  Assignment.checkComplete_eq_ok.mp (ofOptions_ok h).2.1

/-- Values that denote parameters have each name once. -/
lemma nodup_of_ofOptions (h : ofOptions kind list = .ok p) : (Assignment.names list).Nodup :=
  (perm_of_ofOptions h).nodup_iff.mpr (Assignment.nodup_optionNames kind)

/-- Parameters that values denote are valid. -/
lemma validate_of_ofOptions (h : ofOptions kind list = .ok p) : p.validate = .ok () :=
  (ofOptions_ok h).2.2.1

/-- The values in an accepted update are finite. -/
lemma isFinite_of_ofOptions (h : ofOptions kind list = .ok p) :
    ∀ a ∈ list, a.value.IsFinite := by
  intro a ha
  have hname : a.name ∈ kind.optionNames := (perm_of_ofOptions h).subset (List.mem_map_of_mem ha)
  obtain ⟨v, hv, hfinite⟩ := (ofOptions_ok h).2.2.2 a.name hname
  have hfind := Assignment.find?_of_mem (nodup_of_ofOptions h) ha
  rw [hfind] at hv
  cases hv
  exact hfinite

/-- An accepted update can be written as bytes of the right length, which denote the same. -/
lemma encode_of_ofOptions (h : ofOptions kind list = .ok p) :
    ∃ b, p.encode = .ok b ∧ b.bytes.length = kind.bufferLength ∧ decode kind b.bytes = .ok p := by
  obtain ⟨b, hb, -⟩ := encode_of_validate (validate_of_ofOptions h)
  obtain ⟨hlength, hdecode⟩ := decode_encode hb
  rw [kind_of_ofOptions h] at hlength hdecode
  exact ⟨b, hb, hlength, hdecode⟩

end Parameters

end EmbeddedFilters
