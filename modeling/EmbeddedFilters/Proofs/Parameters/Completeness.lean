import EmbeddedFilters.Proofs.Number.Nearest
import EmbeddedFilters.Proofs.Parameters.Suitable

/-!
# Complete updates and the numbers in them

An option value stands for a rational number, whichever form it has, unless it is infinite or no
number at all (`OptionValue.number?`). An update denotes parameters exactly if it has every option
of the kind once, in any order, and the numbers in it obey the rules of their options
(`OptionRule`). The parameters then have these numbers, alpha the nearest one in 32 bits
(`Parameters.Has`), are the same in whatever order the update comes, and can be written as bytes
(`Parameters.ofOptions_accepts_exactly`).
-/

namespace EmbeddedFilters

open Outcome Assignment

namespace OptionValue

variable {v : OptionValue} {field : String} {q : ℚ}

/-- The rational number that a value stands for. -/
def number? : OptionValue → Option ℚ
  | .int i => some i.toInt
  | .float x => if x.isFinite then some x.toRat else none

/-- A float has a number exactly if it is finite, and it is the one that it denotes. -/
lemma number?_float {x : Double} :
    number? (.float x) = some q ↔ x.isFinite = true ∧ x.toRat = q := by
  cases hx : x.isFinite with
  | true => simp only [number?, hx, if_true, Option.some.injEq, true_and]
  | false => simp [number?, hx]

/-- A value that stands for an integer denotes it as a whole number, or the nearer end of the
range. -/
lemma toWhole_eq_ok {i : Int64} : v.toWhole field = .ok i ↔
    ∃ n : ℤ, v.number? = some (n : ℚ) ∧ i.toInt = max (-2 ^ 63) (min n (2 ^ 63 - 1)) := by
  cases v with
  | int j =>
    have hlow := j.le_toInt
    have hhigh := j.toInt_lt
    constructor
    · intro h
      obtain rfl := Except.ok.inj h
      exact ⟨j.toInt, rfl, by omega⟩
    · rintro ⟨n, hn, hi⟩
      have hj : j.toInt = n := by
        have hcast := Option.some.inj hn
        exact_mod_cast hcast
      have hij : i = j := Int64.toInt_inj.mp (by omega)
      rw [hij]
      rfl
  | float x =>
    constructor
    · intro h
      cases hwhole : x.isWhole with
      | true =>
        obtain ⟨hx, n, hn⟩ := Binary.isWhole_iff.mp hwhole
        rw [toWhole, hwhole, if_pos rfl] at h
        obtain rfl := Except.ok.inj h
        exact ⟨n, number?_float.mpr ⟨hx, hn⟩, Binary.toInt_toInt64 hx hn⟩
      | false => simp [toWhole, hwhole] at h
    · rintro ⟨n, hn, hi⟩
      obtain ⟨hx, hn⟩ := number?_float.mp hn
      rw [toWhole, if_pos (Binary.isWhole_iff.mpr ⟨hx, n, hn⟩)]
      congr 1
      exact Int64.toInt_inj.mp ((Binary.toInt_toInt64 hx hn).trans hi.symm)

/-- A value passes the check of a whole number that lies within bounds if it stands for an integer
within them. -/
lemma exists_whole {α : Type} {check : Int64 → Except FilterError α} {low high : ℤ}
    (hcheck : ∀ i : Int64, (∃ a, check i = .ok a) ↔ low ≤ i.toInt ∧ i.toInt ≤ high)
    (hlow : -2 ^ 63 < low) (hhigh : high < 2 ^ 63 - 1) :
    (∃ i a, v.toWhole field = .ok i ∧ check i = .ok a) ↔
      ∃ n : ℤ, v.number? = some (n : ℚ) ∧ low ≤ n ∧ n ≤ high := by
  constructor
  · rintro ⟨i, a, hi, ha⟩
    obtain ⟨n, hn, hclamp⟩ := toWhole_eq_ok.mp hi
    obtain ⟨hli, hih⟩ := (hcheck i).mp ⟨a, ha⟩
    exact ⟨n, hn, by omega, by omega⟩
  · rintro ⟨n, hn, hln, hnh⟩
    have hi : (Int64.ofInt n).toInt = n := Int64.toInt_ofInt_of_le (by omega) (by omega)
    obtain ⟨a, ha⟩ := (hcheck (.ofInt n)).mpr (by omega)
    exact ⟨.ofInt n, a, toWhole_eq_ok.mpr ⟨n, hn, by omega⟩, ha⟩

/-- A value passes for a number between zero and one if it stands for one. -/
lemma inUnit_toDouble : v.toDouble.InUnit ↔ ∃ q, v.number? = some q ∧ 0 ≤ q ∧ q ≤ 1 := by
  cases v with
  | int i =>
    rw [toDouble, Binary.inUnit_ofInt]
    constructor
    · rintro ⟨hlow, hhigh⟩
      exact ⟨i.toInt, rfl, by exact_mod_cast hlow, by exact_mod_cast hhigh⟩
    · rintro ⟨q, hq, hlow, hhigh⟩
      obtain rfl := Option.some.inj hq
      exact ⟨by exact_mod_cast hlow, by exact_mod_cast hhigh⟩
  | float x =>
    rw [toDouble, Binary.inUnit_iff_toRat]
    constructor
    · rintro ⟨hx, hbounds⟩
      exact ⟨x.toRat, number?_float.mpr ⟨hx, rfl⟩, hbounds⟩
    · rintro ⟨q, hq, hbounds⟩
      obtain ⟨hx, rfl⟩ := number?_float.mp hq
      exact ⟨hx, hbounds⟩

/-- A value between zero and one is the same number as a double. -/
lemma toRat_toDouble (hunit : v.toDouble.InUnit) (hq : v.number? = some q) :
    v.toDouble.toRat = q := by
  cases v with
  | int i =>
    obtain ⟨hlow, hhigh⟩ := Binary.inUnit_ofInt.mp hunit
    rw [← Option.some.inj hq]
    exact Binary.toRat_ofInt (by show i.toInt.natAbs < 2 ^ 53; omega) hunit.isFinite
  | float x => exact (number?_float.mp hq).2

end OptionValue

/-- The numbers that the option of a name can have. -/
def OptionRule : String → ℚ → Prop
  | "Toggle", q => q = 0 ∨ q = 1
  | "Magnitude", q => q = 2
  | "Alpha", q => 0 ≤ q ∧ q ≤ 1
  | "Delta", q => ∃ n : ℤ, q = n ∧ 0 ≤ n ∧ n ≤ 100
  | "Persistency", q => ∃ n : ℤ, q = n ∧ 0 ≤ n ∧ n ≤ 8
  | _, _ => False

/-- The parameters have a number for the option of a name, alpha as near as 32 bits allow. -/
def Parameters.Has (p : Parameters) (name : String) (q : ℚ) : Prop :=
  match p, name with
  | p, "Toggle" => q = if p.enabled then 1 else 0
  | .decimation p, "Magnitude" => q = p.magnitude.toNat
  | .temporal p, "Alpha" => p.alpha.IsNearest q
  | .temporal p, "Delta" => q = p.delta.toInt
  | .temporal p, "Persistency" => q = p.persistency.toInt
  | _, _ => False

/-! ### Rules -/

/-- The flags are zero and one. -/
lemma Check.exists_flag {field : String} (i : Int64) :
    (∃ b, flag field i = .ok b) ↔ 0 ≤ i.toInt ∧ i.toInt ≤ 1 := by
  constructor
  · rintro ⟨b, hb⟩
    rw [flag_eq_ok.mp hb]
    cases b <;> decide
  · rintro ⟨hlow, hhigh⟩
    obtain h | h : i.toInt = (0 : Int64).toInt ∨ i.toInt = (1 : Int64).toInt := by
      have hzero : (0 : Int64).toInt = 0 := rfl
      have hone : (1 : Int64).toInt = 1 := rfl
      omega
    · exact ⟨false, flag_eq_ok.mpr (Int64.toInt_inj.mp h)⟩
    · exact ⟨true, flag_eq_ok.mpr (Int64.toInt_inj.mp h)⟩

/-- The only magnitude is two. -/
lemma Decimation.exists_magnitude (i : Int64) :
    (∃ m, checkMagnitude i = .ok m) ↔ 2 ≤ i.toInt ∧ i.toInt ≤ 2 := by
  have htwo : (2 : Int64).toInt = 2 := rfl
  constructor
  · rintro ⟨m, hm⟩
    rw [(checkMagnitude_eq_ok.mp hm).1, htwo]
    omega
  · rintro ⟨hlow, hhigh⟩
    exact ⟨2, checkMagnitude_eq_ok.mpr ⟨Int64.toInt_inj.mp (by omega), rfl⟩⟩

/-- A whole number that is narrowed after a check passes if it lies between the bounds. -/
lemma Temporal.exists_narrowed {field : String} {high : Int64} (i : Int64) :
    (∃ out, (do Check.whole field i 0 high; return i.toInt32 : Except FilterError Int32) =
      .ok out) ↔
      0 ≤ i.toInt ∧ i.toInt ≤ high.toInt := by
  constructor
  · rintro ⟨out, h⟩
    obtain ⟨⟨⟩, hwhole, -⟩ := bind_eq_ok.mp h
    exact Check.whole_eq_ok.mp hwhole
  · intro h
    exact ⟨i.toInt32, bind_eq_ok.mpr ⟨(), Check.whole_eq_ok.mpr h, rfl⟩⟩

/-- The weights are the numbers between zero and one. -/
lemma Temporal.exists_alpha (x : Double) : (∃ alpha, checkAlpha x = .ok alpha) ↔ x.InUnit := by
  constructor
  · rintro ⟨alpha, h⟩
    exact (checkAlpha_ok h).1
  · intro h
    exact ⟨x.convert .single, bind_eq_ok.mpr ⟨(), Check.number_unit.mpr h, rfl⟩⟩

/-- A value suits an option if the number that it stands for obeys the rule of the option. -/
lemma OptionValue.suits_iff {kind : FilterKind} {name : String} (hname : name ∈ kind.optionNames)
    {v : OptionValue} : v.Suits name ↔ ∃ q, v.number? = some q ∧ OptionRule name q := by
  have hwhole : ∀ high : ℤ, (∃ n : ℤ, v.number? = some (n : ℚ) ∧ 0 ≤ n ∧ n ≤ high) ↔
      ∃ q, v.number? = some q ∧ ∃ n : ℤ, q = n ∧ 0 ≤ n ∧ n ≤ high := by
    intro high
    constructor
    · rintro ⟨n, hn, hbounds⟩
      exact ⟨n, hn, n, rfl, hbounds⟩
    · rintro ⟨_, hq, n, rfl, hbounds⟩
      exact ⟨n, hq, hbounds⟩
  have htoggle : v.Suits "Toggle" ↔ ∃ q, v.number? = some q ∧ OptionRule "Toggle" q := by
    refine (exists_whole Check.exists_flag (by decide) (by decide)).trans ?_
    constructor
    · rintro ⟨n, hn, hlow, hhigh⟩
      obtain rfl | rfl : n = 0 ∨ n = 1 := by omega
      · exact ⟨_, hn, .inl Int.cast_zero⟩
      · exact ⟨_, hn, .inr Int.cast_one⟩
    · rintro ⟨_, hq, rfl | rfl⟩
      · exact ⟨0, by rw [hq, Int.cast_zero], by decide⟩
      · exact ⟨1, by rw [hq, Int.cast_one], by decide⟩
  cases kind with
  | decimation =>
    obtain rfl | rfl := mem_decimation.mp hname
    · exact htoggle
    · refine (exists_whole Decimation.exists_magnitude (by decide) (by decide)).trans ?_
      constructor
      · rintro ⟨n, hn, hlow, hhigh⟩
        obtain rfl : n = 2 := by omega
        exact ⟨_, hn, Int.cast_ofNat 2⟩
      · rintro ⟨_, hq, rfl⟩
        exact ⟨2, by rw [hq, Int.cast_ofNat], by decide⟩
  | temporal =>
    obtain rfl | rfl | rfl | rfl := mem_temporal.mp hname
    · exact htoggle
    · exact (Temporal.exists_alpha _).trans inUnit_toDouble
    · exact (exists_whole Temporal.exists_narrowed (by decide) (by decide)).trans (hwhole 100)
    · exact (exists_whole Temporal.exists_narrowed (by decide) (by decide)).trans (hwhole 8)

/-! ### Numbers in parameters -/

/-- A whole number within the range is the number that the value stands for. -/
lemma OptionValue.number_of_toWhole {v : OptionValue} {field : String} {i : Int64} {q : ℚ}
    (hi : v.toWhole field = .ok i) (hq : v.number? = some q) (hlow : 0 ≤ i.toInt)
    (hhigh : i.toInt ≤ 100) : q = i.toInt := by
  obtain ⟨n, hn, hclamp⟩ := toWhole_eq_ok.mp hi
  obtain rfl := Option.some.inj (hq.symm.trans hn)
  have hsame : n = i.toInt := by omega
  rw [hsame]

namespace Parameters

variable {kind : FilterKind} {list other : List Assignment} {name : String}
  {v : OptionValue} {q : ℚ}

/-- A flag is one if it is set and else zero. -/
lemma flag_number {field : String} {i : Int64} {b : Bool} (hi : v.toWhole field = .ok i)
    (hb : Check.flag field i = .ok b) (hq : v.number? = some q) : q = if b then 1 else 0 := by
  obtain rfl := Check.flag_eq_ok.mp hb
  rw [OptionValue.number_of_toWhole hi hq (by cases b <;> decide) (by cases b <;> decide)]
  cases b <;> rfl

/-- A whole number that is narrowed after a check stays the number that the value stands for. -/
lemma narrowed_number {field : String} {i high : Int64} {out : Int32} (hi : v.toWhole field = .ok i)
    (hhigh : high.toInt ≤ 100)
    (hout : (do Check.whole field i 0 high; return i.toInt32 : Except FilterError Int32) = .ok out)
    (hq : v.number? = some q) : q = out.toInt := by
  obtain ⟨⟨⟩, hwhole, hpure⟩ := bind_eq_ok.mp hout
  obtain rfl := pure_eq_ok.mp hpure
  obtain ⟨hlow, hle⟩ := Check.whole_eq_ok.mp hwhole
  have hzero : (0 : Int64).toInt = 0 := rfl
  have hsame : i.toInt32.toInt = i.toInt := by
    rw [← Int32.toInt_toInt64, toInt64_toInt32 (by omega) (by omega)]
  rw [hsame]
  exact OptionValue.number_of_toWhole hi hq (by omega) (by omega)

/-- Alpha is the number of 32 bits nearest to the number that the value stands for. -/
lemma alpha_nearest {alpha : Single} (halpha : Temporal.checkAlpha v.toDouble = .ok alpha)
    (hq : v.number? = some q) : alpha.IsNearest q := by
  obtain ⟨hunit, -⟩ := Temporal.checkAlpha_ok halpha
  obtain ⟨⟨⟩, -, hpure⟩ := bind_eq_ok.mp halpha
  obtain rfl := pure_eq_ok.mp hpure
  rw [← OptionValue.toRat_toDouble hunit hq]
  refine Binary.isNearest_convert (decide_eq_true ?_)
  have hnarrow := ((Binary.inUnit_iff _).mp (Binary.inUnit_convert_single hunit)).2
  have hone : (Binary.ofInt .single 1).magnitude < BinaryFormat.single.infinity := by decide +kernel
  exact hnarrow.trans_lt hone

/-- The parameters that an update denotes have the numbers that stand in it. -/
lemma has_of_ofOptions {p : Parameters} (h : ofOptions kind list = .ok p)
    (hname : name ∈ kind.optionNames) (hv : find? name list = some v) (hq : v.number? = some q) :
    p.Has name q := by
  cases kind with
  | decimation =>
    simp only [ofOptions, map_eq_ok, Decimation.ofOptions, bind_eq_ok,
      pure_eq_ok, require_eq_ok] at h
    obtain ⟨_, ⟨⟨⟩, -, t, ht, i, hi, u, hu, j, hj, b, hb, m, hm, rfl⟩, rfl⟩ := h
    obtain rfl | rfl := mem_decimation.mp hname
    · cases ht.symm.trans hv
      exact flag_number hi hb hq
    · cases hu.symm.trans hv
      obtain ⟨rfl, rfl⟩ := Decimation.checkMagnitude_eq_ok.mp hm
      exact OptionValue.number_of_toWhole hj hq (by decide) (by decide)
  | temporal =>
    simp only [ofOptions, map_eq_ok, Temporal.ofOptions, bind_eq_ok, pure_eq_ok, require_eq_ok] at h
    obtain ⟨_, ⟨⟨⟩, -, t, ht, i, hi, a, ha, d, hd, j, hj, k, hk, l, hl, b, hb,
      alpha, halpha, delta, hdelta,
      persistency, hpersistency, rfl⟩, rfl⟩ := h
    obtain rfl | rfl | rfl | rfl := mem_temporal.mp hname
    · cases ht.symm.trans hv
      exact flag_number hi hb hq
    · cases ha.symm.trans hv
      exact alpha_nearest halpha hq
    · cases hd.symm.trans hv
      exact narrowed_number hj (by decide) hdelta hq
    · cases hk.symm.trans hv
      exact narrowed_number hl (by decide) hpersistency hq

/-- The order of an update does not matter. -/
lemma ofOptions_perm (hlist : checkComplete kind list = .ok ()) (hperm : other.Perm list) :
    ofOptions kind other = ofOptions kind list := by
  have hnames : (names list).Perm kind.optionNames := checkComplete_eq_ok.mp hlist
  have hother : (names other).Perm kind.optionNames := (hperm.map _).trans hnames
  have hnodup := hother.nodup_iff.mpr (nodup_optionNames kind)
  refine ofOptions_congr (checkComplete_eq_ok.mpr hother) hlist fun name hname => ?_
  obtain ⟨v, hv⟩ :=
    Option.isSome_iff_exists.mp ((isSome_find? name list).mpr (hnames.symm.subset hname))
  rw [hv]
  exact find?_of_mem hnodup (hperm.symm.subset (mem_of_find? hv))

/-- An update denotes parameters exactly if it has every option of the kind once and the numbers in
it obey the rules of their options. The parameters are the same in whatever order the update comes,
have the numbers that stand in it, pass their own checks and can be written as bytes. -/
theorem ofOptions_accepts_exactly (kind : FilterKind) (list : List Assignment) :
    ((∃ p, ofOptions kind list = .ok p) ↔ (names list).Perm kind.optionNames ∧
      ∀ a ∈ list, ∃ q, a.value.number? = some q ∧ OptionRule a.name q) ∧
    ∀ p, ofOptions kind list = .ok p → p.kind = kind ∧
      (∀ other : List Assignment, other.Perm list → ofOptions kind other = .ok p) ∧
      (∀ a ∈ list, ∀ q, a.value.number? = some q → p.Has a.name q) ∧
      p.validate = .ok () ∧ ∃ b, p.encode = .ok b := by
  refine ⟨?_, fun p hp => ?_⟩
  · rw [exists_ofOptions]
    refine and_congr_right fun hperm => ?_
    have hnodup := hperm.nodup_iff.mpr (nodup_optionNames kind)
    constructor
    · intro h a ha
      have hname := hperm.subset (List.mem_map_of_mem ha)
      obtain ⟨v, hv, hsuits⟩ := h a.name hname
      obtain rfl := Option.some.inj ((find?_of_mem hnodup ha).symm.trans hv)
      exact (OptionValue.suits_iff hname).mp hsuits
    · intro h name hname
      obtain ⟨a, ha, rfl⟩ := List.mem_map.mp (hperm.symm.subset hname)
      exact ⟨a.value, find?_of_mem hnodup ha, (OptionValue.suits_iff hname).mpr (h a ha)⟩
  · obtain ⟨hkind, hcomplete, hvalid, -⟩ := ofOptions_ok hp
    obtain ⟨b, hb, -⟩ := encode_of_ofOptions hp
    refine ⟨hkind, fun other hother => (ofOptions_perm hcomplete hother).trans hp,
      fun a ha q hq => ?_,
      hvalid, b, hb⟩
    have hname := (perm_of_ofOptions hp).subset (List.mem_map_of_mem ha)
    exact has_of_ofOptions hp hname (find?_of_mem (nodup_of_ofOptions hp) ha) hq

end Parameters

end EmbeddedFilters
