import EmbeddedFilters.Proofs.Options.Declarations
import EmbeddedFilters.Proofs.Parameters.Forms

/-!
# Values laid over accepted updates

An update that denotes parameters may hold its values in other forms than the parameters do. Where
one of its values is replaced, the outcome depends on the parameters alone
(`Parameters.ofOptions_replace`): the one field is read anew, and the others stay. And what
parameters state as an update passes the checks of the options that they declare
(`Parameters.check_toOptions`).
-/

namespace EmbeddedFilters

open Outcome Assignment

variable {list other : List Assignment}

/-- Values stay complete when one of them is replaced. -/
lemma Assignment.checkComplete_replace {kind : FilterKind} (h : checkComplete kind list = .ok ())
    (name : String) (v : OptionValue) : checkComplete kind (replace name v list) = .ok () := by
  rw [checkComplete_eq_ok, names_replace]
  exact checkComplete_eq_ok.mp h

namespace Decimation

/-- The parameters that the values of the options denote. -/
def ofValues (toggle magnitude : OptionValue) : Except FilterError Decimation := do
  let toggle ← toggle.toWhole "Toggle"
  let magnitude ← magnitude.toWhole "Magnitude"
  return ⟨← Check.flag "Toggle" toggle, ← checkMagnitude magnitude⟩

/-- Complete decimation values are read as the values of their options. -/
lemma ofOptions_eq {toggle magnitude : OptionValue}
    (hcomplete : checkComplete .decimation list = .ok ())
    (htoggle : find? "Toggle" list = some toggle)
    (hmagnitude : find? "Magnitude" list = some magnitude) :
    ofOptions list = ofValues toggle magnitude := by
  simp only [ofOptions, ofValues, hcomplete, require_eq_ok.mpr htoggle,
    require_eq_ok.mpr hmagnitude,
    ok_bind]

/-- The parameters with one field read from a value. -/
def assign (p : Decimation) (v : OptionValue) : String → Except FilterError Decimation
  | "Toggle" => do return { p with enabled := ← Check.flag "Toggle" (← v.toWhole "Toggle") }
  | "Magnitude" => do return { p with magnitude := ← checkMagnitude (← v.toWhole "Magnitude") }
  | _ => .ok p

/-- Replacing a value of decimation parameters assigns the option. -/
lemma ofOptions_replace {p : Decimation} (h : ofOptions list = .ok p) {name : String}
    (hname : name ∈ FilterKind.optionNames .decimation) (v : OptionValue) :
    ofOptions (replace name v list) = p.assign v name := by
  obtain ⟨hcomplete, -⟩ := ofOptions_ok h
  have hself := find?_replace_self ((checkComplete_eq_ok.mp hcomplete).symm.subset hname) v
  have hreplaced := checkComplete_replace hcomplete name v
  simp only [ofOptions, bind_eq_ok, pure_eq_ok, require_eq_ok] at h
  obtain ⟨⟨⟩, -, t, ht, i, hi, u, hu, j, hj, b, hb, m, hm, rfl⟩ := h
  obtain rfl | rfl := mem_decimation.mp hname
  · rw [ofOptions_eq hreplaced hself ((find?_replace_of_ne (by decide) _ _).trans hu)]
    simp only [ofValues, assign, hj, hm, ok_bind]
  · rw [ofOptions_eq hreplaced ((find?_replace_of_ne (by decide) _ _).trans ht) hself]
    simp only [ofValues, assign, hi, hb, ok_bind]

end Decimation

namespace Temporal

/-- The parameters that the values of the options denote. -/
def ofValues (toggle alpha delta persistency : OptionValue) : Except FilterError Temporal := do
  let toggle ← toggle.toWhole "Toggle"
  let delta ← delta.toWhole "Delta"
  let persistency ← persistency.toWhole "Persistency"
  return ⟨← Check.flag "Toggle" toggle, ← checkAlpha alpha.toDouble, ← checkDelta delta,
    ← checkPersistency persistency⟩

/-- Complete temporal values are read as the values of their options. -/
lemma ofOptions_eq {toggle alpha delta persistency : OptionValue}
    (hcomplete : checkComplete .temporal list = .ok ())
    (htoggle : find? "Toggle" list = some toggle) (halpha : find? "Alpha" list = some alpha)
    (hdelta : find? "Delta" list = some delta)
    (hpersistency : find? "Persistency" list = some persistency) :
    ofOptions list = ofValues toggle alpha delta persistency := by
  simp only [ofOptions, ofValues, hcomplete, require_eq_ok.mpr htoggle, require_eq_ok.mpr halpha,
    require_eq_ok.mpr hdelta, require_eq_ok.mpr hpersistency, ok_bind]

/-- The parameters with one field read from a value. -/
def assign (p : Temporal) (v : OptionValue) : String → Except FilterError Temporal
  | "Toggle" => do return { p with enabled := ← Check.flag "Toggle" (← v.toWhole "Toggle") }
  | "Alpha" => do return { p with alpha := ← checkAlpha v.toDouble }
  | "Delta" => do return { p with delta := ← checkDelta (← v.toWhole "Delta") }
  | "Persistency" => do
    return { p with persistency := ← checkPersistency (← v.toWhole "Persistency") }
  | _ => .ok p

/-- Replacing a value of temporal parameters assigns the option. -/
lemma ofOptions_replace {p : Temporal} (h : ofOptions list = .ok p) {name : String}
    (hname : name ∈ FilterKind.optionNames .temporal) (v : OptionValue) :
    ofOptions (replace name v list) = p.assign v name := by
  obtain ⟨hcomplete, -⟩ := ofOptions_ok h
  have hself := find?_replace_self ((checkComplete_eq_ok.mp hcomplete).symm.subset hname) v
  have hreplaced := checkComplete_replace hcomplete name v
  have hother : ∀ {other u}, find? other list = some u → other ≠ name →
      find? other (replace name v list) = some u := fun hu hne =>
    (find?_replace_of_ne hne v list).trans hu
  simp only [ofOptions, bind_eq_ok, pure_eq_ok, require_eq_ok] at h
  obtain ⟨⟨⟩, -, t, ht, i, hi, a, ha, d, hd, j, hj, q, hq, k, hk, b, hb,
    alpha, halpha, delta, hdelta,
    persistency, hpersistency, rfl⟩ := h
  obtain rfl | rfl | rfl | rfl := mem_temporal.mp hname
  · rw [ofOptions_eq hreplaced hself (hother ha (by decide)) (hother hd (by decide))
      (hother hq (by decide))]
    simp only [ofValues, assign, hj, hk, halpha, hdelta, hpersistency, ok_bind]
  · rw [ofOptions_eq hreplaced (hother ht (by decide)) hself (hother hd (by decide))
      (hother hq (by decide))]
    simp only [ofValues, assign, hi, hj, hk, hb, hdelta, hpersistency, ok_bind]
  · rw [ofOptions_eq hreplaced (hother ht (by decide)) (hother ha (by decide)) hself
      (hother hq (by decide))]
    simp only [ofValues, assign, hi, hk, hb, halpha, hpersistency, ok_bind]
  · rw [ofOptions_eq hreplaced (hother ht (by decide)) (hother ha (by decide))
      (hother hd (by decide)) hself]
    simp only [ofValues, assign, hi, hj, hb, halpha, hdelta, ok_bind]

end Temporal

namespace Parameters

variable {kind : FilterKind} {p : Parameters}

/-- The parameters with one field read from a value. -/
def assign (v : OptionValue) (name : String) : Parameters → Except FilterError Parameters
  | .decimation p => (p.assign v name).map .decimation
  | .temporal p => (p.assign v name).map .temporal

/-- Where one value of an accepted update is replaced, one field of the parameters is read anew. -/
lemma ofOptions_replace (h : ofOptions kind list = .ok p) {name : String}
    (hname : name ∈ kind.optionNames) (v : OptionValue) :
    ofOptions kind (replace name v list) = p.assign v name := by
  cases kind with
  | decimation =>
    obtain ⟨q, hq, rfl⟩ := map_eq_ok.mp h
    exact congrArg (Except.map Parameters.decimation) (Decimation.ofOptions_replace hq hname v)
  | temporal =>
    obtain ⟨q, hq, rfl⟩ := map_eq_ok.mp h
    exact congrArg (Except.map Parameters.temporal) (Temporal.ofOptions_replace hq hname v)

/-- Complete updates with the same values denote the same. -/
lemma ofOptions_congr (hlist : checkComplete kind list = .ok ())
    (hother : checkComplete kind other = .ok ())
    (h : ∀ name ∈ kind.optionNames, find? name list = find? name other) :
    ofOptions kind list = ofOptions kind other := by
  have hrequire : ∀ name ∈ kind.optionNames, require kind name list = require kind name other :=
    fun name hname => by rw [require, require, h name hname]
  cases kind with
  | decimation =>
    simp only [FilterKind.optionNames, List.forall_mem_cons] at hrequire
    simp only [ofOptions, Decimation.ofOptions, hlist, hother, hrequire]
  | temporal =>
    simp only [FilterKind.optionNames, List.forall_mem_cons] at hrequire
    simp only [ofOptions, Temporal.ofOptions, hlist, hother, hrequire]

/-- What a buffer of a kind denotes is of the kind and valid. -/
lemma decode_ok {bytes : List UInt8} (h : decode kind bytes = .ok p) :
    p.kind = kind ∧ p.validate = .ok () := by
  obtain ⟨⟨⟩, -, hrest⟩ := bind_eq_ok.mp h
  obtain ⟨q, hread, hrest⟩ := bind_eq_ok.mp hrest
  obtain ⟨⟨⟩, hvalid, hpure⟩ := bind_eq_ok.mp hrest
  obtain rfl := pure_eq_ok.mp hpure
  exact ⟨(flatten_of_readFields hread).1, hvalid⟩

/-! ### Parameters and their own declarations -/

/-- A whole number in the declared range passes the check. -/
lemma check_whole {low high i : Int64} (hlow : low.toInt ≤ i.toInt) (hhigh : i.toInt ≤ high.toInt)
    (name : String) (step default : Int64) (description : Option String) :
    (Declaration.int name low high step default description).check (.int i) = .ok (.int i) := by
  refine Declaration.check_eq_ok.mpr
    ⟨rfl, Binary.isNaN_of_isFinite (Binary.isFinite_ofInt i), ?_, ?_⟩
  · rintro m ⟨⟩
    exact Binary.lt_ofInt_of_le .double hlow
  · rintro m ⟨⟩
    exact Binary.lt_ofInt_of_le .double hhigh

/-- A flag passes the check of the option that switches a filter on. -/
lemma check_toggle (b : Bool) (description : Option String) :
    (Declaration.int "Toggle" 0 1 1 0 description).check (.ofBool b) = .ok (.ofBool b) := by
  have hbounds : (0 : Int64).toInt ≤ (if b then 1 else 0 : Int64).toInt ∧
      (if b then 1 else 0 : Int64).toInt ≤ (1 : Int64).toInt := by
    cases b <;> decide
  exact check_whole hbounds.1 hbounds.2 _ _ _ _

/-- A value in the unit interval passes the check of alpha. -/
lemma check_alpha {x : Double} (h : x.InUnit) (step default : Double)
    (description : Option String) :
    (Declaration.float "Alpha" (.ofInt .double 0) (.ofInt .double 1) step default description).check
      (.float x) = .ok (.float x) := by
  refine Declaration.check_eq_ok.mpr ⟨rfl, h.isNaN, ?_, ?_⟩
  · rintro m ⟨⟩
    exact h.lower
  · rintro m ⟨⟩
    exact h.upper

/-- What a valid decimation filter states as an update passes the checks of the options that it
declares. -/
lemma check_decimation {p : Decimation} (h : p.validate = .ok ()) {a : Assignment}
    (ha : a ∈ p.toOptions) :
    ∃ d, Decimation.declarations.find? (fun d => d.name == a.name) = some d ∧
      d.check a.value = .ok a.value := by
  obtain ⟨enabled, magnitude⟩ := p
  obtain ⟨m, hmagnitude, -⟩ := bind_eq_ok.mp h
  obtain rfl : magnitude = 2 := byte_inj (c := 2) (Decimation.checkMagnitude_eq_ok.mp hmagnitude).1
  simp only [Decimation.toOptions, List.mem_cons, List.not_mem_nil, or_false] at ha
  obtain rfl | rfl := ha
  · exact ⟨_, rfl, check_toggle enabled _⟩
  · exact ⟨_, rfl, check_whole (by decide) (by decide) _ _ _ _⟩

/-- What a valid temporal filter states as an update passes the checks of the options that it
declares. -/
lemma check_temporal {p : Temporal} (h : p.validate = .ok ()) {a : Assignment}
    (ha : a ∈ p.toOptions) : ∃ d, Temporal.declarations.find? (fun d => d.name == a.name) = some d ∧
      d.check a.value = .ok a.value := by
  obtain ⟨enabled, alpha, delta, persistency⟩ := p
  simp only [Temporal.validate, Temporal.checkAlpha, Temporal.checkDelta, Temporal.checkPersistency,
    bind_eq_ok] at h
  obtain ⟨-, ⟨⟨⟩, halpha, -⟩, -, ⟨⟨⟩, hdelta, -⟩, -, ⟨⟨⟩, hpersistency, -⟩, -⟩ := h
  have hstep := Check.whole_eq_ok.mp hdelta
  have hindex := Check.whole_eq_ok.mp hpersistency
  simp only [Temporal.toOptions, List.mem_cons, List.not_mem_nil, or_false] at ha
  obtain rfl | rfl | rfl | rfl := ha
  · exact ⟨_, rfl, check_toggle enabled _⟩
  · exact ⟨_, rfl, check_alpha (Check.number_unit.mp halpha) _ _ _⟩
  · exact ⟨_, rfl, check_whole hstep.1 hstep.2 _ _ _ _⟩
  · exact ⟨_, rfl, check_whole hindex.1 hindex.2 _ _ _ _⟩

/-- What valid parameters state as an update passes the checks of the options that they declare. -/
lemma check_toOptions (h : p.validate = .ok ()) {a : Assignment} (ha : a ∈ p.toOptions) :
    ∃ d, (declarations p.kind).find? (fun d => d.name == a.name) = some d ∧
      d.check a.value = .ok a.value := by
  cases p with
  | decimation p => exact check_decimation h ha
  | temporal p => exact check_temporal h ha

end Parameters

end EmbeddedFilters
