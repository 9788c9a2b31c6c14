import EmbeddedFilters.Proofs.Options.Coercion
import EmbeddedFilters.Proofs.Parameters.Agreement
import EmbeddedFilters.Proofs.Remote.Record

/-!
# Parameters laid over a record

A complete update that is laid over a record passes through the declarations of the record, which
may have other forms for its values than the update. The numbers stay (`Parameters.tells_of_merge`):
every number that a valid set of parameters has is one that both forms have, and a declaration that
could not keep it refuses it. So what comes out of the record again agrees with what was laid over
it (`Parameters.agrees_of_tells`).
-/

namespace EmbeddedFilters

open Outcome Assignment

variable {q : ℚ} {name : String}

namespace OptionValue

/-- Two values stand for the same number, whatever their forms. -/
def SameNumber (v w : OptionValue) : Prop := ∃ q, v.number? = some q ∧ w.number? = some q

/-- Flags with the same number are the same. -/
lemma flag_of_number {b c : Bool} (hb : (ofBool b).number? = some q) (hc : q = if c then 1 else 0) :
    b = c := by
  subst hc
  cases b <;> cases c <;> simp [ofBool, number?] at hb <;> rfl

/-- Integers of 32 bits with the same number are the same. -/
lemma int32_of_number {i j : Int32} (hi : (ofInt32 i).number? = some q) (hj : q = j.toInt) :
    i = j := by
  subst hj
  have hsame : i.toInt64.toInt = j.toInt := by exact_mod_cast Option.some.inj hi
  rw [Int32.toInt_toInt64] at hsame
  exact Int32.toInt_inj.mp hsame

/-- Bytes with the same number are the same. -/
lemma byte_of_number {b c : UInt8} (hb : (int (.ofNat b.toNat)).number? = some q)
    (hc : q = c.toNat) : b = c := by
  subst hc
  have hsame : (Int64.ofNat b.toNat).toInt = c.toNat := by exact_mod_cast Option.some.inj hb
  have hlt := b.toNat_lt
  rw [Int64.toInt_ofNat_of_lt (by omega)] at hsame
  exact UInt8.toNat.inj (by exact_mod_cast hsame)

end OptionValue

/-- The number of an option is between zero and a hundred. -/
lemma OptionRule.bounds (h : OptionRule name q) : 0 ≤ q ∧ q ≤ 100 := by
  unfold OptionRule at h
  split at h
  · obtain rfl | rfl := h <;> norm_num
  · subst h
    norm_num
  · exact ⟨h.1, h.2.trans (by norm_num)⟩
  · obtain ⟨n, rfl, hlow, hhigh⟩ := h
    exact ⟨by exact_mod_cast hlow, by exact_mod_cast hhigh⟩
  · obtain ⟨n, rfl, hlow, hhigh⟩ := h
    exact ⟨by exact_mod_cast hlow, by exact_mod_cast hhigh.trans (by decide)⟩
  · exact h.elim

/-- A small number that some value stands for is one of either form, if it is an integer where that
is asked for. -/
lemma OptionKind.holds_of_number {kind : OptionKind} {v : OptionValue} (hq : v.number? = some q)
    (hlow : 0 ≤ q) (hhigh : q ≤ 100) (hwhole : kind = .int → ∃ n : ℤ, q = n) : kind.Holds q := by
  cases kind with
  | int =>
    obtain ⟨n, rfl⟩ := hwhole rfl
    have hlow : 0 ≤ n := by exact_mod_cast hlow
    have hhigh : n ≤ 100 := by exact_mod_cast hhigh
    have hn : (Int64.ofInt n).toInt = n := Int64.toInt_ofInt_of_le (by omega) (by omega)
    refine ⟨.int (.ofInt n), rfl, ?_⟩
    rw [OptionValue.number?, hn]
  | float =>
    cases v with
    | float x => exact ⟨.float x, rfl, hq⟩
    | int i =>
      obtain rfl := Option.some.inj hq
      have hlow : 0 ≤ i.toInt := by exact_mod_cast hlow
      have hhigh : i.toInt ≤ 100 := by exact_mod_cast hhigh
      have hfinite := Binary.isFinite_ofInt i
      refine ⟨.float (.ofInt .double i.toInt), rfl, OptionValue.number?_float.mpr ⟨hfinite, ?_⟩⟩
      exact Binary.toRat_ofInt (by show i.toInt.natAbs < 2 ^ 53; omega) hfinite

/-- A declaration of whatever form and bounds that admits a number of an option keeps it. -/
lemma Declaration.number_of_check {d : Declaration} {v w : OptionValue} (h : d.check v = .ok w)
    (hq : v.number? = some q) (hrule : OptionRule name q) : w.number? = some q := by
  obtain ⟨hcoerce, hadmits⟩ := Declaration.check_eq_ok.mp h
  have hbecomes := OptionValue.becomes_of_coerce hcoerce hadmits.isNaN
  obtain ⟨hlow, hhigh⟩ := hrule.bounds
  refine hbecomes.number q (OptionKind.holds_of_number hq hlow hhigh fun hint => ?_) hq
  obtain ⟨n, hn⟩ := hbecomes.whole hint
  exact ⟨n, Option.some.inj (hq.symm.trans hn)⟩

namespace Parameters

variable {p r : Parameters} {list values : List Assignment}

/-- A list of values has the number of the parameters for each of their options. -/
def Tells (p : Parameters) (list : List Assignment) : Prop :=
  ∀ name ∈ p.kind.optionNames, ∃ v w,
    find? name p.toOptions = some v ∧ find? name list = some w ∧ v.SameNumber w

/-- Valid parameters have numbers for their options, which obey the rules of these. -/
lemma exists_number (hp : p.validate = .ok ()) (hname : name ∈ p.kind.optionNames) :
    ∃ v q, find? name p.toOptions = some v ∧ v.number? = some q ∧ OptionRule name q := by
  obtain ⟨-, hsuits⟩ := exists_ofOptions.mp ⟨p, ofOptions_of_valid hp⟩
  obtain ⟨v, hv, hsuits⟩ := hsuits name hname
  obtain ⟨q, hq, hrule⟩ := (OptionValue.suits_iff hname).mp hsuits
  exact ⟨v, q, hv, hq, hrule⟩

/-- The options of valid parameters tell them. -/
lemma tells_self (hp : p.validate = .ok ()) : p.Tells p.toOptions := by
  intro name hname
  obtain ⟨v, q, hv, hq, -⟩ := exists_number hp hname
  exact ⟨v, v, hv, hv, q, hq, hq⟩

/-- A record over which valid parameters are laid has their numbers afterwards. -/
lemma tells_of_merge (hp : p.validate = .ok ()) {record : FilterRecord}
    (hmerge : record.merge p.toOptions = .ok values) : p.Tells values := by
  intro name hname
  obtain ⟨v, q, hv, hq, hrule⟩ := exists_number hp hname
  obtain ⟨d, w, -, hcheck, hw⟩ :=
    FilterRecord.checked_of_merge hmerge (nodup_toOptions p) (mem_of_find? hv)
  exact ⟨v, w, hv, hw, q, hq, Declaration.number_of_check hcheck hq hrule⟩

/-- Parameters that have the numbers of others agree with them. -/
lemma agrees_of_has (hp : p.validate = .ok ()) (hkind : r.kind = p.kind)
    (h : ∀ name ∈ p.kind.optionNames, ∃ v q,
      find? name p.toOptions = some v ∧ v.number? = some q ∧ r.Has name q) : p.agrees r = true := by
  cases p with
  | decimation p =>
    cases r with
    | temporal r => cases hkind
    | decimation r =>
      simp only [kind, FilterKind.optionNames, List.forall_mem_cons] at h
      obtain ⟨⟨_, _, ⟨⟩, ht, htoggle⟩, ⟨_, _, ⟨⟩, hm, hmagnitude⟩, -⟩ := h
      have henabled : p.enabled = r.enabled := OptionValue.flag_of_number ht htoggle
      have hmagnitude : p.magnitude = r.magnitude := OptionValue.byte_of_number hm hmagnitude
      obtain ⟨enabled, magnitude⟩ := p
      exact beq_iff_eq.mpr (congr (congrArg Decimation.mk henabled) hmagnitude)
  | temporal p =>
    cases r with
    | decimation r => cases hkind
    | temporal r =>
      simp only [kind, FilterKind.optionNames, List.forall_mem_cons] at h
      obtain ⟨⟨_, _, ⟨⟩, ht, htoggle⟩, ⟨_, _, ⟨⟩, ha, halpha⟩, ⟨_, _, ⟨⟩, hd, hdelta⟩,
        ⟨_, _, ⟨⟩, hl, hpersistency⟩, -⟩ := h
      have henabled : p.enabled = r.enabled := OptionValue.flag_of_number ht htoggle
      have hdelta := OptionValue.int32_of_number hd hdelta
      have hpersistency := OptionValue.int32_of_number hl hpersistency
      -- alpha is a number of 32 bits, so no other one is nearest to it
      have hfinite := isFinite_alpha hp
      obtain ⟨-, hwide⟩ := OptionValue.number?_float.mp ha
      rw [Binary.toRat_convert (by decide) (by decide) hfinite] at hwide
      have hnarrow : p.alpha.isFinite = true := Binary.isFinite_of_convert hfinite
      have hsame := halpha.toRat_eq hnarrow hwide
      have halpha : p.alpha.agrees r.alpha = true :=
        Binary.agrees_of_toRat hnarrow halpha.isFinite (hwide.trans hsame.symm)
      simp [agrees, henabled, halpha, hdelta, hpersistency]

/-- What a list denotes that has the numbers of valid parameters agrees with these. -/
lemma agrees_of_tells (hp : p.validate = .ok ()) (h : p.Tells list)
    (hr : ofOptions p.kind list = .ok r) :
    p.agrees r = true := by
  refine agrees_of_has hp (kind_of_ofOptions hr) fun name hname => ?_
  obtain ⟨v, w, hv, hw, q, hq, hwq⟩ := h name hname
  exact ⟨v, q, hv, hq, has_of_ofOptions hr hname hw hwq⟩

/-- Parameters that agree are switched alike. -/
lemma enabled_of_agrees (h : p.agrees r = true) : p.enabled = r.enabled := by
  cases p <;> cases r <;> simp_all [agrees, enabled]

end Parameters

end EmbeddedFilters
