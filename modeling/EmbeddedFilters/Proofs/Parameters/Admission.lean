import EmbeddedFilters.Proofs.Options.WholeBounds
import EmbeddedFilters.Proofs.Parameters.Agreement
import EmbeddedFilters.Proofs.Parameters.Completeness

/-!
# What the declarations of a kind admit

A declaration of whole numbers between short bounds takes the values that stand for the integers
between them (`Declaration.within_of_check`). So the declaration of an option takes exactly the
values that suit the option (`Parameters.exists_check_iff`), and all of these lie in the range that
it shows, in whichever form they are given (`Parameters.contains_of_check`).
-/

namespace EmbeddedFilters

open Outcome

/-- Numbers that agree are in the same ranges. -/
lemma OptionRange.contains_congr {x y : Double} (h : x.agrees y = true) (r : OptionRange) :
    r.contains x = r.contains y := by
  simp only [Binary.agrees, Bool.and_eq_true, Bool.not_eq_true', beq_iff_eq] at h
  obtain ⟨⟨hx, hy⟩, hrank⟩ := h
  simp only [contains, Binary.le, hx, hy, hrank]

/-- A double that becomes a short whole number is this number. -/
lemma OptionValue.agrees_of_toWhole {field : String} {x : Double} {i : Int64}
    (h : (OptionValue.float x).toWhole field = .ok i) (hshort : i.toInt.natAbs < 2 ^ 53) :
    x.agrees (.ofInt .double i.toInt) = true := by
  obtain ⟨n, hn, hclamp⟩ := toWhole_eq_ok.mp h
  obtain ⟨hx, hxn⟩ := number?_float.mp hn
  have hsame : n = i.toInt := by omega
  have hi := Binary.isFinite_ofInt i
  refine Binary.agrees_of_toRat hx hi ?_
  rw [hxn, Binary.toRat_ofInt hshort hi, hsame]

namespace Declaration

variable {name : String} {low high step default i : Int64}
  {description : Option String} {v c : OptionValue}

/-- What an option of whole numbers between short bounds takes has become a whole number between the
bounds. -/
lemma within_of_check (hlow : low.toInt.natAbs < 2 ^ 53) (hhigh : high.toInt.natAbs < 2 ^ 53)
    (h : (int name low high step default description).check v = .ok c) :
    ∃ i, v.toWhole name = .ok i ∧ c = .int i ∧ low.toInt ≤ i.toInt ∧ i.toInt ≤ high.toInt := by
  obtain ⟨hcoerce, hadmits⟩ := check_eq_ok.mp h
  obtain ⟨i, hi, rfl⟩ := map_eq_ok.mp hcoerce
  have hwhole : (int name low high step default description).IsWhole (some low) (some high) :=
    ⟨rfl, rfl, rfl⟩
  have hwithin :=
    ((admits_int hwhole i).mp hadmits).exact (by rintro m ⟨⟩; exact hlow)
    (by rintro m ⟨⟩; exact hhigh)
  exact ⟨i, hi, rfl, hwithin.1 low rfl, hwithin.2 high rfl⟩

end Declaration

namespace Parameters

variable {kind : FilterKind} {name : String} {d : Declaration} {v c : OptionValue}

/-- A value that passes the check of a flag suits the flag. -/
lemma suits_toggle {description : Option String}
    (h : (Declaration.int "Toggle" 0 1 1 0 description).check v = .ok c) :
    v.Suits "Toggle" := by
  obtain ⟨i, hi, -, hlow, hhigh⟩ := Declaration.within_of_check (by decide) (by decide) h
  obtain ⟨b, hb⟩ := (Check.exists_flag i).mpr ⟨hlow, hhigh⟩
  exact ⟨i, b, hi, hb⟩

/-- What the declaration of an option takes suits the option. -/
lemma suits_of_check (hd : (declarations kind).find? (fun d => d.name == name) = some d)
    (h : d.check v = .ok c) : v.Suits name := by
  have hmem := List.mem_of_find?_eq_some hd
  have hname : d.name = name := by simpa using List.find?_some hd
  subst hname
  cases kind with
  | decimation =>
    simp only [declarations, Decimation.declarations, List.mem_cons,
      List.not_mem_nil, or_false] at hmem
    obtain rfl | rfl := hmem
    · exact suits_toggle h
    · obtain ⟨i, hi, -, hlow, hhigh⟩ := Declaration.within_of_check (by decide) (by decide) h
      obtain ⟨m, hm⟩ := (Decimation.exists_magnitude i).mpr ⟨hlow, hhigh⟩
      exact ⟨i, m, hi, hm⟩
  | temporal =>
    simp only [declarations, Temporal.declarations, List.mem_cons,
      List.not_mem_nil, or_false] at hmem
    obtain rfl | rfl | rfl | rfl := hmem
    · exact suits_toggle h
    · obtain ⟨hcoerce, hadmits⟩ := Declaration.check_eq_ok.mp h
      cases hcoerce
      exact (Temporal.exists_alpha _).mpr
        ⟨hadmits.isNaN, hadmits.lower (.float (.ofInt .double 0)) rfl,
        hadmits.upper (.float (.ofInt .double 1)) rfl⟩
    · obtain ⟨i, hi, -, hlow, hhigh⟩ := Declaration.within_of_check (by decide) (by decide) h
      obtain ⟨delta, hdelta⟩ := (Temporal.exists_narrowed i).mpr ⟨hlow, hhigh⟩
      exact ⟨i, delta, hi, hdelta⟩
    · obtain ⟨i, hi, -, hlow, hhigh⟩ := Declaration.within_of_check (by decide) (by decide) h
      obtain ⟨persistency, hpersistency⟩ := (Temporal.exists_narrowed i).mpr ⟨hlow, hhigh⟩
      exact ⟨i, persistency, hi, hpersistency⟩

/-- The declaration of an option takes exactly what suits the option. -/
lemma exists_check_iff (hname : name ∈ kind.optionNames)
    (hd : (declarations kind).find? (fun d => d.name == name) = some d) :
    (∃ c, d.check v = .ok c) ↔ v.Suits name := by
  constructor
  · rintro ⟨c, hc⟩
    exact suits_of_check hd hc
  · intro hsuits
    obtain ⟨d', hd', c, hc, -⟩ := check_of_suits hname hsuits
    cases hd.symm.trans hd'
    exact ⟨c, hc⟩

/-- What the declaration of an option takes lies in the range that it shows. -/
lemma contains_of_check (hd : d ∈ declarations kind) (h : d.check v = .ok c) :
    d.range.contains v.toDouble = true := by
  have hchecked := Declaration.check_idem h
  have hcontains :=
    Declaration.contains_of_check (bounded_declarations hd) hchecked (isFinite_of_check hd hchecked)
  have hwhole : ∀ {name : String} {low high step default : Int64} {description : Option String},
      d = .int name low high step default description → low.toInt.natAbs < 2 ^ 53 →
      high.toInt.natAbs < 2 ^ 53 →
      d.range.contains v.toDouble = true := by
    rintro name low high step default description rfl hlow hhigh
    obtain ⟨i, hi, rfl, hle, hge⟩ := Declaration.within_of_check hlow hhigh h
    cases v with
    | int j =>
      cases hi
      exact hcontains
    | float x =>
      have hsame := OptionValue.agrees_of_toWhole hi (by omega)
      exact (OptionRange.contains_congr hsame _).trans hcontains
  cases kind with
  | decimation =>
    simp only [declarations, Decimation.declarations, List.mem_cons,
      List.not_mem_nil, or_false] at hd
    obtain rfl | rfl := hd <;> exact hwhole rfl (by decide) (by decide)
  | temporal =>
    simp only [declarations, Temporal.declarations, List.mem_cons, List.not_mem_nil, or_false] at hd
    obtain rfl | rfl | rfl | rfl := hd
    · exact hwhole rfl (by decide) (by decide)
    · obtain ⟨hcoerce, -⟩ := Declaration.check_eq_ok.mp h
      cases hcoerce
      exact hcontains
    · exact hwhole rfl (by decide) (by decide)
    · exact hwhole rfl (by decide) (by decide)

end Parameters

end EmbeddedFilters
