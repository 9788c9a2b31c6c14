import EmbeddedFilters.Device
import EmbeddedFilters.Proofs.Remote.Proxy
import Mathlib.Data.List.Forall2

/-!
# Records that agree with devices

A record agrees with the values of a device if it has them in the same order, each in the form that
its declaration gives it (`FilterRecord.Agrees`). What the device changes by itself changes an
agreeing record alike (`agrees_of_overlay`), what the host has merged agrees with itself
(`agrees_of_merge`), and the values of the device, laid over an agreeing record as a whole, change
nothing (`merge_of_agrees`).
-/

namespace EmbeddedFilters

open Outcome Assignment

namespace Assignment

/-- A value that is there is replaced by itself. -/
lemma replace_of_find? {name : String} {value : OptionValue} {list : List Assignment}
    (h : find? name list = some value) : replace name value list = list := by
  induction list with
  | nil => rfl
  | cons a list ih =>
    rw [find?_cons] at h
    by_cases hn : a.name = name
    · rw [if_pos hn] at h
      obtain rfl := Option.some.inj h
      obtain rfl := hn
      simp [replace]
    · rw [if_neg hn] at h
      simp [replace, hn, ih h]

end Assignment

namespace FilterRecord

/-- The second assignment is the first one in the form that the record declares. -/
def Matches (r : FilterRecord) (a b : Assignment) : Prop :=
  a.name = b.name ∧ ∃ d, r.declaration? a.name = some d ∧ d.check a.value = .ok b.value

/-- The record has the values of a list, in their order and in the forms that it declares. -/
def Agrees (r : FilterRecord) (values : List Assignment) : Prop :=
  List.Forall₂ r.Matches values r.current

/-- An assignment in the kind that the record declares. -/
def inDeclaredKind (r : FilterRecord) (a : Assignment) : Option Assignment := do
  let d ← r.declaration? a.name
  let value ← (a.value.coerce d.kind d.name).toOption
  return ⟨a.name, value⟩

variable {r : FilterRecord} {kind : FilterKind} {a b : Assignment}
  {values list out updates : List Assignment}

/-- A value that matches another becomes it in the declared form. -/
lemma Matches.inDeclaredKind (h : r.Matches a b) : r.inDeclaredKind a = some b := by
  obtain ⟨hname, d, hd, hcheck⟩ := h
  have hcoerce := (Declaration.check_eq_ok.mp hcheck).1
  have hassigned : (⟨a.name, b.value⟩ : Assignment) = b := by rw [hname]
  simp only [FilterRecord.inDeclaredKind, hd, hcoerce, Except.toOption, Option.bind_eq_bind,
    Option.bind_some, Option.pure_def, hassigned]

/-- What a value matches matches itself. -/
lemma Matches.self (h : r.Matches a b) : r.Matches b b := by
  obtain ⟨hname, d, hd, hcheck⟩ := h
  exact ⟨rfl, d, hname ▸ hd, Declaration.check_idem hcheck⟩

/-- A record that agrees with values has what the declared kinds make of them. -/
lemma mapM_inDeclaredKind (h : List.Forall₂ r.Matches values list) :
    values.mapM r.inDeclaredKind = some list := by
  induction h with
  | nil => rfl
  | cons hab _ ih => simp [List.mapM_cons, hab.inDeclaredKind, ih]

/-- What values match matches itself. -/
lemma matches_self (h : List.Forall₂ r.Matches values list) : List.Forall₂ r.Matches list list := by
  induction h with
  | nil => exact .nil
  | cons hab _ ih => exact .cons hab.self ih

/-- Every member of the first of two matching lists has its match in the second one. -/
lemma exists_match (h : List.Forall₂ r.Matches values list) (ha : a ∈ values) :
    ∃ b ∈ list, r.Matches a b := by
  induction h with
  | nil => cases ha
  | cons hab _ ih =>
    cases List.mem_cons.mp ha with
    | inl heq => exact ⟨_, List.mem_cons_self, heq ▸ hab⟩
    | inr hmem =>
      obtain ⟨b, hb, hab⟩ := ih hmem
      exact ⟨b, List.mem_cons_of_mem _ hb, hab⟩

/-- Lists still match after a value has been replaced in one of them, and in the other one by what
its declaration makes of it. -/
lemma matches_replace (h : List.Forall₂ r.Matches values list) {name : String} {d : Declaration}
    {u v : OptionValue} (hd : r.declaration? name = some d) (hv : d.check u = .ok v) :
    List.Forall₂ r.Matches (replace name u values) (replace name v list) := by
  induction h with
  | nil => exact .nil
  | @cons a b _ _ hab hrest ih =>
    have hname := hab.1
    by_cases hn : b.name = name
    · rw [replace, replace, if_pos (by simpa [hname] using hn), if_pos (by simpa using hn)]
      exact .cons ⟨hname, d, by rw [hname, hn]; exact hd, hv⟩ hrest
    · rw [replace, replace, if_neg (by simpa [hname] using hn), if_neg (by simpa using hn)]
      exact .cons hab ih

/-- Updates that one list takes as they are and the other one as they are declared keep the lists
matching. -/
lemma matches_of_foldlM (h : List.Forall₂ r.Matches values list) {other : FilterKind}
    (hmerge : updates.foldlM (r.lay kind) list = .ok out)
    {changed : List Assignment} (hoverlay : Device.overlay other values updates = .ok changed) :
    List.Forall₂ r.Matches changed out := by
  induction updates generalizing values list with
  | nil =>
    cases hmerge
    cases hoverlay
    exact h
  | cons update updates ih =>
    -- the host lays the checked value over its list, the device the value as it is
    rw [List.foldlM_cons] at hmerge
    rw [Device.overlay, List.foldlM_cons] at hoverlay
    obtain ⟨nextList, hlay, hmerge⟩ := bind_eq_ok.mp hmerge
    obtain ⟨nextValues, hover, hoverlay⟩ := bind_eq_ok.mp hoverlay
    obtain ⟨d, v, hd, hv, -, rfl⟩ := lay_eq_ok.mp hlay
    obtain ⟨-, rfl⟩ := overlay_eq_ok.mp hover
    exact ih (matches_replace h hd hv) hmerge hoverlay

/-- Updates that are laid over a list that matches itself give one that matches itself. -/
lemma matches_self_of_foldlM (h : List.Forall₂ r.Matches list list)
    (hmerge : updates.foldlM (r.lay kind) list = .ok out) : List.Forall₂ r.Matches out out := by
  induction updates generalizing list with
  | nil =>
    cases hmerge
    exact h
  | cons update updates ih =>
    rw [List.foldlM_cons] at hmerge
    obtain ⟨next, hlay, hmerge⟩ := bind_eq_ok.mp hmerge
    obtain ⟨d, v, hd, hv, -, rfl⟩ := lay_eq_ok.mp hlay
    -- a checked value passes the check as it is
    exact ih (matches_replace h hd (Declaration.check_idem hv)) hmerge

/-- Updates to what is there already change nothing. -/
lemma foldlM_lay_same (h : ∀ a ∈ updates, ∃ d v, r.declaration? a.name = some d ∧
    d.check a.value = .ok v ∧ find? a.name list = some v) :
    updates.foldlM (r.lay kind) list = .ok list := by
  induction updates with
  | nil => rfl
  | cons update updates ih =>
    obtain ⟨d, v, hd, hv, hfind⟩ := h update List.mem_cons_self
    have hmem : update.name ∈ names list :=
      (isSome_find? _ _).mp (Option.isSome_iff_exists.mpr ⟨v, hfind⟩)
    have hlay : r.lay kind list update = .ok list :=
      lay_eq_ok.mpr ⟨d, v, hd, hv, hmem, replace_of_find? hfind⟩
    rw [List.foldlM_cons, hlay, ok_bind]
    exact ih fun a ha => h a (List.mem_cons_of_mem _ ha)

/-- What a device changes by itself changes an agreeing record alike. -/
lemma agrees_of_overlay (h : r.Agrees values) (hmerge : r.merge updates = .ok out)
    {changed : List Assignment} (hoverlay : Device.overlay kind values updates = .ok changed) :
    (r.withValues out).Agrees changed := by
  obtain ⟨k, -, hfold⟩ := merge_eq_ok.mp hmerge
  exact matches_of_foldlM h hfold hoverlay

/-- A record that agrees with values agrees with the result of a merge once it has taken it. -/
lemma agrees_of_merge (h : r.Agrees values) (hmerge : r.merge updates = .ok out) :
    (r.withValues out).Agrees out := by
  obtain ⟨k, -, hfold⟩ := merge_eq_ok.mp hmerge
  exact matches_self_of_foldlM (matches_self h) hfold

/-- The values that a record agrees with are laid over it without changing anything. -/
lemma merge_of_agrees (h : r.Agrees values) (hkind : r.kind? = some kind)
    (hnd : (names r.current).Nodup) : r.merge values = .ok r.current := by
  refine merge_eq_ok.mpr ⟨kind, hkind, foldlM_lay_same fun a ha => ?_⟩
  obtain ⟨b, hb, hname, d, hd, hv⟩ := exists_match h ha
  exact ⟨d, b.value, hd, hv, hname ▸ find?_of_mem hnd hb⟩

/-- An agreeing record differs from its own values in nothing. -/
lemma changed_of_agrees (h : r.Agrees values) (hnd : (names r.current).Nodup) :
    r.changed r.current = [] := by
  have hsame : r.current.filter r.differsAt = [] := by
    refine List.filter_eq_nil_iff.mpr fun b hb => ?_
    obtain ⟨-, d, -, hcheck⟩ := List.forall₂_same.mp (matches_self h) b hb
    have hagrees := OptionValue.agrees_self (Declaration.check_eq_ok.mp hcheck).2.isNaN
    simp [differsAt, value?, find?_of_mem hnd hb, hagrees]
  rw [changed, hsame]
  rfl

end FilterRecord

namespace RemoteProxy

variable {p q : RemoteProxy} {values options : List Assignment} {changed : List ChangedOption}

/-- The values that a proxy agrees with are taken over without changing anything. -/
lemma absorb_of_agrees (hp : p.Valid) (h : p.record.Agrees values) :
    p.absorb values = .ok ([], p) := by
  have hmerge : p.merge values = .ok p.record.current :=
    merge_eq_ok.mpr ⟨FilterRecord.merge_of_agrees h hp.kind hp.nodup, hp.params⟩
  rw [absorb, hmerge, ok_bind, FilterRecord.changed_of_agrees h hp.nodup]
  rfl

/-- A proxy that agrees with a device takes over what the device has changed by itself, and agrees
with it again. -/
lemma agrees_of_absorb (h : p.record.Agrees values) (habsorb : p.absorb options = .ok (changed, q))
    {kind : FilterKind} {out : List Assignment}
    (hoverlay : Device.overlay kind values options = .ok out) : q.record.Agrees out := by
  obtain ⟨merged, hmerge, -, rfl⟩ := absorb_eq_ok.mp habsorb
  exact FilterRecord.agrees_of_overlay h (merge_eq_ok.mp hmerge).1 hoverlay

end RemoteProxy

end EmbeddedFilters
