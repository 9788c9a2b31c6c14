import EmbeddedFilters.Proofs.Delivery.Worker
import EmbeddedFilters.Proofs.Filter.Remote
import EmbeddedFilters.Proofs.Workbench.Execution
import EmbeddedFilters.Workbench.Records

/-!
# The life of the workbench

A workbench is *sound* if its remote filters and its proxies are valid. From a sound workbench every
operation leads to a sound one, in which all filters and proxies are still there, each a later one
of what it was (`Workbench.Continues`). This module goes through the operations that touch filters
and proxies themselves; the lemma of each is named after it.

A write is carried over a link that may have filters notified meanwhile, so between its preparation
and its settlement the workbench goes on; but no filter is torn down (`Workbench.Listens`), so what
was alive when the write was prepared is alive when it is settled. `Holder` stands for the two
places where a write can be settled: a filter, or a proxy that stands by itself.

The workers of loops keep to any course that handing one report to one target keeps to
(`Bench.Within.worker`).
-/

namespace EmbeddedFilters

/-- The remote filter with a number. -/
def Workbench.remote? (w : Workbench) (n : Nat) : Option RemoteFilter :=
  match w.filters.get? n with
  | some (.remote f) => some f
  | _ => none

/-- A remote filter is one of the filters. -/
lemma Workbench.remote?_eq_some {w : Workbench} {n : Nat} {f : RemoteFilter} :
    w.remote? n = some f ↔ w.filters.get? n = some (.remote f) := by
  unfold remote?
  split
  · rename_i g hg
    simp [hg]
  · rename_i hg
    simp only [reduceCtorEq, false_iff]
    exact hg f

/-- Can the target still be reached? Filters always can, and sinks until they are dropped. -/
def Target.alive (sinks : Pool Sink) : Target → Bool
  | .filter _ => true
  | .sink n => match sinks.get? n with
    | some s => s.live
    | none => false

/-- What writes go to: a remote filter, or a proxy that stands by itself. -/
inductive Holder where
  | filter (number : Nat)
  | proxy (number : Nat)
  deriving DecidableEq, Repr

namespace Holder

/-- The proxy that is written to. -/
def proxy? (w : Workbench) : Holder → Option RemoteProxy
  | .filter n => (w.remote? n).map (·.proxy)
  | .proxy n => w.proxies.get? n

/-- The proxy of a filter is that of the remote filter with its number. -/
lemma proxy?_filter {w : Workbench} {n : Nat} {p : RemoteProxy} :
    (filter n).proxy? w = some p ↔ ∃ f, w.filters.get? n = some (.remote f) ∧ f.proxy = p := by
  simp [proxy?, Workbench.remote?_eq_some]

/-- Is what is written to alive? Proxies that stand by themselves are never torn down. -/
def Alive (w : Workbench) : Holder → Prop
  | .filter n => ∀ f, w.filters.get? n = some (.remote f) → f.destroyed = false
  | .proxy _ => True

/-- Changes the proxy that is written to. -/
def change : Holder → (RemoteProxy → RemoteProxy) → Bench Unit
  | .filter n => Bench.changeProxy n
  | .proxy n => Bench.alterProxy n

end Holder

namespace Workbench

/-- All remote filters and proxies are valid, and the numbers to come are free. -/
structure Sound (w : Workbench) : Prop where
  filters : ∀ n f, w.filters.get? n = some f → n < w.filters.next ∧ f.Valid
  proxies : ∀ n p, w.proxies.get? n = some p → n < w.proxies.next ∧ p.Valid

/-- On a sound workbench every holder has a valid proxy. -/
lemma Sound.holder {w : Workbench} (hw : w.Sound) {holder : Holder} {p : RemoteProxy}
    (hp : holder.proxy? w = some p) : p.Valid := by
  cases holder with
  | filter n =>
    obtain ⟨f, hf, rfl⟩ := Holder.proxy?_filter.mp hp
    exact (hw.filters n _ hf).2.proxy
  | proxy n => exact (hw.proxies n p hp).2

/-- On a sound workbench no filter has a number that has not been given out. -/
lemma Sound.free {w : Workbench} (hw : w.Sound) (n : Nat) (h : w.filters.next ≤ n) :
    w.filters.get? n = none := by
  cases hget : w.filters.get? n with
  | none => rfl
  | some f => exact absurd (hw.filters n f hget).1 (Nat.not_lt.mpr h)

/-- All filters and proxies are there later. -/
structure Evolves (w w' : Workbench) : Prop where
  filters : ∀ n f, w.filters.get? n = some f → ∃ g, w'.filters.get? n = some g ∧ f.Evolves g
  proxies : ∀ n p, w.proxies.get? n = some p → ∃ q, w'.proxies.get? n = some q ∧ p.Evolves q

/-- A sound workbench goes on to a sound one, with all its filters and proxies. -/
def Continues (w w' : Workbench) : Prop := w.Sound → w'.Sound ∧ w.Evolves w'

/-- Values stay in the order that they have: a remote filter or a record has the order of the one in
its place before, or it is new or declared anew, and then its values are in the order of its
declarations. -/
structure KeepsOrder (w w' : Workbench) : Prop where
  filters : ∀ n g, w'.filters.get? n = some (.remote g) →
    (∃ f, w.filters.get? n = some (.remote f) ∧ g.proxy.record.SameOrder f.proxy.record) ∨
      g.proxy.record.InOrder
  records : ∀ name r', w'.names.records.get? name = some r' →
    (∃ r, w.names.records.get? name = some r ∧ r'.SameOrder r) ∨ r'.InOrder

/-- A sound workbench goes on, and values stay in order. -/
def Orderly (w w' : Workbench) : Prop := w.Sound → w'.Sound ∧ w.Evolves w' ∧ w.KeepsOrder w'

/-- No remote filter is torn down. -/
def KeepsAlive (w w' : Workbench) : Prop :=
  ∀ n f, w.filters.get? n = some (.remote f) →
    ∃ g, w'.filters.get? n = some (.remote g) ∧ g.destroyed = f.destroyed

/-- A workbench goes on in order, and no remote filter is torn down. -/
def Listens (w w' : Workbench) : Prop := w.Orderly w' ∧ w.KeepsAlive w'

/-- A workbench goes on step by step. -/
instance : Bench.Course Continues where
  refl _ hw := ⟨hw, fun _ f h => ⟨f, h, .refl f⟩, fun _ p h => ⟨p, h, .refl p⟩⟩
  trans h h' hu := by
    obtain ⟨hv, huv⟩ := h hu
    obtain ⟨hw, hvw⟩ := h' hv
    refine ⟨hw, fun n f hf => ?_, fun n p hp => ?_⟩
    · obtain ⟨g, hg, hfg⟩ := huv.filters n f hf
      obtain ⟨k, hk, hgk⟩ := hvw.filters n g hg
      exact ⟨k, hk, hfg.trans hgk⟩
    · obtain ⟨q, hq, hpq⟩ := huv.proxies n p hp
      obtain ⟨s, hs, hqs⟩ := hvw.proxies n q hq
      exact ⟨s, hs, hpq.trans hqs⟩

/-- A workbench keeps its own order. -/
lemma KeepsOrder.refl (w : Workbench) : w.KeepsOrder w :=
  ⟨fun _ f h => .inl ⟨f, h, .refl _⟩, fun _ r h => .inl ⟨r, h, .refl r⟩⟩

/-- Order that is kept twice is kept. -/
lemma KeepsOrder.trans {u v w : Workbench} (h : u.KeepsOrder v) (h' : v.KeepsOrder w) :
    u.KeepsOrder w where
  filters n k hk := by
    obtain ⟨g, hg, hkg⟩ | hk := h'.filters n k hk
    · obtain ⟨f, hf, hgf⟩ | hg := h.filters n g hg
      · exact .inl ⟨f, hf, hkg.trans hgf⟩
      · exact .inr (hkg.inOrder hg)
    · exact .inr hk
  records name t ht := by
    obtain ⟨s, hs, hts⟩ | ht := h'.records name t ht
    · obtain ⟨r, hr, hsr⟩ | hs := h.records name s hs
      · exact .inl ⟨r, hr, hts.trans hsr⟩
      · exact .inr (hts.inOrder hs)
    · exact .inr ht

/-- Values stay in order step by step. -/
instance : Bench.Course Orderly where
  refl w hw := ⟨hw, (Bench.Course.refl (R := Continues) w hw).2, .refl w⟩
  trans h h' hu := by
    obtain ⟨hv, huv, horder⟩ := h hu
    obtain ⟨hw, hvw, horder'⟩ := h' hv
    exact ⟨hw, (Bench.Course.trans (R := Continues) (fun _ => ⟨hv, huv⟩) (fun _ => ⟨hw, hvw⟩) hu).2,
      horder.trans horder'⟩

/-- A workbench listens for some time and for some more. -/
instance : Bench.Course Listens where
  refl w := ⟨Bench.Course.refl w, fun _ f h => ⟨f, h, rfl⟩⟩
  trans h h' := by
    refine ⟨Bench.Course.trans h.1 h'.1, fun n f hf => ?_⟩
    obtain ⟨g, hg, hfg⟩ := h.2 n f hf
    obtain ⟨k, hk, hgk⟩ := h'.2 n g hg
    exact ⟨k, hk, hgk.trans hfg⟩

variable {w w' : Workbench}

/-- A workbench that goes on in order goes on. -/
lemma Orderly.continues (h : w.Orderly w') : w.Continues w' := fun hw => ⟨(h hw).1, (h hw).2.1⟩

/-- A workbench that goes on is orderly if values stay in order. -/
lemma Continues.orderly (h : w.Continues w') (horder : w.KeepsOrder w') : w.Orderly w' :=
  fun hw => ⟨(h hw).1, (h hw).2, horder⟩

/-- The filters, the proxies and the records are what they were. -/
structure Spares (w w' : Workbench) : Prop where
  filters : w'.filters = w.filters
  proxies : w'.proxies = w.proxies
  records : w'.names.records = w.names.records

/-- What spares filters, proxies and records may be done again and again. -/
instance : Bench.Course Spares where
  refl _ := ⟨rfl, rfl, rfl⟩
  trans h h' := ⟨h'.filters.trans h.filters, h'.proxies.trans h.proxies, h'.records.trans h.records⟩

/-- A workbench with the same filters and proxies goes on. -/
lemma continues_of_eq (hfilters : w'.filters = w.filters) (hproxies : w'.proxies = w.proxies) :
    w.Continues w' := by
  intro hw
  refine ⟨⟨?_, ?_⟩, ?_, ?_⟩
  · rw [hfilters]
    exact hw.filters
  · rw [hproxies]
    exact hw.proxies
  · intro n f hf
    exact ⟨f, hfilters ▸ hf, .refl f⟩
  · intro n p hp
    exact ⟨p, hproxies ▸ hp, .refl p⟩

/-- A workbench whose filters and proxies are spared goes on. -/
lemma Spares.continues (h : w.Spares w') : w.Continues w' := continues_of_eq h.filters h.proxies

/-- Values stay in order where filters and records are what they were. -/
lemma Spares.orderly (h : w.Spares w') : w.Orderly w' :=
  h.continues.orderly ⟨fun _ f hf => .inl ⟨f, h.filters ▸ hf, .refl _⟩,
    fun _ r hr => .inl ⟨r, h.records ▸ hr, .refl r⟩⟩

/-- A workbench whose filters and proxies are spared tears no filter down. -/
lemma Spares.listens (h : w.Spares w') : w.Listens w' :=
  ⟨h.orderly, fun _ f hf => ⟨f, h.filters ▸ hf, rfl⟩⟩

/-- A workbench with a later filter in the place of a filter goes on. -/
lemma continues_put {n : Nat} {f g : Filter} (hget : w.filters.get? n = some f) (h : f.Evolves g) :
    w.Continues { w with filters := w.filters.put n g } := by
  intro hw
  refine ⟨⟨fun m k hk => ?_, hw.proxies⟩, fun m k hk => ?_, fun m p hp => ⟨p, hp, .refl p⟩⟩
  · rw [Pool.get?_put] at hk
    split at hk
    · rename_i heq
      obtain rfl := Option.some.inj hk
      obtain ⟨hlt, hvalid⟩ := hw.filters n f hget
      exact ⟨heq ▸ hlt, h.valid hvalid⟩
    · exact hw.filters m k hk
  · show ∃ g', (w.filters.put n g).get? m = some g' ∧ _
    rw [Pool.get?_put]
    split
    · rename_i heq
      rw [heq, hget] at hk
      obtain rfl := Option.some.inj hk
      exact ⟨g, rfl, h⟩
    · exact ⟨k, hk, .refl k⟩

/-- Values stay in order if a later filter is put in the place of a filter. -/
lemma orderly_put {n : Nat} {f g : Filter} (hget : w.filters.get? n = some f) (h : f.Evolves g) :
    w.Orderly { w with filters := w.filters.put n g } := by
  refine (continues_put hget h).orderly ⟨fun m k hk => .inl ?_, (KeepsOrder.refl w).records⟩
  have hk : (w.filters.put n g).get? m = some (.remote k) := hk
  rw [Pool.get?_put] at hk
  split at hk
  · rename_i heq
    cases hk
    cases h with
    | remote h => exact ⟨_, heq ▸ hget, h.proxy.sameOrder⟩
  · exact ⟨k, hk, .refl _⟩

/-- A workbench with a later filter in the place of a remote one listens, if that is as alive. -/
lemma listens_put {n : Nat} {f g : RemoteFilter} (hget : w.filters.get? n = some (.remote f))
    (h : f.Evolves g) (halive : g.destroyed = f.destroyed) :
    w.Listens { w with filters := w.filters.put n (.remote g) } := by
  refine ⟨orderly_put hget (.remote h), fun m k hk => ?_⟩
  show ∃ g', (w.filters.put n (.remote g)).get? m = some (.remote g') ∧ _
  rw [Pool.get?_put]
  split
  · rename_i heq
    rw [heq, hget] at hk
    cases hk
    exact ⟨g, rfl, halive⟩
  · exact ⟨k, hk, rfl⟩

/-- A workbench with a valid filter more goes on. -/
lemma continues_add {f : Filter} (h : f.Valid) :
    w.Continues { w with filters := (w.filters.add f).2 } := by
  intro hw
  refine ⟨⟨fun m k hk => ?_, hw.proxies⟩, fun m k hk => ?_, fun m p hp => ⟨p, hp, .refl p⟩⟩
  · have hnext : (w.filters.add f).2.next = w.filters.next + 1 := rfl
    rw [Pool.get?_add] at hk
    show m < (w.filters.add f).2.next ∧ _
    rw [hnext]
    split at hk
    · rename_i heq
      obtain rfl := Option.some.inj hk
      exact ⟨by omega, h⟩
    · obtain ⟨hlt, hvalid⟩ := hw.filters m k hk
      exact ⟨by omega, hvalid⟩
  · show ∃ g, (w.filters.add f).2.get? m = some g ∧ _
    have hlt := (hw.filters m k hk).1
    rw [Pool.get?_add, if_neg (by omega)]
    exact ⟨k, hk, .refl k⟩

/-- Values stay in order if a filter is added that has its values in order, if it is remote. -/
lemma orderly_add {f : Filter} (h : f.Valid)
    (horder : ∀ g, f = .remote g → g.proxy.record.InOrder) :
    w.Orderly { w with filters := (w.filters.add f).2 } := by
  refine (continues_add h).orderly ⟨fun m k hk => ?_, (KeepsOrder.refl w).records⟩
  have hk : (w.filters.add f).2.get? m = some (.remote k) := hk
  rw [Pool.get?_add] at hk
  split at hk
  · exact .inr (horder k (Option.some.inj hk))
  · exact .inl ⟨k, hk, .refl _⟩

/-- A workbench with a later proxy in the place of a proxy goes on. -/
lemma continues_modify {n : Nat} {change : RemoteProxy → RemoteProxy}
    (h : ∀ p, w.proxies.get? n = some p → p.Evolves (change p)) :
    w.Continues { w with proxies := w.proxies.modify n change } := by
  intro hw
  refine ⟨⟨hw.filters, fun m q hq => ?_⟩, fun m f hf => ⟨f, hf, .refl f⟩, fun m q hq => ?_⟩
  · rw [Pool.get?_modify] at hq
    have hnext : (w.proxies.modify n change).next = w.proxies.next := rfl
    show m < (w.proxies.modify n change).next ∧ _
    rw [hnext]
    split at hq
    · rename_i heq
      obtain ⟨p, hp, rfl⟩ := Option.map_eq_some_iff.mp hq
      obtain ⟨hlt, hvalid⟩ := hw.proxies m p hp
      exact ⟨hlt, (h p (heq ▸ hp)).valid hvalid⟩
    · exact hw.proxies m q hq
  · show ∃ s, (w.proxies.modify n change).get? m = some s ∧ _
    rw [Pool.get?_modify]
    split
    · rename_i heq
      rw [hq]
      exact ⟨change q, rfl, h q (heq ▸ hq)⟩
    · exact ⟨q, hq, .refl q⟩

/-- Changing a proxy to a later state goes on in order. -/
lemma orderly_modify {n : Nat} {change : RemoteProxy → RemoteProxy}
    (h : ∀ p, w.proxies.get? n = some p → p.Evolves (change p)) :
    w.Orderly { w with proxies := w.proxies.modify n change } :=
  (continues_modify h).orderly ⟨(KeepsOrder.refl w).filters, (KeepsOrder.refl w).records⟩

/-- A workbench with a valid proxy more goes on. -/
lemma continues_addProxy {p : RemoteProxy} (h : p.Valid) :
    w.Continues { w with proxies := (w.proxies.add p).2 } := by
  intro hw
  refine ⟨⟨hw.filters, fun m q hq => ?_⟩, fun m f hf => ⟨f, hf, .refl f⟩, fun m q hq => ?_⟩
  · have hnext : (w.proxies.add p).2.next = w.proxies.next + 1 := rfl
    rw [Pool.get?_add] at hq
    show m < (w.proxies.add p).2.next ∧ _
    rw [hnext]
    split at hq
    · rename_i heq
      obtain rfl := Option.some.inj hq
      exact ⟨by omega, h⟩
    · obtain ⟨hlt, hvalid⟩ := hw.proxies m q hq
      exact ⟨by omega, hvalid⟩
  · show ∃ s, (w.proxies.add p).2.get? m = some s ∧ _
    have hlt := (hw.proxies m q hq).1
    rw [Pool.get?_add, if_neg (by omega)]
    exact ⟨q, hq, .refl q⟩

/-- Adding a valid proxy goes on in order. -/
lemma orderly_addProxy {p : RemoteProxy} (h : p.Valid) :
    w.Orderly { w with proxies := (w.proxies.add p).2 } :=
  (continues_addProxy h).orderly ⟨(KeepsOrder.refl w).filters, (KeepsOrder.refl w).records⟩

/-- A record is kept under a name, in the order of the one that was there, or in its own. -/
lemma orderly_putRecord {name : String} {r : FilterRecord}
    (h : (∃ old, w.names.records.get? name = some old ∧ r.SameOrder old) ∨ r.InOrder) :
    w.Orderly { w with names := { w.names with records := w.names.records.put name r } } := by
  have hcontinues : w.Continues
      { w with names := { w.names with records := w.names.records.put name r } } :=
    continues_of_eq rfl rfl
  refine hcontinues.orderly ⟨(KeepsOrder.refl w).filters, fun other r' hr' => ?_⟩
  have hr' : (w.names.records.put name r).get? other = some r' := hr'
  rw [Table.get?_put] at hr'
  split at hr'
  · rename_i heq
    cases hr'
    exact heq ▸ h
  · exact .inl ⟨r', hr', .refl r'⟩

/-- A holder has a later proxy later. -/
lemma Evolves.holder (h : w.Evolves w') {holder : Holder} {p : RemoteProxy}
    (hp : holder.proxy? w = some p) : ∃ q, holder.proxy? w' = some q ∧ p.Evolves q := by
  cases holder with
  | filter n =>
    obtain ⟨f, hf, rfl⟩ := Holder.proxy?_filter.mp hp
    obtain ⟨g, hg, hfg⟩ := h.filters n _ hf
    cases hfg with
    | remote hfg => exact ⟨_, Holder.proxy?_filter.mpr ⟨_, hg, rfl⟩, hfg.proxy⟩
  | proxy n => exact h.proxies n p hp

/-- A holder stays alive where no filter is torn down. -/
lemma KeepsAlive.holder (h : w.KeepsAlive w') {holder : Holder} {p : RemoteProxy}
    (hp : holder.proxy? w = some p) (halive : holder.Alive w) : holder.Alive w' := by
  cases holder with
  | filter n =>
    obtain ⟨f, hf, -⟩ := Holder.proxy?_filter.mp hp
    obtain ⟨g, hg, hfg⟩ := h n f hf
    intro k hk
    cases hg.symm.trans hk
    exact hfg.trans (halive f hf)
  | proxy n => trivial

end Workbench

namespace Bench

open Workbench (Listens Orderly Spares)

variable {w : Workbench}

/-- An operation that spares filters, proxies and records is orderly. -/
lemma Within.orderly {α : Type} {x : Bench α} (h : Within Spares x w) : Within Orderly x w :=
  Workbench.Spares.orderly h

/-- An orderly operation lets the workbench go on. -/
lemma Within.continues {α : Type} {x : Bench α} (h : Within Orderly x w) :
    Within Workbench.Continues x w := Workbench.Orderly.continues h

/-- An operation that spares filters and proxies tears no filter down. -/
lemma Within.listens {α : Type} {x : Bench α} (h : Within Spares x w) : Within Listens x w :=
  Workbench.Spares.listens h

/-- Changing names spares filters and proxies, if it leaves those of records. -/
lemma spares_rename {change : Names → Names}
    (h : ∀ names, (change names).records = names.records) : Within Spares (rename change) w :=
  ⟨rfl, rfl, h w.names⟩

/-- Changing names goes on in order, if it leaves those of records. -/
lemma orderly_rename {change : Names → Names}
    (h : ∀ names, (change names).records = names.records) : Within Orderly (rename change) w :=
  (spares_rename h).orderly

/-- Putting a link spares filters and proxies. -/
lemma spares_putLink (n : LinkNumber) (l : Link) : Within Spares (putLink n l) w := ⟨rfl, rfl, rfl⟩

/-- Adding a link spares filters and proxies. -/
lemma spares_addLink (l : Link) : Within Spares (addLink l) w := ⟨rfl, rfl, rfl⟩

/-- Changing a loop spares filters and proxies. -/
lemma spares_changeLoop (n : Nat) (change : DeliveryLoop Target → DeliveryLoop Target) :
    Within Spares (changeLoop n change) w := ⟨rfl, rfl, rfl⟩

/-- Dropping a route spares filters and proxies. -/
lemma spares_dropRoute (r : Route) : Within Spares (dropRoute r) w := spares_changeLoop _ _

/-- Adding a route spares filters and proxies. -/
lemma spares_addRoute (n : Nat) (topic filter : String) (target : Target) :
    Within Spares (addRoute n topic filter target) w := by
  refine Within.bind_reads (reads_loop n) fun l _ => ?_
  exact Within.bind (spares_changeLoop _ _) fun _ _ _ => Within.pure _

/-- Noting a call spares filters and proxies. -/
lemma spares_note (c : Call) : Within Spares (note c) w := ⟨rfl, rfl, rfl⟩

/-- Telling a value spares filters and proxies. -/
lemma spares_tell (d : Delivery) : Within Spares (tell d) w := by
  obtain ⟨listener, id, value⟩ := d
  cases listener <;> exact ⟨rfl, rfl, rfl⟩

/-- To announce what a filter has become goes on in order, if it is a later state of it. -/
lemma orderly_announce {n : Nat} {t : Told Filter} {f : Filter}
    (hget : w.filters.get? n = some f) (h : f.Evolves t.state) :
    Within Orderly (announce n t) w := by
  refine Within.bind (Workbench.orderly_put hget h) fun _ _ _ => ?_
  refine Within.bind (Within.forM fun d _ w => (spares_tell d).orderly) fun _ _ _ => ?_
  split
  · exact Within.throw _
  · exact Within.pure _

/-- A report to a filter goes on in order and tears nothing down. -/
lemma listens_notify (n : Nat) (options : List Assignment) :
    Within Listens (notify n options) w := by
  refine Within.bind_remoteFilter fun f hf => Within.bind_ofFilter fun t ht => ?_
  have hevolves := RemoteFilter.evolves_notify ht
  refine Within.bind (Workbench.listens_put hf hevolves (RemoteFilter.destroyed_of_notify ht))
    fun _ _ _ => ?_
  refine Within.bind (Within.forM fun d _ w => (spares_tell d).listens) fun _ _ _ => ?_
  split
  · exact Within.throw _
  · exact Within.pure _

/-- A report to a filter goes on in order. -/
lemma orderly_notify (n : Nat) (options : List Assignment) :
    Within Orderly (notify n options) w := (listens_notify n options).1

/-- A scripted outcome goes on in order and tears nothing down. -/
lemma listens_play {α : Type} (o : ScriptedOutcome α) : Within Listens (play o) w := by
  unfold play
  split
  · refine Within.bind (Within.attempt ?_) fun _ _ _ => ?_
    · exact Within.bind_reads (reads_filterNumber _) fun n _ => listens_notify n _
    · exact Within.bind (spares_note _).listens fun _ _ _ => Within.pure _
  · exact Within.pure _

/-- Sending a message goes on in order and tears nothing down. -/
lemma listens_send (n : LinkNumber) (topic : String) (payload : ByteArray) :
    Within Listens (send n topic payload) w := by
  refine Within.bind_reads (reads_link n) fun l _ => ?_
  cases l with
  | device d => exact Within.bind (spares_putLink _ _).listens fun _ _ _ => Within.pure _
  | script s => exact Within.bind (spares_putLink _ _).listens fun _ _ _ => listens_play _

/-- Sending a message goes on in order. -/
lemma orderly_send (n : LinkNumber) (topic : String) (payload : ByteArray) :
    Within Orderly (send n topic payload) w := (listens_send n topic payload).1

/-- Asking a question goes on in order and tears nothing down. -/
lemma listens_query (n : LinkNumber) (topic : String) (payload : ByteArray) :
    Within Listens (query n topic payload) w := by
  refine Within.bind_reads (reads_link n) fun l _ => ?_
  cases l with
  | device d => exact Within.bind (spares_putLink _ _).listens fun _ _ _ => Within.pure _
  | script s => exact Within.bind (spares_putLink _ _).listens fun _ _ _ => listens_play _

/-- Asking a question goes on in order. -/
lemma orderly_query (n : LinkNumber) (topic : String) (payload : ByteArray) :
    Within Orderly (query n topic payload) w := (listens_query n topic payload).1

/-- Changing the proxy of a filter to a later state goes on in order and tears nothing down. -/
lemma listens_changeProxy {n : Nat} {change : RemoteProxy → RemoteProxy}
    (h : ∀ f, w.filters.get? n = some (.remote f) → f.proxy.Evolves (change f.proxy) ∧
      (f.destroyed = false ∨ (change f.proxy).record = f.proxy.record)) :
    Within Listens (changeProxy n change) w := by
  refine Within.bind_remoteFilter fun f hf => ?_
  obtain ⟨hevolves, hrecord⟩ := h f hf
  exact Workbench.listens_put hf (RemoteFilter.evolves_withProxy hevolves hrecord) rfl

/-- Wiring the proxy of a filter goes on in order. -/
lemma orderly_wireProxyOf (n : Nat) (link : LinkNumber) :
    Within Orderly (changeProxy n fun p => p.wire link) w :=
  (listens_changeProxy fun _ _ => ⟨RemoteProxy.evolves_wire link, .inr rfl⟩).1

/-- Changing the proxy of a holder to a later state goes on in order and tears nothing down. -/
lemma listens_change {holder : Holder} {change : RemoteProxy → RemoteProxy}
    (h : ∀ p, holder.proxy? w = some p → p.Evolves (change p))
    (hrecord : holder.Alive w ∨ ∀ p, (change p).record = p.record) :
    Within Listens (holder.change change) w := by
  cases holder with
  | filter n =>
    exact listens_changeProxy fun f hf => ⟨h _ (Holder.proxy?_filter.mpr ⟨f, hf, rfl⟩),
      hrecord.imp (fun halive => halive f hf) fun hsame => hsame _⟩
  | proxy n => exact ⟨Workbench.orderly_modify h, fun _ f hf => ⟨f, hf, rfl⟩⟩

/-- A chain goes on if its first part listens, and the rest goes on from any later workbench in
which the same filters are alive. -/
lemma Within.bind_later {α β : Type} {x : Bench α} {f : α → Bench β} (hx : Within Listens x w)
    (hf : ∀ a w', w.Evolves w' → w.KeepsAlive w' → Within Orderly (f a) w') :
    Within Orderly (x >>= f) w := by
  intro hw
  have hcontinues : Within Orderly x w := hx.1
  refine Within.bind hcontinues (fun a w' h => ?_) hw
  have hlater : w.Evolves (x.exec w).2 := (hcontinues hw).2.1
  have halive : w.KeepsAlive (x.exec w).2 := hx.2
  rw [h] at hlater halive
  exact hf a w' hlater halive

/-- A write is carried over its link and settled. -/
lemma orderly_carry (holder : Holder) {p : RemoteProxy} (hp : holder.proxy? w = some p)
    (halive : holder.Alive w) {s : Submission} (hs : s.Fits p) :
    Within Orderly (carry holder.change s) w := by
  intro hw
  refine Within.bind_later (Within.tryCatch (listens_send _ _ _) fun e w' _ => ?_)
    (fun outcome w' hevolves hlater => ?_) hw
  · cases e with
    | panic =>
      refine Within.bind (listens_change (fun _ _ => RemoteProxy.evolves_spoil) ?_) fun _ _ _ => ?_
      · exact .inr fun _ => rfl
      · exact Within.throw _
    | _ => exact Within.throw _
  · refine Within.bind_reads (Reads.exchanged _) fun _ _ => ?_
    refine (listens_change (fun q hq => RemoteProxy.evolves_settle ?_)
      (.inl (hlater.holder hp halive))).1
    -- the proxy is settled as it is now, a later one of what the write was prepared for
    obtain ⟨q', hq', hpq⟩ := hevolves.holder hp
    rw [hq] at hq'
    obtain rfl := Option.some.inj hq'
    exact hpq.fits (hw.holder hp) hs

/-- Carrying out a submission of a live filter goes on in order. -/
lemma orderly_carry_filter {n : Nat} {f : RemoteFilter}
    (hf : w.filters.get? n = some (.remote f)) (hlive : f.destroyed = false) {s : Submission}
    (hs : s.Fits f.proxy) : Within Orderly (carry (changeProxy n) s) w := by
  refine orderly_carry (.filter n) (Holder.proxy?_filter.mpr ⟨f, hf, rfl⟩) (fun g hg => ?_) hs
  cases hf.symm.trans hg
  exact hlive

/-- Writing an option goes on in order. -/
lemma orderly_writeOption (n : Nat) (id : OptionId) (value : OptionValue) :
    Within Orderly (writeOption n id value) w := by
  refine Within.bind_filter fun f hf => ?_
  cases f with
  | offline f =>
    refine Within.bind_ofFilter fun t ht => ?_
    exact Within.bind (orderly_announce hf (.offline (OfflineFilter.evolves_setOption ht)))
      fun _ _ _ => Within.pure _
  | remote f =>
    refine Within.bind_ofFilter fun s hs => ?_
    exact orderly_carry_filter hf (RemoteFilter.live_of_prepareOption hs)
      (RemoteFilter.fits_of_prepareOption hs)

/-- Writing bytes goes on in order. -/
lemma orderly_writeBytes (n : Nat) (bytes : List UInt8) :
    Within Orderly (writeBytes n bytes) w := by
  refine Within.bind_filter fun f hf => ?_
  cases f with
  | offline f =>
    refine Within.bind_ofFilter fun t ht => ?_
    exact Within.bind (orderly_announce hf (.offline (OfflineFilter.evolves_setBytes ht)))
      fun _ _ _ => Within.pure _
  | remote f =>
    refine Within.bind_ofFilter fun s hs => ?_
    exact orderly_carry_filter hf (RemoteFilter.live_of_prepareBytes hs)
      (RemoteFilter.fits_of_prepareBytes hs)

/-- Refreshing a filter goes on in order. -/
lemma orderly_refresh (n : Nat) : Within Orderly (refresh n) w := by
  refine Within.bind_remoteFilter fun f hf => Within.bind_ofFilter fun i hi => ?_
  refine Within.bind_later (listens_query _ _ _) fun outcome w' _ hlater => ?_
  refine Within.bind_reads (Reads.exchanged _) fun reply _ => ?_
  refine Within.bind_remoteFilter fun g hg => Within.bind_ofFilter fun t ht => ?_
  obtain ⟨k, hk, halive⟩ := hlater n f hf
  cases hk.symm.trans hg
  have hlive := halive.trans (RemoteFilter.live_of_inquire hi)
  exact orderly_announce hg (.remote (RemoteFilter.evolves_accept hlive ht))

/-- Subscribing a filter goes on in order. -/
lemma orderly_subscribe (n l : Nat) (topic : String) :
    Within Orderly (subscribe n l topic) w := by
  refine Within.bind_remoteFilter fun f hf => Within.bind_ofFilter fun _ hensure => ?_
  have hlive := RemoteFilter.ensureLive_eq_ok.mp hensure
  have hroute : Within Spares (addRoute l topic f.name (.filter n)) w := spares_addRoute _ _ _ _
  refine Within.bind hroute.orderly fun route w' hout => ?_
  have hget : w'.filters.get? n = some (.remote f) := by
    rw [Within, hout] at hroute
    rw [hroute.1, hf]
  refine Within.bind (Workbench.orderly_put hget (.remote ?_)) fun _ _ _ => ?_
  · exact RemoteFilter.evolves_of_proxy (.refl _) rfl
      fun hrest => absurd hrest (RemoteFilter.not_atRest hlive)
  · exact Within.optionForM fun r _ => (spares_dropRoute r).orderly

/-- Tearing a filter down goes on in order. -/
lemma orderly_destroy (n : Nat) : Within Orderly (destroy n) w := by
  refine Within.bind_filter fun f hf => ?_
  have hdrop : Within Spares (f.route?.forM dropRoute) w :=
    Within.optionForM fun r _ => spares_dropRoute r
  refine Within.bind hdrop.orderly fun _ w' hout => ?_
  rw [Within, hout] at hdrop
  exact Workbench.orderly_put (hdrop.1 ▸ hf) Filter.evolves_destroy

/-- Restoring a filter keeps to a course if the writes to its options do. -/
lemma Within.restore {R : Workbench → Workbench → Prop} [Course R] {n : Nat}
    (hwrite : ∀ id value w, Within R (writeOption n id value) w) (s : Settings) (full : String)
    (default : Bool) : Within R (restore n s full default) w := by
  refine Within.bind_reads (reads_filter n) fun f _ => ?_
  refine Within.bind (Within.forIn fun id _ _ v => ?_) fun _ _ _ => Within.pure _
  refine Within.bind_reads (reads_filter n) fun g _ => ?_
  split
  · refine Within.bind (Within.bind (Within.attempt ?_) fun _ _ _ => Within.pure _) fun _ _ _ => ?_
    · exact hwrite _ _ _
    · exact Within.pure _
  · exact Within.pure _

/-- Restoring a filter goes on in order. -/
lemma orderly_restore (n : Nat) (s : Settings) (full : String) (default : Bool) :
    Within Orderly (restore n s full default) w :=
  Within.restore (fun id value _ => orderly_writeOption n id value) s full default

/-! ### Workers -/

/-- Finding out whether a target can be reached finds it out, and changes nothing. -/
lemma exec_isLive (t : Target) (w : Workbench) :
    (isLive t).exec w = (.ok (t.alive w.sinks), w) := by
  cases t <;> rfl

/-- The targets that can be reached are picked out. -/
lemma exec_live (targets : List Target) (w : Workbench) :
    (targets.filterM isLive).exec w = (.ok (targets.filter (·.alive w.sinks)), w) := by
  have haux : ∀ kept, (List.filterAuxM isLive targets kept).exec w =
      (.ok ((targets.filter (·.alive w.sinks)).reverse ++ kept), w) := by
    induction targets with
    | nil => exact fun kept => rfl
    | cons target rest ih =>
      intro kept
      refine (exec_bind_ok (exec_isLive target w) _).trans ((ih _).trans ?_)
      cases halive : target.alive w.sinks <;> simp [halive]
  refine (exec_bind_ok (haux []) _).trans ?_
  simp

/-- The operation has a result, whatever there is on the workbench. -/
def Returns {α : Type} (x : Bench α) : Prop := ∀ w, ∃ a v, x.exec w = (.ok a, v)

namespace Returns

variable {α β : Type}

/-- An operation that does nothing has a result. -/
lemma pure (a : α) : Returns (Pure.pure a) := fun w => ⟨a, w, rfl⟩

/-- A chain has a result if both of its parts have one. -/
lemma bind {x : Bench α} {f : α → Bench β} (hx : Returns x) (hf : ∀ a, Returns (f a)) :
    Returns (x >>= f) := by
  intro w
  obtain ⟨a, v, ha⟩ := hx w
  obtain ⟨b, u, hb⟩ := hf a v
  exact ⟨b, u, (exec_bind_ok ha f).trans hb⟩

/-- An operation has a result if whatever it fails with is caught. -/
lemma tryCatch {x : Bench α} {h : Fault → Bench α} (hh : ∀ e, Returns (h e)) :
    Returns (tryCatch x h) := by
  intro w
  rw [exec_tryCatch]
  cases hx : x.exec w with
  | mk r v =>
    cases r with
    | ok a => exact ⟨a, v, rfl⟩
    | error e => exact hh e v

end Returns

/-- A report is handed to a target in any case. -/
lemma returns_hand (target : Target) (options : List Assignment) :
    Returns (hand target options) := by
  cases target with
  | filter n =>
    refine Returns.tryCatch fun e => ?_
    cases e <;> exact Returns.pure _
  | sink n =>
    refine Returns.bind (fun w => ⟨w, w, rfl⟩) fun v => ?_
    cases v.sinks.get? n with
    | none => exact Returns.pure _
    | some sink =>
      dsimp only
      split
      · exact Returns.pure _
      · refine Returns.bind (fun w => ⟨(), _, rfl⟩) fun _ => ?_
        split <;> exact Returns.pure _

/-- A worker hands out what is in flight in any case. -/
lemma returns_handOut (pending : List (Target × List Assignment)) (l : DeliveryLoop Target) :
    Returns (DeliveryLoop.handOut hand pending l) := by
  induction pending generalizing l with
  | nil => exact Returns.pure _
  | cons first rest ih =>
    refine (returns_hand first.1 first.2).bind fun outcome => ?_
    cases outcome with
    | waits => exact Returns.pure _
    | accepted => exact ih _
    | refused => exact ih _
    | panicked => exact Returns.pure _

/-- A worker takes off the queue what it can in any case. -/
lemma returns_takeOff (parcels : List Parcel) (l : DeliveryLoop Target) :
    Returns (DeliveryLoop.takeOff isLive hand parcels l) := by
  induction parcels generalizing l with
  | nil => exact Returns.pure _
  | cons parcel rest ih =>
    unfold DeliveryLoop.takeOff
    split
    · refine Returns.bind (fun w => ⟨_, w, exec_live _ w⟩) fun targets => ?_
      split
      · exact ih _
      · exact (returns_handOut _ l).bind ih
    · exact Returns.pure _

/-- A worker comes back from its work. -/
lemma returns_drain (l : DeliveryLoop Target) : Returns (l.drain isLive hand) := by
  unfold DeliveryLoop.drain
  split
  · exact (returns_handOut _ l).bind fun l' => returns_takeOff _ l'
  · exact (Returns.pure l).bind fun l' => returns_takeOff _ l'

/-- Asking whether a target is live changes nothing. -/
lemma reads_isLive (target : Target) : Reads (isLive target) := by
  cases target with
  | filter n => exact Reads.pure _
  | sink n =>
    refine Reads.get.bind fun w => ?_
    exact Reads.pure _

section Worker

variable {R : Workbench → Workbench → Prop} [Course R]

/-- Handing a report to a target keeps to a course if telling filters and noting calls down do. -/
lemma Within.hand (hnotify : ∀ n options w, Within R (notify n options) w)
    (hnote : ∀ call w, Within R (note call) w) (target : Target) (options : List Assignment) :
    Within R (Bench.hand target options) w := by
  cases target with
  | filter n =>
    refine Within.tryCatch ?_ fun e _ _ => ?_
    · exact Within.bind (hnotify n options w) fun _ _ _ => Within.pure _
    · cases e <;> exact Within.pure _
  | sink n =>
    refine Within.bind_reads Reads.get fun v _ => ?_
    cases v.sinks.get? n with
    | none => exact Within.pure _
    | some sink =>
      dsimp only
      split
      · exact Within.pure _
      · refine Within.bind (hnote _ w) fun _ _ _ => ?_
        split <;> exact Within.pure _

variable (hhand : ∀ target options w, Within R (Bench.hand target options) w)
include hhand

/-- What is in flight is handed out. -/
lemma Within.handOut (pending : List (Target × List Assignment)) (l : DeliveryLoop Target) :
    Within R (DeliveryLoop.handOut Bench.hand pending l) w := by
  induction pending generalizing l w with
  | nil => exact Within.pure _
  | cons first pending ih =>
    obtain ⟨target, options⟩ := first
    refine Within.bind (hhand target options w) fun outcome _ _ => ?_
    cases outcome with
    | waits => exact Within.pure _
    | accepted => exact ih _
    | refused => exact ih _
    | panicked => exact Within.pure _

/-- What every report that is handed out keeps, all that are taken off the queue keep. -/
lemma Within.takeOff (parcels : List Parcel) (l : DeliveryLoop Target) :
    Within R (DeliveryLoop.takeOff isLive Bench.hand parcels l) w := by
  induction parcels generalizing l w with
  | nil => exact Within.pure _
  | cons parcel parcels ih =>
    unfold DeliveryLoop.takeOff
    split
    · refine Within.bind_reads (Reads.filterM reads_isLive) fun targets _ => ?_
      split
      · exact ih _
      · exact Within.bind (Within.handOut hhand _ _) fun _ _ _ => ih _
    · exact Within.pure _

/-- A worker keeps to a course if handing reports to targets does. -/
lemma Within.worker (l : DeliveryLoop Target) : Within R (l.drain isLive Bench.hand) w := by
  unfold DeliveryLoop.drain
  split
  · exact Within.bind (Within.handOut hhand _ _) fun _ _ _ => Within.takeOff hhand _ _
  · exact Within.bind (Within.pure _) fun _ _ _ => Within.takeOff hhand _ _

/-- Waiting for room keeps to a course if the worker does. -/
lemma Within.await (published : Except LinkError Unit × DeliveryLoop Target) :
    Within R (DeliveryLoop.await isLive Bench.hand published) w := by
  obtain ⟨outcome, l⟩ := published
  cases outcome with
  | error e => exact Within.pure _
  | ok taken =>
    unfold DeliveryLoop.await
    dsimp only
    split
    · exact Within.bind (Within.worker hhand l) fun _ _ _ => Within.pure _
    · exact Within.pure _

end Worker

/-- Loops come to rest along a course if the worker of each keeps to it. -/
lemma Within.settle {R : Workbench → Workbench → Prop} [Course R]
    (hdrain : ∀ n w, Within R (drain n) w) : Within R Bench.settle w := by
  refine Within.bind_reads Reads.get fun v _ => ?_
  exact Within.forM fun entry _ w => hdrain entry.1 w

/-- A target is handed a report. -/
lemma orderly_hand (target : Target) (options : List Assignment) :
    Within Orderly (hand target options) w :=
  Within.hand (fun n options _ => orderly_notify n options) (fun c _ => (spares_note c).orderly)
    target options

/-- Draining a loop goes on in order. -/
lemma orderly_drain (n : Nat) : Within Orderly (drain n) w := by
  refine Within.bind_reads (reads_loop n) fun l _ => ?_
  refine Within.bind (Within.worker (fun target options _ => orderly_hand target options) l) ?_
  exact fun _ _ _ => (spares_changeLoop _ _).orderly

/-- What a publisher gets to know of its report changes nothing. -/
lemma reads_outcome (outcome? : Option (Except LinkError Unit)) :
    Reads (match outcome? with
      | some outcome => ofLink outcome
      | none => throw .stalled) := by
  cases outcome? with
  | none => exact Reads.throw _
  | some outcome => exact Reads.ofLink outcome

/-- A report is published, and the worker makes room for it. -/
lemma orderly_post (n : Nat)
    (publish : DeliveryLoop Target → Except LinkError Unit × DeliveryLoop Target) :
    Within Orderly (post n publish) w := by
  refine Within.bind_reads (reads_loop n) fun l _ => ?_
  refine Within.bind (Within.await (fun target options _ => orderly_hand target options) _) ?_
  intro published _ _
  refine Within.bind (spares_changeLoop _ _).orderly fun _ _ _ => ?_
  exact Within.of_reads (reads_outcome published.1)

/-- A publisher whose report has been taken has its answer, unless there was no room for the
report. -/
lemma exec_await_taken (l : DeliveryLoop Target) (w : Workbench) :
    ∃ outcome? l' v, (DeliveryLoop.await isLive hand (.ok (), l)).exec w = (.ok (outcome?, l'), v) ∧
      (outcome? = some (.ok ()) ∨ outcome? = none ∧ l.isCrowded = true) := by
  cases hcrowded : l.isCrowded with
  | false =>
    rw [DeliveryLoop.await_of_room hcrowded]
    exact ⟨_, l, w, rfl, .inl rfl⟩
  | true =>
    obtain ⟨l', v, hdrain⟩ := returns_drain l w
    rw [DeliveryLoop.await, if_pos hcrowded, exec_bind_ok hdrain]
    refine ⟨_, l', v, rfl, ?_⟩
    cases l'.isCrowded with
    | false => exact .inl rfl
    | true => exact .inr ⟨rfl, rfl⟩

/-- What is published at a loop with room for it comes back at once. -/
lemma exec_post_of_room {n : Nat} {l : DeliveryLoop Target} (hl : w.loops.get? n = some l)
    (publish : DeliveryLoop Target → Except LinkError Unit × DeliveryLoop Target)
    (hroom : (publish l).2.isCrowded = false) :
    (post n publish).exec w =
      (ofLink (publish l).1).exec { w with loops := w.loops.modify n fun _ => (publish l).2 } := by
  have hloop : (loop n).exec w = (.ok l, w) := exec_lookup (fun w => w.loops.get? n) hl _
  rw [post, exec_bind_ok hloop, DeliveryLoop.await_of_room hroom]
  rfl

/-- Letting the workers settle goes on in order. -/
lemma orderly_settle : Within Orderly settle w :=
  Within.settle fun n _ => orderly_drain n

end Bench

namespace Workbench

variable {w : Workbench}

/-- A step has the outcome of its operation. -/
lemma step_result {α : Type} (w : Workbench) (act : Bench α) (leave : Bool) :
    (w.step act leave).1 = (act.exec w).1 := by
  cases leave <;> rfl

/-- Where a step leaves the workbench: the loops come to rest after the operation. -/
lemma step_state {α : Type} (w : Workbench) (act : Bench α) (leave : Bool) :
    (w.step act leave).2.2 = { (Bench.settle.exec (act.exec w).2).2 with
      calls := if leave then (Bench.settle.exec (act.exec w).2).2.calls else [] } := by
  cases leave <;> rfl

/-- A workbench goes on while its loops come to rest after an operation, and values stay in
order. -/
lemma orderly_rest {α : Type} (act : Bench α) (leave : Bool) :
    (act.exec w).2.Orderly (w.step act leave).2.2 := by
  have hsettle : (act.exec w).2.Orderly (Bench.settle.exec (act.exec w).2).2 := Bench.orderly_settle
  rw [step_state]
  exact Bench.Course.trans hsettle (Spares.orderly ⟨rfl, rfl, rfl⟩)

/-- What follows an operation in its step goes on. -/
lemma continues_rest {α : Type} (act : Bench α) (leave : Bool) :
    (act.exec w).2.Continues (w.step act leave).2.2 := (orderly_rest act leave).continues

/-- A step goes on if its operation does. -/
lemma continues_step {α : Type} {act : Bench α} (h : Bench.Within Continues act w) (leave : Bool) :
    w.Continues (w.step act leave).2.2 :=
  Bench.Course.trans h (continues_rest act leave)

end Workbench

end EmbeddedFilters
