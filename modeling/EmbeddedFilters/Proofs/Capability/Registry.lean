import EmbeddedFilters.Capability.Standard
import EmbeddedFilters.Proofs.Tables
import Mathlib.Data.Finset.Card
import Mathlib.Data.List.Nodup

/-!
# The first registration of a pair

Of what is registered in one go, a registry takes the entries up to the first whose pair it has
already (`CapabilityRegistry.admitted`); what it has taken altogether is its log
(`CapabilityRegistry.accepted`). It keeps just the entries of the log, each under its pair and with
the call for its own types (`CapabilityRegistry.Keeps`). So on a query both types are found again,
and the answer is that of the one entry in the log for the pair
(`CapabilityRegistry.query_sees_first_registration`).
-/

namespace EmbeddedFilters

/-- A tagged value is found under its own tag. -/
lemma Tagged.cast?_self {τ : Type} [DecidableEq τ] {F : τ → Type} (tag : τ) (value : F tag) :
    (⟨tag, value⟩ : Tagged F).cast? tag = some value := by
  simp [Tagged.cast?]

variable {κ χ : Type} {ω : κ → Type} {α : χ → Type} [DecidableEq κ] [DecidableEq χ]

/-- The call of an entry finds the accessor and the object of its own types again. -/
lemma CapabilityEntry.call_thunk (e : CapabilityEntry ω α) (object : ω e.kind) :
    e.thunk.call ⟨e.kind, object⟩ e.thunk.accessor = e.access object := by
  have haccess :
      (⟨(e.kind, e.capability), e.access⟩ : Tagged (Accessor ω α)).cast? (e.kind, e.capability) =
      some e.access := Tagged.cast?_self _ _
  show callAccessor e.kind e.capability ⟨e.kind, object⟩ ⟨(e.kind, e.capability), e.access⟩ = _
  rw [callAccessor, haccess, Tagged.cast?_self]
  rfl

namespace CapabilityRegistry

/-- The registry after entries have been registered, each batch of them in one go. -/
def after (r : CapabilityRegistry ω α) (batches : List (List (CapabilityEntry ω α))) :
    CapabilityRegistry ω α :=
  batches.foldl (fun r batch => (r.registerAll batch).2) r

/-- What is taken of a batch after the entries of a log: everything up to the first entry whose pair
has been taken. -/
def admitted (log : List (CapabilityEntry ω α)) : List (CapabilityEntry ω α) →
    List (CapabilityEntry ω α)
  | [] => []
  | e :: rest => if e.pair ∈ log.map (·.pair) then [] else e :: admitted (log ++ [e]) rest

/-- What is taken of batches, oldest first. -/
def accepted (batches : List (List (CapabilityEntry ω α))) : List (CapabilityEntry ω α) :=
  batches.foldl (fun log batch => log ++ admitted log batch) []

/-- What is admitted of a batch is the front of it. -/
lemma prefix_admitted (log batch : List (CapabilityEntry ω α)) : admitted log batch <+: batch := by
  induction batch generalizing log with
  | nil => exact List.prefix_refl []
  | cons e rest ih =>
    rw [admitted]
    split
    · exact List.nil_prefix
    · exact List.cons_prefix_cons.mpr ⟨rfl, ih _⟩

/-- The registry keeps the entries of a log under their pairs, each of which occurs once. -/
structure Keeps (r : CapabilityRegistry ω α) (log : List (CapabilityEntry ω α)) : Prop where
  entries : r.entries.entries = log.map fun e => (e.pair, ⟨e.capability, e.thunk⟩)
  nodup : (log.map (·.pair)).Nodup

variable {r : CapabilityRegistry ω α} {log batch : List (CapabilityEntry ω α)}
  {e : CapabilityEntry ω α}

/-- An empty registry keeps an empty log. -/
lemma keeps_empty : Keeps ({} : CapabilityRegistry ω α) [] := ⟨rfl, List.nodup_nil⟩

/-- The keys of a registry are the pairs of its log, in order. -/
lemma Keeps.keys (h : r.Keeps log) : r.entries.entries.map (·.1) = log.map (·.pair) := by
  rw [h.entries, List.map_map]
  rfl

/-- A registry has each key once. -/
lemma Keeps.distinct (h : r.Keeps log) : r.entries.Distinct := by
  rw [Table.Distinct, h.keys]
  exact h.nodup

/-- A pair of the log is looked up with the capability and the thunk it was logged with. -/
lemma Keeps.get?_of_mem (h : r.Keeps log) (he : e ∈ log) :
    r.entries.get? e.pair = some ⟨e.capability, e.thunk⟩ := by
  refine h.distinct.get?_of_mem ?_
  rw [h.entries]
  exact List.mem_map.mpr ⟨e, he, rfl⟩

/-- A pair that is not in the log is not found. -/
lemma Keeps.get?_of_not_mem (h : r.Keeps log) {pair : κ × χ} (hpair : pair ∉ log.map (·.pair)) :
    r.entries.get? pair = none := by
  rw [← h.keys] at hpair
  exact Table.lookup_of_not_mem hpair

/-! ### Registering -/

/-- A pair that is registered already is refused. -/
lemma Keeps.register_of_mem (h : r.Keeps log) (he : e.pair ∈ log.map (·.pair)) :
    r.register e = (.error e.capability, r) := by
  obtain ⟨first, hfirst, hpair⟩ := List.mem_map.mp he
  have hget := h.get?_of_mem hfirst
  rw [hpair] at hget
  rw [register, hget]

/-- A pair that is not registered yet is taken. -/
lemma Keeps.register_of_not_mem (h : r.Keeps log) (he : e.pair ∉ log.map (·.pair)) :
    (r.register e).1 = .ok () ∧ (r.register e).2.Keeps (log ++ [e]) := by
  have hnone := h.get?_of_not_mem he
  rw [register, hnone]
  refine ⟨rfl, ?_, ?_⟩
  · show (r.entries.put e.pair _).entries = _
    rw [Table.entries_put_of_none hnone, h.entries, List.map_append]
    rfl
  · rw [List.map_append]
    exact h.nodup.append (List.nodup_singleton _) (List.disjoint_singleton.mpr he)

/-- A batch is taken up to the first entry that is refused. It succeeds if there is none. -/
lemma Keeps.registerAll (h : r.Keeps log) (batch : List (CapabilityEntry ω α)) :
    (r.registerAll batch).2.Keeps (log ++ admitted log batch) ∧
      ((r.registerAll batch).1 = .ok () ∧ admitted log batch = batch ∨
        ∃ e rest, (r.registerAll batch).1 = .error e.capability ∧
          admitted log batch ++ e :: rest = batch ∧
          e.pair ∈ (log ++ admitted log batch).map (·.pair)) := by
  induction batch generalizing r log with
  | nil =>
    refine ⟨?_, .inl ⟨rfl, rfl⟩⟩
    rw [admitted, List.append_nil]
    exact h
  | cons e rest ih =>
    by_cases he : e.pair ∈ log.map (·.pair)
    · rw [CapabilityRegistry.registerAll, h.register_of_mem he, admitted,
        if_pos he, List.append_nil]
      exact ⟨h, .inr ⟨e, rest, rfl, rfl, he⟩⟩
    · obtain ⟨hok, hnext⟩ := h.register_of_not_mem he
      obtain ⟨hkeeps, houtcome⟩ := ih hnext
      have hstep : r.registerAll (e :: rest) = (r.register e).2.registerAll rest := by
        rw [CapabilityRegistry.registerAll]
        generalize r.register e = outcome at hok
        obtain ⟨_, next⟩ := outcome
        subst hok
        rfl
      rw [hstep, admitted, if_neg he, List.append_cons]
      refine ⟨hkeeps, ?_⟩
      rcases houtcome with ⟨hsuccess, hall⟩ | ⟨refused, others, hfails, hbatch, htaken⟩
      · exact .inl ⟨hsuccess, congrArg _ hall⟩
      · exact .inr ⟨refused, others, hfails, congrArg _ hbatch, htaken⟩

/-- After any batches a registry keeps what they have had accepted. -/
lemma keeps_after (batches : List (List (CapabilityEntry ω α))) :
    (after {} batches).Keeps (accepted batches) := by
  induction batches using List.reverseRecOn with
  | nil => exact keeps_empty
  | append_singleton batches batch ih =>
    rw [after, accepted, List.foldl_append, List.foldl_append]
    exact (ih.registerAll batch).1

/-! ### Asking -/

/-- An object of a registered pair answers what its accessor gives. -/
lemma Keeps.query_of_mem (h : r.Keeps log) (he : e ∈ log) (object : ω e.kind) :
    r.query e.capability ⟨e.kind, object⟩ = e.access object := by
  have hget : r.entries.get? (e.kind, e.capability) = some ⟨e.capability, e.thunk⟩ :=
    h.get?_of_mem he
  rw [query, hget, Option.bind_eq_bind, Option.bind_some, Tagged.cast?_self, Option.bind_eq_bind,
    Option.bind_some]
  exact e.call_thunk object

/-- There is no answer for a pair that is not registered. -/
lemma Keeps.query_of_not_mem (h : r.Keeps log) {capability : χ} {object : Tagged ω}
    (hpair : (object.tag, capability) ∉ log.map (·.pair)) : r.query capability object = none := by
  rw [query, h.get?_of_not_mem hpair]
  rfl

/-- What is registered later changes no answer of a pair that is registered already, nor of one that
is not among what is registered. -/
lemma Keeps.query_registerAll (h : r.Keeps log) (batch : List (CapabilityEntry ω α))
    {capability : χ} {object : Tagged ω}
    (hpair : (object.tag, capability) ∈ log.map (·.pair) ∨
      (object.tag, capability) ∉ batch.map (·.pair)) :
    (r.registerAll batch).2.query capability object = r.query capability object := by
  have hlater := (h.registerAll batch).1
  obtain ⟨kind, object⟩ := object
  by_cases hknown : (kind, capability) ∈ log.map (·.pair)
  · obtain ⟨e, he, heq⟩ := List.mem_map.mp hknown
    cases heq
    rw [h.query_of_mem he object]
    exact hlater.query_of_mem (List.mem_append_left _ he) object
  · rw [h.query_of_not_mem hknown]
    refine hlater.query_of_not_mem ?_
    rw [List.map_append, List.mem_append, not_or]
    refine ⟨hknown, fun hadmitted => hpair.resolve_left hknown ?_⟩
    exact ((prefix_admitted log batch).map _).subset hadmitted

/-- Whatever has been registered, a pair has been taken at most once; an object answers what the
accessor gives that has been taken for its kind and the capability, and nothing where there is none;
and the size of the registry is the number of pairs that have been taken. An entry whose pair has
been taken is refused and changes nothing, every other one is taken. A batch is taken up to its
first entry that is refused, fails if there is one, and changes no answer but for the pairs in it
that had not been taken. -/
theorem query_sees_first_registration (batches : List (List (CapabilityEntry ω α))) :
    let r : CapabilityRegistry ω α := after {} batches
    let log := accepted batches
    (log.map (·.pair)).Nodup ∧
      (∀ e ∈ log, ∀ object : ω e.kind, r.query e.capability ⟨e.kind, object⟩ = e.access object) ∧
      (∀ (capability : χ) (object : Tagged ω), (object.tag, capability) ∉ log.map (·.pair) →
        r.query capability object = none) ∧
      r.size = (log.map (·.pair)).toFinset.card ∧
      (∀ e, e.pair ∈ log.map (·.pair) → r.register e = (.error e.capability, r)) ∧
      (∀ e, e.pair ∉ log.map (·.pair) →
        (r.register e).1 = .ok () ∧ accepted (batches ++ [[e]]) = log ++ [e]) ∧
      ∀ batch, ((r.registerAll batch).1 = .ok () ∧ accepted (batches ++ [batch]) = log ++ batch ∨
          ∃ earlier e rest, batch = earlier ++ e :: rest ∧
            (r.registerAll batch).1 = .error e.capability ∧
            accepted (batches ++ [batch]) = log ++ earlier ∧
            e.pair ∈ (log ++ earlier).map (·.pair)) ∧
        ∀ (capability : χ) (object : Tagged ω), (object.tag, capability) ∈ log.map (·.pair) ∨
            (object.tag, capability) ∉ batch.map (·.pair) →
          (r.registerAll batch).2.query capability object = r.query capability object := by
  have hkeeps : (after {} batches : CapabilityRegistry ω α).Keeps (accepted batches) :=
    keeps_after batches
  have hnext : ∀ batch : List (CapabilityEntry ω α),
      accepted (batches ++ [batch]) = accepted batches ++ admitted (accepted batches) batch := by
    intro batch
    rw [accepted, List.foldl_append]
    rfl
  refine ⟨hkeeps.nodup, fun e he object => hkeeps.query_of_mem he object,
    fun capability object => hkeeps.query_of_not_mem, ?_, fun e he =>
      hkeeps.register_of_mem he, ?_, ?_⟩
  · rw [List.toFinset_card_of_nodup hkeeps.nodup, size, hkeeps.entries,
      List.length_map, List.length_map]
  · intro e he
    rw [hnext, admitted, if_neg he]
    exact ⟨(hkeeps.register_of_not_mem he).1, rfl⟩
  · intro batch
    refine ⟨?_, fun capability object => hkeeps.query_registerAll batch⟩
    rw [hnext]
    rcases (hkeeps.registerAll batch).2 with ⟨hsuccess, hall⟩ | ⟨e, rest, hfails, hbatch, htaken⟩
    · exact .inl ⟨hsuccess, congrArg _ hall⟩
    · exact .inr ⟨_, e, rest, hbatch.symm, hfails, rfl, htaken⟩

/-- Capabilities of shapes and filters, some of them registered for the second time. -/
def mixedBatches : List (List AssetEntry) :=
  [[AssetRegistry.squareArea], [AssetRegistry.squarePositiveArea, AssetRegistry.circleLabel],
    AssetRegistry.remoteFilters, AssetRegistry.standard]

/-- A square without extent keeps its area although it is registered again with an accessor that
would decline; the circle in the same batch is not reached, and neither are the sensors after the
remote filters. -/
theorem mixedBatches_see_first_registration :
    AssetRegistry.squareArea ∈ accepted mixedBatches ∧
      (after {} mixedBatches).query .area (Asset.square 0) = some (.whole 0) ∧
      (AssetKind.circle, Capability.label) ∉ (accepted mixedBatches).map (·.pair) ∧
      (after {} mixedBatches).query .label Asset.circle = none ∧
      (after {} mixedBatches).size = 5 ∧
      AssetRegistry.squarePositiveArea.pair ∈ (accepted mixedBatches).map (·.pair) ∧
      (after {} mixedBatches).register AssetRegistry.squarePositiveArea =
        (.error .area, after {} mixedBatches) ∧
      ((after {} mixedBatches).registerAll AssetRegistry.sensors).2.query .area (Asset.square 0) =
        (after {} mixedBatches).query .area (Asset.square 0) := by
  have hlog : accepted mixedBatches = AssetRegistry.squareArea ::
      (AssetRegistry.remoteFilters ++ AssetRegistry.offlineFilters) := rfl
  have hfirst : AssetRegistry.squareArea ∈ accepted mixedBatches := by
    rw [hlog]
    exact List.mem_cons_self
  have hcircle : (AssetKind.circle, Capability.label) ∉ (accepted mixedBatches).map (·.pair) := by
    rw [hlog]
    decide
  have hsquare : AssetRegistry.squarePositiveArea.pair ∈ (accepted mixedBatches).map (·.pair) :=
    List.mem_map.mpr ⟨_, hfirst, rfl⟩
  obtain ⟨-, hquery, hnone, hsize, hrefused, -, hbatch⟩ :=
    query_sees_first_registration mixedBatches
  exact ⟨hfirst, hquery _ hfirst (0 : Int), hcircle,
    hnone .label Asset.circle hcircle, hsize, hsquare,
    hrefused _ hsquare, (hbatch AssetRegistry.sensors).2 .area (Asset.square 0) (.inl hsquare)⟩

/-- The standard capabilities can be loaded twice; all of them are there once. -/
example : AssetRegistry.empty.loaded.loaded.size = 8 := by decide

end CapabilityRegistry

end EmbeddedFilters
