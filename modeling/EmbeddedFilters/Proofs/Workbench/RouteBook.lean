import EmbeddedFilters.Proofs.Workbench.Operations
import Mathlib.Logic.Function.Basic

/-!
# The book of routes

A route is written down in two places: its loop has an entry with its token, and its filter, or a
name, holds the token (`Workbench.routeBook`). The book is in order if both places agree: every
entry that leads to a filter is the route that the filter holds, and every route that a filter holds
has its entry (`RouteBook.InOrder`). A filter is given a new route before its old one is dropped, so
in between one route is `pending`. Because tokens are never given out twice, the entry that is
dropped is the old one (`RouteBook.InOrder.dropped`), and a filter that holds a route has no other
one, in any loop (`RouteBook.InOrder.leading_of_held`).
-/

namespace EmbeddedFilters

/-- Where tokens are distinct an entry is the only one with its token. -/
lemma RouteEntry.filter_token {τ : Type} {entries : List (RouteEntry τ)}
    (h : (entries.map (·.token)).Nodup) {e : RouteEntry τ} (he : e ∈ entries) :
    (entries.filter fun a => a.token = e.token) = [e] := by
  induction entries with
  | nil => cases he
  | cons a rest ih =>
    rw [List.map_cons, List.nodup_cons] at h
    obtain rfl | he := List.mem_cons.mp he
    · rw [List.filter_cons_of_pos (by simp), List.filter_eq_nil_iff.mpr]
      intro a ha hsame
      exact h.1 (List.mem_map.mpr ⟨a, ha, of_decide_eq_true hsame⟩)
    · have hne : a.token ≠ e.token := fun hsame => h.1 (List.mem_map.mpr ⟨e, he, hsame.symm⟩)
      rw [List.filter_cons_of_neg (by simpa using hne)]
      exact ih h.2 he

/-- The entries of all loops, the tokens that they give out next, and who holds routes. -/
structure RouteBook where
  entries : Nat → List (RouteEntry Target)
  next : Nat → Nat
  held : Nat → Option Route
  kept : Table String Route

namespace RouteBook

/-- The entries of a loop that lead to some targets. -/
def leading (b : RouteBook) (p : Target → Bool) (i : Nat) : List (RouteEntry Target) :=
  (b.entries i).filter fun e => p e.target

/-- The book with another entry in a loop. -/
def add (b : RouteBook) (i : Nat) (topic filter : String) (target : Target) : RouteBook :=
  { b with
    entries := Function.update b.entries i (b.entries i ++ [⟨b.next i, topic, filter, target⟩])
    next := Function.update b.next i (b.next i + 1) }

/-- The book with a filter holding a route, or none. -/
def hold (b : RouteBook) (n : Nat) (r? : Option Route) : RouteBook :=
  { b with held := Function.update b.held n r? }

/-- The book without the entry of a route, if there is one to drop. -/
def dropped (b : RouteBook) : Option Route → RouteBook
  | none => b
  | some r =>
    { b with
      entries :=
        Function.update b.entries r.loop ((b.entries r.loop).filter fun e => e.token ≠ r.token) }

/-- The book after a filter has been subscribed to a loop: its new route is there before the old one
is dropped. -/
def subscribe (b : RouteBook) (n i : Nat) (topic filter : String) : RouteBook :=
  ((b.add i topic filter (.filter n)).hold n (some ⟨i, b.next i⟩)).dropped (b.held n)

/-- The book after a filter has been torn down. -/
def tearDown (b : RouteBook) (n : Nat) : RouteBook := (b.hold n none).dropped (b.held n)

/-- The book after a name has been given a route to a sink. -/
def keep (b : RouteBook) (key : String) (i : Nat) (topic filter : String) (sink : Nat) :
    RouteBook :=
  ({ b.add i topic filter (.sink sink) with
    kept := b.kept.put key ⟨i, b.next i⟩ } : RouteBook).dropped (b.kept.get? key)

/-- The book after a name has given up its route. -/
def giveUp (b : RouteBook) (key : String) : RouteBook :=
  ({ b with kept := b.kept.erase key } : RouteBook).dropped (b.kept.get? key)

/-- Loops and filters agree on the routes to filters, except that one route is yet to be dropped;
tokens have been given out once, and no name holds the route of a filter. -/
structure InOrder (b : RouteBook) (pending : Option Route) : Prop where
  distinct : ∀ i, ((b.entries i).map (·.token)).Nodup
  given : ∀ i, ∀ e ∈ b.entries i, e.token < b.next i
  owned : ∀ i, ∀ e ∈ b.entries i, ∀ n, e.target = .filter n →
    b.held n = some ⟨i, e.token⟩ ∨ pending = some ⟨i, e.token⟩
  entered : ∀ n r, b.held n = some r →
    ∃ e ∈ b.entries r.loop, e.token = r.token ∧ e.target = .filter n
  kept : ∀ key r, b.kept.get? key = some r →
    r.token < b.next r.loop ∧ ∀ e ∈ b.entries r.loop, e.token = r.token → ∀ n, e.target ≠ .filter n

variable {b : RouteBook} {i n : Nat} {topic filter : String} {t : Target}
  {p : Target → Bool} {r : Route}
  {pending : Option Route}

/-- With one more route an entry is an old one or the new one. -/
lemma mem_entries_add {j : Nat} {e : RouteEntry Target}
    (he : e ∈ (b.add i topic filter t).entries j) :
    e ∈ b.entries j ∨ j = i ∧ e = ⟨b.next i, topic, filter, t⟩ := by
  have he : e ∈ Function.update b.entries i (b.entries i ++ [⟨b.next i, topic, filter, t⟩]) j := he
  by_cases hj : j = i
  · subst hj
    rw [Function.update_self, List.mem_append, List.mem_singleton] at he
    exact he.imp_right fun h => ⟨rfl, h⟩
  · rw [Function.update_of_ne hj] at he
    exact .inl he

/-- An entry stays when another one is added. -/
lemma mem_add {j : Nat} {e : RouteEntry Target} (he : e ∈ b.entries j) :
    e ∈ (b.add i topic filter t).entries j := by
  show e ∈ Function.update b.entries i (b.entries i ++ [⟨b.next i, topic, filter, t⟩]) j
  by_cases hj : j = i
  · subst hj
    rw [Function.update_self]
    exact List.mem_append_left _ he
  · rwa [Function.update_of_ne hj]

/-- The entry that has been added is there. -/
lemma mem_add_self : ⟨b.next i, topic, filter, t⟩ ∈ (b.add i topic filter t).entries i := by
  show _ ∈ Function.update b.entries i _ i
  rw [Function.update_self]
  exact List.mem_append_right _ (List.mem_singleton_self _)

/-- Adding an entry gives no token back. -/
lemma le_next_add (j : Nat) : b.next j ≤ (b.add i topic filter t).next j := by
  show b.next j ≤ Function.update b.next i (b.next i + 1) j
  by_cases hj : j = i
  · subst hj
    rw [Function.update_self]
    exact Nat.le_succ _
  · rw [Function.update_of_ne hj]

/-- The token of a new entry has been given out. -/
lemma lt_next_add (b : RouteBook) (i : Nat) (topic filter : String) (t : Target) :
    b.next i < (b.add i topic filter t).next i := by
  show b.next i < Function.update b.next i (b.next i + 1) i
  rw [Function.update_self]
  exact Nat.lt_succ_self _

/-- Dropping a route leaves all other entries. -/
lemma mem_entries_dropped {r? : Option Route} {j : Nat} {e : RouteEntry Target} :
    e ∈ (b.dropped r?).entries j ↔ e ∈ b.entries j ∧ r? ≠ some ⟨j, e.token⟩ := by
  cases r? with
  | none => simp [dropped]
  | some r =>
    show e ∈ Function.update b.entries r.loop _ j ↔ _
    by_cases hj : j = r.loop
    · subst hj
      rw [Function.update_self, List.mem_filter, decide_eq_true_iff]
      refine and_congr_right fun _ => not_congr ⟨fun htoken => ?_, fun hsame => ?_⟩
      · rw [htoken]
      · exact (congrArg Route.token (Option.some.inj hsame)).symm
    · rw [Function.update_of_ne hj]
      refine (and_iff_left fun hsame => hj ?_).symm
      rw [Option.some.inj hsame]

/-! ### Targets that an entry does not lead to -/

/-- An entry for another target leaves those that lead to some targets. -/
lemma leading_add (ht : p t = false) (j : Nat) :
    (b.add i topic filter t).leading p j = b.leading p j := by
  show (Function.update b.entries i _ j).filter _ = _
  by_cases hj : j = i
  · subst hj
    rw [Function.update_self, List.filter_append]
    simp [leading, ht]
  · rw [Function.update_of_ne hj]
    rfl

/-- Dropping a route to another target leaves those that lead to some targets. -/
lemma leading_dropped {r? : Option Route}
    (hr : ∀ r, r? = some r → ∀ e ∈ b.entries r.loop, e.token = r.token → p e.target = false)
    (j : Nat) :
    (b.dropped r?).leading p j = b.leading p j := by
  cases r? with
  | none => rfl
  | some r =>
    show (Function.update b.entries r.loop _ j).filter _ = _
    by_cases hj : j = r.loop
    · subst hj
      rw [Function.update_self, List.filter_filter]
      refine List.filter_congr fun e he => ?_
      by_cases htoken : e.token = r.token
      · simp [hr r rfl e he htoken]
      · simp [htoken]
    · rw [Function.update_of_ne hj]
      rfl

namespace InOrder

/-- Entries of a loop with the same token are the same. -/
lemma eq_of_token (h : b.InOrder pending) {e e' : RouteEntry Target} (he : e ∈ b.entries i)
    (he' : e' ∈ b.entries i) (htoken : e.token = e'.token) : e = e' :=
  List.inj_on_of_nodup_map (h.distinct i) he he' htoken

/-- The entry of a route that a filter holds leads to the filter. -/
lemma target_of_held (h : b.InOrder pending) (hheld : b.held n = some r) {e : RouteEntry Target}
    (he : e ∈ b.entries r.loop) (htoken : e.token = r.token) : e.target = .filter n := by
  obtain ⟨e', he', htoken', htarget⟩ := h.entered n r hheld
  rw [h.eq_of_token he he' (htoken.trans htoken'.symm)]
  exact htarget

/-- The token of a route that is held has been given out. -/
lemma lt_of_held (h : b.InOrder pending) (hheld : b.held n = some r) : r.token < b.next r.loop := by
  obtain ⟨e, he, htoken, -⟩ := h.entered n r hheld
  exact htoken ▸ h.given r.loop e he

/-- No two filters hold the same route. -/
lemma eq_of_held (h : b.InOrder pending) {m : Nat} (hn : b.held n = some r)
    (hm : b.held m = some r) : n = m := by
  obtain ⟨e, he, htoken, htarget⟩ := h.entered n r hn
  exact Target.filter.inj (htarget.symm.trans (h.target_of_held hm he htoken))

/-- In a book that is in order an entry that leads to a filter is the route that the filter
holds. -/
lemma held_of_mem (h : b.InOrder none) {e : RouteEntry Target} (he : e ∈ b.entries i)
    (htarget : e.target = .filter n) : b.held n = some ⟨i, e.token⟩ :=
  (h.owned i e he n htarget).resolve_right (Option.some_ne_none _).symm

/-- A filter that holds a route has no other one, in any loop. -/
lemma leading_of_held (h : b.InOrder none) (hheld : b.held n = some r) {e : RouteEntry Target}
    (he : e ∈ b.entries r.loop) (htoken : e.token = r.token) (j : Nat) :
    b.leading (· = .filter n) j = if j = r.loop then [e] else [] := by
  have howned : ∀ a ∈ b.entries j, a.target = .filter n → r = ⟨j, a.token⟩ := fun a ha htarget =>
    Option.some.inj (hheld.symm.trans (h.held_of_mem ha htarget))
  split
  · rename_i hj
    subst hj
    have hsame : b.leading (· = .filter n) r.loop = (b.entries r.loop).filter fun a =>
        a.token = e.token := by
      refine List.filter_congr fun a ha => ?_
      rw [decide_eq_decide]
      constructor
      · intro htarget
        rw [htoken, howned a ha htarget]
      · intro hsame
        exact h.target_of_held hheld ha (hsame.trans htoken)
    rw [hsame]
    exact RouteEntry.filter_token (h.distinct r.loop) he
  · rename_i hj
    refine List.filter_eq_nil_iff.mpr fun a ha htarget => hj ?_
    rw [howned a ha (of_decide_eq_true htarget)]

/-! ### Changes of the book -/

/-- The tokens of a loop stay distinct when an entry is added. -/
lemma distinct_add (h : b.InOrder pending) (j : Nat) :
    (((b.add i topic filter t).entries j).map (·.token)).Nodup := by
  show ((Function.update b.entries i _ j).map (·.token)).Nodup
  by_cases hj : j = i
  · subst hj
    rw [Function.update_self, List.map_append]
    refine (h.distinct j).append (List.nodup_singleton _)
      (List.disjoint_singleton.mpr fun hmem => ?_)
    obtain ⟨e, he, htoken⟩ := List.mem_map.mp hmem
    exact absurd (h.given j e he) (by simp [htoken])
  · rw [Function.update_of_ne hj]
    exact h.distinct j

/-- All tokens of a loop have been given out when an entry has been added. -/
lemma given_add (h : b.InOrder pending) (j : Nat) :
    ∀ e ∈ (b.add i topic filter t).entries j, e.token < (b.add i topic filter t).next j := by
  intro e he
  obtain he | ⟨rfl, rfl⟩ := mem_entries_add he
  · exact (h.given j e he).trans_le (le_next_add j)
  · exact lt_next_add b j topic filter t

/-- A name still holds a route that leads to no filter, if another entry has been added since. -/
lemma kept_add (h : b.InOrder pending) {key : String} (hr : b.kept.get? key = some r) :
    r.token < (b.add i topic filter t).next r.loop ∧
      ∀ e ∈ (b.add i topic filter t).entries r.loop, e.token = r.token →
        ∀ n, e.target ≠ .filter n := by
  obtain ⟨hlt, hkept⟩ := h.kept key r hr
  refine ⟨hlt.trans_le (le_next_add r.loop), fun e he htoken => ?_⟩
  obtain he | ⟨hloop, rfl⟩ := mem_entries_add he
  · exact hkept e he htoken
  · have htoken : b.next i = r.token := htoken
    rw [hloop, htoken] at hlt
    exact absurd hlt (Nat.lt_irrefl _)

/-- A filter is given another route. The one that it has held is yet to be dropped. -/
lemma add_filter (h : b.InOrder none) (i n : Nat) (topic filter : String) :
    ((b.add i topic filter (.filter n)).hold n (some ⟨i, b.next i⟩)).InOrder (b.held n) where
  distinct := h.distinct_add
  given := h.given_add
  owned j e he m htarget := by
    show Function.update b.held n (some ⟨i, b.next i⟩) m = _ ∨ _
    obtain he | ⟨rfl, rfl⟩ := mem_entries_add he
    · have hown := h.held_of_mem he htarget
      by_cases hm : m = n
      · exact .inr (hm ▸ hown)
      · exact .inl ((Function.update_of_ne hm _ _).trans hown)
    · cases htarget
      exact .inl (Function.update_self _ _ _)
  entered m r hr := by
    have hr : Function.update b.held n (some ⟨i, b.next i⟩) m = some r := hr
    by_cases hm : m = n
    · subst hm
      rw [Function.update_self] at hr
      cases hr
      exact ⟨_, mem_add_self, rfl, rfl⟩
    · rw [Function.update_of_ne hm] at hr
      obtain ⟨e, he, hentry⟩ := h.entered m r hr
      exact ⟨e, mem_add he, hentry⟩
  kept _ _ hr := h.kept_add hr

/-- A name is given a route that leads to a sink. -/
lemma add_sink (h : b.InOrder none) (i m : Nat) (topic filter key : String) :
    ({ b.add i topic filter (.sink m) with
      kept := b.kept.put key ⟨i, b.next i⟩ } : RouteBook).InOrder none where
  distinct := h.distinct_add
  given := h.given_add
  owned j e he n htarget := by
    obtain he | ⟨rfl, rfl⟩ := mem_entries_add he
    · exact h.owned j e he n htarget
    · cases htarget
  entered n r hr := by
    obtain ⟨e, he, hentry⟩ := h.entered n r hr
    exact ⟨e, mem_add he, hentry⟩
  kept other r hr := by
    rw [Table.get?_put] at hr
    split at hr
    · cases hr
      refine ⟨lt_next_add b i topic filter (.sink m), fun e he htoken n => ?_⟩
      obtain he | ⟨-, rfl⟩ := mem_entries_add he
      · exact absurd (h.given i e he) (by simp [htoken])
      · exact Target.noConfusion
    · exact h.kept_add hr

/-- A filter gives up its route, which is yet to be dropped. -/
lemma hold_none (h : b.InOrder none) (n : Nat) : (b.hold n none).InOrder (b.held n) where
  distinct := h.distinct
  given := h.given
  owned i e he m htarget := by
    show Function.update b.held n none m = _ ∨ _
    have hown := h.held_of_mem he htarget
    by_cases hm : m = n
    · exact .inr (hm ▸ hown)
    · exact .inl ((Function.update_of_ne hm _ _).trans hown)
  entered m r hr := by
    have hr : Function.update b.held n none m = some r := hr
    by_cases hm : m = n
    · rw [hm, Function.update_self] at hr
      cases hr
    · rw [Function.update_of_ne hm] at hr
      exact h.entered m r hr
  kept := h.kept

/-- Names may change as long as those that are left hold what they have held. -/
lemma of_kept (h : b.InOrder pending) {table : Table String Route}
    (htable : ∀ key r, table.get? key = some r → b.kept.get? key = some r) :
    ({ b with kept := table } : RouteBook).InOrder pending :=
  ⟨h.distinct, h.given, h.owned, h.entered, fun key r hr => h.kept key r (htable key r hr)⟩

/-- The book is in order again once the route has been dropped that nobody holds. -/
lemma dropped {r? : Option Route} (h : b.InOrder pending) (hpending : pending = none ∨ pending = r?)
    (hfree : ∀ n, r? ≠ none → b.held n ≠ r?) : (b.dropped r?).InOrder none where
  distinct i := by
    cases r? with
    | none => exact h.distinct i
    | some r =>
      show ((Function.update b.entries r.loop _ i).map (·.token)).Nodup
      by_cases hi : i = r.loop
      · subst hi
        rw [Function.update_self]
        exact (List.filter_sublist.map _).nodup (h.distinct r.loop)
      · rw [Function.update_of_ne hi]
        exact h.distinct i
  given i e he := by
    have hlt := h.given i e (mem_entries_dropped.mp he).1
    cases r? <;> exact hlt
  owned i e he n htarget := by
    obtain ⟨he, hne⟩ := mem_entries_dropped.mp he
    have hown := (h.owned i e he n htarget).resolve_right fun hsame => ?_
    · cases r? <;> exact .inl hown
    · obtain hnone | heq := hpending
      · cases hnone.symm.trans hsame
      · exact hne (heq.symm.trans hsame)
  entered n r hr := by
    have hr : b.held n = some r := by cases r? <;> exact hr
    obtain ⟨e, he, htoken, htarget⟩ := h.entered n r hr
    refine ⟨e, mem_entries_dropped.mpr ⟨he, fun hsame => ?_⟩, htoken, htarget⟩
    rw [htoken] at hsame
    exact hfree n (by rw [hsame]; exact Option.some_ne_none _) (hr.trans hsame.symm)
  kept key r hr := by
    have hr : b.kept.get? key = some r := by cases r? <;> exact hr
    obtain ⟨hlt, hkept⟩ := h.kept key r hr
    refine ⟨by cases r? <;> exact hlt, fun e he => hkept e (mem_entries_dropped.mp he).1⟩

/-- A filter may be subscribed again and again. -/
lemma subscribe (h : b.InOrder none) (n i : Nat) (topic filter : String) :
    (b.subscribe n i topic filter).InOrder none := by
  refine (h.add_filter i n topic filter).dropped (.inr rfl) fun m hsome hm => ?_
  obtain ⟨r, hr⟩ := Option.ne_none_iff_exists'.mp hsome
  have hm : Function.update b.held n (some ⟨i, b.next i⟩) m = some r := hm.trans hr
  by_cases hmn : m = n
  · rw [hmn, Function.update_self] at hm
    cases hm
    exact absurd (h.lt_of_held hr) (Nat.lt_irrefl _)
  · rw [Function.update_of_ne hmn] at hm
    exact hmn (h.eq_of_held hm hr)

/-- A book in order stays so when a filter is torn down. -/
lemma tearDown (h : b.InOrder none) (n : Nat) : (b.tearDown n).InOrder none := by
  refine (h.hold_none n).dropped (.inr rfl) fun m hsome hm => ?_
  obtain ⟨r, hr⟩ := Option.ne_none_iff_exists'.mp hsome
  have hm : Function.update b.held n none m = some r := hm.trans hr
  by_cases hmn : m = n
  · rw [hmn, Function.update_self] at hm
    cases hm
  · rw [Function.update_of_ne hmn] at hm
    exact hmn (h.eq_of_held hm hr)

/-- The subscription of a filter touches no entry that leads to another target. -/
lemma leading_subscribe (h : b.InOrder none) (hn : p (.filter n) = false) (i : Nat)
    (topic filter : String) (j : Nat) :
    (b.subscribe n i topic filter).leading p j = b.leading p j := by
  refine (leading_dropped (fun r hr e he htoken => ?_) j).trans (leading_add hn j)
  obtain he | ⟨-, rfl⟩ := mem_entries_add (b := b) he
  · rwa [h.target_of_held hr he htoken]
  · exact hn

/-- Tearing a filter down leaves the entries that lead elsewhere. -/
lemma leading_tearDown (h : b.InOrder none) (hn : p (.filter n) = false) (j : Nat) :
    (b.tearDown n).leading p j = b.leading p j := by
  refine leading_dropped (fun r hr e he htoken => ?_) j
  rwa [h.target_of_held hr he htoken]

/-- No filter holds the route that a name holds. -/
lemma held_ne_of_kept (h : b.InOrder pending) {key : String} (hr : b.kept.get? key = some r)
    (n : Nat) :
    b.held n ≠ some r := by
  intro hheld
  obtain ⟨e, he, htoken, htarget⟩ := h.entered n r hheld
  exact (h.kept key r hr).2 e he htoken n htarget

/-- A book in order stays so when a name is given a route. -/
lemma keep (h : b.InOrder none) (key : String) (i : Nat) (topic filter : String) (sink : Nat) :
    (b.keep key i topic filter sink).InOrder none := by
  refine (h.add_sink i sink topic filter key).dropped (.inl rfl) fun n hsome hn => ?_
  obtain ⟨r, hr⟩ := Option.ne_none_iff_exists'.mp hsome
  exact h.held_ne_of_kept hr n (hn.trans hr)

/-- A book in order stays so when a name gives up its route. -/
lemma giveUp (h : b.InOrder none) (key : String) : (b.giveUp key).InOrder none := by
  have hrest : ({ b with kept := b.kept.erase key } : RouteBook).InOrder none := by
    refine h.of_kept fun other r hr => ?_
    rw [Table.get?_erase] at hr
    split at hr
    · cases hr
    · exact hr
  refine hrest.dropped (.inl rfl) fun n hsome hn => ?_
  obtain ⟨r, hr⟩ := Option.ne_none_iff_exists'.mp hsome
  exact h.held_ne_of_kept hr n (hn.trans hr)

/-- What names do with routes to sinks touches no entry that leads to a filter. -/
lemma leading_keep (h : b.InOrder none) (key : String) (i : Nat) (topic filter : String)
    (sink n j : Nat) :
    (b.keep key i topic filter sink).leading (· = .filter n) j = b.leading (· = .filter n) j := by
  have hadd : (b.add i topic filter (.sink sink)).leading (· = .filter n) j =
      b.leading (· = .filter n) j :=
    leading_add (decide_eq_false Target.noConfusion) j
  refine (leading_dropped (fun r hr e he htoken => ?_) j).trans hadd
  rw [decide_eq_false_iff_not]
  obtain he | ⟨hloop, rfl⟩ := mem_entries_add (b := b) he
  · exact (h.kept key r hr).2 e he htoken n
  · exact Target.noConfusion

/-- Giving up the route of a name leaves the entries that lead to filters. -/
lemma leading_giveUp (h : b.InOrder none) (key : String) (n j : Nat) :
    (b.giveUp key).leading (· = .filter n) j = b.leading (· = .filter n) j := by
  refine leading_dropped (fun r hr e he htoken => ?_) j
  rw [decide_eq_false_iff_not]
  exact (h.kept key r hr).2 e he htoken n

/-- A filter that has been subscribed holds its new route. -/
lemma held_subscribe (b : RouteBook) (n i : Nat) (topic filter : String) :
    (b.subscribe n i topic filter).held = Function.update b.held n (some ⟨i, b.next i⟩) := by
  unfold RouteBook.subscribe
  cases b.held n <;> rfl

/-- A filter that has been subscribed has its new route and no other one, in any loop. -/
lemma leading_subscribe_self (h : b.InOrder none) (n i : Nat) (topic filter : String) (j : Nat) :
    (b.subscribe n i topic filter).leading (· = .filter n) j =
      if j = i then [⟨b.next i, topic, filter, .filter n⟩] else [] := by
  have hheld : (b.subscribe n i topic filter).held n = some ⟨i, b.next i⟩ := by
    rw [held_subscribe, Function.update_self]
  have hentry : ⟨b.next i, topic, filter, .filter n⟩ ∈
      (b.subscribe n i topic filter).entries i := by
    refine mem_entries_dropped.mpr ⟨mem_add_self, fun hsame => ?_⟩
    exact absurd (h.lt_of_held hsame) (Nat.lt_irrefl _)
  exact (h.subscribe n i topic filter).leading_of_held hheld hentry rfl j

end InOrder

end RouteBook

namespace Workbench

/-- The routes of a loop, if there is one. -/
def routesAt (w : Workbench) (i : Nat) : List (RouteEntry Target) :=
  (w.loops.get? i).elim [] (·.routes)

/-- The routes to a filter in a loop. -/
def routesTo (w : Workbench) (n i : Nat) : List (RouteEntry Target) :=
  (w.routesAt i).filter fun e => e.target = .filter n

/-- The routes of all loops of a workbench, and who holds them. -/
def routeBook (w : Workbench) : RouteBook where
  entries := w.routesAt
  next i := (w.loops.get? i).elim 0 (·.nextToken)
  held n := (w.filters.get? n).bind Filter.route?
  kept := w.names.routes

end Workbench

end EmbeddedFilters
