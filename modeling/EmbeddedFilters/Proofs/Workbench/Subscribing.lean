import EmbeddedFilters.Proofs.Workbench.RouteBook

/-!
# Subscribing filters and tearing them down

What becomes of the workbench, and of its book of routes, when a filter is subscribed to a loop
(`Bench.exec_subscribe_cases`) and when it is torn down (`Bench.exec_destroy`).
-/

namespace EmbeddedFilters

namespace Workbench

/-- The workbench without a route, if there is one to take back. -/
def takeBack (w : Workbench) : Option Route → Workbench
  | none => w
  | some r => { w with loops := w.loops.modify r.loop fun l => l.dropRoute r.token }

/-- The workbench after a filter has been subscribed to a loop. -/
def subscribed (w : Workbench) (n : Nat) (f : RemoteFilter) (l : Nat) (d : DeliveryLoop Target)
    (topic : String) :
    Workbench :=
  ({ w with
      filters := w.filters.put n (.remote { f with route? := some ⟨l, d.nextToken⟩ })
      loops := w.loops.modify l fun _ =>
        (d.addRoute topic f.name (.filter n)).2 } : Workbench).takeBack f.route?

/-- The workbench after a filter has been torn down. -/
def tornDown (w : Workbench) (n : Nat) (f : Filter) : Workbench :=
  ({ w with filters := w.filters.put n f.destroy } : Workbench).takeBack f.route?

variable {w : Workbench} {n l : Nat} {f : RemoteFilter} {d : DeliveryLoop Target}

/-- Taking a route back spares filters and proxies. -/
lemma spares_takeBack (w : Workbench) (r? : Option Route) : w.Spares (w.takeBack r?) := by
  cases r? <;> exact ⟨rfl, rfl, rfl⟩

/-- A filter that has been subscribed has its new route. -/
lemma subscribed_filters (w : Workbench) (n : Nat) (f : RemoteFilter) (l : Nat)
    (d : DeliveryLoop Target) (topic : String) : (w.subscribed n f l d topic).filters =
      w.filters.put n (.remote { f with route? := some ⟨l, d.nextToken⟩ }) :=
  (spares_takeBack _ _).1

/-- Tearing a filter down leaves the others. -/
lemma tornDown_filters (w : Workbench) (n : Nat) (f : Filter) :
    (w.tornDown n f).filters = w.filters.put n f.destroy := (spares_takeBack _ _).1

/-! ### The book of routes -/

/-- The book of routes has the next token of a loop. -/
lemma routeBook_next (hd : w.loops.get? l = some d) : w.routeBook.next l = d.nextToken := by
  show (w.loops.get? l).elim 0 _ = _
  rw [hd]
  rfl

/-- The book of routes has the route that a filter holds. -/
lemma routeBook_held {f : Filter} (hf : w.filters.get? n = some f) :
    w.routeBook.held n = f.route? := by
  show (w.filters.get? n).bind _ = _
  rw [hf]
  rfl

/-- Changing a loop changes what is seen of it. -/
lemma elim_get?_modify {α : Type} (none : α) (look : DeliveryLoop Target → α) (i : Nat)
    (change : DeliveryLoop Target → DeliveryLoop Target) :
    (fun j => ((w.loops.modify i change).get? j).elim none look) =
      Function.update (fun j => (w.loops.get? j).elim none look) i
        ((w.loops.get? i).elim none fun l => look (change l)) := by
  funext j
  rw [Pool.get?_modify]
  by_cases hj : j = i
  · subst hj
    rw [if_pos rfl, Function.update_self]
    cases w.loops.get? j <;> rfl
  · rw [if_neg hj, Function.update_of_ne hj]

/-- A loop is changed, but neither in its routes nor in the tokens that it gives out. -/
lemma routeBook_modify {change : DeliveryLoop Target → DeliveryLoop Target}
    (hroutes : ∀ d, w.loops.get? l = some d → (change d).routes = d.routes)
    (hnext : ∀ d, w.loops.get? l = some d → (change d).nextToken = d.nextToken) :
    ({ w with loops := w.loops.modify l change } : Workbench).routeBook = w.routeBook := by
  have hsame : ∀ {α : Type} (none : α) (look : DeliveryLoop Target → α),
      (∀ d, w.loops.get? l = some d → look (change d) = look d) →
      (fun j => ((w.loops.modify l change).get? j).elim none look) = fun j =>
        (w.loops.get? j).elim none look := by
    intro α none look hlook
    rw [elim_get?_modify]
    refine (congrArg (Function.update _ l) ?_).trans (Function.update_eq_self l _)
    cases hd : w.loops.get? l with
    | none => rfl
    | some d => exact hlook d hd
  exact congrArg₂ (fun entries next => RouteBook.mk entries next _ _) (hsame [] (·.routes) hroutes)
    (hsame 0 (·.nextToken) hnext)

/-- Requests of a loop come and go without any change of its routes. -/
lemma routeBook_acquire (w : Workbench) (l : Nat) :
    ({ w with loops := w.loops.modify l DeliveryLoop.acquire } : Workbench).routeBook =
      w.routeBook := by
  refine routeBook_modify (fun d _ => ?_) fun d _ => ?_ <;>
    unfold DeliveryLoop.acquire <;> split <;> rfl

/-- One requester less leaves the book of routes. -/
lemma routeBook_release (w : Workbench) (l : Nat) :
    ({ w with loops := w.loops.modify l DeliveryLoop.release } : Workbench).routeBook =
      w.routeBook :=
  routeBook_modify (fun _ _ => rfl) fun _ _ => rfl

/-- Putting a filter enters its route into the book. -/
lemma routeBook_put (w : Workbench) (n : Nat) (f : Filter) :
    ({ w with filters := w.filters.put n f } : Workbench).routeBook =
      w.routeBook.hold n f.route? := by
  refine congrArg (fun held => RouteBook.mk _ _ held _) (funext fun m => ?_)
  show ((w.filters.put n f).get? m).bind Filter.route? =
    Function.update w.routeBook.held n f.route? m
  rw [Pool.get?_put]
  by_cases hm : m = n
  · subst hm
    rw [if_pos rfl, Function.update_self]
    rfl
  · rw [if_neg hm, Function.update_of_ne hm]
    rfl

/-- Taking a route back drops it from the book. -/
lemma routeBook_takeBack (w : Workbench) (r? : Option Route) :
    (w.takeBack r?).routeBook = w.routeBook.dropped r? := by
  cases r? with
  | none => rfl
  | some r =>
    have hentries := elim_get?_modify (w := w) [] (·.routes) r.loop fun l => l.dropRoute r.token
    have hnext := elim_get?_modify (w := w) 0 (·.nextToken) r.loop fun l => l.dropRoute r.token
    refine congrArg₂ (fun entries next => RouteBook.mk entries next _ _)
      (hentries.trans ?_) (hnext.trans ?_)
    · refine congrArg (Function.update _ r.loop) ?_
      show _ = List.filter _ ((w.loops.get? r.loop).elim [] (·.routes))
      cases w.loops.get? r.loop <;> rfl
    · exact Function.update_eq_self _ _

/-- Adding a route enters it into the book. -/
lemma routeBook_addRoute (hd : w.loops.get? l = some d) (topic filter : String) (target : Target) :
    ({ w with loops := w.loops.modify l fun _ =>
      (d.addRoute topic filter target).2 } : Workbench).routeBook =
      w.routeBook.add l topic filter target := by
  have hentries :=
    elim_get?_modify (w := w) [] (·.routes) l fun _ => (d.addRoute topic filter target).2
  have hnext := elim_get?_modify (w := w) 0 (·.nextToken) l fun _ =>
    (d.addRoute topic filter target).2
  have htoken := routeBook_next hd
  have hbefore : w.routeBook.entries l = d.routes := by
    show (w.loops.get? l).elim [] _ = _
    rw [hd]
    rfl
  refine congrArg₂ (fun entries next => RouteBook.mk entries next _ _)
    (hentries.trans ?_) (hnext.trans ?_)
  · rw [hd, hbefore, htoken]
    rfl
  · rw [hd, htoken]
    rfl

/-- Subscribing a filter enters its route into the book. -/
lemma routeBook_subscribed (hf : w.filters.get? n = some (.remote f))
    (hd : w.loops.get? l = some d) (topic : String) :
    (w.subscribed n f l d topic).routeBook = w.routeBook.subscribe n l topic f.name := by
  have hheld : w.routeBook.held n = f.route? := routeBook_held hf
  have htoken := routeBook_next hd
  rw [subscribed, routeBook_takeBack, RouteBook.subscribe, hheld, htoken, ← routeBook_addRoute hd]
  exact congrArg (RouteBook.dropped · f.route?) (routeBook_put
    { w with loops := w.loops.modify l fun _ => (d.addRoute topic f.name (.filter n)).2 } n _)

/-- Tearing a filter down takes its route out of the book. -/
lemma routeBook_tornDown {f : Filter} (hf : w.filters.get? n = some f) :
    (w.tornDown n f).routeBook = w.routeBook.tearDown n := by
  have hheld : w.routeBook.held n = f.route? := routeBook_held hf
  have hdestroy : f.destroy.route? = none := by cases f <;> rfl
  rw [tornDown, routeBook_takeBack, RouteBook.tearDown, hheld, routeBook_put, hdestroy]

end Workbench

namespace Bench

variable {w : Workbench}

/-- A route, if there is one, is taken back from its loop. -/
lemma exec_takeBack (r? : Option Route) (w : Workbench) :
    (r?.forM dropRoute).exec w = (.ok (), w.takeBack r?) := by
  cases r? <;> rfl

/-- A route is added at the end of its loop, under the next token. -/
lemma exec_addRoute {l : Nat} {d : DeliveryLoop Target} (hd : w.loops.get? l = some d)
    (topic filter : String) (target : Target) :
    (addRoute l topic filter target).exec w = (.ok ⟨l, d.nextToken⟩,
      { w with loops := w.loops.modify l fun _ => (d.addRoute topic filter target).2 }) :=
  exec_bind_ok (exec_lookup (fun w => w.loops.get? l) hd _) _

/-- A filter that can be used is subscribed to a loop that is there. -/
lemma exec_subscribe_alive {n l : Nat} {f : RemoteFilter} {d : DeliveryLoop Target}
    (hf : w.filters.get? n = some (.remote f)) (hlive : f.destroyed = false)
    (hd : w.loops.get? l = some d) (topic : String) :
    (subscribe n l topic).exec w = (.ok (), w.subscribed n f l d topic) := by
  have hensure : f.ensureLive = .ok () := RemoteFilter.ensureLive_eq_ok.mpr hlive
  rw [subscribe, exec_bind_ok (exec_remoteFilter hf), hensure, exec_bind_ok (exec_ofFilter_ok _ _),
    exec_bind_ok (exec_addRoute hd _ _ _)]
  exact exec_takeBack f.route? _

/-- Either a filter is subscribed to a loop, or it cannot be used, or the loop is not there; then
the workbench stays as it is. -/
lemma exec_subscribe_cases (n l : Nat) (topic : String) (w : Workbench) :
    (∃ f d, w.filters.get? n = some (.remote f) ∧ f.destroyed = false ∧ w.loops.get? l = some d ∧
      (subscribe n l topic).exec w = (.ok (), w.subscribed n f l d topic)) ∨
    ((∀ f, w.filters.get? n = some (.remote f) → f.destroyed = true) ∨ w.loops.get? l = none) ∧
      ∃ e, (subscribe n l topic).exec w = (.error e, w) := by
  cases hremote : (remoteFilter n).exec w with
  | mk r v =>
    have hv : v = w := by
      have hreads := reads_remoteFilter n w
      rwa [hremote] at hreads
    subst hv
    cases r with
    | error e =>
      refine .inr ⟨.inl fun f hf => ?_, e, exec_bind_error hremote _⟩
      cases (exec_remoteFilter hf).symm.trans hremote
    | ok f =>
      obtain ⟨-, hf⟩ := get?_of_remoteFilter hremote
      cases hlive : f.destroyed with
      | true =>
        have hensure : f.ensureLive = .error (.destroyed f.name) := by
          rw [RemoteFilter.ensureLive, if_pos hlive]
        refine .inr ⟨.inl fun g hg => ?_, .filter (.destroyed f.name), ?_⟩
        · cases hf.symm.trans hg
          exact hlive
        · rw [subscribe, exec_bind_ok hremote, hensure]
          rfl
      | false =>
        cases hd : v.loops.get? l with
        | some d => exact .inl ⟨f, d, hf, hlive, rfl, exec_subscribe_alive hf hlive hd topic⟩
        | none =>
          have hensure : f.ensureLive = .ok () := RemoteFilter.ensureLive_eq_ok.mpr hlive
          have hloop : (loop l).exec v = (.error (.noObject "loop"), v) := by
            rw [loop, exec_bind_ok (exec_get v), hd]
            rfl
          refine .inr ⟨.inr rfl, .noObject "loop", ?_⟩
          rw [subscribe, exec_bind_ok hremote, hensure, exec_bind_ok (exec_ofFilter_ok _ _)]
          exact exec_bind_error (exec_bind_error hloop _) _

/-- What it takes to subscribe a filter to a loop, and where the filter is left. -/
lemma of_subscribe {n l : Nat} {topic : String} {v : Workbench}
    (h : (subscribe n l topic).exec w = (.ok (), v)) :
    ∃ f d, w.filters.get? n = some (.remote f) ∧ w.loops.get? l = some d ∧
      v.filters = w.filters.put n (.remote { f with route? := some ⟨l, d.nextToken⟩ }) := by
  obtain ⟨f, d, hf, -, hd, hdone⟩ | ⟨-, e, hfails⟩ := exec_subscribe_cases n l topic w
  · cases hdone.symm.trans h
    exact ⟨f, d, hf, hd, w.subscribed_filters n f l d topic⟩
  · cases hfails.symm.trans h

/-- A filter that is there is torn down. -/
lemma exec_destroy {n : Nat} {f : Filter} (hf : w.filters.get? n = some f) :
    (destroy n).exec w = (.ok (), w.tornDown n f) := by
  rw [destroy, exec_bind_ok (exec_filter hf), Workbench.tornDown]
  cases f.route? <;> rfl

end Bench

end EmbeddedFilters
