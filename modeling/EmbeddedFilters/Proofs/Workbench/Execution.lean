import EmbeddedFilters.Proofs.Outcome
import EmbeddedFilters.Proofs.Tables
import EmbeddedFilters.Workbench.Exchange

/-!
# Running operations

What an operation on the workbench comes to, and where it leaves the workbench (`Bench.exec`), one
equation for each way of putting operations together. A relation between a workbench and a later one
that is reflexive and transitive holds of an operation if it holds of its parts (`Bench.Within.bind`
and the rules beside it); an operation that only reads leaves the workbench as it is
(`Bench.Reads`).
-/

namespace EmbeddedFilters

namespace Bench

variable {α β : Type}

/-- The result of an operation, and the workbench afterwards. -/
def exec (act : Bench α) (w : Workbench) : Except Fault α × Workbench := act.run.run w

/-- To give a value changes nothing. -/
@[simp] lemma exec_pure (a : α) (w : Workbench) : (pure a : Bench α).exec w = (.ok a, w) := rfl

/-- The workbench is read as it is. -/
@[simp] lemma exec_get (w : Workbench) : (get : Bench Workbench).exec w = (.ok w, w) := rfl

/-- To modify the workbench gives a value and leaves another workbench. -/
@[simp] lemma exec_modifyGet (f : Workbench → α × Workbench) (w : Workbench) :
    (modifyGet f : Bench α).exec w = (.ok (f w).1, (f w).2) := rfl

/-- A chain goes on where its first part has ended with a result. -/
lemma exec_bind (x : Bench α) (f : α → Bench β) (w : Workbench) :
    (x >>= f).exec w = match x.exec w with
      | (.ok a, w) => (f a).exec w
      | (.error e, w) => (.error e, w) := by
  refine (Outcome.run_bind x f w).trans ?_
  unfold exec
  obtain ⟨_ | _, _⟩ : Except Fault α × Workbench := x.run.run w <;> rfl

/-- What an operation has done until it fails stays done when the failure is caught. -/
lemma exec_tryCatch (x : Bench α) (h : Fault → Bench α) (w : Workbench) :
    (tryCatch x h).exec w = match x.exec w with
      | (.ok a, w) => (.ok a, w)
      | (.error e, w) => (h e).exec w := by
  show ((ExceptT.tryCatch x h).run.run w : Except Fault α × Workbench) = _
  unfold ExceptT.tryCatch
  rw [ExceptT.run_mk, StateT.run_bind]
  cases hx : x.exec w with
  | mk r w' =>
    have hrun : StateT.run x w = (r, w') := hx
    rw [hrun]
    cases r <;> rfl

/-- A chain goes on on the workbench that its first part has left. -/
lemma exec_bind_ok {x : Bench α} {w w' : Workbench} {a : α} (h : x.exec w = (.ok a, w'))
    (f : α → Bench β) : (x >>= f).exec w = (f a).exec w' := by
  rw [exec_bind, h]

/-- A chain ends with the failure of its first part. -/
lemma exec_bind_error {x : Bench α} {w w' : Workbench} {e : Fault}
    (h : x.exec w = (.error e, w')) (f : α → Bench β) :
    (x >>= f).exec w = (.error e, w') := by
  rw [exec_bind, h]

/-- A chain that has given a result has gone through its first part. -/
lemma exec_bind_eq_ok {x : Bench α} {f : α → Bench β} {w w' : Workbench} {b : β} :
    (x >>= f).exec w = (.ok b, w') ↔ ∃ a v, x.exec w = (.ok a, v) ∧ (f a).exec v = (.ok b, w') := by
  rw [exec_bind]
  constructor
  · intro h
    cases hx : x.exec w with
    | mk r v =>
      rw [hx] at h
      cases r with
      | ok a => exact ⟨a, v, rfl, h⟩
      | error e => cases h
  · rintro ⟨a, v, hx, hf⟩
    rw [hx]
    exact hf

/-- What is there is found. -/
@[simp] lemma exec_found_some (field : String) (a : α) (w : Workbench) :
    (found field (some a)).exec w = (.ok a, w) := rfl

/-- What is not there is no object. -/
@[simp] lemma exec_found_none (field : String) (w : Workbench) :
    (found field (none : Option α)).exec w = (.error (.noObject field), w) := rfl

/-- A result of a filter is handed on. -/
@[simp] lemma exec_ofFilter_ok (a : α) (w : Workbench) :
    (ofFilter (.ok a)).exec w = (.ok a, w) := rfl

/-! ### Operations that read -/

/-- The operation leaves the workbench as it is. -/
def Reads (x : Bench α) : Prop := ∀ w, (x.exec w).2 = w

namespace Reads

/-- To give a value only reads. -/
lemma pure (a : α) : Reads (Pure.pure a) := fun _ => rfl

/-- To fail only reads. -/
lemma throw (e : Fault) : Reads (throw e : Bench α) := fun _ => rfl

/-- To look at the workbench only reads. -/
lemma get : Reads (get : Bench Workbench) := fun _ => rfl

/-- A chain only reads if both of its parts do. -/
lemma bind {x : Bench α} {f : α → Bench β} (hx : Reads x) (hf : ∀ a, Reads (f a)) :
    Reads (x >>= f) := by
  intro w
  have hw := hx w
  rw [exec_bind]
  cases h : x.exec w with
  | mk r w' =>
    rw [h] at hw
    cases r with
    | ok a => exact (hf a w').trans hw
    | error e => exact hw

/-- To insist that something is there only reads. -/
lemma found (field : String) (o : Option α) : Reads (found field o) := by
  cases o <;> exact fun _ => rfl

/-- To hand on the outcome of a filter only reads. -/
lemma ofFilter (x : Except FilterError α) : Reads (ofFilter x) := by
  cases x <;> exact fun _ => rfl

/-- To hand on the outcome of a link only reads. -/
lemma ofLink (x : Except LinkError α) : Reads (ofLink x) := by
  cases x <;> exact fun _ => rfl

/-- To hand on the outcome of a check of settings only reads. -/
lemma ofConfig (x : Except ConfigError α) : Reads (ofConfig x) := by
  cases x <;> exact fun _ => rfl

/-- To hand on the outcome of an exchange only reads. -/
lemma exchanged (x : Except LinkError α) : Reads (exchanged x) := by
  cases x <;> exact fun _ => rfl

/-- To read a text leaves the workbench. -/
lemma ofText (decoder : Json.Decoder α) (text : String) : Reads (ofText decoder text) := by
  unfold Bench.ofText
  split <;> exact fun _ => rfl

/-- To look something up only reads. -/
lemma lookup (field : String) (f : Workbench → Option α) :
    Reads (do Bench.found field (f (← MonadState.get))) := bind get fun _ => found _ _

/-- Operations in turn only read if each of them does. -/
lemma mapM {list : List α} {f : α → Bench β} (hf : ∀ a, Reads (f a)) : Reads (list.mapM f) := by
  induction list with
  | nil => exact pure _
  | cons a list ih =>
    rw [List.mapM_cons]
    exact bind (hf a) fun _ => bind ih fun _ => pure _

/-- An operation that may be left out only reads if it does. -/
lemma optionMapM {o : Option α} {f : α → Bench β} (hf : ∀ a, Reads (f a)) : Reads (o.mapM f) := by
  cases o with
  | none => exact pure _
  | some a => exact bind (hf a) fun _ => pure _

/-- Asking a question of each of a list only reads if the question does. -/
lemma filterM {list : List α} {f : α → Bench Bool} (hf : ∀ a, Reads (f a)) :
    Reads (list.filterM f) := by
  have haux : ∀ kept, Reads (List.filterAuxM f list kept) := by
    induction list with
    | nil => exact fun kept => pure _
    | cons a list ih => exact fun kept => bind (hf a) fun b => ih _
  exact bind (haux []) fun _ => pure _

end Reads

/-- Looking up a filter only reads. -/
lemma reads_filter (n : Nat) : Reads (filter n) := Reads.lookup _ _

/-- Looking up a link only reads. -/
lemma reads_link (n : LinkNumber) : Reads (link n) := Reads.lookup _ _

/-- Looking up a loop only reads. -/
lemma reads_loop (n : Nat) : Reads (loop n) := Reads.lookup _ _

/-- Looking up the number of a loop only reads. -/
lemma reads_loopNumber (name : String) : Reads (loopNumber name) := Reads.lookup _ _

/-- Looking up the number of a link only reads. -/
lemma reads_linkNumber (name : String) : Reads (linkNumber name) := Reads.lookup _ _

/-- Looking up the number of a filter only reads. -/
lemma reads_filterNumber (name : String) : Reads (filterNumber name) :=
  (Reads.lookup _ fun w => w.names.filters.get? name).bind fun _ => Reads.pure _

/-- Looking up a remote filter only reads. -/
lemma reads_remoteFilter (n : Nat) : Reads (remoteFilter n) := by
  refine (reads_filter n).bind fun f => ?_
  cases f
  · exact Reads.throw _
  · exact Reads.pure _

/-- Looking up an advertisement only reads. -/
lemma reads_advertisement (source : AdvertisementSource) : Reads (advertisement source) := by
  cases source
  · exact Reads.ofText _ _
  · exact Reads.lookup _ _

/-- What has been looked up is there. -/
lemma of_lookup (look : Workbench → Option α) {field : String} {a : α} {w w' : Workbench}
    (h : (do found field (look (← get)) : Bench α).exec w = (.ok a, w')) :
    w' = w ∧ look w = some a := by
  rw [exec_bind_ok (exec_get w)] at h
  cases hlook : look w with
  | none =>
    rw [hlook] at h
    cases h
  | some b =>
    rw [hlook, exec_found_some] at h
    cases h
    exact ⟨rfl, rfl⟩

/-- A filter that has been looked up is there, and nothing has changed. -/
lemma get?_of_filter {n : Nat} {w w' : Workbench} {f : Filter}
    (h : (filter n).exec w = (.ok f, w')) : w' = w ∧ w.filters.get? n = some f :=
  of_lookup (fun w => w.filters.get? n) h

/-- A remote filter that has been looked up is there, and nothing has changed. -/
lemma get?_of_remoteFilter {n : Nat} {w w' : Workbench} {f : RemoteFilter}
    (h : (remoteFilter n).exec w = (.ok f, w')) :
    w' = w ∧ w.filters.get? n = some (.remote f) := by
  obtain ⟨g, v, hg, h⟩ := exec_bind_eq_ok.mp h
  obtain ⟨rfl, hget⟩ := get?_of_filter hg
  cases g with
  | offline g => cases h
  | remote g =>
    cases h
    exact ⟨rfl, hget⟩

/-- What is there is looked up. -/
lemma exec_lookup {w : Workbench} (look : Workbench → Option α) {a : α} (h : look w = some a)
    (field : String) : (do found field (look (← get)) : Bench α).exec w = (.ok a, w) := by
  rw [exec_bind_ok (exec_get w), h]
  rfl

/-- What is not there cannot be looked up. -/
lemma exec_lookup_none {w : Workbench} (look : Workbench → Option α) (h : look w = none)
    (field : String) :
    (do found field (look (← get)) : Bench α).exec w = (.error (.noObject field), w) := by
  rw [exec_bind_ok (exec_get w), h, exec_found_none]

/-- A filter that is there is looked up. -/
lemma exec_filter {n : Nat} {w : Workbench} {f : Filter} (h : w.filters.get? n = some f) :
    (filter n).exec w = (.ok f, w) := exec_lookup (fun w => w.filters.get? n) h _

/-- The number of a filter is looked up under its name. -/
lemma exec_filterNumber {name : String} {w : Workbench} {h : FilterHandle}
    (hname : w.names.filters.get? name = some h) :
    (filterNumber name).exec w = (.ok h.number, w) :=
  exec_bind_ok (exec_lookup (fun w => w.names.filters.get? name) hname _) _

/-- A remote filter that is there is looked up. -/
lemma exec_remoteFilter {n : Nat} {w : Workbench} {f : RemoteFilter}
    (h : w.filters.get? n = some (.remote f)) : (remoteFilter n).exec w = (.ok f, w) := by
  rw [remoteFilter, exec_bind_ok (exec_filter h)]
  rfl

/-- The proxy of a remote filter is changed in its place. -/
lemma exec_changeProxy {n : Nat} {w : Workbench} {f : RemoteFilter}
    (h : w.filters.get? n = some (.remote f)) (change : RemoteProxy → RemoteProxy) :
    (changeProxy n change).exec w = (.ok (),
      { w with filters := w.filters.put n (.remote { f with proxy := change f.proxy }) }) :=
  exec_bind_ok (exec_remoteFilter h) _

/-- What is prepared of a write to a remote filter is carried over the link. -/
lemma exec_writeOption {n : Nat} {w : Workbench} {f : RemoteFilter}
    (h : w.filters.get? n = some (.remote f)) (id : OptionId) (value : OptionValue) :
    (writeOption n id value).exec w =
      (ofFilter (f.prepareOption id value) >>= carry (changeProxy n)).exec w :=
  exec_bind_ok (exec_filter h) _

/-- A remote filter prepares the bytes, and what it has prepared is carried out. -/
lemma exec_writeBytes {n : Nat} {w : Workbench} {f : RemoteFilter}
    (h : w.filters.get? n = some (.remote f)) (bytes : List UInt8) :
    (writeBytes n bytes).exec w =
      (ofFilter (f.prepareBytes bytes) >>= carry (changeProxy n)).exec w :=
  exec_bind_ok (exec_filter h) _

/-- A write is settled after an exchange that has gone well. -/
lemma exec_carryBy_ok {exchange : Bench (Except LinkError Unit)} {w v : Workbench}
    (h : exchange.exec w = (.ok (.ok ()), v)) (change : (RemoteProxy → RemoteProxy) → Bench Unit)
    (s : Submission) :
    (carryBy exchange change s).exec w = (change fun p => p.settle s).exec v := by
  rw [carryBy, exec_bind, exec_tryCatch, h]
  rfl

/-- A write fails with the error of the link. -/
lemma exec_carryBy_error {exchange : Bench (Except LinkError Unit)} {w v : Workbench}
    {e : LinkError} (h : exchange.exec w = (.ok (.error e), v))
    (change : (RemoteProxy → RemoteProxy) → Bench Unit) (s : Submission) :
    (carryBy exchange change s).exec w = (.error (.filter e.toFilterError), v) := by
  rw [carryBy, exec_bind, exec_tryCatch, h]
  rfl

/-- An operation whose result is replaced by one that says nothing. -/
lemma exec_unit (x : Bench Unit) (b : β) (w : Workbench) :
    (do let _ ← (do x; pure b); pure () : Bench Unit).exec w = x.exec w := by
  rw [exec_bind, exec_bind]
  cases x.exec w with
  | mk r w' => cases r <;> rfl

/-! ### Relations between a workbench and a later one -/

/-- A way in which a workbench can go on: it may stay as it is, and go on after it has gone on. -/
class Course (R : Workbench → Workbench → Prop) : Prop where
  refl (w : Workbench) : R w w
  trans {u v w : Workbench} : R u v → R v w → R u w

/-- The operation takes the workbench along a course. -/
def Within (R : Workbench → Workbench → Prop) (x : Bench α) (w : Workbench) : Prop :=
  R w (x.exec w).2

namespace Within

variable {R : Workbench → Workbench → Prop} [Course R] {w : Workbench}

/-- An operation that only reads keeps to any course. -/
lemma of_reads {x : Bench α} (hx : Reads x) : Within R x w := by
  unfold Within
  rw [hx w]
  exact Course.refl w

/-- To give a value keeps to any course. -/
lemma pure (a : α) : Within R (Pure.pure a) w := of_reads (.pure a)

/-- To fail keeps to any course. -/
lemma throw (e : Fault) : Within R (throw e : Bench α) w := of_reads (.throw e)

/-- A chain keeps to a course if both parts do. -/
lemma bind {x : Bench α} {f : α → Bench β} (hx : Within R x w)
    (hf : ∀ a w', x.exec w = (.ok a, w') → Within R (f a) w') : Within R (x >>= f) w := by
  unfold Within at hx ⊢
  rw [exec_bind]
  cases h : x.exec w with
  | mk r w' =>
    rw [h] at hx
    cases r with
    | ok a => exact Course.trans hx (hf a w' h)
    | error e => exact hx

/-- A chain keeps to a course if its second part does, where the first part only reads. -/
lemma bind_reads {x : Bench α} {f : α → Bench β} (hx : Reads x)
    (hf : ∀ a, x.exec w = (.ok a, w) → Within R (f a) w) : Within R (x >>= f) w := by
  refine bind (of_reads hx) fun a w' h => ?_
  have hw : w' = w := by simpa [h] using hx w
  subst hw
  exact hf a h

/-- A chain that checks something of a filter first keeps to a course if the rest does. -/
lemma bind_ofFilter {x : Except FilterError α} {f : α → Bench β}
    (hf : ∀ a, x = .ok a → Within R (f a) w) : Within R (Bench.ofFilter x >>= f) w := by
  refine bind_reads (.ofFilter x) fun a ha => hf a ?_
  cases x with
  | ok b =>
    cases ha
    rfl
  | error e => cases ha

/-- A chain that looks a filter up first keeps to a course if the rest does. -/
lemma bind_filter {n : Nat} {f : Filter → Bench β}
    (hf : ∀ g, w.filters.get? n = some g → Within R (f g) w) : Within R (Bench.filter n >>= f) w :=
  bind_reads (reads_filter n) fun g hg => hf g (get?_of_filter hg).2

/-- A chain that looks a remote filter up first keeps to a course if the rest does. -/
lemma bind_remoteFilter {n : Nat} {f : RemoteFilter → Bench β}
    (hf : ∀ g, w.filters.get? n = some (.remote g) → Within R (f g) w) :
    Within R (Bench.remoteFilter n >>= f) w :=
  bind_reads (reads_remoteFilter n) fun g hg => hf g (get?_of_remoteFilter hg).2

/-- An operation keeps to its course if its value is thrown away. -/
lemma ignored {x : Bench α} (hx : Within R x w) : Within R (do let _ ← x) w :=
  bind hx fun _ _ _ => pure _

/-- An operation on a filter by name keeps to a course if it does on every number. -/
lemma named {name : String} {f : Nat → Bench β} (hf : ∀ n, Within R (f n) w) :
    Within R (filterNumber name >>= f) w :=
  bind_reads (reads_filterNumber name) fun n _ => hf n

/-- The rest of a chain keeps to a course after the first part. -/
lemma after {x : Bench α} {f : α → Bench β} (hf : ∀ a w', Within R (f a) w') :
    R (x.exec w).2 ((x >>= f).exec w).2 := by
  rw [exec_bind]
  cases h : x.exec w with
  | mk r w' =>
    cases r with
    | ok a => exact hf a w'
    | error e => exact Course.refl w'

/-- A handler of failures keeps to a course after the operation. -/
lemma afterCatch {x : Bench α} {h : Fault → Bench α} (hh : ∀ e w', Within R (h e) w') :
    R (x.exec w).2 ((MonadExcept.tryCatch x h).exec w).2 := by
  rw [exec_tryCatch]
  cases hr : x.exec w with
  | mk r w' =>
    cases r with
    | ok a => exact Course.refl w'
    | error e => exact hh e w'

/-- An operation keeps to a course if it does, and whatever is done when it fails. -/
lemma tryCatch {x : Bench α} {h : Fault → Bench α} (hx : Within R x w)
    (hh : ∀ e w', x.exec w = (.error e, w') → Within R (h e) w') :
    Within R (tryCatch x h) w := by
  unfold Within at hx ⊢
  rw [exec_tryCatch]
  cases hr : x.exec w with
  | mk r w' =>
    rw [hr] at hx
    cases r with
    | ok a => exact hx
    | error e => exact Course.trans hx (hh e w' hr)

/-- Operations in turn keep to a course if each of them does. -/
lemma forM {list : List α} {f : α → Bench Unit} (hf : ∀ a ∈ list, ∀ w, Within R (f a) w) :
    Within R (list.forM f) w := by
  induction list generalizing w with
  | nil => exact pure ()
  | cons a list ih =>
    refine bind (hf a List.mem_cons_self w) fun _ w' _ => ?_
    exact ih fun b hb => hf b (List.mem_cons_of_mem _ hb)

/-- An operation that may be left out keeps to a course if it does. -/
lemma optionForM {o : Option α} {f : α → Bench Unit} (hf : ∀ a, o = some a → Within R (f a) w) :
    Within R (o.forM f) w := by
  cases o with
  | none => exact pure ()
  | some a => exact hf a rfl

/-- Operations in turn that give values keep to a course if each of them does. -/
lemma mapM {list : List α} {f : α → Bench β} (hf : ∀ a ∈ list, ∀ w, Within R (f a) w) :
    Within R (list.mapM f) w := by
  induction list generalizing w with
  | nil => exact pure _
  | cons a list ih =>
    rw [List.mapM_cons]
    refine bind (hf a List.mem_cons_self w) fun _ w' _ => ?_
    refine bind (ih fun b hb => hf b (List.mem_cons_of_mem _ hb)) fun _ _ _ => ?_
    exact pure _

/-- Operations that pass a value on keep to a course if each of them does. -/
lemma foldlM {list : List α} {f : β → α → Bench β} {b : β}
    (hf : ∀ b, ∀ a ∈ list, ∀ w, Within R (f b a) w) : Within R (list.foldlM f b) w := by
  induction list generalizing b w with
  | nil => exact pure _
  | cons a list ih =>
    rw [List.foldlM_cons]
    refine bind (hf b a List.mem_cons_self w) fun c w' _ => ?_
    exact ih fun c a ha => hf c a (List.mem_cons_of_mem _ ha)

/-- A loop keeps to a course if each of its rounds does. -/
lemma forIn {list : List α} {f : α → β → Bench (ForInStep β)} {b : β}
    (hf : ∀ a ∈ list, ∀ b w, Within R (f a b) w) : Within R (ForIn.forIn list b f) w := by
  induction list generalizing b w with
  | nil => exact pure _
  | cons a list ih =>
    rw [List.forIn_cons]
    refine bind (hf a List.mem_cons_self b w) fun next w' _ => ?_
    cases next with
    | done b => exact pure b
    | yield b => exact ih fun c hc => hf c (List.mem_cons_of_mem _ hc)

/-- An operation whose failure is given as a value keeps to its course. -/
lemma attempt {x : Bench α} (hx : Within R x w) : Within R (attempt x) w := by
  refine tryCatch ?_ fun e w' _ => ?_
  · refine bind hx fun a w' _ => ?_
    exact pure _
  · cases e with
    | filter e => exact pure _
    | _ => exact throw _

end Within

end Bench

end EmbeddedFilters
