import EmbeddedFilters.Proofs.Workbench.Commands

/-!
# The order of values

Values stand in the order of the declarations wherever a filter has been made for an advertisement,
and in every record that has been stated part by part. Only the values of a record may be replaced,
by values in whatever order, and a filter that is declared from the record then has that order for
good. So a filter whose values are out of order has been declared from a record that had been
reordered before (`Workbench.orderKnown_run`).

The history of a run accounts for every order on the workbench (`Workbench.OrderKnown`): all
commands but two keep values in order (`Command.orderly_act`), and for those two the history holds
what they have done.
-/

namespace EmbeddedFilters

/-- Where all declared options have fixed numbers, each of them has a model. -/
lemma OptionModel.declarations_ofDeclarations {list : List Declaration}
    (h : ∀ d ∈ list, ∃ id, OptionId.ofName? d.name = some id) :
    (ofDeclarations list).map (·.declaration) = list := by
  induction list with
  | nil => rfl
  | cons d rest ih =>
    obtain ⟨id, hid⟩ := h d List.mem_cons_self
    have hrest := ih fun e he => h e (List.mem_cons_of_mem _ he)
    rw [ofDeclarations, List.filterMap_cons, hid, Option.map_some, List.map_cons]
    exact congrArg (d :: ·) hrest

namespace RemoteFilter

variable {f : RemoteFilter}

/-- A valid filter whose values stand in the order of its declarations declares the options of its
kind and no others. -/
lemma Valid.perm_declarations (h : f.Valid) (horder : f.proxy.record.InOrder) :
    (f.proxy.record.declarations.map (·.name)).Perm f.proxy.kind.optionNames := by
  obtain ⟨p, hp⟩ := h.proxy.params
  rw [← horder]
  exact Parameters.perm_of_ofOptions hp

/-- So it declares none without a fixed number, and all its options get models as it is
populated. -/
lemma Valid.declarations_ofDeclarations (h : f.Valid) (horder : f.proxy.record.InOrder) :
    (OptionModel.ofDeclarations f.proxy.record.declarations).map (·.declaration) =
      f.proxy.record.declarations :=
  OptionModel.declarations_ofDeclarations fun _ hd =>
    FilterKind.exists_id ((h.perm_declarations horder).mem_iff.mp (List.mem_map_of_mem hd))

end RemoteFilter

namespace Workbench

/-- Some command of the history has replaced the values of the record with a name by values in this
order. -/
def Reordered (history : List (Command × Bool)) (name : String) (order : List String) : Prop :=
  ∃ values leave, (Command.replaceValues name values, leave) ∈ history ∧
    Assignment.names values = order

/-- Some command of a run has given the filter with a number its record, under whose name values had
been replaced before by some in the order that the record has. -/
def DeclaredReordered (history : List (Command × Bool)) (n : Nat) (r : FilterRecord) : Prop :=
  ∃ before after name kind record topic leave origin,
    history = before ++ (.placeDeclared name kind record topic, leave) :: after ∧
      (({} : Workbench).run before).filters.next = n ∧
      (({} : Workbench).run before).names.records.get? record = some origin ∧ r.SameOrder origin ∧
      Reordered before record (Assignment.names origin.current)

/-- The history accounts for the order of all values: where they are not in the order of the
declarations, they have been put in their order. -/
structure OrderKnown (w : Workbench) (history : List (Command × Bool)) : Prop where
  filters : ∀ n f, w.filters.get? n = some (.remote f) →
    f.proxy.record.InOrder ∨ DeclaredReordered history n f.proxy.record
  records : ∀ name r, w.names.records.get? name = some r →
    r.InOrder ∨ Reordered history name (Assignment.names r.current)

variable {w w' : Workbench} {history : List (Command × Bool)}

/-- What has been reordered stays so whatever comes after. -/
lemma Reordered.append {name : String} {order : List String} (h : Reordered history name order)
    (later : List (Command × Bool)) : Reordered (history ++ later) name order := by
  obtain ⟨values, leave, hmem, horder⟩ := h
  exact ⟨values, leave, List.mem_append_left _ hmem, horder⟩

/-- What has been declared in another order has been so whatever follows. -/
lemma DeclaredReordered.append {n : Nat} {r : FilterRecord} (h : DeclaredReordered history n r)
    (later : List (Command × Bool)) : DeclaredReordered (history ++ later) n r := by
  obtain ⟨before, after, name, kind, record, topic, leave, origin, rfl, h⟩ := h
  refine ⟨before, after ++ later, name, kind, record, topic, leave, origin, ?_, h⟩
  rw [List.append_assoc, List.cons_append]

/-- Without any values replaced, no filter is declared from a record with values in another
order. -/
lemma DeclaredReordered.replaced {n : Nat} {r : FilterRecord} (h : DeclaredReordered history n r) :
    ∃ name values leave, (Command.replaceValues name values, leave) ∈ history := by
  obtain ⟨before, after, name, kind, record, topic, leave, origin, rfl, -, -, -, hreordered⟩ := h
  obtain ⟨values, leave, hmem, -⟩ := hreordered
  exact ⟨record, values, leave, List.mem_append_left _ hmem⟩

/-- A record in the same order is accounted for in the same way. -/
lemma DeclaredReordered.sameOrder {n : Nat} {r s : FilterRecord} (h : DeclaredReordered history n r)
    (hs : s.SameOrder r) : DeclaredReordered history n s := by
  obtain ⟨before, after, name, kind, record, topic, leave, origin, hhistory,
    hnext, hget, horigin, h⟩ := h
  exact ⟨before, after, name, kind, record, topic, leave, origin, hhistory, hnext, hget,
    hs.trans horigin, h⟩

/-- Order that is known stays known whatever follows. -/
lemma OrderKnown.append (h : w.OrderKnown history) (later : List (Command × Bool)) :
    w.OrderKnown (history ++ later) where
  filters n f hf := (h.filters n f hf).imp_right (·.append later)
  records name r hr := (h.records name r hr).imp_right (·.append later)

/-- What keeps values in order keeps them accounted for. -/
lemma OrderKnown.of_keepsOrder (h : w.OrderKnown history) (hkeeps : w.KeepsOrder w') :
    w'.OrderKnown history where
  filters n g hg := by
    obtain ⟨f, hf, hsame⟩ | hg := hkeeps.filters n g hg
    · exact (h.filters n f hf).imp hsame.inOrder (·.sameOrder hsame)
    · exact .inl hg
  records name r' hr' := by
    obtain ⟨r, hr, hsame⟩ | hr' := hkeeps.records name r' hr'
    · exact (h.records name r hr).imp hsame.inOrder fun h => hsame.names ▸ h
    · exact .inl hr'

/-! ### The two commands that reorder values -/

/-- The values of a record are replaced, if it is there. -/
lemma of_replaceValues (w : Workbench) (name : String) (values : List Assignment) :
    ((Command.replaceValues name values).act.exec w).2 = w ∨
      ∃ r, w.names.records.get? name = some r ∧ ((Command.replaceValues name values).act.exec w).2 =
        { w with names := { w.names with
          records := w.names.records.put name (r.withValues values) } } := by
  rw [Command.act, Bench.replaceValues, bind_assoc]
  cases hr : w.names.records.get? name with
  | none =>
    have hrecord : (Bench.record name).exec w = (.error (.noObject "state"), w) :=
      Bench.exec_lookup_none (fun w => w.names.records.get? name) hr _
    rw [Bench.exec_bind_error hrecord]
    exact .inl rfl
  | some r =>
    have hrecord : (Bench.record name).exec w = (.ok r, w) :=
      Bench.exec_lookup (fun w => w.names.records.get? name) hr _
    rw [Bench.exec_bind_ok hrecord]
    exact .inr ⟨r, rfl, rfl⟩

/-- A filter is declared from a record and added, and what comes after that keeps values in
order. -/
lemma of_placeDeclared (w : Workbench) (name : String) (kind : FilterKind) (record topic : String) :
    ((Command.placeDeclared name kind record topic).act.exec w).2 = w ∨
      ∃ r f, w.names.records.get? record = some r ∧ RemoteFilter.declare kind r topic = .ok f ∧
        ({ w with filters := (w.filters.add (.remote f)).2 } : Workbench).Orderly
          ((Command.placeDeclared name kind record topic).act.exec w).2 := by
  rw [Command.act, Bench.placeDeclared, bind_assoc, Bench.exec_bind_ok (Bench.exec_get w)]
  cases hr : w.names.records.get? record with
  | none => exact .inl rfl
  | some r =>
    cases hf : RemoteFilter.declare kind r topic with
    | error e =>
      left
      rw [bind_assoc, Bench.exec_bind_ok (Bench.exec_found_some _ _ _), hf]
      rfl
    | ok f =>
      refine .inr ⟨r, f, rfl, hf, ?_⟩
      rw [bind_assoc, Bench.exec_bind_ok (Bench.exec_found_some _ _ _), hf]
      have hnamed : Bench.Within Orderly
          (Bench.nameFilter name ⟨w.filters.next, true⟩ >>= fun _ => pure (Filter.remote f).summary)
          { w with filters := (w.filters.add (.remote f)).2 } :=
        Bench.Within.bind (Bench.orderly_nameFilter _ _) fun _ _ _ => Bench.Within.pure _
      exact Bench.Within.ignored hnamed

/-- What replaces the values of a record stands in the history from then on. -/
lemma OrderKnown.replaceValues (h : w.OrderKnown history) (name : String) (values : List Assignment)
    (leave : Bool) : ((Command.replaceValues name values).act.exec w).2.OrderKnown
      (history ++ [(.replaceValues name values, leave)]) := by
  have hlater := h.append [(Command.replaceValues name values, leave)]
  obtain hsame | ⟨r, -, hafter⟩ := of_replaceValues w name values
  · rw [hsame]
    exact hlater
  · rw [hafter]
    refine ⟨hlater.filters, fun other s hs => ?_⟩
    have hs : (w.names.records.put name (r.withValues values)).get? other = some s := hs
    rw [Table.get?_put] at hs
    split at hs
    · rename_i heq
      cases hs
      exact .inr ⟨values, leave, List.mem_append_right _ (heq ▸ List.mem_singleton_self _), rfl⟩
    · exact hlater.records other s hs

/-- A filter that is declared from a record has the order of that. -/
lemma OrderKnown.placeDeclared (hw : (({} : Workbench).run history).Sound)
    (h : (({} : Workbench).run history).OrderKnown history) (name : String) (kind : FilterKind)
    (record topic : String) (leave : Bool) :
    ((Command.placeDeclared name kind record topic).act.exec
      (({} : Workbench).run history)).2.OrderKnown
      (history ++ [(.placeDeclared name kind record topic, leave)]) := by
  have hlater := h.append [(Command.placeDeclared name kind record topic, leave)]
  obtain hsame | ⟨r, f, hr, hf, horderly⟩ :=
    of_placeDeclared (({} : Workbench).run history) name kind record topic
  · rw [hsame]
    exact hlater
  · obtain ⟨hvalid, -, rfl⟩ := RemoteFilter.declare_ok hf
    have hadded := (continues_add (f := .remote f) hvalid hw).1
    refine OrderKnown.of_keepsOrder ?_ (horderly hadded).2.2
    refine ⟨fun n g hg => ?_, hlater.records⟩
    have hg : ((({} : Workbench).run history).filters.add (.remote f)).2.get? n =
      some (.remote g) := hg
    rw [Pool.get?_add] at hg
    split at hg
    · rename_i heq
      cases hg
      refine (h.records record _ hr).imp_right fun hreordered => ?_
      exact ⟨history, [], name, kind, record, topic, leave, _, rfl,
        heq.symm, hr, .refl _, hreordered⟩
    · exact hlater.filters n g hg

/-- Every step accounts for the order of values in its turn. -/
lemma OrderKnown.step (hw : (({} : Workbench).run history).Sound)
    (h : (({} : Workbench).run history).OrderKnown history) (c : Command) (leave : Bool) :
    ((({} : Workbench).run history).step c.act leave).2.2.OrderKnown (history ++ [(c, leave)]) := by
  have hact : (c.act.exec (({} : Workbench).run history)).2.OrderKnown
      (history ++ [(c, leave)]) := by
    cases hc : c.reorders with
    | false => exact (h.append _).of_keepsOrder (Command.orderly_act hc hw).2.2
    | true =>
      cases c with
      | replaceValues name values => exact h.replaceValues name values leave
      | placeDeclared name kind record topic =>
        exact h.placeDeclared hw name kind record topic leave
      | _ => cases hc
  exact hact.of_keepsOrder (orderly_rest c.act leave (c.continues_act hw).1).2.2

/-- Whatever has been done, the order of all values is accounted for. -/
lemma orderKnown_run (commands : List (Command × Bool)) :
    (({} : Workbench).run commands).OrderKnown commands := by
  induction commands using List.reverseRecOn with
  | nil =>
    refine ⟨fun n f h => ?_, fun name r h => ?_⟩
    · cases h
    · cases h
  | append_singleton history c ih =>
    rw [run_append]
    exact ih.step (Reachable.start.run history).sound c.1 c.2

/-- So every option that a filter declares gets its model, unless the filter has been declared from
a record that had been reordered. -/
lemma declarations_models_run (commands : List (Command × Bool)) {n : Nat} {f : RemoteFilter}
    (hget : (({} : Workbench).run commands).filters.get? n = some (.remote f)) :
    (OptionModel.ofDeclarations f.proxy.record.declarations).map (·.declaration) =
        f.proxy.record.declarations ∨
      DeclaredReordered commands n f.proxy.record := by
  have hvalid : f.Valid := ((Reachable.start.run commands).sound.filters n _ hget).2
  exact ((orderKnown_run commands).filters n f hget).imp_left hvalid.declarations_ofDeclarations

end Workbench

end EmbeddedFilters
