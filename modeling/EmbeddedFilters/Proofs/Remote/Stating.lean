import EmbeddedFilters.Parameters.Temporal
import EmbeddedFilters.Remote.Record
import Mathlib.Data.List.Basic

/-!
# Parts that are stated once

A record is asked to take over its name, kind, options and stream, to merge updates and to replace
its values (`FilterRecord.Operation`). A part is taken over if it is not there yet; otherwise it is
refused, and the record is left as it was (`FilterRecord.state_of_none`,
`FilterRecord.state_of_isSome`). All other operations leave the parts alone, so whatever a record is
asked, each part is what has been stated of it first (`FilterRecord.parts_are_stated_once`).
-/

namespace EmbeddedFilters.FilterRecord

open Json

/-- What a record is asked to do. -/
inductive Operation where
  | setName (name : String)
  | setKind (kind : FilterKind)
  | declare (declarations : List Declaration)
  | setStream (stream : Value)
  | merge (updates : List Assignment)
  | replace (values : List Assignment)

/-- What a record gives where it does as it is asked. -/
inductive Reply where
  | stated
  | merged (values : List Assignment)
  | changed (options : List ChangedOption)

/-- What an operation states of a part. -/
def Operation.stated? : Operation → (part : RecordPart) → Option part.Content
  | .setName name, .name => some name
  | .setKind kind, .kind => some kind
  | .declare declarations, .options => some declarations
  | .setStream stream, .stream => some stream
  | _, _ => none

/-- The answer to a statement, and the record afterwards. -/
def answered (outcome : Except FilterError Unit × FilterRecord) :
    Except FilterError Reply × FilterRecord :=
  (outcome.1.map fun _ => .stated, outcome.2)

/-- Does what is asked. -/
def perform (r : FilterRecord) : Operation → Except FilterError Reply × FilterRecord
  | .setName name => answered (r.setName name)
  | .setKind kind => answered (r.setKind kind)
  | .declare declarations => answered (r.declare declarations)
  | .setStream stream => answered (r.setStream stream)
  | .merge updates => ((r.merge updates).map .merged, r)
  | .replace values => (.ok (.changed (r.changed values)), r.withValues values)

/-- The record after all that it has been asked. -/
def run (r : FilterRecord) (operations : List Operation) : FilterRecord :=
  operations.foldl (fun r operation => (r.perform operation).2) r

variable {r : FilterRecord} {part other : RecordPart}
  {content : part.Content} {operation : Operation}

/-! ### One statement -/

/-- A part that has been put into a record is there. -/
lemma part?_withPart_self (r : FilterRecord) (part : RecordPart) (content : part.Content) :
    (r.withPart part content).part? part = some content := by
  cases part <;> rfl

/-- Putting a part into a record leaves the others. -/
lemma part?_withPart_of_ne (h : other ≠ part) (r : FilterRecord) (content : part.Content) :
    (r.withPart part content).part? other = r.part? other := by
  cases part <;> cases other <;> first | rfl | exact absurd rfl h

/-- A part that is there cannot be stated again. -/
lemma state_of_isSome (h : (r.part? part).isSome = true) (content : part.Content) :
    r.state part content = (.error (r.already part), r) := by
  rw [state, if_pos h]

/-- A part that is not there can be stated. -/
lemma state_of_none (h : r.part? part = none) (content : part.Content) :
    r.state part content = (.ok (), r.withPart part content) := by
  rw [state, h]
  rfl

/-- To state a part fills it in unless it is there. -/
lemma part?_state_self (r : FilterRecord) (part : RecordPart) (content : part.Content) :
    (r.state part content).2.part? part = (r.part? part).or (some content) := by
  cases hold : r.part? part with
  | some old =>
    rw [state_of_isSome (by rw [hold]; rfl)]
    exact hold
  | none =>
    rw [state_of_none hold]
    exact r.part?_withPart_self part content

/-- The other parts are left alone. -/
lemma part?_state_of_ne (r : FilterRecord) (part : RecordPart) (content : part.Content)
    (h : other ≠ part) :
    (r.state part content).2.part? other = r.part? other := by
  unfold state
  split
  · rfl
  · exact part?_withPart_of_ne h r content

/-- Only options have values. -/
lemma current_state_of_ne (r : FilterRecord) (part : RecordPart) (content : part.Content)
    (h : part ≠ .options) :
    (r.state part content).2.current = r.current := by
  unfold state
  split
  · rfl
  · cases part with
    | options => exact absurd rfl h
    | name | kind | stream => rfl

/-! ### One operation -/

/-- All operations that state a part do it in the same way. -/
lemma perform_of_stated (h : operation.stated? part = some content) (r : FilterRecord) :
    r.perform operation = answered (r.state part content) := by
  cases operation <;> cases part <;> cases h <;> rfl

/-- An operation leaves alone what it does not state. -/
lemma part?_perform_of_unstated (h : operation.stated? part = none) (r : FilterRecord) :
    (r.perform operation).2.part? part = r.part? part := by
  cases operation with
  | setName name => exact r.part?_state_of_ne .name name (by rintro rfl; cases h)
  | setKind kind => exact r.part?_state_of_ne .kind kind (by rintro rfl; cases h)
  | declare declarations => exact r.part?_state_of_ne .options declarations (by rintro rfl; cases h)
  | setStream stream => exact r.part?_state_of_ne .stream stream (by rintro rfl; cases h)
  | merge => rfl
  | replace => cases part <;> rfl

/-- A part that is there stays what it is, and one that is not there is what is stated. -/
lemma part?_perform (r : FilterRecord) (operation : Operation) (part : RecordPart) :
    (r.perform operation).2.part? part = (r.part? part).or (operation.stated? part) := by
  cases hstated : operation.stated? part with
  | some content =>
    rw [perform_of_stated hstated]
    exact r.part?_state_self part content
  | none =>
    rw [part?_perform_of_unstated hstated, Option.or_none]

/-- The values are replaced, or they are those of options that had not been declared. -/
lemma current_perform (r : FilterRecord) (operation : Operation) :
    (r.perform operation).2.current = r.current ∨
      (∃ values, operation = .replace values ∧ (r.perform operation).2.current = values) ∨
      ∃ declarations, operation = .declare declarations ∧ r.declarations? = none ∧
        (r.perform operation).2.current = declarations.map Declaration.assignment := by
  cases operation with
  | setName name => exact .inl (r.current_state_of_ne .name name (by decide))
  | setKind kind => exact .inl (r.current_state_of_ne .kind kind (by decide))
  | setStream stream => exact .inl (r.current_state_of_ne .stream stream (by decide))
  | merge => exact .inl rfl
  | replace values => exact .inr (.inl ⟨values, rfl, rfl⟩)
  | declare declarations =>
    show (r.state .options declarations).2.current = r.current ∨ _
    cases hold : r.part? .options with
    | some old => exact .inl (by rw [state_of_isSome (by rw [hold]; rfl)])
    | none =>
      refine .inr (.inr ⟨declarations, rfl, hold, ?_⟩)
      show (r.state .options declarations).2.current = _
      rw [state_of_none hold]
      rfl

/-! ### Runs -/

/-- After any operations a part is as it was, or as the first of them to state it has it. -/
lemma part?_run (r : FilterRecord) (operations : List Operation) (part : RecordPart) :
    (r.run operations).part? part =
      (r.part? part).or (operations.findSome? fun o => o.stated? part) := by
  induction operations generalizing r with
  | nil => exact (Option.or_none ..).symm
  | cons operation operations ih =>
    show ((r.perform operation).2.run operations).part? part = _
    rw [ih, part?_perform, Option.or_assoc, List.findSome?_cons]
    cases operation.stated? part <;> rfl

/-- A record is declared exactly if its name, its kind and its options have been stated. -/
lemma isDeclared_eq_true : r.isDeclared = true ↔
    ∀ part ∈ [RecordPart.name, .kind, .options], (r.part? part).isSome = true := by
  simp [isDeclared, part?, and_assoc]

/-- Whatever a record has been asked, each part is what it was at first, or what has been stated of
it first, and stays so whatever is asked afterwards. To state a part that is there fails and changes
nothing; to state one that is not there succeeds, and changes no other part; to merge or to replace
values changes no part. The values themselves are only replaced, or taken from options that had not
been declared. The record is declared if and only if its name, kind and options were there or have
been stated. -/
theorem parts_are_stated_once (r : FilterRecord) (earlier later : List Operation) :
    let s := r.run earlier
    (∀ part, s.part? part = (r.part? part).or (earlier.findSome? fun o => o.stated? part)) ∧
      (∀ part content, s.part? part = some content → (s.run later).part? part = some content) ∧
      (∀ operation part, (operation.stated? part).isSome = true → (s.part? part).isSome = true →
        s.perform operation = (.error (.alreadyInitialized (s.name?.getD "") part.label), s)) ∧
      (∀ operation part content, operation.stated? part = some content → s.part? part = none →
        (s.perform operation).1 = .ok .stated ∧ (s.perform operation).2.part? part = some content) ∧
      (∀ operation part, operation.stated? part = none →
        (s.perform operation).2.part? part = s.part? part) ∧
      (∀ operation, (s.perform operation).2.current = s.current ∨
        (∃ values, operation = .replace values ∧ (s.perform operation).2.current = values) ∨
        ∃ declarations, operation = .declare declarations ∧ s.declarations? = none ∧
          (s.perform operation).2.current = declarations.map Declaration.assignment) ∧
      (s.isDeclared = true ↔ ∀ part ∈ [RecordPart.name, .kind, .options],
        (r.part? part).isSome = true ∨ ∃ o ∈ earlier, (o.stated? part).isSome = true) := by
  refine ⟨r.part?_run earlier, ?_, ?_, ?_, fun operation part h => part?_perform_of_unstated h _,
    (r.run earlier).current_perform, ?_⟩
  · intro part content hthere
    rw [part?_run, hthere, Option.some_or]
  · intro operation part hstates hthere
    obtain ⟨content, hcontent⟩ := Option.isSome_iff_exists.mp hstates
    rw [perform_of_stated hcontent, state_of_isSome hthere]
    rfl
  · intro operation part content hcontent hnone
    rw [perform_of_stated hcontent, state_of_none hnone]
    exact ⟨rfl, part?_withPart_self _ part content⟩
  · rw [isDeclared_eq_true]
    refine forall₂_congr fun part _ => ?_
    rw [part?_run, Option.isSome_or, Bool.or_eq_true, List.isSome_findSome?, List.any_eq_true]

/-- A record is given a name, options, values and then its kind. -/
def someStatements : List Operation :=
  [.setName "depth", .declare Temporal.declarations,
    .replace [⟨"Delta", .int 35⟩], .setKind .temporal]

/-- The record is declared. It refuses other options and keeps its values; a stream it still
takes. -/
theorem someStatements_are_kept :
    (run {} someStatements).name? = some "depth" ∧
      ((run {} someStatements).run [.declare [], .setStream .null]).declarations? =
        some Temporal.declarations ∧
      (run {} someStatements).perform (.declare []) =
        (.error (.alreadyInitialized "depth" "options"), run {} someStatements) ∧
      (run {} someStatements).current = [⟨"Delta", .int 35⟩] ∧
      ((run {} someStatements).perform (.setStream .null)).1 = .ok .stated ∧
      (run {} someStatements).isDeclared = true := by
  obtain ⟨hparts, hkept, hrefused, htaken, -, -, hdeclared⟩ :=
    parts_are_stated_once {} someStatements [.declare [], .setStream .null]
  have hname : (run {} someStatements).name? = some "depth" := hparts .name
  have hoptions : (run {} someStatements).part? .options = some Temporal.declarations :=
    hparts .options
  have hrefuses := hrefused (.declare []) .options rfl (by rw [hoptions]; rfl)
  rw [hname] at hrefuses
  have hstream := htaken (.setStream .null) .stream .null rfl (hparts .stream)
  exact ⟨hname, hkept .options _ hoptions, hrefuses, rfl, hstream.1, hdeclared.mpr (by decide)⟩

end EmbeddedFilters.FilterRecord
