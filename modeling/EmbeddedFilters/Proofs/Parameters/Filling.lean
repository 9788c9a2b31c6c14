import EmbeddedFilters.Parameters
import Mathlib.Data.List.DropRight

/-!
# Buffers take all or nothing

A buffer is filled anew, or bytes are put behind those that it holds (`ParameterBuffer.Operation`).
It does what is asked if the outcome fits, and is left alone otherwise
(`ParameterBuffer.perform_of_fits`, `ParameterBuffer.perform_of_exceeds`). So it holds what the
accepted operations make of an unbounded list (`ParameterBuffer.bytes_run`), and that is the last
filling with all that has been put behind it (`ParameterBuffer.replay_eq`). Of the fields of
parameters a buffer takes as many as fit, up to the first that does not
(`ParameterBuffer.exists_longestRun`).
-/

namespace EmbeddedFilters

namespace ParameterBuffer

/-- What a buffer is asked to do. -/
inductive Operation where
  | fill (bytes : List UInt8)
  | push (byte : UInt8)
  | extend (bytes : List UInt8)

namespace Operation

/-- The bytes that take the place of all others. -/
def filling? : Operation → Option (List UInt8)
  | .fill bytes => some bytes
  | .push _ | .extend _ => none

/-- The bytes that are put behind the others. -/
def added : Operation → List UInt8
  | .fill _ => []
  | .push byte => [byte]
  | .extend bytes => bytes

/-- What an unbounded list of bytes becomes. -/
def outcome (o : Operation) (bytes : List UInt8) : List UInt8 := o.filling?.getD bytes ++ o.added

end Operation

/-- The buffer that an operation gives, if there is room. -/
def attempt (b : ParameterBuffer) : Operation → Except CapacityExceeded ParameterBuffer
  | .fill bytes => ofList bytes
  | .push byte => b.append [byte]
  | .extend bytes => b.append bytes

/-- Does what is asked, or leaves the buffer as it is. -/
def perform (b : ParameterBuffer) (o : Operation) :
    Except CapacityExceeded Unit × ParameterBuffer :=
  match b.attempt o with
  | .ok next => (.ok (), next)
  | .error e => (.error e, b)

/-- The buffer after all that it has been asked. -/
def run (b : ParameterBuffer) (operations : List Operation) : ParameterBuffer :=
  operations.foldl (fun b o => (b.perform o).2) b

/-- The operations that have succeeded, in their order. -/
def accepted (b : ParameterBuffer) : List Operation → List Operation
  | [] => []
  | o :: rest => (if (b.perform o).1.toBool then [o] else []) ++ (b.perform o).2.accepted rest

/-- What a list of bytes becomes by operations one after another. -/
def replay (bytes : List UInt8) (operations : List Operation) : List UInt8 :=
  operations.foldl (fun bytes o => o.outcome bytes) bytes

/-- The bytes that the last filling has put there, if any. -/
def lastFilling (bytes : List UInt8) (operations : List Operation) : List UInt8 :=
  (operations.reverse.findSome? Operation.filling?).getD bytes

/-- The bytes that have been added since the last filling, in their order. -/
def addedSince (operations : List Operation) : List UInt8 :=
  (operations.rtakeWhile fun o => o.filling?.isNone).flatMap Operation.added

variable {b : ParameterBuffer} {o : Operation}

/-! ### Operations -/

/-- Attempting an operation comes to turning the bytes that it makes into a buffer. -/
lemma attempt_eq (b : ParameterBuffer) (o : Operation) :
    b.attempt o = ofList (o.outcome b.bytes) := by
  cases o with
  | fill bytes =>
    show ofList bytes = ofList (bytes ++ [])
    rw [List.append_nil]
  | push | extend => rfl

/-- An operation whose bytes fit is performed. -/
lemma perform_of_fits (h : (o.outcome b.bytes).length ≤ bufferCapacity) :
    b.perform o = (.ok (), ⟨o.outcome b.bytes, h⟩) := by
  rw [perform, attempt_eq, ofList, dif_pos h]

/-- An operation whose bytes do not fit fails and leaves the buffer as it is. -/
lemma perform_of_exceeds (h : ¬ (o.outcome b.bytes).length ≤ bufferCapacity) :
    b.perform o = (.error ⟨(o.outcome b.bytes).length⟩, b) := by
  rw [perform, attempt_eq, ofList, dif_neg h]

/-- A buffer holds what the accepted operations make of an unbounded list. -/
lemma bytes_run (b : ParameterBuffer) (operations : List Operation) :
    (b.run operations).bytes = replay b.bytes (b.accepted operations) := by
  induction operations generalizing b with
  | nil => rfl
  | cons o rest ih =>
    show ((b.perform o).2.run rest).bytes = _
    rw [ih, accepted]
    by_cases h : (o.outcome b.bytes).length ≤ bufferCapacity
    · rw [perform_of_fits h]
      rfl
    · rw [perform_of_exceeds h]
      rfl

/-- The last filling of more operations is the new one, if there is one. -/
lemma lastFilling_concat (bytes : List UInt8) (operations : List Operation) (o : Operation) :
    lastFilling bytes (operations ++ [o]) = o.filling?.getD (lastFilling bytes operations) := by
  rw [lastFilling, lastFilling, List.reverse_append, List.findSome?_append]
  cases o <;> rfl

/-- What has been added since the last filling starts anew with a filling. -/
lemma addedSince_concat (operations : List Operation) (o : Operation) :
    addedSince (operations ++ [o]) = (if o.filling?.isNone then addedSince operations else []) ++
      o.added := by
  rw [addedSince, List.rtakeWhile_concat]
  cases o with
  | fill => rfl
  | push | extend =>
    show List.flatMap _ (_ ++ [_]) = addedSince operations ++ _
    rw [List.flatMap_append, List.flatMap_singleton, addedSince]

/-- Operations one after another leave the last filling, and behind it all that has been added
since. -/
lemma replay_eq (bytes : List UInt8) (operations : List Operation) :
    replay bytes operations = lastFilling bytes operations ++ addedSince operations := by
  induction operations using List.reverseRecOn with
  | nil => exact (List.append_nil bytes).symm
  | append_singleton operations o ih =>
    have hlast : replay bytes (operations ++ [o]) = o.outcome (replay bytes operations) := by
      rw [replay, List.foldl_append]
      rfl
    rw [hlast, ih, Operation.outcome, lastFilling_concat, addedSince_concat, ← List.append_assoc]
    cases o.filling? with
    | none => rfl
    | some filling => exact congrArg (· ++ o.added) (List.append_nil filling).symm

/-! ### Fields -/

/-- The longest run of leading fields that have room behind the bytes of the buffer. -/
structure LongestRun (b : ParameterBuffer) (fields run : List (List UInt8)) : Prop where
  leading : run <+: fields
  fits : (b.bytes ++ run.flatten).length ≤ bufferCapacity
  longest : ∀ other, other <+: fields → (b.bytes ++ other.flatten).length ≤ bufferCapacity →
    other <+: run

/-- A buffer takes the longest run of leading fields that fits, and reports the length that it would
have had with the next one. -/
lemma exists_longestRun (b : ParameterBuffer) (fields : List (List UInt8)) :
    ∃ run, b.LongestRun fields run ∧ (b.appendFields fields).1.bytes = b.bytes ++ run.flatten ∧
      (b.appendFields fields).2 = (fields.drop run.length).head?.map fun field =>
        ⟨(b.bytes ++ run.flatten ++ field).length⟩ := by
  induction fields generalizing b with
  | nil =>
    refine ⟨[], ⟨List.prefix_refl [], ?_, fun _ h _ => h⟩, (List.append_nil b.bytes).symm, rfl⟩
    rw [List.flatten_nil, List.append_nil]
    exact b.length_le
  | cons field fields ih =>
    by_cases hfield : (b.bytes ++ field).length ≤ bufferCapacity
    · obtain ⟨run, ⟨hleading, hfits, hlongest⟩, hbytes, hreport⟩ := ih ⟨b.bytes ++ field, hfield⟩
      have hstep : b.appendFields (field :: fields) =
          appendFields ⟨b.bytes ++ field, hfield⟩ fields := by
        rw [appendFields, append, ofList, dif_pos hfield]
      simp only [List.append_assoc] at hfits hlongest hbytes hreport
      refine ⟨field :: run, ⟨List.cons_prefix_cons.mpr ⟨rfl, hleading⟩, hfits, ?_⟩, ?_, ?_⟩
      · intro other hother hroom
        cases other with
        | nil => exact List.nil_prefix
        | cons first other =>
          obtain ⟨rfl, hrest⟩ := List.cons_prefix_cons.mp hother
          exact List.cons_prefix_cons.mpr ⟨rfl, hlongest other hrest hroom⟩
      · rw [hstep, hbytes, List.flatten_cons]
      · rw [hstep, hreport]
        simp
    · have hstep : b.appendFields (field :: fields) = (b, some ⟨(b.bytes ++ field).length⟩) := by
        rw [appendFields, append, ofList, dif_neg hfield]
      rw [hstep]
      refine ⟨[], ⟨List.nil_prefix, ?_, ?_⟩, (List.append_nil b.bytes).symm, by simp⟩
      · rw [List.flatten_nil, List.append_nil]
        exact b.length_le
      · intro other hother hroom
        cases other with
        | nil => exact List.nil_prefix
        | cons first other =>
          obtain ⟨rfl, -⟩ := List.cons_prefix_cons.mp hother
          refine absurd ?_ hfield
          simp only [List.flatten_cons, List.length_append] at hroom ⊢
          omega

/-- Where there is room for all fields, the longest run is all of them. -/
lemma LongestRun.eq_of_fits {fields run : List (List UInt8)} (h : b.LongestRun fields run)
    (hroom : (b.bytes ++ fields.flatten).length ≤ bufferCapacity) : run = fields :=
  h.leading.eq_of_length_le (h.longest fields (List.prefix_refl _) hroom).length_le

end ParameterBuffer

namespace Parameters

/-- The lengths of the fields in layout order. -/
def fieldLengths : FilterKind → List Nat
  | .decimation => [1, 1]
  | .temporal => [1, 4, 4, 4]

/-- The fields of parameters have the lengths that the layout gives them. -/
lemma lengths_fields (p : Parameters) : p.fields.map List.length = fieldLengths p.kind := by
  cases p <;> rfl

/-- Of the fields the longest run that fits is written, and the failure tells of the first field
behind it. -/
lemma exists_written (p : Parameters) (b : ParameterBuffer) :
    ∃ run, b.LongestRun p.fields run ∧ (p.writeFields b).2.bytes = b.bytes ++ run.flatten ∧
      (p.writeFields b).1 = (p.fields.drop run.length).head?.elim (.ok ()) fun field =>
        .error (.bufferSize p.kind p.kind.bufferLength
          (b.bytes ++ run.flatten ++ field).length) := by
  obtain ⟨run, hrun, hbytes, hreport⟩ := b.exists_longestRun p.fields
  refine ⟨run, hrun, ?_⟩
  unfold writeFields
  generalize b.appendFields p.fields = result at hbytes hreport
  obtain ⟨after, report⟩ := result
  dsimp only at hbytes hreport
  subst hreport
  cases (p.fields.drop run.length).head? with
  | none => exact ⟨hbytes, rfl⟩
  | some field => exact ⟨hbytes, rfl⟩

/-- Writing succeeds exactly if all fields fit. -/
lemma writeFields_eq_ok {p : Parameters} {b : ParameterBuffer} :
    (p.writeFields b).1 = .ok () ↔ (b.bytes ++ p.fields.flatten).length ≤ bufferCapacity := by
  obtain ⟨run, hrun, -, hresult⟩ := p.exists_written b
  rw [hresult]
  constructor
  · intro h
    cases hrest : p.fields.drop run.length with
    | nil =>
      have hall := hrun.leading.eq_of_length_le (List.drop_eq_nil_iff.mp hrest)
      rw [← hall]
      exact hrun.fits
    | cons field rest =>
      rw [hrest] at h
      cases h
  · intro hroom
    rw [hrun.eq_of_fits hroom, List.drop_length]
    rfl

end Parameters

namespace ParameterBuffer

/-- Whatever a buffer has been asked, it holds no more than sixteen bytes: the last filling that has
succeeded, or what was there at first, and behind it what successful operations have added since, in
their order. The next operation succeeds exactly if its outcome fits. Otherwise it tells the length
of the outcome, and the buffer is left alone. Of the fields of parameters, which have the lengths of
their kind, the longest leading run that fits is put behind the bytes. Writing them fails exactly if
they do not all fit, with the length that the next field would have given. -/
theorem operations_are_all_or_nothing (b : ParameterBuffer)
    (operations : List Operation) (o : Operation)
    (p : Parameters) :
    let s := b.run operations
    s.bytes = lastFilling b.bytes (b.accepted operations) ++ addedSince (b.accepted operations) ∧
      s.bytes.length ≤ 16 ∧
      (if (o.outcome s.bytes).length ≤ 16 then
          (s.perform o).1 = .ok () ∧ (s.perform o).2.bytes = o.outcome s.bytes
        else s.perform o = (.error ⟨(o.outcome s.bytes).length⟩, s)) ∧
      p.fields.map List.length = Parameters.fieldLengths p.kind ∧
      (∃ run, s.LongestRun p.fields run ∧ (p.writeFields s).2.bytes = s.bytes ++ run.flatten ∧
        (p.writeFields s).1 = (p.fields.drop run.length).head?.elim (.ok ()) fun field =>
          .error (.bufferSize p.kind p.kind.bufferLength
            (s.bytes ++ run.flatten ++ field).length)) ∧
      ((p.writeFields s).1 = .ok () ↔ (s.bytes ++ p.fields.flatten).length ≤ 16) := by
  intro s
  refine ⟨?_, s.length_le, ?_, p.lengths_fields, p.exists_written s, Parameters.writeFields_eq_ok⟩
  · exact (b.bytes_run operations).trans (replay_eq _ _)
  · split
    · rename_i hfits
      rw [perform_of_fits hfits]
      exact ⟨rfl, rfl⟩
    · rename_i hexceeds
      exact perform_of_exceeds hexceeds

/-- Behind twelve bytes there is room for the flag of a temporal filter, but not for its alpha. -/
example : Parameters.writeFields (.temporal Temporal.defaults) ⟨List.replicate 12 7, by decide⟩ =
    (.error (.bufferSize .temporal 13 17), ⟨List.replicate 12 7 ++ [0], by decide⟩) := rfl

end ParameterBuffer

end EmbeddedFilters
