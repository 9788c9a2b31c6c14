import EmbeddedFilters.Proofs.Remote.Proxy

/-!
# Reports during a write

While a write waits for its link, the proxy may be told what the device has changed by itself. It
takes over some of the reports and refuses others (`RemoteProxy.hear`), and in the end it is as if
those that it has heeded had been merged at once (`RemoteProxy.merge_heeded`).
-/

namespace EmbeddedFilters

open Outcome Assignment

namespace RemoteProxy

/-- The proxy after reports. One that it refuses changes nothing. -/
def hear (p : RemoteProxy) : List (List Assignment) → RemoteProxy
  | [] => p
  | options :: reports =>
    match p.absorb options with
    | .ok (_, q) => q.hear reports
    | .error _ => p.hear reports

/-- Those of the reports that a proxy takes over. -/
def heeded (p : RemoteProxy) : List (List Assignment) → List (List Assignment)
  | [] => []
  | options :: reports =>
    match p.absorb options with
    | .ok (_, q) => options :: q.heeded reports
    | .error _ => p.heeded reports

variable {p : RemoteProxy}

/-- Reports are heard one after the other. -/
lemma hear_cons (p : RemoteProxy) (options : List Assignment) (reports : List (List Assignment)) :
    p.hear (options :: reports) = (p.hear [options]).hear reports := by
  simp only [hear]
  cases p.absorb options <;> rfl

/-- A proxy that has heard reports is a later one. -/
lemma evolves_hear (p : RemoteProxy) (reports : List (List Assignment)) :
    p.Evolves (p.hear reports) := by
  induction reports generalizing p with
  | nil => exact .refl p
  | cons options reports ih =>
    unfold hear
    split
    · rename_i changed q habsorb
      exact (evolves_absorb habsorb).trans (ih q)
    · exact ih p

/-- The values of a proxy that has heard reports are its former ones with those that it has heeded
merged into them. -/
lemma merge_heeded (hp : p.Valid) (reports : List (List Assignment)) :
    p.record.merge (p.heeded reports).flatten = .ok (p.hear reports).record.current := by
  induction reports generalizing p with
  | nil => exact FilterRecord.merge_eq_ok.mpr ⟨p.kind, hp.kind, rfl⟩
  | cons options reports ih =>
    unfold hear heeded
    split
    · rename_i changed q habsorb
      have hq := (evolves_absorb habsorb).valid hp
      obtain ⟨values, hmerge, -, rfl⟩ := absorb_eq_ok.mp habsorb
      rw [List.flatten_cons, FilterRecord.merge_append (merge_eq_ok.mp hmerge).1]
      exact ih hq
    · exact ih hp

end RemoteProxy

end EmbeddedFilters
