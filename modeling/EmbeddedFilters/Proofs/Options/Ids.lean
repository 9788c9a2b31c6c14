import EmbeddedFilters.FilterKind
import EmbeddedFilters.Options.Id
import Mathlib.Tactic.Common

/-!
# Fixed numbers

The names with fixed numbers and these numbers stand for each other (`OptionId.ofName?_inj`,
`OptionId.name?_of_ofName?`), and all options of the kinds are among them (`FilterKind.exists_id`).
-/

namespace EmbeddedFilters

namespace OptionId

/-- A name with a fixed number stands in the table of well-known ones. -/
lemma mem_wellKnown {name : String} {id : OptionId} (h : ofName? name = some id) :
    (name, id) ∈ wellKnown := by
  obtain ⟨entry, hentry, rfl⟩ := Option.map_eq_some_iff.mp h
  have heq := List.find?_some hentry
  rw [beq_iff_eq] at heq
  rw [← heq]
  exact List.mem_of_find?_eq_some hentry

/-- The flag has its fixed number. -/
lemma ofName?_toggle : ofName? "Toggle" = some toggle := by decide

/-- Names with the same fixed number are the same. -/
lemma ofName?_inj {name other : String} {id : OptionId} (h : ofName? name = some id)
    (h' : ofName? other = some id) : name = other := by
  have hinj : ∀ a ∈ wellKnown, ∀ b ∈ wellKnown, a.2 = b.2 → a.1 = b.1 := by decide
  exact hinj _ (mem_wellKnown h) _ (mem_wellKnown h') rfl

/-- A fixed number leads back to its name. -/
lemma name?_of_ofName? {name : String} {id : OptionId} (h : ofName? name = some id) :
    IdTable.name? {} id = some name := by
  have hall : ∀ entry ∈ wellKnown, IdTable.name? {} entry.2 = some entry.1 := by decide
  exact hall _ (mem_wellKnown h)

end OptionId

/-- Every option of a kind has a fixed number. -/
lemma FilterKind.exists_id {kind : FilterKind} {name : String} (h : name ∈ kind.optionNames) :
    ∃ id, OptionId.ofName? name = some id := by
  have hall : ∀ name ∈ kind.optionNames, (OptionId.ofName? name).isSome = true := by
    cases kind <;> decide
  exact Option.isSome_iff_exists.mp (hall name h)

end EmbeddedFilters
