import EmbeddedFilters.Options.Model

/-!
# Cells

A cell is the simplest owner of an option: it holds one value behind a model, and can be made to
fail.
-/

namespace EmbeddedFilters

/-- A value behind a model. While a reason to fail is given, the value can be neither read nor
written. -/
structure OptionCell where
  model : OptionModel
  value : OptionValue
  failure? : Option String := none
  deriving DecidableEq

namespace OptionCell

/-- The cell of a model, with the present value of its declaration. -/
def ofModel (m : OptionModel) : OptionCell := { model := m, value := m.declaration.initial }

/-- Refuses to go on while the cell fails. -/
def checkSound (c : OptionCell) : Except FilterError Unit :=
  match c.failure? with
  | some reason => .error (.transport reason)
  | none => .ok ()

def query (c : OptionCell) : Except FilterError OptionValue := c.checkSound.map fun _ => c.value

def write (c : OptionCell) (v : OptionValue) : Except FilterError OptionCell :=
  c.checkSound.map fun _ => { c with value := v }

/-- The cell with writes allowed or not. -/
def allow (c : OptionCell) (on : Bool) : OptionCell :=
  { c with model := { c.model with enabled := on } }

end OptionCell

end EmbeddedFilters
