import EmbeddedFilters.Options.Declaration
import EmbeddedFilters.Text.Quoted
import EmbeddedFilters.Watching.Watcher

/-!
# Option models

A model is one option of a filter as it is offered for use: its declaration with two gates in front
of writing. It holds no value; a value that passes the gates and the declaration is handed on to
whoever owns it.
-/

namespace EmbeddedFilters

/-- An option of a filter. -/
structure OptionModel where
  id : OptionId
  declaration : Declaration
  readOnly : Bool := false
  enabled : Bool := true
  deriving DecidableEq

namespace OptionModel

def name (m : OptionModel) : String := m.declaration.name

/-- The value to be written, if writing is allowed and the declaration admits the value. -/
def accept (m : OptionModel) (v : OptionValue) : Except FilterError OptionValue :=
  if m.readOnly then .error (.readOnly m.name)
  else if !m.enabled then .error (.optionDisabled m.name)
  else m.declaration.check v

/-- The text of a model for inspection. -/
def describe (m : OptionModel) : String :=
  let kind := match m.declaration.kind with
    | .int => "Int"
    | .float => "Float"
  "OptionModel \x7b id: OptionId(" ++ toString m.id.value.toNat ++ "), name: "
    ++ Text.quoted m.name ++ ", kind: " ++ kind ++ ", read_only: " ++ toString m.readOnly
    ++ ", enabled: " ++ toString m.enabled ++ " \x7d"

/-- The models of declared options. An option whose name has no fixed number cannot be addressed and
gets no model; a filter declares such an option only if the values of its record have been replaced
by ones with other names than it declares. -/
def ofDeclarations (list : List Declaration) : List OptionModel :=
  list.filterMap fun d => (OptionId.ofName? d.name).map fun id => { id, declaration := d }

end OptionModel

def findModel (models : List OptionModel) (id : OptionId) : Except FilterError OptionModel :=
  match models.find? fun m => m.id == id with
  | some m => .ok m
  | none => .error (.optionNotFound id)

/-- The ids of models in ascending order, each once. -/
def modelIds (models : List OptionModel) : List OptionId :=
  (models.foldl (fun ids m => insertId m.id.value.toNat ids) []).map fun n => ⟨.ofNat n⟩
where
  /-- Inserts a number into an ascending list. -/
  insertId (n : Nat) : List Nat → List Nat
    | [] => [n]
    | m :: rest =>
      if n < m then n :: m :: rest else if n = m then m :: rest else m :: insertId n rest

end EmbeddedFilters
