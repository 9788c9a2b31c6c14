import EmbeddedFilters.Options.Model
import EmbeddedFilters.Parameters

/-!
# Offline filters

An offline filter keeps its parameters itself and stands in for a device that cannot be reached.
Every write lays something over the present parameters, checks the outcome as a whole, and announces
the options that have changed, because nobody else will ever report them.
-/

namespace EmbeddedFilters

/-- Where a filter stands in its life. -/
inductive FilterState where
  | declared
  | populated
  | destroyed
  deriving DecidableEq, Repr

def FilterState.name : FilterState → String
  | .declared => "Declared"
  | .populated => "Populated"
  | .destroyed => "Destroyed"

/-- A filter that holds its own parameters. -/
structure OfflineFilter where
  name : String
  params : Parameters
  models : List OptionModel
  watcher : Watcher := {}
  destroyed : Bool := false

namespace OfflineFilter

/-- The filter of a name and parameters, with the options of their kind. -/
def build (name : String) (params : Parameters) : OfflineFilter where
  name := name
  params := params
  models := OptionModel.ofDeclarations (Parameters.declarations params.kind)

def new (kind : FilterKind) (name : String) : OfflineFilter := build name (.defaults kind)

/-- A filter that starts from given parameters. -/
def withParams (name : String) (params : Parameters) : Except FilterError OfflineFilter :=
  params.validate.map fun _ => build name params

def kind (f : OfflineFilter) : FilterKind := f.params.kind

def state (f : OfflineFilter) : FilterState := if f.destroyed then .destroyed else .populated

def value (f : OfflineFilter) (name : String) : Except FilterError OptionValue :=
  match Assignment.find? name f.params.toOptions with
  | some value => .ok value
  | none => .error (.unknownOption f.kind name)

/-- The options whose values differ, in wire order, with their new values. -/
def changes (before after : Parameters) : List Change :=
  (after.toOptions.zip before.toOptions).filterMap fun (new, old) =>
    if new.value.agrees old.value then none
    else (OptionId.ofName? new.name).map fun id => (id, new.value)

/-- Moves to new parameters and announces what has changed. A filter that is being torn down
refuses, and so does one for which there are no new parameters. -/
def update (f : OfflineFilter) (next : Parameters → Except FilterError Parameters) :
    Except FilterError (Told OfflineFilter) := do
  if f.destroyed then throw (.destroyed f.name)
  let params ← next f.params
  return (f.watcher.announce (changes f.params params)).map fun watcher =>
    { f with params, watcher }

def setValue (f : OfflineFilter) (name : String) (value : OptionValue) :
    Except FilterError (Told OfflineFilter) :=
  f.update fun params => do
    Parameters.ofOptions f.kind (← Assignment.overlay f.kind name value params.toOptions)

def apply (f : OfflineFilter) (params : Parameters) : Except FilterError (Told OfflineFilter) :=
  f.update fun _ => params.validate.map fun _ => params

def setBytes (f : OfflineFilter) (bytes : List UInt8) :
    Except FilterError (Told OfflineFilter) := do
  f.apply (← Parameters.decode f.kind bytes)

/-- Sets the option with a number. -/
def setOption (f : OfflineFilter) (id : OptionId) (value : OptionValue) :
    Except FilterError (Told OfflineFilter) := do
  let model ← findModel f.models id
  f.setValue model.name (← model.accept value)

/-- Retracts all subscriptions; later writes fail. -/
def destroy (f : OfflineFilter) : OfflineFilter :=
  { f with destroyed := true, watcher := f.watcher.close }

end OfflineFilter

end EmbeddedFilters
