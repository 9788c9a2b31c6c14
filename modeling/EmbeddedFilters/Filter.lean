import EmbeddedFilters.Filter.Remote

/-!
# Filters

What can be asked of a filter without telling whether it is offline or remote.
-/

namespace EmbeddedFilters

/-- A filter of either sort. -/
inductive Filter where
  | offline (f : OfflineFilter)
  | remote (f : RemoteFilter)

namespace Filter

def name : Filter → String
  | .offline f => f.name
  | .remote f => f.name

def kind : Filter → FilterKind
  | .offline f => f.kind
  | .remote f => f.kind

def state : Filter → FilterState
  | .offline f => f.state
  | .remote f => f.state

def params : Filter → Except FilterError Parameters
  | .offline f => .ok f.params
  | .remote f => f.proxy.params

def bytes (f : Filter) : Except FilterError ParameterBuffer := do (← f.params).encode

/-- Is the filter switched on, as far as is known? -/
def isEnabled (f : Filter) : Bool :=
  match f.params with
  | .ok p => p.enabled
  | .error _ => false

/-- The numbers of the filter's options in ascending order. -/
def supported : Filter → List OptionId
  | .offline f => modelIds f.models
  | .remote f => modelIds (OptionModel.ofDeclarations f.proxy.record.declarations)

/-- The models of the options, which must be addressable. -/
def models : Filter → Except FilterError (List OptionModel)
  | .offline f => .ok f.models
  | .remote f => f.models

def model (f : Filter) (id : OptionId) : Except FilterError OptionModel := do
  findModel (← f.models) id

def value (name : String) : Filter → Except FilterError OptionValue
  | .offline f => f.value name
  | .remote f => f.proxy.value name

def query (f : Filter) (id : OptionId) : Except FilterError OptionValue := do
  f.value (← f.model id).name

/-- The names of declared options that have no number, in the order of their declaration. -/
def unnumbered : Filter → List String
  | .offline _ => []
  | .remote f =>
    (f.proxy.record.declarations.map (·.name)).filter fun name => (OptionId.ofName? name).isNone

/-- The value of an option of any name, once the options are addressable. -/
def read (f : Filter) (name : String) : Except FilterError OptionValue := do
  let _ ← f.models
  f.value name

def watcher : Filter → Watcher
  | .offline f => f.watcher
  | .remote f => f.watcher

/-- The filter with other subscribers. -/
def withWatcher (watcher : Watcher) : Filter → Filter
  | .offline f => .offline { f with watcher }
  | .remote f => .remote { f with watcher }

/-- The filter with writes to an option allowed or not. -/
def withOptionEnabled (id : OptionId) (enabled : Bool) : Filter → Filter
  | .offline f => .offline { f with models := f.models.map allow }
  | .remote f => .remote { f with models? := f.models?.map (List.map allow) }
where
  /-- Changes the model with the number. -/
  allow (m : OptionModel) : OptionModel := if m.id == id then { m with enabled } else m

def route? : Filter → Option Route
  | .offline _ => none
  | .remote f => f.route?

def destroy : Filter → Filter
  | .offline f => .offline f.destroy
  | .remote f => .remote f.destroy

end Filter

end EmbeddedFilters
