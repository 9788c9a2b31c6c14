import EmbeddedFilters.Capability.Standard
import EmbeddedFilters.View
import EmbeddedFilters.Workbench.Filters
import EmbeddedFilters.Workbench.Links

/-!
# Views of objects on the workbench

The JSON forms in which filters, loops, links and what they know about themselves are shown.
-/

namespace EmbeddedFilters.View

open Json

/-- A payload as text, which is empty for bytes that are no text. -/
def payload (bytes : ByteArray) : Value := .string ((String.fromUTF8? bytes).getD "")

def summary (s : FilterSummary) : Value :=
  .object [("name", .string s.name), ("type", s.kind.toJson)]

def filterInfo (i : FilterInfo) : Value :=
  .object [("name", .string i.summary.name), ("type", i.summary.kind.toJson),
    ("enabled", .bool i.enabled), ("state", .string i.state.name),
    ("options", list optionId i.options)]

/-- What a record holds; what has not been stated yet is shown as the failure to read it. -/
def recordInfo (r : FilterRecord) : Value :=
  let stated {α : Type} (view : α → Value) : Except FilterError α → Value
    | .ok a => view a
    | .error e => filterError e
  .object [("declared", .bool r.isDeclared), ("name", stated .string r.name),
    ("type", stated FilterKind.toJson r.kind),
    ("declarations", list (fun d => .string d.name) r.declarations),
    ("stream", written r.stream), ("current", assignments r.current)]

def loopInfo (i : LoopInfo) : Value :=
  .object [("running", .bool i.running), ("requesters", count i.requesters),
    ("delivered", count i.delivered), ("dropped", count i.dropped)]

/-- The name of a way of using a link. -/
def passage : Passage → String
  | .send => "send"
  | .query => "query"

def sighting (s : Sighting) : Value :=
  .array [.string (passage s.passage), .string s.topic, payload s.payload]

def answer : Answer → Value
  | .whole i => .integer i
  | .text s => .string s
  | .flags a b => .array [.bool a, .bool b]
  | .kinds ks => list FilterKind.toJson ks

end EmbeddedFilters.View
