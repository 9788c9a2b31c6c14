import EmbeddedFilters.Wire.Codec

/-!
# Messages

The messages between host and device. On the control topic the host replaces all options of a filter
or asks for them, and the device answers with a report; on the notification topic the device reports
what it has changed by itself. An advertisement describes a filter in full.
-/

namespace EmbeddedFilters

open Json

/-- A request to the device. -/
inductive ControlRequest where
  | setOptions (filter : String) (kind : FilterKind) (options : List Assignment)
  | getOptions (filter : String) (kind : FilterKind)
  deriving DecidableEq

/-- Some options of a filter as the device reports them, asked or not. -/
structure OptionReport where
  filter : String
  options : List Assignment
  deriving DecidableEq

/-- A filter as a device advertises it. -/
structure Advertisement where
  name : String
  kind : FilterKind
  options : List Declaration
  stream : Value := .null
  current : List Assignment := []

namespace ControlRequest

def filter : ControlRequest → String
  | .setOptions filter _ _ => filter
  | .getOptions filter _ => filter

/-- A request as a record. -/
def toJson : ControlRequest → Value
  | .setOptions filter kind options =>
    .object [("command", .string "set_options"), ("filter", .string filter),
      ("type", kind.toJson), ("options", Assignment.listToJson options)]
  | .getOptions filter kind =>
    .object [("command", .string "get_options"), ("filter", .string filter), ("type", kind.toJson)]

/-- Separates the command of a request from its other fields. -/
def splitCommand : Tree → Option (String × Tree)
  | .object fields => do
    let command ←
      match fields.filter fun f => f.1 == some "command" with
      | [(_, .string (some command))] => some command
      | _ => none
    return (command, .object (fields.filter fun f => f.1 != some "command"))
  | .array (.string (some command) :: items) => some (command, .array items)
  | _ => none

/-- Reads a request. The command may stand anywhere, so the whole text is kept before it is read. -/
def decoder : Decoder ControlRequest := fun depth tree => do
  let _ ← valueDecoder depth tree
  let (command, rest) ← splitCommand tree
  match command with
  | "set_options" =>
    let (depth, fields) ← recordFields ["filter", "type", "options"] depth rest
    match fields with
    | [filter, kind, options] =>
      return .setOptions (← required textDecoder depth filter)
        (← required (FilterKind.decoder true) depth kind)
        (← required (listDecoder Assignment.decoder) depth options)
    | _ => none
  | "get_options" =>
    let (depth, fields) ← recordFields ["filter", "type"] depth rest
    match fields with
    | [filter, kind] =>
      return .getOptions (← required textDecoder depth filter)
        (← required (FilterKind.decoder true) depth kind)
    | _ => none
  | _ => none

def payload (r : ControlRequest) : ByteArray := r.toJson.bytes

end ControlRequest

namespace OptionReport

def toJson (r : OptionReport) : Value :=
  .object [("filter", .string r.filter), ("options", Assignment.listToJson r.options)]

/-- Reads a report. -/
def decoder : Decoder OptionReport := fun depth tree => do
  let (depth, fields) ← recordFields ["filter", "options"] depth tree
  match fields with
  | [filter, options] =>
    return ⟨← required textDecoder depth filter,
      ← required (listDecoder Assignment.decoder) depth options⟩
  | _ => none

def payload (r : OptionReport) : ByteArray := r.toJson.bytes

end OptionReport

namespace Advertisement

def toJson (p : Advertisement) : Value :=
  .object [("name", .string p.name), ("type", p.kind.toJson),
    ("options", .array (p.options.map Declaration.toJson)), ("stream_type", p.stream),
    ("current_values", Assignment.listToJson p.current)]

/-- Reads an advertisement. -/
def decoder : Decoder Advertisement := fun depth tree => do
  let names := ["name", "type", "options", "stream_type", "current_values"]
  let (depth, fields) ← recordFields names depth tree
  match fields with
  | [name, kind, options, stream, current] =>
    return {
      name := ← required textDecoder depth name
      kind := ← required (FilterKind.decoder false) depth kind
      options := ← required (listDecoder Declaration.decoder) depth options
      stream := ← orDefault .null valueDecoder depth stream
      current := ← orDefault [] (listDecoder Assignment.decoder) depth current }
  | _ => none

end Advertisement

end EmbeddedFilters
