import LiterateLinks.Chunk.Table
import LiterateLinks.Json.Reader

/-!
# Command maps in JSON

The tool that renders the pages of a project writes the locations of its chunks as a JSON object of
strings, whose order is the order of the table.
-/

namespace LiterateLinks

namespace CommandMap

/-- What is wrong with the source of a command map. -/
inductive Fault where
  /-- The source is no JSON object. -/
  | malformed (source : String) (fault : Json.Fault)
  /-- A location is no string. -/
  | notString (name : String) (found : JsonValue)

/-- The fault in words. -/
def Fault.message : Fault → String
  | .malformed source fault => "Invalid command map: " ++ fault.message source
  | .notString name found =>
    "Invalid command map: location of '" ++ name ++ "' must be a string, found " ++ found.render

/-- The map of the members of an object, if every location is a string. -/
def ofEntries : List (String × JsonValue) → Except Fault (List (String × String))
  | [] => .ok []
  | (name, .string location) :: rest =>
    match ofEntries rest with
    | .ok entries => .ok ((name, location) :: entries)
    | .error fault => .error fault
  | (name, value) :: _ => .error (.notString name value)

/-- Reads a command map.  Of a repeated name only the last location counts. -/
def parse (source : String) : Except Fault CommandMap :=
  match Json.parseObject source with
  | .error fault => .error (.malformed source fault)
  | .ok members =>
    match ofEntries (Ordered.ofList members) with
    | .ok entries => .ok (ofList entries)
    | .error fault => .error fault

end CommandMap

end LiterateLinks
