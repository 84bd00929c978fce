import LiterateLinks.Marker.Basic
import LiterateLinks.Settings.Key
import LiterateLinks.Text.Blank

/-!
# Settings

The settings of a run are put together in layers: first the defaults, over them the files in their
order, and over all of these the values that were set one by one.  Every layer may leave out what it
does not change, and what is no setting is ignored.
-/

namespace LiterateLinks

/-- Where pastes look for chunks. -/
inductive PolicyKind where
  | inPage
  | mapped
  deriving Repr, DecidableEq, Inhabited

/-- The policy in words. -/
def PolicyKind.name : PolicyKind → String
  | .inPage => "in-page"
  | .mapped => "mapped"

/-- The policy that a word means, in any case. -/
def PolicyKind.ofName? (name : String) : Option PolicyKind :=
  [PolicyKind.inPage, .mapped].find? fun kind => kind.name == name.toLower

/-- The settings of a run. -/
structure Settings where
  delimiters : Delimiters := {}
  policy : PolicyKind := .inPage
  /-- The path of the command map, with blanks around it; blank if there is none. -/
  commandMap : String := ""
  baseUrl : String := ""
  stylesheet : String := ""
  force : Bool := false
  deriving Repr, DecidableEq, Inhabited

namespace Settings

/-- The path of the command map, if there is one. -/
def commandMapPath? (settings : Settings) : Option String :=
  let path := Text.trim settings.commandMap.toList
  if path.isEmpty then none else some (String.ofList path)

/-- The settings as a table of values. -/
def toSetting (settings : Settings) : Setting :=
  .table
    [("delimiters", .table
        [("left", .text settings.delimiters.left), ("right", .text settings.delimiters.right)]),
      ("resolve", .table
        [("policy", .text settings.policy.name), ("command_map", .text settings.commandMap),
          ("base_url", .text settings.baseUrl)]),
      ("publish", .table
        [("stylesheet", .text settings.stylesheet), ("force", .flag settings.force)])]

/-- The fields of a section: by name from a table, by place from an array. -/
def fields? (names : List String) : Setting → Option (List Setting)
  | .table entries => names.mapM fun name => entries.lookup name
  | .array elements =>
    if names.length ≤ elements.length then some (elements.take names.length) else none
  | _ => none

/-- The policy that a value means: its name, or a table with the name as the only key. -/
def policy? : Setting → Option PolicyKind
  | .text name => PolicyKind.ofName? name
  | .table [(name, _)] => PolicyKind.ofName? name
  | _ => none

/-- The settings that a value stands for. -/
def ofSetting? (value : Setting) : Option Settings := do
  let [delimiters, resolve, publish] ← fields? ["delimiters", "resolve", "publish"] value | none
  let [left, right] ← fields? ["left", "right"] delimiters | none
  let [policy, commandMap, baseUrl] ← fields? ["policy", "command_map", "base_url"] resolve | none
  let [stylesheet, force] ← fields? ["stylesheet", "force"] publish | none
  return {
    delimiters := ⟨← left.toText?, ← right.toText?⟩
    policy := ← policy? policy
    commandMap := ← commandMap.toText?
    baseUrl := ← baseUrl.toText?
    stylesheet := ← stylesheet.toText?
    force := ← force.toFlag? }

/-- Puts the entries of a file over what is there.  A key of the file may lead into sections, like
the key of a single value; one that cannot be read as such stands for itself. -/
def overlay (present : Setting) (entries : List (String × Setting)) : Setting :=
  entries.foldl
    (fun present (key, value) => ((SettingKey.parse? key).getD ⟨key, []⟩).put value present) present

/-- Single values by key: a key that is set again takes its last value. -/
def distinct : List (SettingKey × Setting) → List (SettingKey × Setting)
  | [] => []
  | (key, value) :: rest =>
    let rest := distinct rest
    if rest.any (·.1 == key) then rest else (key, value) :: rest

/-- The settings of files and single values. -/
def ofLayers? (files : List (List (String × Setting))) (values : List (SettingKey × Setting)) :
    Option Settings :=
  let base := files.foldl overlay (toSetting {})
  ofSetting? ((distinct values).foldl (fun present (key, value) => key.put value present) base)

end Settings

end LiterateLinks
