import LiterateLinks.Chunk.CommandFile
import LiterateLinks.File.System
import LiterateLinks.Link.Text
import LiterateLinks.Settings.Basic
import LiterateLinks.Text.Utf8
import LiterateLinks.Toml.Reader

/-!
# Loading settings

The files of the settings are TOML.  A file that is not there under its own name is looked for under
that name with `.toml` after it.  From the settings the linker gets its resolution, for which the
command map is read if the policy needs one.
-/

namespace LiterateLinks

/-- What the settings of a run are put together from. -/
inductive Layer where
  | file (path : String)
  | value (key : String) (value : Setting)

/-- Why there are no settings, or no resolution. -/
inductive SettingsFault where
  /-- A file or a key cannot be read, or a value is not what its setting needs. -/
  | unusable
  /-- The mapped policy has no command map. -/
  | missingCommandMap
  | unreadable (path : String) (fault : FileFault)
  | commandMap (path : String) (fault : CommandMap.Fault)

/-- The fault in words. -/
def SettingsFault.message : SettingsFault → String
  | .unusable => "Configuration error:"
  | .missingCommandMap => "The mapped policy needs a command map (resolve.command_map)"
  | .unreadable path fault => "Failed to read '" ++ path ++ "': " ++ fault.message
  | .commandMap path fault => fault.message ++ " in '" ++ path ++ "'"

namespace Settings

variable {m : Type → Type} [Monad m]

/-- Where the file of a layer is. -/
def locate (fs : FileSystem m) (path : String) : m (Option String) := do
  let path := Path.join (Path.ofNames (← fs.workingDirectory)) path
  if ← fs.isFile path then return some path
  else
    match Path.withSuffix? path ".toml" with
    | none => return none
    | some path => if ← fs.isFile path then return some path else return none

/-- The source of a settings file: its bytes read leniently, without a byte order mark. -/
def sourceOf (bytes : ByteArray) : String :=
  match (Text.decodeLenient bytes).toList with
  | '\ufeff' :: rest => String.ofList rest
  | text => String.ofList text

/-- The entries of the file of a layer. -/
def readFile (fs : FileSystem m) (path : String) : m (Option (List (String × Setting))) := do
  match ← locate fs path with
  | none => return none
  | some path =>
    match ← fs.read path with
    | .error _ => return none
    | .ok bytes => return Toml.parse? (sourceOf bytes)

/-- The entries of all files among the layers. -/
def readFiles (fs : FileSystem m) : List Layer → m (Option (List (List (String × Setting))))
  | [] => return some []
  | .value _ _ :: layers => readFiles fs layers
  | .file path :: layers => do
    match ← readFile fs path with
    | none => return none
    | some entries => return (← readFiles fs layers).map (entries :: ·)

/-- The single values among the layers; `none` if a key cannot be read. -/
def values? : List Layer → Option (List (SettingKey × Setting))
  | [] => some []
  | .file _ :: layers => values? layers
  | .value key value :: layers => do
    let key ← SettingKey.parse? key
    return (key, value) :: (← values? layers)

/-- The settings of layers. -/
def load (fs : FileSystem m) (layers : List Layer) : m (Except SettingsFault Settings) := do
  match values? layers with
  | none => return .error .unusable
  | some values =>
    match ← readFiles fs layers with
    | none => return .error .unusable
    | some files =>
      match ofLayers? files values with
      | none => return .error .unusable
      | some settings => return .ok settings

/-- Reads the command map in a file. -/
def readCommandMap (fs : FileSystem m) (path : String) : m (Except SettingsFault CommandMap) := do
  match ← fs.readText path with
  | .error fault => return .error (.unreadable path fault)
  | .ok source =>
    match CommandMap.parse source with
    | .error fault => return .error (.commandMap path fault)
    | .ok commands => return .ok commands

/-- The resolution that the settings ask for. -/
def resolution (fs : FileSystem m) (settings : Settings) :
    m (Except SettingsFault Resolution) := do
  match settings.policy, settings.commandMapPath? with
  | .inPage, _ => return .ok ⟨settings.delimiters, .inPage⟩
  | .mapped, none => return .error .missingCommandMap
  | .mapped, some path =>
    match ← readCommandMap fs path with
    | .error fault => return .error fault
    | .ok commands => return .ok ⟨settings.delimiters, .mapped commands⟩

end Settings

end LiterateLinks
