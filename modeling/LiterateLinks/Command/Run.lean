import LiterateLinks.Command.Help
import LiterateLinks.Command.Options
import LiterateLinks.Link.Source
import LiterateLinks.Publish.File
import LiterateLinks.Settings.Load

/-!
# Running a command

A run loads the settings, reads the command map and the page, and publishes the page to a file or to
the standard output.  Everything that can fail comes before the page is written, so that a run that
fails changes no file; the stylesheet is written last.
-/

namespace LiterateLinks

namespace Command

/-- Why a run fails. -/
inductive Fault where
  | settings (fault : SettingsFault)
  | sources (fault : SourceUrls.Fault)
  | output (fault : OutputFault)

/-- The fault in words. -/
def Fault.message : Fault → String
  | .settings fault => fault.message
  | .sources fault => fault.message
  | .output fault => fault.message

/-- What a run has said so far: the text that it printed and the events that it told. -/
structure Record where
  stdout : String := ""
  log : List Event := []
  deriving Repr, DecidableEq

/-- What is left of a run besides files. -/
structure Outcome where
  /-- The exit status: zero, one if the run failed, two if the command line is not in order. -/
  code : Nat
  record : Record := {}
  /-- Why the run failed. -/
  fault : Option Fault := none

namespace Options

/-- The path that the page is published to, if it is not printed. -/
def output? (options : Options) : Option String :=
  if options.has .inPlace then some options.input else options.get? .output

/-- The directory that links are seen from: that of the published page, or the working directory. -/
def outDir (options : Options) : String :=
  match options.output?.bind Path.parent? with
  | some dir => if dir.isEmpty then "." else dir
  | none => "."

/-- The key of the setting that an option sets. -/
def settingKey? : Field → Option String
  | .policy => some "resolve.policy"
  | .map => some "resolve.command_map"
  | .baseUrl => some "resolve.base_url"
  | .left => some "delimiters.left"
  | .right => some "delimiters.right"
  | .stylesheet => some "publish.stylesheet"
  | .output | .config => none

/-- The layers of settings that the options add: a file and single values.  A command map asks for
the mapped policy, unless a policy is given. -/
def layers (options : Options) : List Layer :=
  (options.get? .config).toList.map Layer.file ++
    options.fields.filterMap (fun (field, value) =>
      (settingKey? field).map fun key => Layer.value key (.text value)) ++
    (if (options.get? .map).isSome && (options.get? .policy).isNone then
      [Layer.value "resolve.policy" (.text "mapped")] else []) ++
    if options.has .force then [Layer.value "publish.force" (.flag true)] else []

/-- The least level of the events that are shown. -/
def shows (options : Options) (event : Event) : Bool :=
  options.has .verbose || event.level == .warn

end Options

/-- The resolution with the locations of its command map as they are seen from the published
page. -/
def rebase (options : Options) (settings : Settings) (workingDirectory : List String)
    (resolution : Resolution) : Logged (Except Fault Resolution) :=
  match resolution.policy with
  | .inPage => ⟨.ok resolution, []⟩
  | .mapped commands =>
    let sources : SourceUrls :=
      { outDir := options.outDir
        base := SourceUrls.baseOf settings.baseUrl
        document := some options.input }
    match sources.rebase (workingDirectory.map ByteString.ofString) commands with
    | .error fault => ⟨.error (.sources fault), []⟩
    | .ok commands =>
      ⟨.ok { resolution with policy := .mapped commands }, [.mapLoaded commands.size]⟩

/-! ### Steps -/

/-- The steps of a run: they may fail, and what was said before is kept if they do. -/
abbrev Steps (m : Type → Type) := ExceptT Fault (StateT Record m)

namespace Steps

variable {m : Type → Type} [Monad m] {α ε : Type}

/-- Asks the file system. -/
def ask (question : m α) : Steps m α :=
  ExceptT.lift (StateT.lift question)

/-- Goes on with a result, or fails. -/
def need (fault : ε → Fault) (result : Except ε α) : Steps m α :=
  match result with
  | .ok a => return a
  | .error e => throw (fault e)

/-- Tells events. -/
def tell (events : List Event) : Steps m Unit :=
  modify fun record => { record with log := record.log ++ events }

/-- Prints a text. -/
def print (text : String) : Steps m Unit :=
  modify fun record => { record with stdout := record.stdout ++ text }

/-- Tells the events of a result and goes on with it, or fails. -/
def needLogged (fault : ε → Fault) (result : Logged (Except ε α)) : Steps m α := do
  tell result.log
  need fault result.value

end Steps

variable {m : Type → Type} [Monad m]

/-- Publishes the page to its file, or prints it. -/
def putOut (fs : FileSystem m) (options : Options) (settings : Settings) (resolution : Resolution)
    (source : String) : Steps m Unit := do
  let how : PublishOptions := { stylesheet := settings.stylesheet, force := settings.force }
  match options.output? with
  | none =>
    let page ← Steps.needLogged (fun fault => .output (.page fault)) (publish resolution how source)
    Steps.tell [.documentLinked options.input page.report.definitions page.report.pastes]
    Steps.print page.html
  | some path =>
    let report ← Steps.needLogged Fault.output
      (← Steps.ask (publishTo fs path resolution how source))
    Steps.tell [.documentLinked options.input report.definitions report.pastes,
      .documentWritten path]

/-- Writes the default stylesheet, if it is asked for. -/
def addStylesheet (fs : FileSystem m) (options : Options) : Steps m Unit := do
  if options.has .writeCss then
    let written ← Steps.needLogged Fault.output
      (← Steps.ask (Stylesheet.writeTo fs options.outDir))
    match written with
    | some path => Steps.tell [.stylesheetWritten path]
    | none => return ()

/-- The steps of a run. -/
def steps (fs : FileSystem m) (options : Options) : Steps m Unit := do
  let settings ← Steps.need Fault.settings (← Steps.ask (Settings.load fs options.layers))
  let resolution ← Steps.need Fault.settings (← Steps.ask (settings.resolution fs))
  let workingDirectory ← Steps.ask fs.workingDirectory
  let resolution ← Steps.needLogged id (rebase options settings workingDirectory resolution)
  let source ← Steps.need Fault.output (← Steps.ask (readPage fs options.input))
  putOut fs options settings resolution source
  addStylesheet fs options

/-- Runs a command line that is in order.  Of the events only those that are asked for are kept. -/
def runOptions (fs : FileSystem m) (options : Options) : m Outcome := do
  let (result, record) ← (steps fs options).run.run {}
  let record := { record with log := record.log.filter options.shows }
  match result with
  | .ok () => return { code := 0, record }
  | .error fault => return { code := 1, record, fault := some fault }

/-- Runs a command line. -/
def run (fs : FileSystem m) (arguments : List String) : m Outcome :=
  match Options.parse arguments with
  | .ok options => runOptions fs options
  | .error .help => return { code := 0, record := { stdout := helpText } }
  | .error .version => return { code := 0, record := { stdout := versionText } }
  | .error .usage => return { code := 2 }

end Command

end LiterateLinks
