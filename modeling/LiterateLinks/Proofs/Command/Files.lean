import Mathlib.Tactic.Common
import LiterateLinks.Command.Run
import LiterateLinks.Proofs.File.Beside

/-!
# What a run does to the files

A run is looked at on a tree of files that may refuse to be read and to be written
(`FileSystem.refusing`); what is refused is left as it was.  Everything that a run asks before it
puts out the page leaves the tree as it is (`Keeps`), and after that only two things can happen to
the files: the page is written, and then the stylesheet (`Command.Leaves`).  This is read off the
steps one after the other (`Command.Steps.Ends.bind`), and all that is said about the files follows
from it.
-/

namespace LiterateLinks

/-! ## Questions -/

/-- The question leaves all files as they are. -/
def Keeps {α : Type} (question : StateM FileTree α) : Prop :=
  ∀ tree, (question.run tree).2 = tree

namespace Keeps

variable {α β : Type}

/-- An answer that is known needs no question. -/
lemma pure (a : α) : Keeps (Pure.pure a) := fun _ => rfl

/-- Questions that leave all files as they are can be asked one after the other. -/
lemma bind {question : StateM FileTree α} {next : α → StateM FileTree β} (h : Keeps question)
    (hnext : ∀ a, Keeps (next a)) : Keeps (question >>= next) := by
  intro tree
  rw [StateT.run_bind]
  exact (hnext _ _).trans (h tree)

end Keeps

namespace FileSystem

/-- What a machine refuses to read or to write for reasons that the tree of its files does not show,
such as rights or a full disk. -/
structure Refusals where
  read : FileTree → String → Option FileFault := fun _ _ => none
  write : FileTree → String → Option FileFault := fun _ _ => none

/-- The file system, unless it refuses. -/
def refusing (fs : FileSystem (StateM FileTree)) (refusals : Refusals) :
    FileSystem (StateM FileTree) :=
  { fs with
    read := fun path => do
      match refusals.read (← get) path with
      | some fault => return .error fault
      | none => fs.read path
    write := fun path bytes => do
      match refusals.write (← get) path with
      | some fault => return .error fault
      | none => fs.write path bytes }

/-- The file system answers as its tree does, unless it refuses: it can fail to read and to write,
and then the tree is left as it was. -/
structure ActsOn (fs : FileSystem (StateM FileTree)) (workingDirectory : List String) : Prop where
  keeps_workingDirectory : Keeps fs.workingDirectory
  keeps_read (path : String) : Keeps (fs.read path)
  keeps_isFile (path : String) : Keeps (fs.isFile path)
  read_of_ok {path : String} {tree : FileTree} {bytes : ByteArray} :
    ((fs.read path).run tree).1 = .ok bytes → tree.read workingDirectory path = .ok bytes
  run_isThere (path : String) (tree : FileTree) :
    (fs.isThere path).run tree = pure ((tree.find workingDirectory path).isOk, tree)
  run_write (path : String) (bytes : ByteArray) (tree : FileTree) :
    (∃ fault, (fs.write path bytes).run tree = (.error fault, tree)) ∨
      ∃ after, tree.write workingDirectory path bytes = .ok after ∧
        (fs.write path bytes).run tree = (.ok (), after)

/-- A tree of files acts as such, whatever is refused. -/
lemma actsOn_refusing_ofTree (workingDirectory : List String) (refusals : Refusals) :
    ((ofTree workingDirectory).refusing refusals).ActsOn workingDirectory where
  keeps_workingDirectory := Keeps.pure _
  keeps_read path tree := by
    simp only [refusing, StateT.run_bind, StateT.run_get]
    cases h : refusals.read tree path <;> simp only [pure_bind, h] <;> rfl
  keeps_isFile path tree := by
    simp only [refusing, ofTree, StateT.run_bind, StateT.run_get, pure_bind]
    split <;> rfl
  read_of_ok {path tree bytes} hread := by
    simp only [refusing, StateT.run_bind, StateT.run_get, pure_bind] at hread
    cases h : refusals.read tree path with
    | none =>
      rw [h] at hread
      exact hread
    | some fault =>
      rw [h] at hread
      cases hread
  run_isThere path tree := rfl
  run_write path bytes tree := by
    simp only [refusing, StateT.run_bind, StateT.run_get, pure_bind]
    cases h : refusals.write tree path with
    | some fault => exact .inl ⟨fault, rfl⟩
    | none =>
      simp only [ofTree, StateT.run_bind, StateT.run_get, pure_bind]
      cases hwrite : tree.write workingDirectory path bytes with
      | error fault => exact .inl ⟨fault, rfl⟩
      | ok after => exact .inr ⟨after, rfl, rfl⟩

section Reading

variable {fs : FileSystem (StateM FileTree)} {workingDirectory : List String}
  (hfs : fs.ActsOn workingDirectory)
include hfs

/-- Reading a text leaves all files as they are. -/
lemma ActsOn.keeps_readText (path : String) : Keeps (fs.readText path) := by
  refine (hfs.keeps_read path).bind fun result => ?_
  cases result with
  | error fault => exact Keeps.pure _
  | ok bytes =>
    dsimp only
    cases String.fromUTF8? bytes <;> exact Keeps.pure _

/-- Reading a page leaves all files as they are. -/
lemma ActsOn.keeps_readPage (path : String) : Keeps (readPage fs path) := by
  refine (hfs.keeps_readText path).bind fun result => ?_
  cases result <;> exact Keeps.pure _

/-- Looking for a file of settings leaves all files as they are. -/
lemma ActsOn.keeps_locate (path : String) : Keeps (Settings.locate fs path) := by
  refine hfs.keeps_workingDirectory.bind fun names => (hfs.keeps_isFile _).bind fun isFile => ?_
  split
  · exact Keeps.pure _
  · split
    · exact Keeps.pure _
    · refine (hfs.keeps_isFile _).bind fun isFile => ?_
      split <;> exact Keeps.pure _

/-- Reading a file of settings leaves all files as they are. -/
lemma ActsOn.keeps_readFile (path : String) : Keeps (Settings.readFile fs path) := by
  refine (hfs.keeps_locate path).bind fun path? => ?_
  cases path? with
  | none => exact Keeps.pure _
  | some path =>
    refine (hfs.keeps_read path).bind fun result => ?_
    cases result <;> exact Keeps.pure _

/-- Reading all files of settings leaves them as they are. -/
lemma ActsOn.keeps_readFiles (layers : List Layer) : Keeps (Settings.readFiles fs layers) := by
  induction layers with
  | nil => exact Keeps.pure _
  | cons layer layers ih =>
    cases layer with
    | value key value => exact ih
    | file path =>
      refine (hfs.keeps_readFile path).bind fun entries? => ?_
      cases entries? with
      | none => exact Keeps.pure _
      | some entries => exact ih.bind fun rest? => Keeps.pure _

/-- Loading the settings leaves all files as they are. -/
lemma ActsOn.keeps_load (layers : List Layer) : Keeps (Settings.load fs layers) := by
  unfold Settings.load
  cases Settings.values? layers with
  | none => exact Keeps.pure _
  | some values =>
    refine (hfs.keeps_readFiles layers).bind fun files? => ?_
    cases files? with
    | none => exact Keeps.pure _
    | some files =>
      dsimp only
      cases Settings.ofLayers? files values <;> exact Keeps.pure _

/-- Reading a command map leaves all files as they are. -/
lemma ActsOn.keeps_readCommandMap (path : String) : Keeps (Settings.readCommandMap fs path) := by
  refine (hfs.keeps_readText path).bind fun result => ?_
  cases result with
  | error fault => exact Keeps.pure _
  | ok source =>
    dsimp only
    cases CommandMap.parse source <;> exact Keeps.pure _

/-- Resolving the settings leaves all files as they are. -/
lemma ActsOn.keeps_resolution (settings : Settings) : Keeps (settings.resolution fs) := by
  unfold Settings.resolution
  split
  · exact Keeps.pure _
  · exact Keeps.pure _
  · refine (hfs.keeps_readCommandMap _).bind fun result => ?_
    cases result <;> exact Keeps.pure _

end Reading

end FileSystem

namespace Command

/-! ## Steps -/

namespace Steps

variable {α β ε : Type}

/-- However the steps end from a tree, their result and the tree that they leave are as
described. -/
def Ends (steps : Steps (StateM FileTree) α) (tree : FileTree)
    (post : Except Fault α → FileTree → Prop) : Prop :=
  ∀ record, post ((steps.run.run record).run tree).1.1 ((steps.run.run record).run tree).2

variable {tree : FileTree} {post : Except Fault α → FileTree → Prop}

/-- Steps after steps: the second ones are taken if the first ones do not fail. -/
lemma Ends.bind {steps : Steps (StateM FileTree) β} {next : β → Steps (StateM FileTree) α}
    (h : steps.Ends tree fun result after =>
      match result with
      | .ok b => (next b).Ends after post
      | .error fault => post (.error fault) after) :
    (steps >>= next).Ends tree post := by
  intro record
  have hsteps := h record
  rw [ExceptT.run_bind, StateT.run_bind, StateT.run_bind]
  revert hsteps
  rcases (steps.run.run record).run tree with ⟨⟨result | b, record'⟩, after⟩
  · exact id
  · exact fun hnext => hnext record'

/-- What is described may be described by less. -/
lemma Ends.mono {steps : Steps (StateM FileTree) α} {post' : Except Fault α → FileTree → Prop}
    (h : steps.Ends tree post) (himp : ∀ result after, post result after → post' result after) :
    steps.Ends tree post' :=
  fun record => himp _ _ (h record)

/-- A result that is known changes no file. -/
lemma ends_pure {a : α} (h : post (.ok a) tree) :
    (pure a : Steps (StateM FileTree) α).Ends tree post :=
  fun _ => h

/-- Telling events changes no file. -/
lemma ends_tell {post : Except Fault Unit → FileTree → Prop} (h : post (.ok ()) tree)
    (events : List Event) : (tell events : Steps (StateM FileTree) Unit).Ends tree post :=
  fun _ => h

/-- Printing changes no file. -/
lemma ends_print {post : Except Fault Unit → FileTree → Prop} (h : post (.ok ()) tree)
    (text : String) : (print text : Steps (StateM FileTree) Unit).Ends tree post :=
  fun _ => h

/-- What is needed is there, or the steps fail with its fault. -/
lemma ends_need {fault : ε → Fault} {result : Except ε α}
    (h : ∀ a, result = .ok a → post (.ok a) tree)
    (hfail : ∀ e, result = .error e → post (.error (fault e)) tree) :
    (need fault result : Steps (StateM FileTree) α).Ends tree post := by
  cases result with
  | ok a => exact fun _ => h a rfl
  | error e => exact fun _ => hfail e rfl

/-- What is needed may come with events. -/
lemma ends_needLogged {fault : ε → Fault} {result : Logged (Except ε α)}
    (h : ∀ a, result.value = .ok a → post (.ok a) tree)
    (hfail : ∀ e, result.value = .error e → post (.error (fault e)) tree) :
    (needLogged fault result : Steps (StateM FileTree) α).Ends tree post :=
  Ends.bind (ends_tell (ends_need h hfail) result.log)

/-- A question gives an answer and leaves a tree. -/
lemma ends_ask {question : StateM FileTree α}
    (h : post (.ok (question.run tree).1) (question.run tree).2) : (ask question).Ends tree post :=
  fun _ => h

/-- A question that leaves all files as they are only gives an answer. -/
lemma ends_ask_of_keeps {question : StateM FileTree α} (hkeeps : Keeps question)
    (h : post (.ok (question.run tree).1) tree) : (ask question).Ends tree post := by
  refine ends_ask ?_
  rwa [hkeeps tree]

end Steps

/-! ## The page and its stylesheet -/

/-- Whether the fault is a write that was refused. -/
def Fault.isRefusedWrite : Fault → Bool
  | .output (.unwritable _ _) => true
  | _ => false

/-- The path that the published page is written to: the page itself, or the path that is asked
for. -/
inductive Options.WritesTo (options : Options) : String → Prop where
  | inPlace : options.has .inPlace = true → options.WritesTo options.input
  | named {path : String} : options.has .inPlace = false → options.get? .output = some path →
      options.WritesTo path

/-- The output is the path that the page is written to. -/
lemma Options.output?_eq_some_iff {options : Options} {path : String} :
    options.output? = some path ↔ options.WritesTo path := by
  rw [output?]
  constructor
  · intro h
    split at h
    next hinPlace =>
      obtain rfl := Option.some.inj h
      exact .inPlace hinPlace
    next hnamed => exact .named (by simpa using hnamed) h
  · rintro (hinPlace | ⟨hnamed, houtput⟩)
    · rw [if_pos hinPlace]
    · rw [hnamed, if_neg Bool.false_ne_true, houtput]

/-- The page is published from the text of the input, as some settings say. -/
def IsPublished (options : Options) (workingDirectory : List String) (tree : FileTree)
    (page : Published) : Prop :=
  ∃ bytes source resolution how, tree.read workingDirectory options.input = .ok bytes ∧
    String.fromUTF8? bytes = some source ∧ (publish resolution how source).value = .ok page

/-- The tree after the page is printed or written. -/
inductive PageOut (options : Options) (workingDirectory : List String) (tree : FileTree) :
    FileTree → Prop where
  | printed : (∀ path, ¬options.WritesTo path) → PageOut options workingDirectory tree tree
  | written {path : String} {page : Published} {after : FileTree} : options.WritesTo path →
      IsPublished options workingDirectory tree page →
      tree.write workingDirectory path page.html.toUTF8 = .ok after →
      PageOut options workingDirectory tree after

/-- The path of the stylesheet. -/
def Options.stylesheetPath (options : Options) : String :=
  Path.join options.outDir Stylesheet.fileName

/-- How a run ends and the tree that it leaves. -/
inductive Leaves (options : Options) (workingDirectory : List String) (tree : FileTree) :
    Except Fault Unit → FileTree → Prop where
  /-- It fails before anything is written. -/
  | stopped (fault : Fault) : Leaves options workingDirectory tree (.error fault) tree
  /-- The page is out, and there is no stylesheet to write. -/
  | done {after : FileTree} : PageOut options workingDirectory tree after →
      Leaves options workingDirectory tree (.ok ()) after
  /-- The page is out, and the stylesheet cannot be written. -/
  | refused {after : FileTree} (path : String) (fault : FileFault) :
      PageOut options workingDirectory tree after →
      Leaves options workingDirectory tree (.error (.output (.unwritable path fault))) after
  /-- The page is out, and the stylesheet is written where there was none. -/
  | styled {middle after : FileTree} : PageOut options workingDirectory tree middle →
      options.has .writeCss = true →
      (middle.find workingDirectory options.stylesheetPath).isOk = false →
      middle.write workingDirectory options.stylesheetPath Stylesheet.text.toUTF8 = .ok after →
      Leaves options workingDirectory tree (.ok ()) after

section Run

variable {fs : FileSystem (StateM FileTree)} {workingDirectory : List String}
  (hfs : fs.ActsOn workingDirectory) {options : Options} {tree : FileTree}
include hfs

/-- A page is written, or it is refused and the tree is left as it was. -/
lemma run_writePage (path text : String) (tree : FileTree) :
    (∃ fault, (writePage fs path text).run tree = (.error (.unwritable path fault), tree)) ∨
      ∃ after, tree.write workingDirectory path text.toUTF8 = .ok after ∧
        (writePage fs path text).run tree = (.ok (), after) := by
  simp only [writePage, FileSystem.writeText, StateT.run_bind]
  rcases hfs.run_write path text.toUTF8 tree with ⟨fault, hrun⟩ | ⟨after, hwrite, hrun⟩
  · rw [hrun]
    exact .inl ⟨fault, rfl⟩
  · rw [hrun]
    exact .inr ⟨after, hwrite, rfl⟩

/-- The source of a page is the text of its file. -/
lemma exists_bytes_of_readPage {path source : String}
    (h : ((readPage fs path).run tree).1 = .ok source) :
    ∃ bytes, tree.read workingDirectory path = .ok bytes ∧
      String.fromUTF8? bytes = some source := by
  simp only [readPage, FileSystem.readText, StateT.run_bind] at h
  have hread : ∀ bytes, ((fs.read path).run tree).1 = .ok bytes →
      tree.read workingDirectory path = .ok bytes := fun bytes => hfs.read_of_ok
  revert hread h
  rcases (fs.read path).run tree with ⟨fault | bytes, after⟩
  · intro h
    cases h
  · intro h hread
    refine ⟨bytes, hread bytes rfl, ?_⟩
    simp only [bind] at h
    cases htext : String.fromUTF8? bytes with
    | none =>
      rw [htext] at h
      cases h
    | some text =>
      rw [htext] at h
      exact congrArg some (Except.ok.inj h)

/-- A page is published to its file, or the tree is left as it was. -/
lemma run_publishTo (path : String) (resolution : Resolution) (how : PublishOptions)
    (source : String) (tree : FileTree) :
    (∃ fault log, (publishTo fs path resolution how source).run tree =
      (⟨.error fault, log⟩, tree)) ∨
      ∃ page log after, (publish resolution how source).value = .ok page ∧
        tree.write workingDirectory path page.html.toUTF8 = .ok after ∧
        (publishTo fs path resolution how source).run tree = (⟨.ok page.report, log⟩, after) := by
  unfold publishTo
  rcases publish resolution how source with ⟨fault | page, log⟩
  · exact .inl ⟨_, _, rfl⟩
  · simp only [StateT.run_bind]
    rcases run_writePage hfs path page.html tree with ⟨fault, hrun⟩ | ⟨after, hwrite, hrun⟩
    · rw [hrun]
      exact .inl ⟨_, _, rfl⟩
    · rw [hrun]
      exact .inr ⟨page, _, after, rfl, hwrite, rfl⟩

/-- The page is put out, or all files are left as they were. -/
lemma ends_putOut {settings : Settings} {resolution : Resolution} {source : String}
    {bytes : ByteArray} (hread : tree.read workingDirectory options.input = .ok bytes)
    (htext : String.fromUTF8? bytes = some source) :
    (putOut fs options settings resolution source).Ends tree fun result after =>
      (∃ fault, result = .error fault ∧ after = tree) ∨
        result = .ok () ∧ PageOut options workingDirectory tree after := by
  unfold putOut
  cases houtput : options.output? with
  | none =>
    refine .bind (Steps.ends_needLogged (fun page hpage => ?_) fun fault _ => .inl ⟨_, rfl, rfl⟩)
    refine .bind
      (Steps.ends_tell (Steps.ends_print (.inr ⟨rfl, .printed fun path hpath => ?_⟩) _) _)
    rw [Options.output?_eq_some_iff.2 hpath] at houtput
    cases houtput
  | some path =>
    have hpath : options.WritesTo path := Options.output?_eq_some_iff.1 houtput
    refine .bind (Steps.ends_ask ?_)
    rcases run_publishTo hfs path resolution
      { stylesheet := settings.stylesheet, force := settings.force } source tree with
      ⟨fault, log, hrun⟩ | ⟨page, log, after, hpage, hwrite, hrun⟩
    · rw [hrun]
      exact .bind (Steps.ends_needLogged (fun report hreport => nomatch hreport)
        fun fault _ => .inl ⟨_, rfl, rfl⟩)
    · rw [hrun]
      refine .bind (Steps.ends_needLogged (fun report _ => ?_) fun fault hfault => nomatch hfault)
      exact Steps.ends_tell (.inr ⟨rfl, .written hpath ⟨_, _, _, _, hread, htext, hpage⟩ hwrite⟩) _

/-- A stylesheet that is there stays, and one that is not there is written or refused. -/
lemma run_writeStylesheet (dir : String) (tree : FileTree) :
    let path := Path.join dir Stylesheet.fileName
    (∃ log, (Stylesheet.writeTo fs dir).run tree = (⟨.ok none, log⟩, tree)) ∨
      (∃ fault, (Stylesheet.writeTo fs dir).run tree =
        (⟨.error (.unwritable path fault), []⟩, tree)) ∨
      ∃ after, (tree.find workingDirectory path).isOk = false ∧
        tree.write workingDirectory path Stylesheet.text.toUTF8 = .ok after ∧
        (Stylesheet.writeTo fs dir).run tree = (⟨.ok (some path), []⟩, after) := by
  intro path
  simp only [Stylesheet.writeTo, StateT.run_bind, hfs.run_isThere, pure_bind]
  cases hfind : (tree.find workingDirectory path).isOk with
  | true => exact .inl ⟨_, rfl⟩
  | false =>
    simp only [Bool.false_eq_true, if_false, StateT.run_bind]
    rcases run_writePage hfs path Stylesheet.text tree with ⟨fault, hrun⟩ | ⟨after, hwrite, hrun⟩
    · rw [hrun]
      exact .inr (.inl ⟨fault, rfl⟩)
    · rw [hrun]
      exact .inr (.inr ⟨after, trivial, hwrite, rfl⟩)

/-- The stylesheet is written if it is asked for and not there; otherwise all files are left as they
were. -/
lemma ends_addStylesheet :
    (addStylesheet fs options).Ends tree fun result after =>
      after = tree ∧
          (result = .ok () ∨ ∃ path fault, result = .error (.output (.unwritable path fault))) ∨
        result = .ok () ∧ options.has .writeCss = true ∧
          (tree.find workingDirectory options.stylesheetPath).isOk = false ∧
          tree.write workingDirectory options.stylesheetPath Stylesheet.text.toUTF8 =
            .ok after := by
  unfold addStylesheet
  split
  next hcss =>
    refine .bind (Steps.ends_ask ?_)
    rcases run_writeStylesheet hfs options.outDir tree with
      ⟨log, hrun⟩ | ⟨fault, hrun⟩ | ⟨after, hfind, hwrite, hrun⟩
    · rw [hrun]
      refine .bind
        (Steps.ends_needLogged (fun written hwritten => ?_) fun fault hfault => nomatch hfault)
      obtain rfl := Except.ok.inj hwritten
      exact Steps.ends_pure (.inl ⟨rfl, .inl rfl⟩)
    · rw [hrun]
      refine .bind
        (Steps.ends_needLogged (fun written hwritten => nomatch hwritten) fun fault hfault => ?_)
      obtain rfl := Except.error.inj hfault
      exact .inl ⟨rfl, .inr ⟨_, _, rfl⟩⟩
    · rw [hrun]
      refine .bind
        (Steps.ends_needLogged (fun written hwritten => ?_) fun fault hfault => nomatch hfault)
      obtain rfl := Except.ok.inj hwritten
      exact Steps.ends_tell (.inr ⟨rfl, hcss, hfind, hwrite⟩) _
  next => exact Steps.ends_pure (.inl ⟨rfl, .inl rfl⟩)

/-- All that can happen in a run.  Everything that can fail for another reason than a refused write
comes before anything is written. -/
lemma ends_steps : (steps fs options).Ends tree (Leaves options workingDirectory tree) := by
  have hstop : ∀ fault : Fault, Leaves options workingDirectory tree (.error fault) tree := .stopped
  unfold steps
  refine .bind (Steps.ends_ask_of_keeps (hfs.keeps_load _) ?_)
  refine .bind (Steps.ends_need (fun settings _ => ?_) fun fault _ => hstop _)
  refine .bind (Steps.ends_ask_of_keeps (hfs.keeps_resolution settings) ?_)
  refine .bind (Steps.ends_need (fun resolution _ => ?_) fun fault _ => hstop _)
  refine .bind (Steps.ends_ask_of_keeps hfs.keeps_workingDirectory ?_)
  refine .bind (Steps.ends_needLogged (fun resolution _ => ?_) fun fault _ => hstop _)
  refine .bind (Steps.ends_ask_of_keeps (hfs.keeps_readPage _) ?_)
  refine .bind (Steps.ends_need (fun source hsource => ?_) fun fault _ => hstop _)
  obtain ⟨bytes, hread, htext⟩ := exists_bytes_of_readPage hfs hsource
  refine .bind ((ends_putOut hfs hread htext).mono fun result after hput => ?_)
  rcases hput with ⟨fault, rfl, rfl⟩ | ⟨rfl, hpage⟩
  · exact hstop fault
  · refine (ends_addStylesheet hfs).mono fun result final hstyle => ?_
    rcases hstyle with ⟨rfl, rfl | ⟨path, fault, rfl⟩⟩ | ⟨rfl, hcss, hfind, hwrite⟩
    · exact .done hpage
    · exact .refused path fault hpage
    · exact .styled hpage hcss hfind hwrite

/-- A run says how it ended: the status is zero if it did not fail, and otherwise the fault is
told. -/
lemma leaves_runOptions (options : Options) (tree : FileTree) :
    let ended := (runOptions fs options).run tree
    (ended.1.code = 0 ∧ Leaves options workingDirectory tree (.ok ()) ended.2) ∨
      ∃ fault, ended.1.fault = some fault ∧ ended.1.code ≠ 0 ∧
        Leaves options workingDirectory tree (.error fault) ended.2 := by
  have hleaves : Leaves options workingDirectory tree _ _ := ends_steps hfs {}
  simp only [runOptions, StateT.run_bind]
  revert hleaves
  rcases ((steps fs options).run.run {}).run tree with ⟨⟨fault | _, record⟩, after⟩
  · exact fun h => .inr ⟨fault, rfl, Nat.one_ne_zero, h⟩
  · exact fun h => .inl ⟨rfl, h⟩

end Run

/-! ## The places that are touched -/

/-- The directory that the page is written to, or the working directory if the page is printed. -/
inductive Options.OutputDirectory (options : Options) (workingDirectory : List String)
    (tree : FileTree) : List String → Prop where
  | ofPage {path : String} {place : List String} : options.WritesTo path →
      tree.target workingDirectory path = .ok place →
      options.OutputDirectory workingDirectory tree place.dropLast
  | ofPrinted : (∀ path, ¬options.WritesTo path) →
      options.OutputDirectory workingDirectory tree workingDirectory

/-- The places that a run may change: that of the page, and that of the stylesheet in the same
directory if it is asked for and was not there. -/
inductive Touches (options : Options) (workingDirectory : List String) (tree : FileTree) :
    List String → Prop where
  | page {path : String} {place : List String} : options.WritesTo path →
      tree.target workingDirectory path = .ok place → Touches options workingDirectory tree place
  | stylesheet {directory : List String} : options.has .writeCss = true →
      options.OutputDirectory workingDirectory tree directory →
      tree.entryAt? (directory ++ [Stylesheet.fileName]) = none →
      Touches options workingDirectory tree (directory ++ [Stylesheet.fileName])

section Touched

variable {options : Options} {workingDirectory : List String} {tree middle after : FileTree}

/-- Putting out the page changes nothing but its place. -/
lemma PageOut.touches (h : PageOut options workingDirectory tree after) {place : List String}
    (hplace : after.entryAt? place ≠ tree.entryAt? place) :
    Touches options workingDirectory tree place := by
  cases h with
  | printed => exact absurd rfl hplace
  | written hpath _ hwrite =>
    obtain ⟨target, htarget, hentries⟩ := FileTree.entryAt?_of_write hwrite
    by_cases hsame : place = target
    · subst hsame
      exact .page hpath htarget
    · rw [hentries, if_neg hsame] at hplace
      exact absurd rfl hplace

/-- What is not there when the page is out was not there before. -/
lemma PageOut.entryAt?_eq_none (h : PageOut options workingDirectory tree after)
    {place : List String} (hplace : after.entryAt? place = none) : tree.entryAt? place = none := by
  cases h with
  | printed => exact hplace
  | written hpath _ hwrite =>
    obtain ⟨target, htarget, hentries⟩ := FileTree.entryAt?_of_write hwrite
    rw [hentries] at hplace
    split at hplace
    · cases hplace
    · exact hplace

/-- The stylesheet is written to the output directory. -/
lemma PageOut.stylesheet_target (h : PageOut options workingDirectory tree middle)
    {target : List String}
    (htarget : middle.target workingDirectory options.stylesheetPath = .ok target) :
    ∃ directory, options.OutputDirectory workingDirectory tree directory ∧
      target = directory ++ [Stylesheet.fileName] := by
  have hname : Path.IsName Stylesheet.fileName := by decide
  have hresolve := FileTree.resolve?_of_target htarget
  cases h with
  | printed hprinted =>
    have houtput : options.output? = none := by
      rw [Option.eq_none_iff_forall_ne_some]
      intro path hpath
      exact hprinted path (Options.output?_eq_some_iff.1 hpath)
    have hdirectory : options.outDir = "." := by rw [Options.outDir, houtput]; rfl
    have hdot : Path.resolve? workingDirectory "." = some workingDirectory := by
      have hrelative : Path.isAbsolute "." = false := by decide
      rw [Path.resolve?_of_ne_empty (by decide), Path.names_dot]
      simp [Path.startOf, hrelative]
    rw [Options.stylesheetPath, hdirectory,
      Path.resolve?_join hdot (FileTree.isAbsolute_of_no_slash hname.no_slash),
      hname.names_eq] at hresolve
    refine ⟨workingDirectory, .ofPrinted hprinted, ?_⟩
    simpa [Path.enter, hname.ne_parent] using (Option.some.inj hresolve).symm
  | @written path _ _ hpath _ hwrite =>
    obtain ⟨place, hplace, -⟩ := FileTree.entryAt?_of_write hwrite
    refine ⟨place.dropLast, .ofPage hpath hplace, ?_⟩
    have hdirectory : options.outDir = FileTree.directoryOf path := by
      rw [Options.outDir, Options.output?_eq_some_iff.2 hpath]
      rfl
    rw [Options.stylesheetPath, hdirectory, FileTree.resolve?_beside hplace hname] at hresolve
    exact (Option.some.inj hresolve).symm

/-- A run changes nothing but the places that it may touch. -/
lemma Leaves.touches {result : Except Fault Unit}
    (h : Leaves options workingDirectory tree result after) {place : List String}
    (hplace : after.entryAt? place ≠ tree.entryAt? place) :
    Touches options workingDirectory tree place := by
  cases h with
  | stopped => exact absurd rfl hplace
  | done hpage => exact hpage.touches hplace
  | refused _ _ hpage => exact hpage.touches hplace
  | styled hpage hcss hfind hwrite =>
    obtain ⟨target, htarget, hentries⟩ := FileTree.entryAt?_of_write hwrite
    by_cases hsame : place = target
    · subst hsame
      have hnone := hpage.entryAt?_eq_none (FileTree.entryAt?_target_eq_none htarget hfind)
      obtain ⟨directory, hdirectory, rfl⟩ := hpage.stylesheet_target htarget
      exact .stylesheet hcss hdirectory hnone
    · rw [hentries, if_neg hsame] at hplace
      exact hpage.touches hplace

/-- A run that fails for another reason than a refused write leaves all files as they were. -/
lemma Leaves.eq_of_fault {fault : Fault}
    (h : Leaves options workingDirectory tree (.error fault) after)
    (hfault : fault.isRefusedWrite = false) : after = tree := by
  cases h with
  | stopped => rfl
  | refused => cases hfault

/-- When the page is out, its place holds it. -/
lemma PageOut.exists_page (h : PageOut options workingDirectory tree after) {path : String}
    (hpath : options.WritesTo path) :
    ∃ place page, tree.target workingDirectory path = .ok place ∧
      IsPublished options workingDirectory tree page ∧
      after.entryAt? place = some (.file page.html.toUTF8) := by
  cases h with
  | printed hprinted => exact absurd hpath (hprinted path)
  | written hpath' hpage hwrite =>
    obtain ⟨place, hplace, hentries⟩ := FileTree.entryAt?_of_write hwrite
    have hsame : some _ = some path := (Options.output?_eq_some_iff.2 hpath').symm.trans
      (Options.output?_eq_some_iff.2 hpath)
    obtain rfl := Option.some.inj hsame
    exact ⟨place, _, hplace, hpage, by rw [hentries, if_pos rfl]⟩

/-- A run that does not fail leaves the page in its place. -/
lemma Leaves.exists_page (h : Leaves options workingDirectory tree (.ok ()) after) {path : String}
    (hpath : options.WritesTo path) :
    ∃ place page, tree.target workingDirectory path = .ok place ∧
      IsPublished options workingDirectory tree page ∧
      after.entryAt? place = some (.file page.html.toUTF8) := by
  cases h with
  | done hpage => exact hpage.exists_page hpath
  | styled hpage hcss hfind hwrite =>
    obtain ⟨place, page, hplace, hpublished, hentry⟩ := hpage.exists_page hpath
    obtain ⟨target, htarget, hentries⟩ := FileTree.entryAt?_of_write hwrite
    refine ⟨place, page, hplace, hpublished, ?_⟩
    -- the page is there and the stylesheet was not, so the two places differ
    have hnone := FileTree.entryAt?_target_eq_none htarget hfind
    rw [hentries, if_neg, hentry]
    rintro rfl
    rw [hentry] at hnone
    cases hnone

end Touched

/-- What a run does to the files, on any tree of files and with any refusals to read and to write,
which leave a file as it was.  A run that fails for another reason than a refused write leaves
everything as it was.  No run changes anything but the place that the page is written to (that of
the page itself with `--in-place`, and none if it is printed) and the place of the default
stylesheet in the same directory, and this one only with `--write-css` and if nothing was there.  A
run that does not fail leaves the page in its place. -/
theorem run_touches_outputs_only (workingDirectory : List String) (refusals : FileSystem.Refusals)
    (arguments : List String) (tree : FileTree) :
    let ended := (run ((FileSystem.ofTree workingDirectory).refusing refusals) arguments).run tree
    let outcome := ended.1
    let after := ended.2
    (outcome.code ≠ 0 → outcome.fault.any Fault.isRefusedWrite = false → after = tree) ∧
      (∀ place, after.entryAt? place ≠ tree.entryAt? place →
        ∃ options, Options.parse arguments = .ok options ∧
          Touches options workingDirectory tree place) ∧
      (outcome.code = 0 → ∀ options path, Options.parse arguments = .ok options →
        options.WritesTo path →
        ∃ place page, tree.target workingDirectory path = .ok place ∧
          IsPublished options workingDirectory tree page ∧
          after.entryAt? place = some (.file page.html.toUTF8)) := by
  have hfs := FileSystem.actsOn_refusing_ofTree workingDirectory refusals
  unfold run
  cases hparse : Options.parse arguments with
  | error stop =>
    cases stop
    all_goals exact
      ⟨fun _ _ => rfl, fun place hplace => absurd rfl hplace, fun _ _ _ h => nomatch h⟩
  | ok options =>
    rcases leaves_runOptions hfs options tree with
      ⟨hcode, hleaves⟩ | ⟨fault, hfault, hcode, hleaves⟩
    · refine ⟨fun hfailed => absurd hcode hfailed,
        fun place hplace => ⟨options, rfl, hleaves.touches hplace⟩, ?_⟩
      rintro - _ path h hpath
      obtain rfl := Except.ok.inj h
      exact hleaves.exists_page hpath
    · refine ⟨fun _ hother => hleaves.eq_of_fault ?_,
        fun place hplace => ⟨options, rfl, hleaves.touches hplace⟩, fun hzero => absurd hzero hcode⟩
      rwa [hfault, Option.any_some] at hother

/-- A page and a file that is no page. -/
def smallSite : FileTree :=
  .directory [("w", .directory [("a.html", .file "<p>".toUTF8), ("b.html", .file ⟨#[255]⟩)])]

/-- Published in place, the page is replaced by the one that is published from it; a file that is no
text is refused, and everything is left as it was. -/
theorem run_touches_outputs_only_inPlace :
    let fs := (FileSystem.ofTree ["w"]).refusing {}
    let options : Options := { input := "a.html", switches := [.inPlace, .writeCss] }
    let published := (run fs ["a.html", "--in-place", "--write-css"]).run smallSite
    let refused := (run fs ["b.html", "--in-place", "--write-css"]).run smallSite
    (published.1.code = 0 ∧ ∃ page, IsPublished options ["w"] smallSite page ∧
        page.html = "<html><head><meta name=\"generator\" content=\"nanolp-pub\">\n</head>" ++
          "<body><p></p></body></html>" ∧
        published.2.entryAt? ["w", "a.html"] = some (.file page.html.toUTF8)) ∧
      (refused.1.code ≠ 0 ∧ refused.2 = smallSite) := by
  intro fs options published refused
  have hcode : published.1.code = 0 := by decide +kernel
  have hparse : Options.parse ["a.html", "--in-place", "--write-css"] = .ok options := by
    decide +kernel
  have htarget : smallSite.target ["w"] "a.html" = .ok ["w", "a.html"] := by decide +kernel
  obtain ⟨-, -, hpage⟩ :=
    run_touches_outputs_only ["w"] {} ["a.html", "--in-place", "--write-css"] smallSite
  obtain ⟨place, page, hplace, hpublished, hentry⟩ :=
    hpage hcode _ _ hparse (.inPlace (by decide))
  obtain rfl : place = ["w", "a.html"] := Except.ok.inj (hplace.symm.trans htarget)
  have hwritten : published.2.entryAt? ["w", "a.html"] =
      some (.file ("<html><head><meta name=\"generator\" content=\"nanolp-pub\">\n</head>" ++
        "<body><p></p></body></html>").toUTF8) := by decide +kernel
  have hhtml := FileTree.Entry.file.inj (Option.some.inj (hentry.symm.trans hwritten))
  have hrefused : refused.1.code ≠ 0 := by decide +kernel
  have hfault : refused.1.fault.any Fault.isRefusedWrite = false := by decide +kernel
  obtain ⟨hkept, -⟩ :=
    run_touches_outputs_only ["w"] {} ["b.html", "--in-place", "--write-css"] smallSite
  exact ⟨⟨hcode, page, hpublished, String.toByteArray_inj.1 hhtml, hentry⟩, hrefused,
    hkept hrefused hfault⟩

end Command

end LiterateLinks
