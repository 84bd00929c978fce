import Mathlib.Data.Option.Defs
import LiterateLinks.Link.Source
import LiterateLinks.Proofs.Path.Difference
import LiterateLinks.Proofs.Path.Spelling

/-!
# The URLs of source files

Where the URL of a location is not the location itself, it is decided by places: the one of the
location, the one of the document and the one of the output directory
(`SourceUrls.url_of_resolve?`).  A file has a URL exactly when the names of the directory lead its
own names, component by component, so that a sibling whose name merely starts alike is outside.
This is what is left of the difference of the two paths: a difference that does not go back is made
of names only (`SourceUrls.relative?_append`), and any other one is refused
(`SourceUrls.relative?_of_not_leading`).  The URL is made of the names that follow, each shown as a
text, and read from the directory it leads to the file again if they are texts.

The empty URL stands for the document.  It is also what remains of the names of the output directory
itself, so a chunk whose location is this directory is linked into the document
(`SourceUrls.urlAt_eq_empty_iff`).

How the paths are spelled makes no difference, since all spellings of a path lead to one place
(`SourceUrls.url_congr`).  The exception is the empty path, which is refused and not taken for the
working directory.
-/

namespace LiterateLinks

namespace SourceUrls

variable {sources : SourceUrls} {workingDirectory : List ByteString} {location : String}

/-! ## From the output directory to a file -/

section Relative

variable {dir names : List ByteString} (hdir : Place.IsPlace dir)
include hdir

/-- A file below the directory is reached by the names that follow those of the directory. -/
lemma relative?_append {rest : List ByteString} (hnames : Place.IsPlace (dir ++ rest)) :
    ∃ path, relative? dir (dir ++ rest) = some path ∧
      urlPath path = "/".intercalate (rest.map ByteString.lossy) := by
  obtain ⟨path, hpath, hcomponents⟩ := Place.difference?_append hdir hnames
  refine ⟨path, ?_, ?_⟩
  · have hstays : (Place.components path).any Place.Component.leaves = false := by
      rw [hcomponents, List.any_map]
      simp [Place.Component.leaves, Function.comp_def]
    rw [relative?, hpath, Option.filter_some, hstays]
    rfl
  · rw [urlPath, hcomponents, List.filterMap_map]
    congr 1
    exact congrFun List.filterMap_eq_map' rest

/-- No other file is reached without leaving the directory. -/
lemma relative?_of_not_leading (hnames : Place.IsPlace names) (h : ¬dir <+: names) :
    relative? dir names = none := by
  obtain ⟨path, hpath, hparent⟩ := Place.difference?_of_not_leading hdir hnames h
  have hleaves : (Place.components path).any Place.Component.leaves = true :=
    List.any_eq_true.2 ⟨.parentDir, hparent, rfl⟩
  rw [relative?, hpath, Option.filter_some, hleaves]
  rfl

end Relative

/-! ## The URL of a location -/

/-- The URL of a file with these names below the output directory. -/
def relativeUrl (sources : SourceUrls) (rest : List ByteString) : String :=
  match sources.base with
  | some base => base ++ "/" ++ "/".intercalate (rest.map ByteString.lossy)
  | none => "/".intercalate (rest.map ByteString.lossy)

/-- The URL of a file at a place, by the place of the output directory. -/
def urlAt (sources : SourceUrls) (dir? : Option (List ByteString)) (place : List ByteString) :
    Except Fault String :=
  match dir? with
  | none => .error .emptyPath
  | some dir =>
    if dir <+: place then .ok (sources.relativeUrl (place.drop dir.length))
    else .error (.unreachable place)

/-- A file below the directory has the URL of the names that follow. -/
lemma urlAt_append (dir rest : List ByteString) :
    sources.urlAt (some dir) (dir ++ rest) = .ok (sources.relativeUrl rest) := by
  simp [urlAt]

/-- Any other file is reported with its place. -/
lemma urlAt_of_not_leading {dir place : List ByteString} (h : ¬dir <+: place) :
    sources.urlAt (some dir) place = .error (.unreachable place) := by
  simp [urlAt, h]

/-- A path that leads somewhere is resolved. -/
lemma resolve_of_some {path : ByteString} {place : List ByteString}
    (h : Place.resolve? workingDirectory path = some place) :
    resolve workingDirectory path = .ok place := by
  rw [resolve, h]

/-- The empty path is refused. -/
lemma resolve_empty : resolve workingDirectory "" = .error .emptyPath := by
  rw [resolve, Place.resolve?_eq_none_iff.2 rfl]

/-- The place of the document, where one is set. -/
lemma mapM_resolve (document : Option ByteString) :
    document.mapM (resolve workingDirectory) =
      if document = some ("" : ByteString) then .error .emptyPath
      else .ok (document.bind (Place.resolve? workingDirectory)) := by
  cases document with
  | none => rfl
  | some path =>
    rw [Option.mapM_some]
    by_cases hpath : path = ""
    · rw [hpath, resolve_empty, if_pos rfl]
      rfl
    · obtain ⟨place, hplace⟩ := Place.exists_resolve?_eq_some workingDirectory hpath
      rw [resolve_of_some hplace, if_neg (by simpa using hpath), Option.bind_some, hplace]
      rfl

/-- A URL stays as it is. -/
lemma url_of_isUrl (hurl : isUrl location = true) :
    sources.url workingDirectory location = .ok location := by
  rw [url, if_pos (by simp [hurl])]
  rfl

/-- A location that leads somewhere is not empty. -/
lemma ne_empty_of_resolve?_location {place : List ByteString}
    (h : Place.resolve? workingDirectory location = some place) : location ≠ "" := by
  rintro rfl
  exact Place.ne_empty_of_resolve? h rfl

/-- The URL of a location that is a path depends on places only. -/
lemma url_of_resolve? (hwd : Place.IsPlace workingDirectory) {place : List ByteString}
    (hurl : isUrl location = false)
    (hplace : Place.resolve? workingDirectory location = some place) :
    sources.url workingDirectory location =
      if sources.document = some ("" : ByteString) then .error .emptyPath
      else if sources.document.bind (Place.resolve? workingDirectory) = some place then .ok ""
      else sources.urlAt (Place.resolve? workingDirectory sources.outDir) place := by
  have hempty : location ≠ "" := ne_empty_of_resolve?_location hplace
  have hpath : (location.isEmpty || isUrl location) = false := by simp [hempty, hurl]
  have hplaced : Place.IsPlace place := Place.isPlace_of_resolve? hwd hplace
  unfold url
  rw [hpath, resolve_of_some hplace, mapM_resolve]
  -- The document is looked at before the output directory.
  by_cases hdocument : sources.document = some ("" : ByteString)
  · rw [if_pos hdocument, if_pos hdocument]
    rfl
  rw [if_neg hdocument, if_neg hdocument]
  by_cases hown : sources.document.bind (Place.resolve? workingDirectory) = some place
  · rw [if_pos hown]
    exact if_pos hown
  rw [if_neg hown]
  refine (if_neg hown).trans ?_
  cases hdir : Place.resolve? workingDirectory sources.outDir with
  | none =>
    rw [Place.resolve?_eq_none_iff.1 hdir, resolve_empty]
    rfl
  | some dir =>
    have hdirectory : Place.IsPlace dir := Place.isPlace_of_resolve? hwd hdir
    rw [resolve_of_some hdir]
    by_cases hleads : dir <+: place
    · obtain ⟨rest, rfl⟩ := hleads
      obtain ⟨path, hrelative, hshown⟩ := relative?_append hdirectory hplaced
      rw [urlAt_append]
      simp only [bind, Except.bind, hrelative, hshown, relativeUrl]
      cases sources.base <;> rfl
    · rw [urlAt_of_not_leading hleads]
      simp only [bind, Except.bind, relative?_of_not_leading hdirectory hplaced hleads]
      rfl

/-- The URL of a location whose place is not the one of the document. -/
lemma url_of_other (hwd : Place.IsPlace workingDirectory) {place dir : List ByteString}
    (hurl : isUrl location = false)
    (hplace : Place.resolve? workingDirectory location = some place)
    (hdir : Place.resolve? workingDirectory sources.outDir = some dir)
    (hother : ∀ document, sources.document = some document →
      document ≠ "" ∧ Place.resolve? workingDirectory document ≠ some place) :
    sources.url workingDirectory location = sources.urlAt (some dir) place := by
  have hset : sources.document ≠ some ("" : ByteString) := fun hempty => (hother "" hempty).1 rfl
  have hown : sources.document.bind (Place.resolve? workingDirectory) ≠ some place := by
    intro hbind
    obtain ⟨document, hdocument, hsame⟩ := Option.bind_eq_some_iff.1 hbind
    exact (hother document hdocument).2 hsame
  rw [url_of_resolve? hwd hurl hplace, if_neg hset, if_neg hown, hdir]

/-! ## Which URLs are empty -/

/-- The names of a place that are put together are empty only at the root. -/
lemma intercalate_lossy_eq_empty_iff {place : List ByteString} (h : Place.IsPlace place) :
    "/".intercalate (place.map ByteString.lossy) = "" ↔ place = [] := by
  match place with
  | [] => simp
  | [name] =>
    have hname : name ≠ "" := (h name List.mem_cons_self).1
    simpa [ByteString.lossy_eq_empty_iff] using hname
  | name :: next :: rest =>
    simp [String.intercalate_cons_cons, String.append_eq_empty_iff]

/-- Only the directory itself is left without a name, and a base makes up for it. -/
lemma relativeUrl_eq_empty_iff {rest : List ByteString} (h : Place.IsPlace rest) :
    sources.relativeUrl rest = "" ↔ sources.base = none ∧ rest = [] := by
  unfold relativeUrl
  cases sources.base with
  | none => simp [intercalate_lossy_eq_empty_iff h]
  | some base => simp [String.append_eq_empty_iff]

/-- Only the directory itself has the empty URL among the files below it. -/
lemma urlAt_eq_empty_iff {dir? : Option (List ByteString)} {place : List ByteString}
    (h : Place.IsPlace place) :
    sources.urlAt dir? place = .ok "" ↔ sources.base = none ∧ dir? = some place := by
  cases dir? with
  | none => simp [urlAt]
  | some dir =>
    by_cases hleads : dir <+: place
    · obtain ⟨rest, rfl⟩ := hleads
      simp [urlAt_append, relativeUrl_eq_empty_iff h.of_append_right]
    · have hne : dir ≠ place := by
        rintro rfl
        exact hleads (List.prefix_refl dir)
      simp [urlAt_of_not_leading hleads, hne]

end SourceUrls

open SourceUrls

/-! ## Files below the output directory -/

/-- A path has a URL exactly when the names of the output directory lead its names.  The URL is made
of the names that follow, after the base if there is one, and read from the output directory it
leads to the file again exactly when these names are texts.  Every other path is reported with its
absolute place.  This takes a document at another place, or none; for a document that is set to the
empty path, which has no place, no path has a URL. -/
theorem url_eq_ok_iff_below (sources : SourceUrls) {workingDirectory : List ByteString}
    (hwd : Place.IsPlace workingDirectory) {location : String} (hlocation : location ≠ "")
    (hurl : isUrl location = false) (hdir : sources.outDir ≠ "") :
    ∃ place dir, Place.resolve? workingDirectory location = some place ∧
      Place.resolve? workingDirectory sources.outDir = some dir ∧
      (sources.document = some ("" : ByteString) →
        sources.url workingDirectory location = .error .emptyPath) ∧
      ((∀ document, sources.document = some document →
          document ≠ "" ∧ Place.resolve? workingDirectory document ≠ some place) →
        ((∃ url, sources.url workingDirectory location = .ok url) ↔ dir <+: place) ∧
        (∀ rest, place = dir ++ rest →
          let relative := "/".intercalate (rest.map ByteString.lossy)
          (sources.base = none → sources.url workingDirectory location = .ok relative) ∧
          (∀ base, sources.base = some base →
            sources.url workingDirectory location = .ok (base ++ "/" ++ relative)) ∧
          (Place.resolve? workingDirectory (Place.join sources.outDir relative) = some place ↔
            ∀ name ∈ rest, name.IsText)) ∧
        (¬dir <+: place →
          sources.url workingDirectory location = .error (.unreachable place))) := by
  have hpath : (location : ByteString) ≠ "" := mt ByteString.ofString_inj.1 hlocation
  obtain ⟨place, hplace⟩ := Place.exists_resolve?_eq_some workingDirectory hpath
  obtain ⟨dir, hdir⟩ := Place.exists_resolve?_eq_some workingDirectory hdir
  refine ⟨place, dir, hplace, hdir, fun hdocument => ?_, fun hother => ?_⟩
  · rw [url_of_resolve? hwd hurl hplace, if_pos hdocument]
  rw [url_of_other hwd hurl hplace hdir hother]
  refine ⟨⟨?_, ?_⟩, ?_, urlAt_of_not_leading⟩
  · rintro ⟨url, hok⟩
    by_contra hleads
    rw [urlAt_of_not_leading hleads] at hok
    cases hok
  · rintro ⟨rest, rfl⟩
    exact ⟨_, urlAt_append dir rest⟩
  · rintro rest rfl
    have hrest : Place.IsPlace rest := (Place.isPlace_of_resolve? hwd hplace).of_append_right
    rw [urlAt_append]
    refine ⟨fun hbase => ?_, fun base hbase => ?_, ?_, ?_⟩
    · rw [relativeUrl, hbase]
    · rw [relativeUrl, hbase]
    · exact Place.isText_of_resolve?_join hwd hdir
    · exact Place.resolve?_join_of_isText hwd hdir hrest

/-- Read from `/usr/lib`, the output directory is `/site`.  A file below it has a URL under the
base, a file in a sibling whose name starts alike has none. -/
theorem url_eq_ok_iff_below_sibling :
    let workingDirectory : List ByteString := ["usr", "lib"]
    let file : List ByteString := ["site", "io", "a.html"]
    let sibling : List ByteString := ["site2", "a.html"]
    let sources : SourceUrls :=
      { outDir := "../../site/.", base := some "http://x.org"
        document := some ("/site/index.html" : ByteString) }
    Place.IsPlace workingDirectory ∧
      sources.url workingDirectory "/site//lib/../io/a.html" = .ok "http://x.org/io/a.html" ∧
      Place.resolve? workingDirectory (Place.join sources.outDir "io/a.html") = some file ∧
      sources.url workingDirectory "/site2/a.html" = .error (.unreachable sibling) := by
  intro workingDirectory file sibling sources
  have hwd : Place.IsPlace workingDirectory := by decide
  let site : List ByteString := ["site"]
  let page : List ByteString := ["site", "index.html"]
  have hdocument : ∀ place, place ≠ page → ∀ document, sources.document = some document →
      document ≠ "" ∧ Place.resolve? workingDirectory document ≠ some place := by
    rintro place hplace document hset
    obtain rfl : ("/site/index.html" : ByteString) = document := Option.some.inj hset
    have hown : Place.resolve? workingDirectory "/site/index.html" = some page := by decide
    exact ⟨by decide, fun hsame => hplace (Option.some.inj (hsame.symm.trans hown))⟩
  have hsite : Place.resolve? workingDirectory sources.outDir = some site := by decide
  have hfile : Place.resolve? workingDirectory "/site//lib/../io/a.html" = some file := by decide
  have hsibling : Place.resolve? workingDirectory "/site2/a.html" = some sibling := by decide
  obtain ⟨place, dir, hplace, hdir, -, hbelow⟩ := url_eq_ok_iff_below sources hwd
    (by decide : "/site//lib/../io/a.html" ≠ "") (by decide) (by decide)
  obtain ⟨other, dir', hother, hdir', -, hbeside⟩ := url_eq_ok_iff_below sources hwd
    (by decide : "/site2/a.html" ≠ "") (by decide) (by decide)
  obtain rfl : place = file := Option.some.inj (hplace.symm.trans hfile)
  obtain rfl : other = sibling := Option.some.inj (hother.symm.trans hsibling)
  obtain rfl : dir = site := Option.some.inj (hdir.symm.trans hsite)
  obtain rfl : dir' = site := Option.some.inj (hdir'.symm.trans hsite)
  obtain ⟨-, hfound, -⟩ := hbelow (hdocument _ (by decide))
  obtain ⟨-, hbase, hreached⟩ := hfound ["io", "a.html"] rfl
  obtain ⟨-, -, hunreachable⟩ := hbeside (hdocument _ (by decide))
  exact ⟨hwd, hbase "http://x.org" rfl, hreached.2 (by decide), hunreachable (by decide)⟩

/-- The names of the output directory do not always lead to a URL, nor does a URL always lead back
to the file: a document that is set to the empty path has no place, and is refused before the file
is looked at, and a name of the working directory that is not a text is shown as one. -/
theorem url_below_ne_ok_document_empty :
    let workingDirectory : List ByteString := [⟨[0xff]⟩]
    let file : List ByteString := ["site", "a.html"]
    let sources : SourceUrls := { outDir := "/site", document := some ("" : ByteString) }
    let root : SourceUrls := { outDir := "/" }
    let place : List ByteString := [⟨[0xff]⟩, "a.html"]
    Place.IsPlace workingDirectory ∧ isUrl "/site/a.html" = false ∧
      Place.resolve? workingDirectory "/site/a.html" = some file ∧
      Place.resolve? workingDirectory sources.outDir = some (["site"] : List ByteString) ∧
      sources.document.bind (Place.resolve? workingDirectory) ≠ some file ∧
      sources.url workingDirectory "/site/a.html" = .error .emptyPath ∧
      Place.resolve? workingDirectory "a.html" = some place ∧
      root.url workingDirectory "a.html" = .ok "\uFFFD/a.html" ∧
      Place.resolve? workingDirectory (Place.join root.outDir "\uFFFD/a.html") ≠ some place := by
  decide

/-! ## The empty URL -/

/-- The empty URL is given to the empty location, to the document and, where there is no base, to
the output directory itself. -/
theorem url_eq_empty_iff (sources : SourceUrls) {workingDirectory : List ByteString}
    (hwd : Place.IsPlace workingDirectory) (location : String) :
    sources.url workingDirectory location = .ok "" ↔
      location = "" ∨ isUrl location = false ∧ sources.document ≠ some ("" : ByteString) ∧
        ∃ place, Place.resolve? workingDirectory location = some place ∧
          (sources.document.bind (Place.resolve? workingDirectory) = some place ∨
            sources.base = none ∧ Place.resolve? workingDirectory sources.outDir = some place) := by
  by_cases hempty : location = ""
  · exact iff_of_true (by rw [hempty]; rfl) (.inl hempty)
  have hpath : (location : ByteString) ≠ "" := mt ByteString.ofString_inj.1 hempty
  obtain ⟨place, hplace⟩ := Place.exists_resolve?_eq_some workingDirectory hpath
  cases hurl : isUrl location with
  | true => simp [url_of_isUrl hurl, hempty]
  | false =>
    have hplaced : Place.IsPlace place := Place.isPlace_of_resolve? hwd hplace
    rw [url_of_resolve? hwd hurl hplace]
    by_cases hset : sources.document = some ("" : ByteString)
    · simp [hset, hempty]
    by_cases hown : sources.document.bind (Place.resolve? workingDirectory) = some place
    · simp [hset, hown, hplace]
    · simp [hset, hown, hempty, hplace, urlAt_eq_empty_iff hplaced]

/-- The output directory, spelled in another way, has the empty URL. -/
theorem url_eq_empty_iff_directory :
    let workingDirectory : List ByteString := ["usr", "lib"]
    let sources : SourceUrls :=
      { outDir := "/site", document := some ("/site/index.html" : ByteString) }
    Place.IsPlace workingDirectory ∧
      sources.url workingDirectory "../../site/lib/.." = .ok "" := by
  intro workingDirectory sources
  have hwd : Place.IsPlace workingDirectory := by decide
  refine ⟨hwd, (url_eq_empty_iff sources hwd _).2 (.inr ⟨by decide, by decide, ["site"], ?_, ?_⟩)⟩
  · decide
  · exact .inr ⟨rfl, by decide⟩

/-- The empty URL does not only stand for the document: the output directory has it, and is neither
empty nor the document. -/
theorem url_outDir_eq_empty :
    let workingDirectory : List ByteString := ["usr", "lib"]
    let sources : SourceUrls :=
      { outDir := "/site", document := some ("/site/index.html" : ByteString) }
    sources.base = none ∧ sources.url workingDirectory "/site" = .ok "" ∧ "/site" ≠ "" ∧
      Place.resolve? workingDirectory "/site" ≠
        Place.resolve? workingDirectory "/site/index.html" := by
  decide

/-! ## Spellings -/

namespace SourceUrls

variable {workingDirectory : List ByteString} {sources others : SourceUrls}
  {location other : String}

/-- Whether the document is set to the empty path can be told from its place. -/
lemma document_eq_empty_iff : sources.document = some ("" : ByteString) ↔
    sources.document.map (Place.resolve? workingDirectory) = some none := by
  cases sources.document with
  | none => simp
  | some document => simp [Place.resolve?_eq_none_iff]

/-- Spellings of a document lead to the same place, unless just one of them is empty. -/
lemma map_resolve?_of_rel (hwd : Place.IsPlace workingDirectory)
    {document another : Option ByteString}
    (h : Option.Rel (Place.Respelled workingDirectory) document another)
    (hempty : document = some ("" : ByteString) ↔ another = some ("" : ByteString)) :
    document.map (Place.resolve? workingDirectory) =
      another.map (Place.resolve? workingDirectory) := by
  cases h with
  | none => rfl
  | some h => exact congrArg some (h.resolve?_eq hwd (by simpa using hempty))

/-- Paths that lead to the same places give the same URL. -/
lemma url_congr (hwd : Place.IsPlace workingDirectory) (hbase : sources.base = others.base)
    (hdir : Place.resolve? workingDirectory sources.outDir =
      Place.resolve? workingDirectory others.outDir)
    (hdocument : sources.document.map (Place.resolve? workingDirectory) =
      others.document.map (Place.resolve? workingDirectory))
    (hlocation : Place.resolve? workingDirectory location = Place.resolve? workingDirectory other)
    (hurl : isUrl location = false) (hother : isUrl other = false) :
    sources.url workingDirectory location = others.url workingDirectory other := by
  cases hplace : Place.resolve? workingDirectory location with
  | none =>
    rw [hplace, eq_comm, Place.resolve?_eq_none_iff] at hlocation
    rw [Place.resolve?_eq_none_iff] at hplace
    rw [ByteString.ofString_inj.1 hplace, ByteString.ofString_inj.1 hlocation]
    rfl
  | some place =>
    have hset : sources.document = some ("" : ByteString) ↔
        others.document = some ("" : ByteString) := by
      rw [document_eq_empty_iff, hdocument, ← document_eq_empty_iff]
    have hjoin : ∀ document : Option ByteString, document.bind (Place.resolve? workingDirectory) =
        (document.map (Place.resolve? workingDirectory)).join := by
      rintro (_ | document) <;> rfl
    have hown : sources.document.bind (Place.resolve? workingDirectory) =
        others.document.bind (Place.resolve? workingDirectory) := by
      rw [hjoin, hdocument, ← hjoin]
    have hat : ∀ dir?, sources.urlAt dir? place = others.urlAt dir? place := by
      intro dir?
      simp only [urlAt, relativeUrl, hbase]
    rw [url_of_resolve? hwd hurl hplace, url_of_resolve? hwd hother (hlocation ▸ hplace), hdir,
      hown, hat]
    simp only [hset]

end SourceUrls

/-- The URL of a path does not depend on how the path, the output directory and the document are
spelled, as long as none of them is spelled as the empty path in one case and not in the other. -/
theorem url_eq_of_respelled {workingDirectory : List ByteString}
    (hwd : Place.IsPlace workingDirectory) {sources others : SourceUrls}
    (hbase : sources.base = others.base)
    (hdir : Place.Respelled workingDirectory sources.outDir others.outDir)
    (hdirEmpty : sources.outDir = "" ↔ others.outDir = "")
    (hdocument : Option.Rel (Place.Respelled workingDirectory) sources.document others.document)
    (hdocumentEmpty : sources.document = some ("" : ByteString) ↔
      others.document = some ("" : ByteString))
    {location other : String} (hlocation : Place.Respelled workingDirectory location other)
    (hlocationEmpty : location = "" ↔ other = "")
    (hurl : isUrl location = false) (hother : isUrl other = false) :
    sources.url workingDirectory location = others.url workingDirectory other := by
  have hpath : (location : ByteString) = "" ↔ (other : ByteString) = "" := by
    rw [ByteString.ofString_inj, ByteString.ofString_inj]
    exact hlocationEmpty
  exact url_congr hwd hbase (hdir.resolve?_eq hwd hdirEmpty)
    (map_resolve?_of_rel hwd hdocument hdocumentEmpty) (hlocation.resolve?_eq hwd hpath) hurl hother

/-- A file, the output directory and the document of a run in `/usr/lib`, each spelled from the root
and from there. -/
theorem url_eq_of_respelled_working_directory :
    let workingDirectory : List ByteString := ["usr", "lib"]
    let sources : SourceUrls :=
      { outDir := "/usr/lib", document := some ("/usr/lib/./index.html" : ByteString) }
    let others : SourceUrls := { outDir := ".", document := some ("x/../index.html" : ByteString) }
    Place.IsPlace workingDirectory ∧
      Place.Respelled workingDirectory "/usr/lib" "." ∧
      Place.Respelled workingDirectory "/usr/lib/./index.html" "x/../index.html" ∧
      Place.Respelled workingDirectory "/usr/lib/io//a.html/" "io/a.html" ∧
      sources.url workingDirectory "/usr/lib/io//a.html/" =
        others.url workingDirectory "io/a.html" ∧
      others.url workingDirectory "io/a.html" = .ok "io/a.html" := by
  intro workingDirectory sources others
  have hwd : Place.IsPlace workingDirectory := by decide
  have hdir : Place.Respelled workingDirectory "/usr/lib" "." := by
    have hdot : Place.Pads workingDirectory "/usr/lib" "/usr/lib/." :=
      .insert ["", "usr", "lib"] ["."] [] .dot (by decide) (by decide) (by decide)
    have hroot : Place.Pads workingDirectory "." "/usr/lib/." :=
      .absolute (by decide) (by decide)
    exact .trans _ _ _ (.rel _ _ hdot) (.symm _ _ (.rel _ _ hroot))
  have hdocument : Place.Respelled workingDirectory "/usr/lib/./index.html" "x/../index.html" := by
    have hroot : Place.Pads workingDirectory "./index.html" "/usr/lib/./index.html" :=
      .absolute (by decide) (by decide)
    have hdot : Place.Pads workingDirectory "index.html" "./index.html" :=
      .insert [] ["."] ["index.html"] .dot (by decide) (by decide) (by decide)
    have hdetour : Place.Pads workingDirectory "index.html" "x/../index.html" :=
      .insert [] ["x", ".."] ["index.html"] (.detour (by decide)) (by decide) (by decide)
        (by decide)
    exact .trans _ _ _ (.symm _ _ (.trans _ _ _ (.rel _ _ hdot) (.rel _ _ hroot)))
      (.rel _ _ hdetour)
  have hfile : Place.Respelled workingDirectory "/usr/lib/io//a.html/" "io/a.html" := by
    have hslash : Place.Pads workingDirectory "io/a.html" "io//a.html" :=
      .insert ["io"] [""] ["a.html"] .slash (by decide) (by decide) (by decide)
    have hend : Place.Pads workingDirectory "io//a.html" "io//a.html/" :=
      .insert ["io", "", "a.html"] [""] [] .slash (by decide) (by decide) (by decide)
    have hroot : Place.Pads workingDirectory "io//a.html/" "/usr/lib/io//a.html/" :=
      .absolute (by decide) (by decide)
    exact .symm _ _ (.trans _ _ _ (.trans _ _ _ (.rel _ _ hslash) (.rel _ _ hend)) (.rel _ _ hroot))
  have hbase : sources.base = others.base := rfl
  have hmain := url_eq_of_respelled hwd hbase hdir (by decide) (.some hdocument) (by decide) hfile
    (by decide) (by decide) (by decide)
  exact ⟨hwd, hdir, hdocument, hfile, hmain, by decide⟩

/-- The empty path and a dot are spellings of one document, but for the empty one a file has no
URL. -/
theorem url_ne_of_respelled_document_empty :
    let workingDirectory : List ByteString := ["usr", "lib"]
    let sources : SourceUrls := { outDir := "/usr/lib", document := some ("" : ByteString) }
    let others : SourceUrls := { outDir := "/usr/lib", document := some ("." : ByteString) }
    Option.Rel (Place.Respelled workingDirectory) sources.document others.document ∧
      isUrl "a.html" = false ∧
      sources.url workingDirectory "a.html" = .error .emptyPath ∧
      others.url workingDirectory "a.html" = .ok "a.html" := by
  intro workingDirectory sources others
  have hroot : Place.Pads workingDirectory "" "/usr/lib/" := .absolute (by decide) (by decide)
  have hdot : Place.Pads workingDirectory "/usr/lib/" "/usr/lib/./" :=
    .insert ["", "usr", "lib"] ["."] [""] .dot (by decide) (by decide) (by decide)
  have hend : Place.Pads workingDirectory "/usr/lib/." "/usr/lib/./" :=
    .insert ["", "usr", "lib", "."] [""] [] .slash (by decide) (by decide) (by decide)
  have hback : Place.Pads workingDirectory "." "/usr/lib/." := .absolute (by decide) (by decide)
  refine ⟨.some ?_, by decide, by decide, by decide⟩
  exact .trans _ _ _ (.rel _ _ hroot) (.trans _ _ _ (.rel _ _ hdot)
    (.trans _ _ _ (.symm _ _ (.rel _ _ hend)) (.symm _ _ (.rel _ _ hback))))

end LiterateLinks
