import LiterateLinks.Path
import LiterateLinks.Proofs.Text.Pieces

/-!
# The names of paths

A path is spelled with slashes, and its names are what the spelling says.  Two texts with a slash
between them have the names of both (`Path.names_append_slash`), so the names of a joined path are
those of its pieces.  A proper name (`Path.IsName`) is the only name of the path that it spells.

A path leads to a place, which is given by names from the root on (`Path.resolve?`): each name of
the path is entered, or takes one back.  A path in a directory goes on from the place of the
directory (`Path.resolve?_join`).
-/

namespace LiterateLinks

namespace Path

/-! ## Proper names -/

/-- A name that a file or a directory can have. -/
structure IsName (name : String) : Prop where
  ne_empty : name ≠ ""
  ne_dot : name ≠ "."
  ne_parent : name ≠ ".."
  no_slash : '/' ∉ name.toList

instance (name : String) : Decidable (IsName name) :=
  decidable_of_iff (name ≠ "" ∧ name ≠ "." ∧ name ≠ ".." ∧ '/' ∉ name.toList)
    ⟨fun h => ⟨h.1, h.2.1, h.2.2.1, h.2.2.2⟩,
      fun h => ⟨h.ne_empty, h.ne_dot, h.ne_parent, h.no_slash⟩⟩

/-! ## Names of spellings -/

/-- The empty path has no name. -/
@[simp] lemma names_empty : names "" = [] := by decide

/-- A dot alone is no name. -/
@[simp] lemma names_dot : names "." = [] := by decide

/-- A slash keeps the names on its two sides apart. -/
lemma names_append_slash (path rest : String) :
    names (path ++ "/" ++ rest) = names path ++ names rest := by
  have hpieces : Text.pieces '/' (path ++ "/" ++ rest).toList =
      Text.pieces '/' path.toList ++ Text.pieces '/' rest.toList := by
    rw [← Text.pieces_append_cons]
    simp
  rw [names, hpieces, List.map_append, List.filter_append]
  rfl

/-- A slash at the end adds no name. -/
lemma names_append_slash_end (path : String) : names (path ++ "/") = names path := by
  simpa using names_append_slash path ""

/-- The names of pieces that are put together with slashes. -/
lemma names_intercalate (pieces : List String) :
    names ("/".intercalate pieces) = pieces.flatMap names := by
  induction pieces with
  | nil => simp
  | cons piece pieces ih =>
    cases pieces with
    | nil => simp
    | cons next rest =>
      rw [String.intercalate_cons_cons, names_append_slash, ih]
      exact List.flatMap_cons.symm

/-- A proper name is the only name of the path that it spells. -/
lemma IsName.names_eq {name : String} (h : IsName name) : names name = [name] := by
  rw [names, Text.pieces_of_not_mem h.no_slash]
  simp [h.ne_empty, h.ne_dot]

/-! ## Paths in a directory -/

/-- What is added at the end does not change where a path starts. -/
lemma isAbsolute_append {path : String} (h : path ≠ "") (rest : String) :
    isAbsolute (path ++ rest) = isAbsolute path := by
  have hpath : path.toList ≠ [] := by simpa using h
  obtain ⟨c, cs, hcs⟩ := List.exists_cons_of_ne_nil hpath
  simp [isAbsolute, hcs]

section Join

variable {dir : String} (hdir : dir ≠ "") {name : String} (hname : isAbsolute name = false)
include hdir hname

/-- A path in a directory is spelled with one slash in between, which may be the last of the
directory. -/
lemma exists_join_eq :
    ∃ tail, join dir name = dir ++ tail ∧ names (dir ++ tail) = names dir ++ names name := by
  have hempty : dir.isEmpty = false := by simpa using hdir
  by_cases hlast : dir.toList.getLast? = some '/'
  · refine ⟨name, by simp [join, hname, hempty, hlast], ?_⟩
    obtain ⟨front, hfront⟩ := List.getLast?_eq_some_iff.1 hlast
    have hspelled : dir = String.ofList front ++ "/" := by
      rw [← String.toList_inj, hfront]
      simp
    rw [hspelled, names_append_slash, names_append_slash_end]
  · refine ⟨"/" ++ name, by simp [join, hname, hempty, hlast, String.append_assoc], ?_⟩
    rw [← String.append_assoc, names_append_slash]

/-- A path in a directory has the names of the directory and then its own. -/
lemma names_join : names (join dir name) = names dir ++ names name := by
  obtain ⟨tail, htail, hnames⟩ := exists_join_eq hdir hname
  rw [htail, hnames]

/-- A path in a directory starts where the directory starts. -/
lemma isAbsolute_join : isAbsolute (join dir name) = isAbsolute dir := by
  obtain ⟨tail, htail, -⟩ := exists_join_eq hdir hname
  rw [htail, isAbsolute_append hdir]

/-- A path in a directory is not empty. -/
lemma join_ne_empty : join dir name ≠ "" := by
  obtain ⟨tail, htail, -⟩ := exists_join_eq hdir hname
  rw [htail]
  intro h
  exact hdir (String.append_eq_empty_iff.1 h).1

end Join

/-! ## Resolution -/

/-- Takes one more name into a list of names, newest first; two dots take the newest name back. -/
def enter (reversed : List String) (name : String) : List String :=
  if name = ".." then reversed.tail else name :: reversed

/-- Where the names of a path are entered first, newest first. -/
def startOf (workingDirectory : List String) (path : String) : List String :=
  if isAbsolute path then [] else workingDirectory.reverse

/-- The place that a path leads to from a working directory; the empty path leads nowhere. -/
def resolve? (workingDirectory : List String) (path : String) : Option (List String) :=
  if path = "" then none
  else some ((names path).foldl enter (startOf workingDirectory path)).reverse

variable {workingDirectory : List String}

/-- Every path but the empty one leads somewhere. -/
lemma resolve?_of_ne_empty {path : String} (h : path ≠ "") :
    resolve? workingDirectory path =
      some ((names path).foldl enter (startOf workingDirectory path)).reverse :=
  if_neg h

/-- A path that leads somewhere is not empty. -/
lemma ne_empty_of_resolve? {path : String} {place : List String}
    (h : resolve? workingDirectory path = some place) : path ≠ "" := by
  rintro rfl
  cases h

/-- A path in a directory goes on from where the directory leads. -/
lemma resolve?_join {dir name : String} {place : List String}
    (hdir : resolve? workingDirectory dir = some place) (hname : isAbsolute name = false) :
    resolve? workingDirectory (join dir name) =
      some ((names name).foldl enter place.reverse).reverse := by
  have hempty : dir ≠ "" := ne_empty_of_resolve? hdir
  have hstart : startOf workingDirectory (join dir name) = startOf workingDirectory dir := by
    rw [startOf, isAbsolute_join hempty hname, startOf]
  rw [resolve?_of_ne_empty hempty] at hdir
  have hplace : (names dir).foldl enter (startOf workingDirectory dir) = place.reverse := by
    rw [← Option.some.inj hdir, List.reverse_reverse]
  rw [resolve?_of_ne_empty (join_ne_empty hempty hname), names_join hempty hname, hstart,
    List.foldl_append, hplace]

end Path

end LiterateLinks
