import Mathlib.Data.List.TakeWhile
import LiterateLinks.Proofs.File.Tree

/-!
# Files next to each other

The directory of a path is spelled by the pieces in front of its last name, without those at the end
that say nothing (`FileTree.directoryOf`).  Its names are those of the path but for the last one,
and it starts where the path starts, so a name that is joined to it is the name of a file next to
the first one (`FileTree.resolve?_beside`).
-/

namespace LiterateLinks

namespace FileTree

/-! ## Paths put together from pieces -/

/-- The names of a piece: the piece itself, unless it says nothing. -/
lemma names_of_no_slash {piece : String} (h : '/' ∉ piece.toList) :
    Path.names piece = [piece].filter fun name => name != "" && name != "." := by
  rw [Path.names, Text.pieces_of_not_mem h]
  simp

/-- The names of a path that is put together from pieces. -/
lemma names_intercalate_pieces {pieces : List String} (h : ∀ piece ∈ pieces, '/' ∉ piece.toList) :
    Path.names ("/".intercalate pieces) = pieces.filter fun name => name != "" && name != "." := by
  rw [Path.names_intercalate]
  induction pieces with
  | nil => rfl
  | cons piece pieces ih =>
    obtain ⟨hpiece, hpieces⟩ := List.forall_mem_cons.1 h
    rw [List.flatMap_cons, names_of_no_slash hpiece, ih hpieces, ← List.filter_append,
      List.singleton_append]

/-- A piece does not start at the root. -/
lemma isAbsolute_of_no_slash {piece : String} (h : '/' ∉ piece.toList) :
    Path.isAbsolute piece = false := by
  by_contra habsolute
  exact h (List.mem_of_mem_head? (by simpa [Path.isAbsolute] using habsolute))

/-- A path of more than one piece is absolute if its first piece is empty. -/
lemma isAbsolute_intercalate_cons {first second : String} (h : '/' ∉ first.toList)
    (rest : List String) :
    Path.isAbsolute ("/".intercalate (first :: second :: rest)) = decide (first = "") := by
  rw [String.intercalate_cons_cons]
  by_cases hfirst : first = ""
  · simp [hfirst, Path.isAbsolute]
  · rw [String.append_assoc, Path.isAbsolute_append hfirst, isAbsolute_of_no_slash h]
    simp [hfirst]

/-- A path is put together from its pieces. -/
lemma intercalate_pieces (path : String) : "/".intercalate (pieces path) = path := by
  apply String.toList_inj.1
  have hchars : (pieces path).map String.toList = path.toList.splitOn '/' := by
    rw [pieces, List.map_map, Text.pieces_eq_splitOn]
    simp [Function.comp_def]
  rw [String.toList_intercalate, hchars]
  exact List.intercalate_splitOn '/'

/-! ## Pieces that say nothing -/

/-- The pieces without those at their end that say nothing. -/
def trim (pieces : List String) : List String :=
  (pieces.reverse.dropWhile fun piece => piece == "" || piece == ".").reverse

/-- Only pieces that say nothing are left out. -/
lemma filter_trim (pieces : List String) :
    (trim pieces).filter (fun name => name != "" && name != ".") =
      pieces.filter fun name => name != "" && name != "." := by
  let idle := pieces.reverse.takeWhile fun piece => piece == "" || piece == "."
  have hpieces : pieces = trim pieces ++ idle.reverse := by
    rw [trim, ← List.reverse_append, List.takeWhile_append_dropWhile, List.reverse_reverse]
  have hidle : idle.reverse.filter (fun name => name != "" && name != ".") = [] := by
    rw [List.filter_eq_nil_iff]
    intro piece hpiece
    have hkind := List.mem_takeWhile_imp (List.mem_reverse.1 hpiece)
    rcases (by simpa using hkind : piece = "" ∨ piece = ".") with rfl | rfl <;> simp
  conv_rhs => rw [hpieces, List.filter_append, hidle, List.append_nil]

/-- No piece is added. -/
lemma mem_of_mem_trim {pieces : List String} {piece : String} (h : piece ∈ trim pieces) :
    piece ∈ pieces :=
  List.mem_reverse.1 ((List.dropWhile_suffix _).subset (List.mem_reverse.1 h))

/-! ## The directory of a path -/

/-- The directory of a path, which is a dot if it is not spelled. -/
def directoryOf (path : String) : String :=
  match Path.parent? path with
  | some dir => if dir.isEmpty then "." else dir
  | none => "."

/-- A path is trimmed behind its first piece. -/
lemma trimmed_eq {path first : String} {rest : List String} (h : pieces path = first :: rest) :
    Path.trimmed path = (first, trim rest) := by
  have hpieces : (Text.pieces '/' path.toList).map String.ofList = first :: rest := h
  rw [Path.trimmed, hpieces]
  rfl

/-- A name alone is in the directory that is not spelled. -/
lemma directoryOf_of_singleton {path name : String} (h : pieces path = [name]) (hname : name ≠ "") :
    directoryOf path = "." := by
  have hparent : Path.parent? path = some "" := by
    rw [Path.parent?, trimmed_eq h]
    simp [trim]
  rw [directoryOf, hparent]
  rfl

/-- The directory of a path with a slash is spelled by the pieces in front of the last one. -/
lemma directoryOf_of_pieces {path first name : String} {rest : List String}
    (h : pieces path = first :: (rest ++ [name])) (hname : Path.IsName name) :
    directoryOf path =
      match trim rest with
      | [] => if first = "" then "/" else first
      | more => "/".intercalate (first :: more) := by
  have hkept : trim (rest ++ [name]) = rest ++ [name] := by
    simp [trim, hname.ne_empty, hname.ne_dot]
  have hparent : Path.parent? path =
      match trim rest with
      | [] => some (if first = "" then "/" else first)
      | more => some ("/".intercalate (first :: more)) := by
    rw [Path.parent?, trimmed_eq h, hkept]
    cases hrest : rest ++ [name] with
    | nil => simp at hrest
    | cons second more =>
      have hlast : (second :: more).dropLast = rest := by rw [← hrest, List.dropLast_concat]
      simp only [hlast]
      rfl
  rw [directoryOf, hparent]
  cases htrim : trim rest with
  | nil => by_cases hfirst : first = "" <;> simp [hfirst]
  | cons second more => simp

/-- The directory of a path starts where the path starts and has its names but for the last one. -/
lemma directoryOf_spec {path name : String} {before : List String}
    (h : pieces path = before ++ [name]) (hname : Path.IsName name) :
    directoryOf path ≠ "" ∧ Path.isAbsolute (directoryOf path) = Path.isAbsolute path ∧
      Path.names (directoryOf path) = before.filter fun name => name != "" && name != "." := by
  have hslash : ∀ piece ∈ before ++ [name], '/' ∉ piece.toList := by
    intro piece hpiece
    exact no_slash_of_mem_pieces (h ▸ hpiece)
  have hpath := intercalate_pieces path
  rw [h] at hpath
  cases before with
  | nil =>
    rw [directoryOf_of_singleton h hname.ne_empty, ← hpath]
    have hrelative := isAbsolute_of_no_slash hname.no_slash
    refine ⟨by decide, ?_, by simp⟩
    rw [List.nil_append, String.intercalate_singleton, hrelative]
    decide
  | cons first rest =>
    have hfirst : '/' ∉ first.toList := hslash first (by simp)
    have habsolute : Path.isAbsolute path = decide (first = "") := by
      obtain ⟨second, more, hmore⟩ := List.exists_cons_of_ne_nil (l := rest ++ [name]) (by simp)
      rw [← hpath, List.cons_append, hmore, isAbsolute_intercalate_cons hfirst]
    rw [directoryOf_of_pieces h hname, habsolute, List.filter_cons, ← filter_trim rest]
    cases htrim : trim rest with
    | nil =>
      by_cases hempty : first = ""
      · subst hempty
        exact ⟨by decide, by decide, by decide⟩
      · simp [hempty, isAbsolute_of_no_slash hfirst, names_of_no_slash hfirst, List.filter_cons]
    | cons second more =>
      have hmore : ∀ piece ∈ first :: second :: more, '/' ∉ piece.toList := by
        intro piece hpiece
        rcases List.mem_cons.1 hpiece with rfl | hlater
        · exact hfirst
        · exact hslash piece (by simp [mem_of_mem_trim (htrim ▸ hlater)])
      refine ⟨by simp, isAbsolute_intercalate_cons hfirst more, ?_⟩
      rw [names_intercalate_pieces hmore, List.filter_cons]

/-- A name that is joined to the directory of a path that can be written is that of a file next to
it. -/
lemma resolve?_beside {tree : FileTree} {workingDirectory target : List String} {path name : String}
    (h : tree.target workingDirectory path = .ok target) (hname : Path.IsName name) :
    Path.resolve? workingDirectory (Path.join (directoryOf path) name) =
      some (target.dropLast ++ [name]) := by
  obtain ⟨before, last, place, hwritable, rfl⟩ := exists_writable_of_target h
  obtain ⟨hne, habsolute, hnames⟩ := directoryOf_spec hwritable.pieces_eq hwritable.isName
  have hdirectory : Path.resolve? workingDirectory (directoryOf path) = some place := by
    have hstart : Path.startOf workingDirectory (directoryOf path) =
        (start workingDirectory path).reverse := by
      by_cases hroot : Path.isAbsolute path = true <;> simp [Path.startOf, start, habsolute, hroot]
    rw [Path.resolve?_of_ne_empty hne, hnames, hstart, eq_walk_of_follow hwritable.follow_eq]
    rfl
  rw [Path.resolve?_join hdirectory (isAbsolute_of_no_slash hname.no_slash), hname.names_eq]
  simp [Path.enter, hname.ne_parent]

end FileTree

end LiterateLinks
