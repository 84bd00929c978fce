import Mathlib.Tactic.Common
import LiterateLinks.File.Tree
import LiterateLinks.Proofs.Ordered
import LiterateLinks.Proofs.Path.Names

/-!
# Writing files in a tree

A tree is looked at place by place (`FileTree.entryAt?`).  Where a path leads does not depend on the
tree: the tree only decides whether the way is free, and a way that is free ends at the place that
the path resolves to (`FileTree.eq_walk_of_follow`).

A path that can be written ends in a proper name, and what stands in front of that name leads to a
directory (`FileTree.Writable`).  The name is free or that of a file, so nothing is lost when a file
is put there: every other place is as before (`FileTree.entryAt?_of_write`).
-/

namespace LiterateLinks

namespace FileTree

/-! ## Entries -/

/-- What a place of a tree holds. -/
inductive Entry where
  | file (bytes : ByteArray)
  | directory

/-- Files are compared byte by byte. -/
instance : DecidableEq Entry
  | .file bytes, .file other =>
    decidable_of_iff (bytes.data = other.data)
      ⟨fun h => congrArg Entry.file (ByteArray.ext h),
        fun h => congrArg ByteArray.data (Entry.file.inj h)⟩
  | .file _, .directory => isFalse nofun
  | .directory, .file _ => isFalse nofun
  | .directory, .directory => isTrue rfl

/-- A tree as an entry of the directory above it. -/
def asEntry : FileTree → Entry
  | file bytes => .file bytes
  | directory _ => .directory

/-- What is at a place of a tree. -/
def entryAt? (tree : FileTree) (place : List String) : Option Entry :=
  (tree.get? place).map asEntry

/-- What lies in a directory is looked up under its first name. -/
lemma get?_directory_cons (entries : List (String × FileTree)) (name : String)
    (names : List String) :
    (directory entries).get? (name :: names) = (entries.lookup name).bind (·.get? names) := by
  rw [get?, entry?]
  cases entries.lookup name <;> rfl

/-- A place below a directory holds what its entry holds there. -/
lemma entryAt?_directory_cons (entries : List (String × FileTree)) (name : String)
    (names : List String) :
    (directory entries).entryAt? (name :: names) =
      (entries.lookup name).bind (·.entryAt? names) := by
  rw [entryAt?, get?_directory_cons]
  cases entries.lookup name <;> rfl

/-- Nothing lies below a file. -/
@[simp] lemma entryAt?_file_cons (bytes : ByteArray) (name : String) (names : List String) :
    (file bytes).entryAt? (name :: names) = none := rfl

/-- No directory is at the place. -/
def NoDirectoryAt (tree : FileTree) (place : List String) : Prop :=
  ∀ entries, tree.get? place ≠ some (directory entries)

/-- A directory that has entries below it is one level up, too. -/
lemma exists_of_get?_cons {tree found : FileTree} {name : String} {names : List String}
    (h : tree.get? (name :: names) = some found) :
    ∃ entries below, tree = directory entries ∧ entries.lookup name = some below ∧
      below.get? names = some found := by
  cases tree with
  | file bytes => cases h
  | directory entries =>
    rw [get?_directory_cons, Option.bind_eq_some_iff] at h
    obtain ⟨below, hbelow, hfound⟩ := h
    exact ⟨entries, below, rfl, hbelow, hfound⟩

/-- Putting a file into a directory, under a name that no directory has, changes nothing else. -/
lemma entryAt?_put {tree : FileTree} {place : List String} {name : String}
    {entries : List (String × FileTree)} (hplace : tree.get? place = some (directory entries))
    (hfree : tree.NoDirectoryAt (place ++ [name])) (bytes : ByteArray) (other : List String) :
    (tree.put (place ++ [name]) (file bytes)).entryAt? other =
      if other = place ++ [name] then some (.file bytes) else tree.entryAt? other := by
  induction place generalizing tree other with
  | nil =>
    obtain rfl : tree = directory entries := Option.some.inj hplace
    cases other with
    | nil => rfl
    | cons first rest =>
      rw [List.nil_append, put, entryAt?_directory_cons, Ordered.lookup_put, put,
        entryAt?_directory_cons]
      by_cases hfirst : first = name
      · subst hfirst
        cases rest with
        | nil => simp [entryAt?, get?, asEntry]
        | cons second rest =>
          -- below the new file there is nothing, and nothing was below the old entry
          have hnone : (entries.lookup first).bind (·.entryAt? (second :: rest)) = none := by
            cases hlookup : entries.lookup first with
            | none => rfl
            | some below =>
              cases below with
              | file bytes => rfl
              | directory below => exact absurd (by simp [get?, entry?, hlookup]) (hfree below)
          simp [hnone]
      · rw [if_neg hfirst, if_neg (by simp [hfirst])]
  | cons step place ih =>
    obtain ⟨siblings, below, rfl, hlookup, hbelow⟩ := exists_of_get?_cons hplace
    cases other with
    | nil => rfl
    | cons first rest =>
      rw [List.cons_append, put, entryAt?_directory_cons, Ordered.lookup_put,
        entryAt?_directory_cons]
      by_cases hfirst : first = step
      · subst hfirst
        have hfree' : below.NoDirectoryAt (place ++ [name]) := by
          intro found hfound
          refine hfree found ?_
          rw [List.cons_append, get?_directory_cons, hlookup, Option.bind_some, hfound]
        simp [hlookup, ih hbelow hfree' rest]
      · rw [if_neg hfirst, if_neg (by simp [hfirst])]

/-! ## Where a path leads -/

/-- No slash stands in a piece. -/
lemma no_slash_of_mem_pieces {path piece : String} (h : piece ∈ pieces path) :
    '/' ∉ piece.toList := by
  obtain ⟨chars, hchars, rfl⟩ := List.mem_map.1 h
  rw [String.toList_ofList]
  exact Text.not_mem_of_mem_pieces hchars

/-- The place that the pieces of a path lead to. -/
def walk (place pieces : List String) : List String :=
  ((pieces.filter fun piece => piece != "" && piece != ".").foldl Path.enter place.reverse).reverse

/-- The pieces of a path are walked one after the other. -/
lemma walk_cons (place : List String) (piece : String) (rest : List String) :
    walk place (piece :: rest) = walk (walk place [piece]) rest := by
  by_cases h : (piece != "" && piece != ".") = true <;> simp [walk, h]

/-- A path leads to the place that it resolves to. -/
lemma resolve?_eq_walk {workingDirectory : List String} {path : String} (h : path ≠ "") :
    Path.resolve? workingDirectory path =
      some (walk (start workingDirectory path) (pieces path)) := by
  have hstart : Path.startOf workingDirectory path = (start workingDirectory path).reverse := by
    by_cases habsolute : Path.isAbsolute path = true <;> simp [Path.startOf, start, habsolute]
  rw [Path.resolve?_of_ne_empty h, hstart]
  rfl

/-- One piece is followed in a directory only. -/
lemma follow_cons_eq_ok_iff {tree : FileTree} {place : List String} {piece : String}
    {rest : List String} {last : List String} :
    tree.follow place (piece :: rest) = .ok last ↔
      (∃ entries, tree.get? place = some (directory entries)) ∧
        tree.follow (walk place [piece]) rest = .ok last := by
  rw [follow]
  split
  · simp [*]
  · simp [*]
  · rename_i entries hplace
    by_cases hempty : piece = ""
    · simp [walk, hempty, hplace]
    by_cases hdot : piece = "."
    · simp [walk, hdot, hplace]
    by_cases hup : piece = ".." <;> simp [walk, Path.enter, hempty, hdot, hup, hplace]

/-- A path that can be followed leads where its pieces lead. -/
lemma eq_walk_of_follow {tree : FileTree} {place pieces last : List String}
    (h : tree.follow place pieces = .ok last) : last = walk place pieces := by
  induction pieces generalizing place with
  | nil => simpa [walk] using (Except.ok.inj h).symm
  | cons piece rest ih =>
    rw [walk_cons]
    exact ih (follow_cons_eq_ok_iff.1 h).2

/-- What can be followed to its end can be followed to any point before. -/
lemma follow_append_eq_ok_iff {tree : FileTree} {place front back last : List String} :
    tree.follow place (front ++ back) = .ok last ↔
      ∃ middle, tree.follow place front = .ok middle ∧ tree.follow middle back = .ok last := by
  induction front generalizing place with
  | nil => simp [follow]
  | cons piece front ih =>
    simp only [List.cons_append, follow_cons_eq_ok_iff, ih]
    grind

/-! ## Paths that can be written -/

/-- The path can be written: its last piece is a proper name, the pieces before it can be followed
to a directory, and no directory has that name in it. -/
structure Writable (tree : FileTree) (workingDirectory : List String) (path : String)
    (before : List String) (name : String) (place : List String) : Prop where
  pieces_eq : pieces path = before ++ [name]
  isName : Path.IsName name
  follow_eq : tree.follow (start workingDirectory path) before = .ok place
  directory : ∃ entries, tree.get? place = some (.directory entries)
  free : tree.NoDirectoryAt (place ++ [name])

/-- Only a path that can be written has a target, which is its name in its directory. -/
lemma exists_writable_of_target {tree : FileTree} {workingDirectory target : List String}
    {path : String} (h : tree.target workingDirectory path = .ok target) :
    ∃ before name place, tree.Writable workingDirectory path before name place ∧
      target = place ++ [name] := by
  simp only [FileTree.target, bind, Except.bind, pure, Except.pure, throw, throwThe,
    MonadExceptOf.throw] at h
  split at h
  · cases h
  split at h
  · cases h
  rename_i name hlast
  split at h
  · cases h
  rename_i place hfollow
  split at h
  · cases h
  rename_i hnamed
  simp only [Bool.or_eq_true, decide_eq_true_eq, not_or, Nat.not_lt] at hnamed
  obtain ⟨⟨hlength, hdot⟩, hparent⟩ := hnamed
  -- nothing is left out at the end of the pieces, so they end in the name
  have hkept : (pieces path).reverse.dropWhile (· == "") = (pieces path).reverse :=
    (List.dropWhile_suffix _).eq_of_length_le (by simpa using hlength)
  rw [hkept, List.reverse_reverse] at hlast hfollow
  obtain ⟨before, hpieces⟩ := List.getLast?_eq_some_iff.1 hlast
  have hempty : name ≠ "" := by
    rintro rfl
    rw [hpieces, List.reverse_append] at hkept
    have hshort := (List.dropWhile_suffix (l := before.reverse) (· == "")).length_le
    have hsame := congrArg List.length hkept
    simp at hsame hshort
    omega
  have hmem : name ∈ pieces path := by simp [hpieces]
  have hslash : '/' ∉ name.toList := no_slash_of_mem_pieces hmem
  rw [hpieces, List.dropLast_concat, follow_append_eq_ok_iff] at hfollow
  obtain ⟨middle, hmiddle, hend⟩ := hfollow
  obtain ⟨hdirectory, hstay⟩ := follow_cons_eq_ok_iff.1 hend
  obtain rfl : middle = place := by simpa [walk, follow] using hstay
  split at h
  · cases h
  · rename_i hfree
    exact ⟨before, name, middle,
      ⟨hpieces, ⟨hempty, hdot, hparent, hslash⟩, hmiddle, hdirectory, hfree⟩,
      (Except.ok.inj h).symm⟩

/-- A path that can be written can be followed to its end. -/
lemma Writable.follow_pieces {tree : FileTree} {workingDirectory before place : List String}
    {path name : String} (h : tree.Writable workingDirectory path before name place) :
    tree.follow (start workingDirectory path) (pieces path) = .ok (place ++ [name]) := by
  have hname : walk place [name] = place ++ [name] := by
    simp [walk, Path.enter, h.isName.ne_empty, h.isName.ne_dot, h.isName.ne_parent]
  rw [h.pieces_eq, follow_append_eq_ok_iff]
  refine ⟨place, h.follow_eq, follow_cons_eq_ok_iff.2 ⟨h.directory, ?_⟩⟩
  rw [hname, follow]

/-- The empty path has no target. -/
lemma ne_empty_of_target {tree : FileTree} {workingDirectory target : List String} {path : String}
    (h : tree.target workingDirectory path = .ok target) : path ≠ "" := by
  rintro rfl
  cases h

/-- The target of a path is the place that it resolves to. -/
lemma resolve?_of_target {tree : FileTree} {workingDirectory target : List String} {path : String}
    (h : tree.target workingDirectory path = .ok target) :
    Path.resolve? workingDirectory path = some target := by
  obtain ⟨before, name, place, hwritable, rfl⟩ := exists_writable_of_target h
  rw [resolve?_eq_walk (ne_empty_of_target h), eq_walk_of_follow hwritable.follow_pieces]

/-- What is written lands where the path leads, and every other place is as before. -/
lemma entryAt?_of_write {tree after : FileTree} {workingDirectory : List String} {path : String}
    {bytes : ByteArray} (h : tree.write workingDirectory path bytes = .ok after) :
    ∃ target, tree.target workingDirectory path = .ok target ∧ ∀ other, after.entryAt? other =
      if other = target then some (.file bytes) else tree.entryAt? other := by
  simp only [write, bind, Except.bind, pure, Except.pure] at h
  split at h
  · cases h
  · rename_i target htarget
    obtain rfl := Except.ok.inj h
    refine ⟨target, htarget, fun other => ?_⟩
    obtain ⟨before, name, place, hwritable, rfl⟩ := exists_writable_of_target htarget
    obtain ⟨entries, hentries⟩ := hwritable.directory
    exact entryAt?_put hentries hwritable.free bytes other

/-- Nothing is at the target of a path that is not found. -/
lemma entryAt?_target_eq_none {tree : FileTree} {workingDirectory target : List String}
    {path : String} (htarget : tree.target workingDirectory path = .ok target)
    (hfind : (tree.find workingDirectory path).isOk = false) : tree.entryAt? target = none := by
  have hpath : path.isEmpty = false := by simpa using ne_empty_of_target htarget
  obtain ⟨before, name, place, hwritable, rfl⟩ := exists_writable_of_target htarget
  rw [find, hpath, if_neg Bool.false_ne_true, hwritable.follow_pieces] at hfind
  cases hget : tree.get? (place ++ [name]) with
  | none => rw [entryAt?, hget, Option.map_none]
  | some found => simp [hget, Except.isOk, Except.toBool] at hfind

end FileTree

end LiterateLinks
