import Mathlib.Data.List.Induction
import Mathlib.Tactic.Common
import LiterateLinks.Place
import LiterateLinks.Proofs.Text.Pieces
import LiterateLinks.Proofs.Text.Utf8

/-!
# Where paths lead

A path is spelled with slashes, and its steps are what the spelling says.  Two paths with a slash
between them have the steps of both (`Place.steps_append_slash`), so the steps of a joined path are
those of its pieces.  A proper name (`Place.IsName`) is the only step of the path that it spells.

Read from a working directory that is a place, a list of proper names, every path leads to a place
(`Place.lead`): each step enters a name or takes one back, and neither leaves the places.  The empty
path would lead to the working directory, but it is refused.

A path need not be a text.  If it is one, its pieces are texts, because the byte of a slash belongs
to no other character (`Place.isText_of_mem_pieces`), and so are the names that it enters.
-/

namespace LiterateLinks

namespace Place

/-! ## Proper names -/

/-- A name that a file or a directory can have. -/
structure IsName (name : ByteString) : Prop where
  ne_empty : name ≠ ""
  ne_dot : name ≠ "."
  ne_parent : name ≠ ".."
  no_slash : slash ∉ name.bytes

instance (name : ByteString) : Decidable (IsName name) :=
  decidable_of_iff (name ≠ "" ∧ name ≠ "." ∧ name ≠ ".." ∧ slash ∉ name.bytes)
    ⟨fun h => ⟨h.1, h.2.1, h.2.2.1, h.2.2.2⟩,
      fun h => ⟨h.ne_empty, h.ne_dot, h.ne_parent, h.no_slash⟩⟩

/-- The names of a place below the root, the root itself included. -/
def IsPlace (names : List ByteString) : Prop :=
  ∀ name ∈ names, IsName name

instance (names : List ByteString) : Decidable (IsPlace names) :=
  inferInstanceAs (Decidable (∀ name ∈ names, IsName name))

/-- What follows a directory in the names of a place is a place. -/
lemma IsPlace.of_append_right {names rest : List ByteString} (h : IsPlace (names ++ rest)) :
    IsPlace rest :=
  fun name hname => h name (List.mem_append_right names hname)

/-- The names of a place are proper in any order. -/
lemma IsPlace.reverse {names : List ByteString} (h : IsPlace names) : IsPlace names.reverse :=
  fun name hname => h name (List.mem_reverse.1 hname)

/-! ## Pieces and steps -/

/-- A slash keeps the pieces on its two sides apart. -/
lemma pieces_append_slash (path rest : ByteString) :
    pieces (path ++ "/" ++ rest) = pieces path ++ pieces rest := by
  have hbytes : (path ++ "/" ++ rest).bytes = path.bytes ++ slash :: rest.bytes := by
    rw [ByteString.bytes_append, ByteString.bytes_append, List.append_assoc]
    rfl
  rw [pieces, hbytes, Text.pieces_append_cons, List.map_append]
  rfl

/-- A path has a first piece. -/
lemma pieces_ne_nil (path : ByteString) : pieces path ≠ [] := by
  rw [pieces, Ne, List.map_eq_nil_iff]
  exact Text.pieces_ne_nil slash path.bytes

/-- A text without a slash is a piece. -/
lemma pieces_of_no_slash {piece : ByteString} (h : slash ∉ piece.bytes) :
    pieces piece = [piece] := by
  rw [pieces, Text.pieces_of_not_mem h]
  rfl

/-- No slash stands in a piece. -/
lemma no_slash_of_mem_pieces {path piece : ByteString} (h : piece ∈ pieces path) :
    slash ∉ piece.bytes := by
  obtain ⟨bytes, hbytes, rfl⟩ := List.mem_map.1 h
  exact Text.not_mem_of_mem_pieces hbytes

/-- A slash keeps the steps on its two sides apart. -/
lemma steps_append_slash (path rest : ByteString) :
    steps (path ++ "/" ++ rest) = steps path ++ steps rest := by
  rw [steps, pieces_append_slash, List.filterMap_append]
  rfl

/-- The empty path leads nowhere. -/
@[simp] lemma steps_empty : steps "" = [] := by decide

/-- A dot leads nowhere. -/
@[simp] lemma steps_dot : steps "." = [] := by decide

/-- Two dots lead back. -/
@[simp] lemma steps_parent : steps ".." = [.parentDir] := by decide

/-- A proper name is a step into the directory of that name. -/
lemma IsName.ofPiece?_eq {name : ByteString} (h : IsName name) :
    Component.ofPiece? name = some (.normal name) := by
  simp [Component.ofPiece?, h.ne_empty, h.ne_dot, h.ne_parent]

/-- A proper name is the only step of the path that it spells. -/
lemma IsName.steps_eq {name : ByteString} (h : IsName name) : steps name = [.normal name] := by
  rw [steps, pieces_of_no_slash h.no_slash, List.filterMap_cons, h.ofPiece?_eq]
  rfl

/-- The steps of a path enter proper names or go back. -/
def Component.IsStep : Component → Prop
  | .normal name => IsName name
  | .parentDir => True
  | .rootDir | .curDir => False

/-- What a piece stands for is a step. -/
lemma isStep_of_mem_steps {path : ByteString} {part : Component} (h : part ∈ steps path) :
    part.IsStep := by
  obtain ⟨piece, hpiece, hpart⟩ := List.mem_filterMap.1 h
  unfold Component.ofPiece? at hpart
  split at hpart
  · cases hpart
  next hnot =>
    simp only [Bool.or_eq_true, decide_eq_true_eq, not_or] at hnot
    split at hpart
    · obtain rfl := Option.some.inj hpart
      exact trivial
    next hparent =>
      obtain rfl := Option.some.inj hpart
      exact ⟨hnot.1, hnot.2, hparent, no_slash_of_mem_pieces hpiece⟩

/-! ## Spelled paths -/

/-- One more piece is spelled in front with a slash. -/
lemma spell_cons_cons (piece next : ByteString) (rest : List ByteString) :
    spell (piece :: next :: rest) = piece ++ "/" ++ spell (next :: rest) := by
  rw [spell, List.map_cons, List.map_cons, List.intercalate_cons_cons]
  rfl

/-- No pieces spell the empty path. -/
@[simp] lemma spell_nil : spell [] = "" := rfl

/-- A piece alone is its own spelling. -/
@[simp] lemma spell_singleton (piece : ByteString) : spell [piece] = piece := by
  simp [spell]

/-- The steps of pieces that are put together with slashes. -/
lemma steps_spell (pieces : List ByteString) : steps (spell pieces) = pieces.flatMap steps := by
  induction pieces with
  | nil => simp
  | cons piece pieces ih =>
    cases pieces with
    | nil => simp
    | cons next rest =>
      rw [spell_cons_cons, steps_append_slash, ih]
      exact List.flatMap_cons.symm

/-- A place is read as it is spelled. -/
lemma IsPlace.flatMap_steps {place : List ByteString} (h : IsPlace place) :
    place.flatMap steps = place.map .normal := by
  induction place with
  | nil => rfl
  | cons name place ih =>
    obtain ⟨hname, hplace⟩ := List.forall_mem_cons.1 h
    rw [List.flatMap_cons, hname.steps_eq, ih hplace, List.map_cons, List.singleton_append]

/-! ## Absolute paths -/

/-- The empty path does not start at the root. -/
lemma ne_empty_of_isAbsolute {path : ByteString} (h : isAbsolute path = true) : path ≠ "" := by
  rintro rfl
  exact absurd h (by decide)

/-- A path has no bytes only if it is empty. -/
lemma bytes_ne_nil {path : ByteString} (h : path ≠ "") : path.bytes ≠ [] := by
  obtain ⟨bytes⟩ := path
  rintro rfl
  exact h rfl

/-- What is added at the end does not change where a path starts. -/
lemma isAbsolute_append {path : ByteString} (h : path ≠ "") (rest : ByteString) :
    isAbsolute (path ++ rest) = isAbsolute path := by
  obtain ⟨b, bs, hbs⟩ := List.exists_cons_of_ne_nil (bytes_ne_nil h)
  simp [isAbsolute, hbs]

/-- A path of names below the root starts there. -/
@[simp] lemma isAbsolute_ofNames (place : List ByteString) : isAbsolute (ofNames place) = true := by
  rw [ofNames, isAbsolute_append (by decide)]
  decide

/-- A piece does not start at the root. -/
lemma isAbsolute_of_no_slash {piece : ByteString} (h : slash ∉ piece.bytes) :
    isAbsolute piece = false := by
  by_contra habsolute
  exact h (List.mem_of_mem_head? (by simpa [isAbsolute] using habsolute))

/-- The steps of a path of names below the root. -/
lemma steps_ofNames {place : List ByteString} (h : IsPlace place) :
    steps (ofNames place) = place.map .normal := by
  have hsteps := steps_append_slash "" (spell place)
  rw [steps_empty, List.nil_append, steps_spell, h.flatMap_steps] at hsteps
  exact hsteps

/-- The components of a path of names below the root. -/
lemma components_ofNames {place : List ByteString} (h : IsPlace place) :
    components (ofNames place) = .rootDir :: place.map .normal := by
  rw [components, start, if_pos (isAbsolute_ofNames place), steps_ofNames h, List.singleton_append]

/-- A path that is put together from the names of a place does not start at the root. -/
lemma isAbsolute_spell {place : List ByteString} (h : IsPlace place) :
    isAbsolute (spell place) = false := by
  cases place with
  | nil => decide
  | cons name place =>
    have hname : IsName name := h name List.mem_cons_self
    have hspelled : ∃ tail, spell (name :: place) = name ++ tail := by
      cases place with
      | nil => exact ⟨"", by rw [spell_singleton, ByteString.append_empty]⟩
      | cons next rest => exact ⟨_, by rw [spell_cons_cons, ByteString.append_assoc]⟩
    obtain ⟨tail, htail⟩ := hspelled
    rw [htail, isAbsolute_append hname.ne_empty, isAbsolute_of_no_slash hname.no_slash]

/-! ## Paths in a directory -/

section Join

variable {dir : ByteString} (hdir : dir ≠ "") {name : ByteString}
  (hname : isAbsolute name = false)
include hdir hname

/-- A path in a directory has the pieces of both, without the last piece of the directory if that is
empty. -/
lemma exists_pieces_join :
    ∃ front back : List ByteString, front ≠ [] ∧ (back = [] ∨ back = [("" : ByteString)]) ∧
      pieces dir = front ++ back ∧ pieces (join dir name) = front ++ pieces name := by
  by_cases hlast : dir.bytes.getLast? = some slash
  · obtain ⟨front, hfront⟩ := List.getLast?_eq_some_iff.1 hlast
    have hspelled : dir = ⟨front⟩ ++ "/" ++ "" := by
      rw [ByteString.append_empty]
      exact congrArg ByteString.mk hfront
    have hjoin : join dir name = ⟨front⟩ ++ "/" ++ name := by
      rw [join, if_neg (by simp [hname, hdir]), if_pos hlast, hspelled, ByteString.append_empty]
    refine ⟨pieces ⟨front⟩, [("" : ByteString)], pieces_ne_nil _, .inr rfl, ?_, ?_⟩
    · rw [hspelled, pieces_append_slash]
      rfl
    · rw [hjoin, pieces_append_slash]
  · refine ⟨pieces dir, [], pieces_ne_nil dir, .inl rfl, (List.append_nil _).symm, ?_⟩
    rw [join, if_neg (by simp [hname, hdir]), if_neg hlast, pieces_append_slash]

/-- A path in a directory takes the steps of both. -/
lemma steps_join : steps (join dir name) = steps dir ++ steps name := by
  obtain ⟨front, back, -, hback, hpieces, hjoined⟩ := exists_pieces_join hdir hname
  have hempty : back.filterMap Component.ofPiece? = [] := by
    rcases hback with rfl | rfl
    · rfl
    · decide
  rw [steps, hjoined, steps, hpieces, List.filterMap_append, List.filterMap_append, hempty,
    List.append_nil]
  rfl

/-- A path in a directory goes on from the spelling of the directory. -/
lemma exists_join_eq_append : ∃ tail, join dir name = dir ++ tail := by
  by_cases hlast : dir.bytes.getLast? = some slash
  · exact ⟨name, by rw [join, if_neg (by simp [hname, hdir]), if_pos hlast]⟩
  · refine ⟨"/" ++ name, ?_⟩
    rw [join, if_neg (by simp [hname, hdir]), if_neg hlast, ByteString.append_assoc]

/-- A path in a directory starts at the root if the directory does. -/
lemma isAbsolute_join : isAbsolute (join dir name) = isAbsolute dir := by
  obtain ⟨tail, htail⟩ := exists_join_eq_append hdir hname
  rw [htail, isAbsolute_append hdir]

/-- A path in a directory is not empty. -/
lemma join_ne_empty : join dir name ≠ "" := by
  obtain ⟨tail, htail⟩ := exists_join_eq_append hdir hname
  obtain ⟨b, bs, hbs⟩ := List.exists_cons_of_ne_nil (bytes_ne_nil hdir)
  rw [htail]
  intro hempty
  have hbytes : (dir ++ tail).bytes = [] := congrArg ByteString.bytes hempty
  simp [hbs] at hbytes

/-- A path in a directory starts as the directory does. -/
lemma start_join : start (join dir name) = start dir := by
  obtain ⟨front, back, hfront, -, hpieces, hjoined⟩ := exists_pieces_join hdir hname
  obtain ⟨first, rest, rfl⟩ := List.exists_cons_of_ne_nil hfront
  rw [start, isAbsolute_join hdir hname, hjoined, start, hpieces]
  rfl

end Join

/-! ## Where a path leads -/

/-- The names that are entered before the steps of a path, newest first. -/
def startOf (workingDirectory : List ByteString) (path : ByteString) : List ByteString :=
  if isAbsolute path then [] else workingDirectory.reverse

/-- The place that a path leads to from a working directory, also if the path is empty. -/
def lead (workingDirectory : List ByteString) (path : ByteString) : List ByteString :=
  ((steps path).foldl enter (startOf workingDirectory path)).reverse

/-- The names of a place are entered one after the other. -/
lemma foldl_enter_map_normal (place reversed : List ByteString) :
    (place.map Component.normal).foldl enter reversed = place.reverse ++ reversed := by
  induction place generalizing reversed with
  | nil => rfl
  | cons name place ih =>
    rw [List.map_cons, List.foldl_cons, enter, ih, List.reverse_cons, List.append_assoc,
      List.singleton_append]

/-- The components of a path lead where its steps lead from its start. -/
lemma foldl_enter_components (path : ByteString) (reversed : List ByteString) :
    (components path).foldl enter reversed =
      (steps path).foldl enter (if isAbsolute path then [] else reversed) := by
  rw [components, List.foldl_append, start]
  split_ifs <;> rfl

/-- A step leads from place to place. -/
lemma isPlace_enter {reversed : List ByteString} (h : IsPlace reversed) {part : Component}
    (hpart : part.IsStep) : IsPlace (enter reversed part) := by
  cases part with
  | rootDir => exact hpart.elim
  | curDir => exact hpart.elim
  | parentDir => exact fun name hname => h name (List.mem_of_mem_tail hname)
  | normal name => exact List.forall_mem_cons.2 ⟨hpart, h⟩

variable {workingDirectory : List ByteString}

/-- From a place every path leads to a place. -/
lemma isPlace_lead (hwd : IsPlace workingDirectory) (path : ByteString) :
    IsPlace (lead workingDirectory path) := by
  have hstart : IsPlace (startOf workingDirectory path) := by
    unfold startOf
    split
    · exact fun _ hname => absurd hname List.not_mem_nil
    · exact hwd.reverse
  have hend : IsPlace ((steps path).foldl enter (startOf workingDirectory path)) :=
    List.foldlRecOn (motive := IsPlace) (steps path) enter hstart fun _ hplace _ hpart =>
      isPlace_enter hplace (isStep_of_mem_steps hpart)
  exact hend.reverse

/-- The absolute path of a place leads there. -/
lemma lead_ofNames {place : List ByteString} (h : IsPlace place) :
    lead workingDirectory (ofNames place) = place := by
  rw [lead, startOf, if_pos (isAbsolute_ofNames place), steps_ofNames h, foldl_enter_map_normal,
    List.append_nil, List.reverse_reverse]

/-- A path in a directory goes on from where the directory leads. -/
lemma lead_join {dir name : ByteString} (hdir : dir ≠ "") (hname : isAbsolute name = false) :
    lead workingDirectory (join dir name) =
      ((steps name).foldl enter (lead workingDirectory dir).reverse).reverse := by
  rw [lead, startOf, isAbsolute_join hdir hname, steps_join hdir hname, List.foldl_append, lead,
    List.reverse_reverse]
  rfl

/-- A path that is joined to the working directory leads where it leads by itself. -/
lemma foldl_enter_join_ofNames (hwd : IsPlace workingDirectory) (path : ByteString) :
    ((components (join (ofNames workingDirectory) path)).foldl enter []).reverse =
      lead workingDirectory path := by
  have hroot : ofNames workingDirectory ≠ "" := ne_empty_of_isAbsolute (isAbsolute_ofNames _)
  cases hpath : isAbsolute path with
  | true =>
    rw [join, if_pos (by simp [hpath]), foldl_enter_components, lead, startOf, hpath]
    rfl
  | false =>
    rw [foldl_enter_components, isAbsolute_join hroot hpath, isAbsolute_ofNames, if_pos rfl,
      steps_join hroot hpath, List.foldl_append, steps_ofNames hwd, foldl_enter_map_normal,
      List.append_nil, lead, startOf, hpath]
    rfl

/-- Every path but the empty one resolves to the place that it leads to. -/
lemma resolve?_eq (hwd : IsPlace workingDirectory) (path : ByteString) :
    resolve? workingDirectory path =
      if path = "" then none else some (lead workingDirectory path) := by
  rw [resolve?, foldl_enter_join_ofNames hwd]

/-- Only the empty path is refused. -/
lemma resolve?_eq_none_iff {path : ByteString} :
    resolve? workingDirectory path = none ↔ path = "" := by
  by_cases h : path = "" <;> simp [h, resolve?]

/-- A path that is not empty resolves to the place that it leads to. -/
lemma resolve?_of_ne_empty (hwd : IsPlace workingDirectory) {path : ByteString} (h : path ≠ "") :
    resolve? workingDirectory path = some (lead workingDirectory path) := by
  rw [resolve?_eq hwd, if_neg h]

/-- Every path but the empty one leads somewhere. -/
lemma exists_resolve?_eq_some (workingDirectory : List ByteString) {path : ByteString}
    (h : path ≠ "") : ∃ place, resolve? workingDirectory path = some place :=
  Option.ne_none_iff_exists'.1 (mt resolve?_eq_none_iff.1 h)

/-- A path that leads somewhere is not empty. -/
lemma ne_empty_of_resolve? {path : ByteString} {place : List ByteString}
    (h : resolve? workingDirectory path = some place) : path ≠ "" := by
  intro hempty
  rw [resolve?_eq_none_iff.2 hempty] at h
  cases h

/-- From a place every path is resolved to a place. -/
lemma isPlace_of_resolve? (hwd : IsPlace workingDirectory) {path : ByteString}
    {place : List ByteString} (h : resolve? workingDirectory path = some place) :
    IsPlace place := by
  rw [resolve?_of_ne_empty hwd (ne_empty_of_resolve? h)] at h
  exact Option.some.inj h ▸ isPlace_lead hwd path

/-- A path in a directory goes on from where the directory is resolved to. -/
lemma resolve?_join (hwd : IsPlace workingDirectory) {dir name : ByteString}
    {place : List ByteString} (hdir : resolve? workingDirectory dir = some place)
    (hname : isAbsolute name = false) :
    resolve? workingDirectory (join dir name) =
      some ((steps name).foldl enter place.reverse).reverse := by
  have hempty : dir ≠ "" := ne_empty_of_resolve? hdir
  rw [resolve?_of_ne_empty hwd hempty] at hdir
  rw [resolve?_of_ne_empty hwd (join_ne_empty hempty hname), lead_join hempty hname,
    Option.some.inj hdir]

/-! ## Paths that are texts -/

/-- The byte of a slash belongs to no other character. -/
lemma slash_not_mem_encodeChar {c : Char} (h : c ≠ '/') : slash ∉ String.utf8EncodeChar c := by
  have hslash : ∀ n, n < 256 → n ≠ 0x2f → slash ≠ UInt8.ofNat n := by
    intro n hn hne heq
    have hsame : slash.toNat = n := by rw [heq, Text.toNat_ofNat_of_lt hn]
    exact hne hsame.symm
  have hc : c.val.toNat ≠ 0x2f := fun heq => h (Char.toNat_inj.1 heq)
  unfold String.utf8EncodeChar
  dsimp only
  -- a character of ASCII is one byte, and the bytes of any other one are greater than those
  split_ifs <;> simp only [List.mem_cons, List.not_mem_nil, or_false, not_or]
  · exact hslash _ (by omega) hc
  · exact ⟨hslash _ (by omega) (by omega), hslash _ (by omega) (by omega)⟩
  · exact ⟨hslash _ (by omega) (by omega), hslash _ (by omega) (by omega),
      hslash _ (by omega) (by omega)⟩
  · exact ⟨hslash _ (by omega) (by omega), hslash _ (by omega) (by omega),
      hslash _ (by omega) (by omega), hslash _ (by omega) (by omega)⟩

/-- A text is cut into pieces before or after it is turned into bytes. -/
lemma pieces_flatMap_encodeChar (chars : List Char) :
    Text.pieces slash (chars.flatMap String.utf8EncodeChar) =
      (Text.pieces '/' chars).map fun piece => piece.flatMap String.utf8EncodeChar := by
  induction chars with
  | nil => rfl
  | cons c chars ih =>
    rw [List.flatMap_cons]
    by_cases hc : c = '/'
    · subst hc
      have hbytes : String.utf8EncodeChar '/' = [slash] := by decide
      rw [hbytes, List.singleton_append, Text.pieces, if_pos rfl, ih, Text.pieces, if_pos rfl]
      rfl
    · rw [Text.pieces_append_of_not_mem (slash_not_mem_encodeChar hc), ih,
        Text.pieces_cons_of_ne hc]
      cases Text.pieces '/' chars <;> simp

/-- The pieces of a text are texts. -/
lemma isText_of_mem_pieces {text : String} {piece : ByteString} (h : piece ∈ pieces text) :
    piece.IsText := by
  rw [pieces, ByteString.ofString, pieces_flatMap_encodeChar, List.map_map] at h
  obtain ⟨chars, -, rfl⟩ := List.mem_map.1 h
  refine ⟨String.ofList chars, ?_⟩
  rw [ByteString.ofString, String.toList_ofList]
  rfl

/-- The names that a text enters are texts. -/
lemma isText_of_normal_mem_steps {text : String} {name : ByteString}
    (h : Component.normal name ∈ steps text) : name.IsText := by
  obtain ⟨piece, hpiece, hname⟩ := List.mem_filterMap.1 h
  have hsame : piece = name := by
    unfold Component.ofPiece? at hname
    split_ifs at hname
    · cases hname
    · exact Component.normal.inj (Option.some.inj hname)
  exact hsame ▸ isText_of_mem_pieces hpiece

/-- Texts are spelled with slashes before or after they are turned into bytes. -/
lemma ofString_intercalate (names : List String) :
    ByteString.ofString ("/".intercalate names) = spell (names.map ByteString.ofString) := by
  induction names with
  | nil => rfl
  | cons name names ih =>
    cases names with
    | nil => simp
    | cons next rest =>
      rw [String.intercalate_cons_cons, ByteString.ofString_append, ByteString.ofString_append, ih]
      exact (spell_cons_cons _ _ _).symm

/-- What is entered stands in front of what is left of the names before. -/
lemma exists_foldl_enter_eq (parts : List Component) (reversed : List ByteString) :
    ∃ entered kept, parts.foldl enter reversed = entered ++ kept ∧ kept <:+ reversed ∧
      ∀ name ∈ entered, Component.normal name ∈ parts := by
  induction parts using List.reverseRecOn with
  | nil => exact ⟨[], reversed, rfl, List.suffix_refl reversed, by simp⟩
  | append_singleton parts part ih =>
    obtain ⟨entered, kept, hsplit, hkept, hentered⟩ := ih
    rw [List.foldl_append, hsplit, List.foldl_cons, List.foldl_nil]
    cases part with
    | rootDir => exact ⟨[], [], rfl, List.nil_suffix, by simp⟩
    | curDir => exact ⟨entered, kept, rfl, hkept, fun name hname => by simp [hentered name hname]⟩
    | parentDir =>
      cases entered with
      | nil => exact ⟨[], kept.tail, rfl, (List.tail_suffix kept).trans hkept, by simp⟩
      | cons first entered =>
        refine ⟨entered, kept, rfl, hkept, fun name hname => ?_⟩
        simp [hentered name (List.mem_cons_of_mem first hname)]
    | normal name =>
      refine ⟨name :: entered, kept, rfl, hkept, List.forall_mem_cons.2 ⟨by simp, ?_⟩⟩
      exact fun other hother => by simp [hentered other hother]

/-- Names that a text adds to those of a directory are texts. -/
lemma isText_of_resolve?_join (hwd : IsPlace workingDirectory) {dir : ByteString} {text : String}
    {place rest : List ByteString} (hdir : resolve? workingDirectory dir = some place)
    (h : resolve? workingDirectory (join dir text) = some (place ++ rest)) :
    ∀ name ∈ rest, name.IsText := by
  -- an absolute text starts at the root and not in the directory
  obtain ⟨start, hstart, hend⟩ : ∃ start, start <:+ place.reverse ∧
      resolve? workingDirectory (join dir text) =
        some ((steps text).foldl enter start).reverse := by
    cases htext : isAbsolute text with
    | true =>
      refine ⟨[], List.nil_suffix, ?_⟩
      rw [join, if_pos (by simp [htext]), resolve?_of_ne_empty hwd (ne_empty_of_isAbsolute htext),
        lead, startOf, htext]
      rfl
    | false => exact ⟨place.reverse, List.suffix_refl _, resolve?_join hwd hdir htext⟩
  obtain ⟨entered, kept, hsplit, hkept, hentered⟩ := exists_foldl_enter_eq (steps text) start
  have hreversed : entered ++ kept = rest.reverse ++ place.reverse := by
    rw [← hsplit, ← List.reverse_append]
    exact List.reverse_eq_iff.1 (Option.some.inj (hend.symm.trans h))
  have hlength : kept.length ≤ place.reverse.length := (hkept.trans hstart).length_le
  have hleads : rest.reverse <+: entered := by
    have htotal := congrArg List.length hreversed
    simp only [List.length_append] at htotal
    refine List.prefix_of_prefix_length_le (List.prefix_append rest.reverse place.reverse) ?_
      (by omega)
    exact hreversed ▸ List.prefix_append entered kept
  intro name hname
  exact isText_of_normal_mem_steps (hentered name (hleads.mem (List.mem_reverse.2 hname)))

/-- Names that are texts, put together, lead from a directory to a place below it. -/
lemma resolve?_join_of_isText (hwd : IsPlace workingDirectory) {dir : ByteString}
    {place rest : List ByteString} (hdir : resolve? workingDirectory dir = some place)
    (hrest : IsPlace rest) (htext : ∀ name ∈ rest, name.IsText) :
    resolve? workingDirectory (join dir ("/".intercalate (rest.map ByteString.lossy))) =
      some (place ++ rest) := by
  have hspell : ByteString.ofString ("/".intercalate (rest.map ByteString.lossy)) = spell rest := by
    have hsame : rest.map (ByteString.ofString ∘ ByteString.lossy) = rest.map id :=
      List.map_congr_left fun name hname => ByteString.isText_iff.1 (htext name hname)
    rw [ofString_intercalate, List.map_map, hsame, List.map_id]
  rw [hspell, resolve?_join hwd hdir (isAbsolute_spell hrest), steps_spell, hrest.flatMap_steps,
    foldl_enter_map_normal, List.reverse_append, List.reverse_reverse, List.reverse_reverse]

end Place

end LiterateLinks
