import Mathlib.Tactic.Common
import LiterateLinks.Proofs.Glob.Failure
import LiterateLinks.Proofs.Glob.Match

/-!
# Patterns that are plain names

A paste is taken for a wildcard when some suffix of its text begins with wildcard syntax.  Matching
goes by the parts of a pattern instead, which a single reading from left to right determines and
which skips the inside of sets.  The two views agree (`Glob.isWildcardText_eq_any`): the first place
where a suffix begins with wildcard syntax is reached by the reading, because only plain characters
come before it.

A pattern without wildcards stands for its own text and nothing else.  Conversely, a pattern that
stands for its own text and nothing else has no wildcards.  A star or a question mark can stand for
more than one text, and a name can be changed where it does (`Glob.PartsFit.replace`).  A set can be
narrow enough to stand for one character only, but then the name is shorter than the pattern,
because a set takes at least three characters to write.
-/

namespace LiterateLinks

namespace Glob

/-! ## The text of the parts -/

/-- The text of a part in the pattern it is a part of. -/
def Part.text : Part → List Char
  | .star => ['*']
  | .any => ['?']
  | .bracket body => '[' :: (body ++ [']'])
  | .char c => [c]

/-- The parts of a pattern hold all of its text. -/
lemma flatMap_text_parts (pattern : List Char) : (parts pattern).flatMap Part.text = pattern := by
  induction pattern using pattern_induction with
  | nil => rfl
  | star rest ih => exact congrArg ('*' :: ·) ih
  | any rest ih => exact congrArg ('?' :: ·) ih
  | closed rest body after hclosed ih =>
    rw [parts_closed hclosed, List.flatMap_cons, ih, hclosed.rest_eq]
    simp [Part.text]
  | unclosed rest hunclosed ih =>
    rw [parts_unclosed hunclosed]
    exact congrArg ('[' :: ·) ih
  | char c rest hstar hany hopen ih =>
    rw [parts_char hstar hany hopen]
    exact congrArg (c :: ·) ih

/-- Whether the part stands for more than its own text. -/
def Part.isWild : Part → Bool
  | .char _ => false
  | _ => true

/-- Wildcard syntax begins somewhere in a pattern exactly when one of its parts is a wildcard. -/
lemma isWildcardText_eq_any (pattern : List Char) :
    isWildcardText pattern = (parts pattern).any Part.isWild := by
  induction pattern using pattern_induction with
  | nil => rfl
  | star rest ih => simp [isWildcardText, parts, partsFrom, Part.isWild]
  | any rest ih => simp [isWildcardText, parts, partsFrom, Part.isWild]
  | closed rest body after hclosed ih =>
    have hbody : classBody? rest = some body := classBody?_eq_some_iff.2 ⟨after, hclosed⟩
    simp [isWildcardText, hbody, parts_closed hclosed, Part.isWild]
  | unclosed rest hunclosed ih =>
    have hbody : classBody? rest = none := classBody?_eq_none_iff.2 hunclosed
    simp [isWildcardText, hbody, parts_unclosed hunclosed, Part.isWild, ih]
  | char c rest hstar hany hopen ih =>
    simp [isWildcardText, hstar, hany, hopen, parts_char hstar hany hopen, Part.isWild, ih]

/-- Parts that are no wildcards are the characters of their text. -/
lemma eq_map_char_of_not_isWild {ps : List Part} (h : ∀ part ∈ ps, part.isWild = false) :
    ps = (ps.flatMap Part.text).map Part.char := by
  induction ps with
  | nil => rfl
  | cons part ps ih =>
    have hpart : part.isWild = false := h part (by simp)
    have hps := ih fun p hp => h p (by simp [hp])
    cases part with
    | char c =>
      rw [List.flatMap_cons, List.map_append, ← hps]
      rfl
    | _ => simp [Part.isWild] at hpart

/-- A pattern that is no wildcard consists of its characters. -/
lemma parts_eq_map_char {pattern : List Char} (h : isWildcardText pattern = false) :
    parts pattern = pattern.map Part.char := by
  have hparts : ∀ part ∈ parts pattern, part.isWild = false := by
    simpa [isWildcardText_eq_any] using h
  conv_lhs => rw [eq_map_char_of_not_isWild hparts, flatMap_text_parts]

/-! ## Names of plain patterns -/

/-- Characters stand for the text they make and for no other. -/
lemma partsFit_map_char_iff {text name : List Char} :
    PartsFit (text.map Part.char) name ↔ name = text := by
  induction text generalizing name with
  | nil => rfl
  | cons c text ih =>
    simp only [List.map_cons, PartsFit, Part.Stands, ih]
    constructor
    · rintro ⟨word, rest, rfl, rfl, rfl⟩
      rfl
    · rintro rfl
      exact ⟨[c], text, rfl, rfl, rfl⟩

/-- A pattern that does not compile is a wildcard. -/
lemma isWildcard_of_compile?_eq_none {pattern : String} (h : compile? pattern = none) :
    isWildcard pattern = true := by
  obtain ⟨body, hset, -⟩ := (compile?_eq_none_iff pattern).1 h
  rw [isWildcard, isWildcardText_eq_any, List.any_eq_true]
  exact ⟨.bracket body, hset.mem_parts, rfl⟩

/-! ## Names of wildcards -/

/-- A name that fits some parts holds, for each of them, a text that can be replaced by any other
text that stands for the part. -/
lemma PartsFit.replace {ps : List Part} {name : List Char} (h : PartsFit ps name) {part : Part}
    (hmem : part ∈ ps) :
    ∃ before word after, name = before ++ word ++ after ∧ part.Stands word ∧
      ∀ other, part.Stands other → PartsFit ps (before ++ other ++ after) := by
  induction ps generalizing name with
  | nil => cases hmem
  | cons p ps ih =>
    obtain ⟨word, rest, rfl, hword, hrest⟩ := h
    rcases List.mem_cons.1 hmem with rfl | hlater
    · exact ⟨[], word, rest, rfl, hword, fun other hother => ⟨other, rest, rfl, hother, hrest⟩⟩
    · obtain ⟨before, found, after, rfl, hfound, hreplace⟩ := ih hrest hlater
      refine ⟨word ++ before, found, after, by simp, hfound, fun other hother => ?_⟩
      exact ⟨word, before ++ other ++ after, by simp, hword, hreplace other hother⟩

/-- If only one name fits, then every part stands for only one text. -/
lemma stands_unique {ps : List Part} {name : List Char}
    (h : ∀ other, PartsFit ps other ↔ other = name)
    {part : Part} (hmem : part ∈ ps) {u v : List Char} (hu : part.Stands u) (hv : part.Stands v) :
    u = v := by
  obtain ⟨before, word, after, -, -, hreplace⟩ := ((h name).2 rfl).replace hmem
  have hsame : before ++ u ++ after = before ++ v ++ after :=
    ((h _).1 (hreplace u hu)).trans ((h _).1 (hreplace v hv)).symm
  simpa using hsame

/-- Without a star, every part takes up one character of a name. -/
lemma PartsFit.length_eq {ps : List Part} {name : List Char} (h : PartsFit ps name)
    (hstar : .star ∉ ps) : name.length = ps.length := by
  induction ps generalizing name with
  | nil =>
    obtain rfl : name = [] := h
    rfl
  | cons part ps ih =>
    obtain ⟨word, rest, rfl, hword, hrest⟩ := h
    have hone : word.length = 1 := by
      cases part with
      | star => simp at hstar
      | any =>
        obtain ⟨c, rfl⟩ := hword
        rfl
      | bracket body =>
        obtain ⟨c, rfl, -⟩ := hword
        rfl
      | char c =>
        obtain rfl : word = [c] := hword
        rfl
    have hlater := ih hrest fun hmem => hstar (List.mem_cons_of_mem _ hmem)
    rw [List.length_append, List.length_cons, hone, hlater]
    omega

/-- A part is written with at least one character. -/
lemma Part.length_text_pos (part : Part) : 0 < part.text.length := by
  cases part <;> simp [Part.text]

/-- Parts are written with at least as many characters as there are parts. -/
lemma length_le_length_flatMap_text (ps : List Part) :
    ps.length ≤ (ps.flatMap Part.text).length := by
  induction ps with
  | nil => simp
  | cons part ps ih =>
    have hpart := part.length_text_pos
    rw [List.length_cons, List.flatMap_cons, List.length_append]
    omega

/-- Parts among which there is a set are written with more characters than there are parts. -/
lemma length_lt_length_flatMap_text {ps : List Part} {body : List Char} (h : .bracket body ∈ ps) :
    ps.length < (ps.flatMap Part.text).length := by
  obtain ⟨before, after, rfl⟩ := List.append_of_mem h
  have hbefore := length_le_length_flatMap_text before
  have hafter := length_le_length_flatMap_text after
  simp only [List.flatMap_append, List.flatMap_cons, Part.text, List.length_append,
    List.length_cons]
  omega

/-- A pattern that only its own text fits has no wildcards. -/
lemma isWild_eq_false_of_fits_only {pattern : List Char}
    (h : ∀ name, PartsFit (parts pattern) name ↔ name = pattern) :
    ∀ part ∈ parts pattern, part.isWild = false := by
  have hstar : .star ∉ parts pattern := by
    intro hmem
    have hsame : [] = ['a'] := stands_unique h hmem trivial trivial
    cases hsame
  have hany : .any ∉ parts pattern := by
    intro hmem
    have hsame : ['a'] = ['b'] := stands_unique h hmem ⟨_, rfl⟩ ⟨_, rfl⟩
    exact absurd hsame (by decide)
  -- Without stars the pattern is as long as it has parts, which leaves no room to write a set.
  have hset : ∀ body, .bracket body ∉ parts pattern := by
    intro body hmem
    have hlength : pattern.length = (parts pattern).length := ((h pattern).2 rfl).length_eq hstar
    have hlonger := length_lt_length_flatMap_text hmem
    rw [flatMap_text_parts] at hlonger
    omega
  intro part hmem
  cases part with
  | star => exact absurd hmem hstar
  | any => exact absurd hmem hany
  | bracket body => exact absurd hmem (hset body)
  | char c => rfl

/-- A pattern is taken for a plain name exactly when it compiles and matches one name only, its own
text. -/
theorem isWildcard_eq_false_iff (pattern : String) :
    isWildcard pattern = false ↔
      ∃ compiled, compile? pattern = some compiled ∧
        ∀ name : String, compiled.isMatch name.toList = true ↔ name = pattern := by
  constructor
  · intro h
    have hparts : parts pattern.toList = pattern.toList.map Part.char := parts_eq_map_char h
    have hset : ∀ body, .bracket body ∉ parts pattern.toList := by simp [hparts]
    obtain ⟨compiled, hcompiled⟩ := exists_compile?_eq_some fun body hmem => absurd hmem (hset body)
    refine ⟨compiled, hcompiled, fun name => ?_⟩
    rw [isMatch_iff_partsFit hcompiled, hparts, partsFit_map_char_iff, String.toList_inj]
  · rintro ⟨compiled, hcompiled, hmatch⟩
    have hfits (name : List Char) :
        PartsFit (parts pattern.toList) name ↔ name = pattern.toList := by
      have hname := hmatch (String.ofList name)
      rw [isMatch_iff_partsFit hcompiled, String.toList_ofList] at hname
      rw [hname, ← String.toList_inj, String.toList_ofList]
    have hplain := isWild_eq_false_of_fits_only hfits
    simpa [isWildcard, isWildcardText_eq_any] using hplain

/-- A bracket is plain if nothing closes it; one closing bracket is enough for all brackets before
it. -/
example : isWildcard "c][" = false ∧ isWildcard "a[b[0-9]" = true := by decide

end Glob

end LiterateLinks
