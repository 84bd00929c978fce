import Mathlib.Tactic.Common
import LiterateLinks.Proofs.Glob.Expression
import LiterateLinks.Proofs.Regex.Search
import LiterateLinks.Proofs.Regex.Table

/-!
# Matching a wildcard pattern

A compiled wildcard pattern matches a name exactly when the name belongs to the language of the
pattern, `Glob.Fits`.  The written expression and its reading drop out: the expression of each part
accepts the texts that stand for the part, so the expression of a pattern accepts the names that are
made of such texts.
-/

namespace LiterateLinks

namespace Glob

open Regex

/-- The entries of a set that can be read are kept as they are. -/
lemma eq_of_ordered? {items items' : List ClassItem} (h : ordered? items = some items') :
    items' = items := by
  unfold ordered? at h
  split at h
  · exact (Option.some.inj h).symm
  · cases h

/-- The set that is read from a body contains the characters of the body. -/
lemma contains_iff_inSet {body : List Char} {set : CharSet} (h : bodySet? body = some set)
    (c : Char) : set.contains c = true ↔ InSet body c := by
  unfold bodySet? at h
  split at h
  · obtain ⟨items, hitems, rfl⟩ := Option.map_eq_some_iff.1 h
    obtain rfl := eq_of_ordered? hitems
    simp [CharSet.contains, InSet]
  · next hbang =>
    obtain ⟨items, hitems, rfl⟩ := Option.map_eq_some_iff.1 h
    obtain rfl := eq_of_ordered? hitems
    simp [CharSet.contains, InSet]

/-- The expression of a part accepts the texts that stand for it. -/
lemma accepts_iff_stands {part : Part} {e : Regex} (h : part.regex? = some e) (word : List Char) :
    Accepts e word ↔ part.Stands word := by
  cases part with
  | star =>
    obtain rfl := Option.some.inj h
    exact ⟨fun _ => trivial, fun _ => .many fun _ _ => rfl⟩
  | any =>
    obtain rfl := Option.some.inj h
    simp [accepts_one_iff, CharSet.contains, Part.Stands]
  | bracket body =>
    simp only [Part.regex?, Part.reading?, Option.map_map, Option.map_eq_some_iff] at h
    obtain ⟨set, hset, rfl⟩ := h
    simp [accepts_one_iff, contains_iff_inSet hset, Part.Stands]
  | char c =>
    obtain rfl := Option.some.inj h
    simp [readOne, accepts_one_iff, CharSet.contains, Part.Stands]

/-- The sequence of the expressions of the parts accepts the names that are made of texts that stand
for the parts. -/
lemma accepts_iff_partsFit {parts : List Part} {es : List Regex}
    (h : parts.mapM Part.regex? = some es) (name : List Char) :
    Accepts (concat es) name ↔ PartsFit parts name := by
  induction parts generalizing es name with
  | nil =>
    obtain rfl : [] = es := Option.some.inj h
    exact accepts_concat_nil_iff
  | cons part parts ih =>
    rw [List.mapM_cons] at h
    obtain ⟨e, he, h⟩ := Option.bind_eq_some_iff.1 h
    obtain ⟨es', hes, h⟩ := Option.bind_eq_some_iff.1 h
    obtain rfl : e :: es' = es := Option.some.inj h
    simp only [accepts_concat_cons_iff, accepts_iff_stands he, ih hes, PartsFit]

/-- A compiled pattern matches the names that are made of texts that stand for its parts. -/
lemma isMatch_iff_partsFit {pattern : String} {compiled : Pattern}
    (h : compile? pattern = some compiled) (name : List Char) :
    compiled.isMatch name = true ↔ PartsFit (parts pattern.toList) name := by
  rw [compile?_eq] at h
  obtain ⟨es, hes, rfl⟩ := Option.map_eq_some_iff.1 h
  rw [Pattern.isMatch_tied_iff, accepts_concat_singleton_iff, accepts_iff_partsFit hes]

/-- A compiled pattern matches a name exactly when the name belongs to the language of the
pattern. -/
theorem isMatch_iff_fits {pattern : String} {compiled : Pattern}
    (h : compile? pattern = some compiled) (name : String) :
    compiled.isMatch name.toList = true ↔ Fits pattern.toList name.toList := by
  rw [isMatch_iff_partsFit h, fits_iff_partsFit]

/-- The set of everything but a closing bracket, the letters from `a` to `c` and the dash, then a
star that crosses the end of a line, then an unclosed bracket. -/
theorem isMatch_iff_fits_brackets :
    ∃ compiled, compile? "[!]a-c-]*[" = some compiled ∧
      Fits "[!]a-c-]*[".toList "d\n[".toList ∧ ¬Fits "[!]a-c-]*[".toList "]\n[".toList := by
  have hmatch : (compile? "[!]a-c-]*[").any (fun compiled =>
      compiled.isMatch "d\n[".toList && !compiled.isMatch "]\n[".toList) = true := by
    decide +kernel
  obtain ⟨compiled, h, hnames⟩ := (Option.any_eq_true _ _).1 hmatch
  rw [Bool.and_eq_true, Bool.not_eq_true'] at hnames
  refine ⟨compiled, h, (isMatch_iff_fits h _).1 hnames.1, ?_⟩
  rw [← isMatch_iff_fits h, hnames.2]
  exact Bool.false_ne_true

end Glob

end LiterateLinks
