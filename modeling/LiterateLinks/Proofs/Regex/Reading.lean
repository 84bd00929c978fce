import Mathlib.Tactic.Common
import LiterateLinks.Regex.Syntax

/-!
# Reading quoted text

Written expressions are read in steps: glyphs, roles, then the expression.  This file follows a
quoted text through these steps.  At each of them a quoted text is read character by character,
whatever characters it is made of and whatever comes after it, so the lemmas are stated for an
arbitrary rest and the reading of a longer expression can be put together from them.

`Pattern.parse?_eq_of_glyphs` deals with the two ties: an expression that begins and ends with
quoted text is tied to neither end of the text.
-/

namespace LiterateLinks

namespace Regex

/-! ## Glyphs -/

/-- The glyph by which a quoted text writes a character. -/
def glyphOf (c : Char) : Glyph := ⟨c, isMeta c⟩

/-- A metacharacter is never written plainly in a quoted text. -/
lemma isPlain_glyphOf {c d : Char} (hd : isMeta d = true) : (glyphOf c).isPlain d = false := by
  unfold glyphOf Glyph.isPlain
  by_cases h : c = d
  · subst h
    simp [hd]
  · simp [h]

/-- A backslash is attached to the metacharacter after it. -/
lemma glyphs?_quoted {c : Char} (hc : isMeta c = true) (rest : List Char) :
    glyphs? ('\\' :: c :: rest) = (⟨c, true⟩ :: ·) <$> glyphs? rest := by
  rw [glyphs?]
  simp [hc]

/-- A character other than the backslash is a glyph of its own. -/
lemma glyphs?_plain {c : Char} (hc : c ≠ '\\') (rest : List Char) :
    glyphs? (c :: rest) = (⟨c, false⟩ :: ·) <$> glyphs? rest := by
  cases rest <;> simp [glyphs?, hc]

/-- A character that is no metacharacter is no backslash either. -/
lemma ne_backslash_of_isMeta {c : Char} (hc : ¬isMeta c = true) : c ≠ '\\' := by
  rintro rfl
  exact hc (by decide)

/-- Quoting goes character by character. -/
lemma quote_cons (c : Char) (text : List Char) : quote (c :: text) = quote [c] ++ quote text := by
  simp [quote]

/-- One quoted character is one glyph. -/
lemma glyphs?_quote_singleton (c : Char) (rest : List Char) :
    glyphs? (quote [c] ++ rest) = (glyphOf c :: ·) <$> glyphs? rest := by
  by_cases hc : isMeta c = true
  · have hquote : quote [c] = ['\\', c] := by simp [quote, hc]
    rw [hquote]
    simpa [glyphOf, hc] using glyphs?_quoted hc rest
  · have hquote : quote [c] = [c] := by simp [quote, hc]
    rw [hquote]
    simpa [glyphOf, hc] using glyphs?_plain (ne_backslash_of_isMeta hc) rest

/-- The glyphs of a quoted text are those of its characters. -/
lemma glyphs?_quote_append (text rest : List Char) :
    glyphs? (quote text ++ rest) = (text.map glyphOf ++ ·) <$> glyphs? rest := by
  induction text with
  | nil => simp [quote]
  | cons c cs ih =>
    rw [quote_cons, List.append_assoc, glyphs?_quote_singleton, ih]
    cases glyphs? rest <;> simp

/-! ## Roles -/

/-- The role of a character that stands for itself. -/
def roleOf (c : Char) : Role := .set (.only c)

/-- Outside brackets, a character of a quoted text stands for itself. -/
lemma role?_glyphOf (c : Char) : (glyphOf c).role? = some (roleOf c) := by
  unfold Glyph.role? glyphOf roleOf
  by_cases hc : isMeta c = true
  · simp [hc]
  · have hmem : c ∉ metacharacters := by simpa [isMeta] using hc
    simp only [metacharacters, List.mem_cons, not_or] at hmem
    simp only [hc, if_false, Bool.false_eq_true]
    split <;> simp_all

/-- The role of a quoted character comes before those of the rest. -/
lemma roles?_glyphOf_cons (c : Char) (rest : List Glyph) :
    roles? none (glyphOf c :: rest) = (roleOf c :: ·) <$> roles? none rest := by
  have hopen : (glyphOf c).isPlain '[' = false := isPlain_glyphOf (by decide)
  simp only [roles?, hopen, role?_glyphOf]
  cases roles? none rest <;> simp

/-- The roles of the glyphs of a quoted text are those of its characters. -/
lemma roles?_glyphOf_append (text : List Char) (rest : List Glyph) :
    roles? none (text.map glyphOf ++ rest) = (text.map roleOf ++ ·) <$> roles? none rest := by
  induction text with
  | nil => simp
  | cons c cs ih =>
    rw [List.map_cons, List.cons_append, roles?_glyphOf_cons, ih]
    cases roles? none rest <;> simp

/-! ## Expressions -/

/-- The expression that reads one given character. -/
def readOne (c : Char) : Regex := .one (.only c)

/-- The expression that reads exactly the given text. -/
def literal (text : List Char) : Regex := concat (text.map readOne)

/-- Reading the roles of a text pushes its characters onto the open group. -/
lemma assemble?_roleOf_append (text : List Char) (rest : List Role) (count : ℕ) (frame : Frame)
    (outer : List Frame) :
    assemble? (text.map roleOf ++ rest) count frame outer =
      assemble? rest count
        { frame with parts := (text.map readOne).reverse ++ frame.parts } outer := by
  induction text generalizing frame with
  | nil => simp
  | cons c cs ih =>
    have hstep : assemble? (roleOf c :: (cs.map roleOf ++ rest)) count frame outer =
        assemble? (cs.map roleOf ++ rest) count (frame.push (readOne c)) outer := by
      rw [roleOf, assemble?, readOne]
    rw [List.map_cons, List.cons_append, hstep, ih]
    simp [Frame.push]

end Regex

namespace Pattern

open Regex

/-- An expression that begins and ends with quoted text is tied to neither end of the text. -/
lemma parse?_eq_of_glyphs {source opening closing : List Char} {body : Regex} (middle : List Glyph)
    (hopening : opening ≠ []) (hclosing : closing ≠ [])
    (hglyphs : glyphs? source = some (opening.map glyphOf ++ (middle ++ closing.map glyphOf)))
    (hbody : ofGlyphs? (opening.map glyphOf ++ (middle ++ closing.map glyphOf)) = some body) :
    parse? source = some ⟨false, body, false⟩ := by
  obtain ⟨c, cs, rfl⟩ := List.exists_cons_of_ne_nil hopening
  have hlast : (closing.map glyphOf).getLast? =
      some (glyphOf (closing.getLast hclosing)) := by
    rw [List.getLast?_map, List.getLast?_eq_some_getLast hclosing, Option.map_some]
  have hcaret : (glyphOf c).isPlain '^' = false := isPlain_glyphOf (by decide)
  have hdollar : (glyphOf (closing.getLast hclosing)).isPlain '$' = false :=
    isPlain_glyphOf (by decide)
  unfold parse?
  rw [hglyphs]
  simp only [List.map_cons, List.cons_append] at hbody ⊢
  simp [hcaret, hdollar, hbody, List.getLast?_cons, List.getLast?_append, hlast]

/-- An expression between a plain `^` and a plain `$` is tied to both ends of the text. -/
lemma parse?_eq_of_tied {source : List Char} {middle : List Glyph}
    (h : glyphs? source = some (⟨'^', false⟩ :: (middle ++ [⟨'$', false⟩]))) :
    parse? source = (ofGlyphs? middle).map fun body => ⟨true, body, true⟩ := by
  unfold parse?
  rw [h]
  cases hbody : ofGlyphs? middle <;> simp [hbody, Glyph.isPlain]

end Pattern

end LiterateLinks
