import Mathlib.Tactic.Common
import LiterateLinks.Document.Serialize
import LiterateLinks.Html.Reference.Basic

/-!
# Reading written characters

Text and attribute values are written with four references, all with their semicolon.  This file
shows that they are read back: `Reference.decode_writeText` and `Reference.decode_writeAttribute`.

A reference is looked up as the first name of a table that the text starts with.  No name in front
of the written ones is like them, so what follows a written reference does not matter for the
look-up.
-/

namespace LiterateLinks

namespace Html

namespace Reference

open Document (writeTextChar writeAttributeChar)

/-- One of the two words starts with the other. -/
def areAlike (word other : List Char) : Bool :=
  word.isPrefixOf other || other.isPrefixOf word

/-- The table has the name, with a semicolon at its end, and no name in front of it that a text with
the name may start with. -/
def isListed (first : Char) (name : String) (codes : List Nat) : Bool :=
  first != '#' && name.toList.getLast? == some ';' &&
    (namesFrom first).find? (fun entry => areAlike entry.1.toList name.toList) == some (name, codes)

/-- A name that a text starts with is like every other start of the text. -/
lemma areAlike_of_isPrefixOf_append {name word rest : List Char}
    (h : name.isPrefixOf (word ++ rest) = true) : areAlike name word = true := by
  rw [areAlike, Bool.or_eq_true, List.isPrefixOf_iff_prefix, List.isPrefixOf_iff_prefix]
  exact List.prefix_or_prefix_of_prefix (List.isPrefixOf_iff_prefix.1 h) (List.prefix_append _ _)

/-- A listed name is read, whatever comes after it. -/
lemma read?_of_isListed {first : Char} {name : String} {codes : List Nat}
    (h : isListed first name codes = true) (inAttribute : Bool) (rest : List Char) :
    read? inAttribute (first :: (name.toList ++ rest)) = some (codes.map Char.ofNat, rest) := by
  simp only [isListed, Bool.and_eq_true, bne_iff_ne, beq_iff_eq] at h
  obtain ⟨⟨hfirst, hsemicolon⟩, hfound⟩ := h
  have hlookup :
      (namesFrom first).find? (fun entry => entry.1.toList.isPrefixOf (name.toList ++ rest)) =
        some (name, codes) := by
    obtain ⟨-, before, after, htable, hbefore⟩ := List.find?_eq_some_iff_append.1 hfound
    refine List.find?_eq_some_iff_append.2 ⟨by simp, before, after, htable, fun entry hentry => ?_⟩
    have hunlike := hbefore entry hentry
    rw [Bool.not_eq_true'] at hunlike ⊢
    by_contra hstarts
    rw [Bool.not_eq_false] at hstarts
    simp [areAlike_of_isPrefixOf_append hstarts] at hunlike
  have hdrop : (name.toList ++ rest).drop name.length = rest := by
    rw [← String.length_toList, List.drop_left]
  rw [read?]
  · simp [readName?, hlookup, hdrop, hsemicolon]
  all_goals simp_all

/-- The characters of a reference are passed over. -/
lemma decodeFrom_length (inAttribute : Bool) (hidden rest : List Char) :
    decodeFrom inAttribute hidden.length (hidden ++ rest) = decode inAttribute rest := by
  induction hidden with
  | nil => rfl
  | cons c cs ih => simpa [decodeFrom] using ih

/-- A listed name with an ampersand in front is replaced by its characters. -/
lemma decode_of_isListed {first : Char} {name : String} {codes : List Nat}
    (h : isListed first name codes = true) (inAttribute : Bool) (rest : List Char) :
    decode inAttribute ('&' :: first :: (name.toList ++ rest)) =
      codes.map Char.ofNat ++ decode inAttribute rest := by
  have hlength :
      (first :: (name.toList ++ rest)).length - rest.length = (first :: name.toList).length := by
    simp only [List.length_cons, List.length_append]
    omega
  simp only [decode, decodeFrom, if_true, read?_of_isListed h, hlength]
  exact congrArg _ (decodeFrom_length inAttribute (first :: name.toList) rest)

/-- Other characters stand for themselves. -/
lemma decode_cons {c : Char} (hc : c ≠ '&') (inAttribute : Bool) (rest : List Char) :
    decode inAttribute (c :: rest) = c :: decode inAttribute rest := by
  simp [decode, decodeFrom, hc]

/-- The name of the ampersand is listed. -/
lemma isListed_amp : isListed 'a' "mp;" [38] = true := by decide +kernel

/-- The name of the no-break space is listed. -/
lemma isListed_nbsp : isListed 'n' "bsp;" [160] = true := by decide +kernel

/-- A written character of text is read back. -/
lemma decode_writeTextChar (inAttribute : Bool) (c : Char) (rest : List Char) :
    decode inAttribute (writeTextChar c ++ rest) = c :: decode inAttribute rest := by
  have hlt : isListed 'l' "t;" [60] = true := by decide +kernel
  have hgt : isListed 'g' "t;" [62] = true := by decide +kernel
  unfold writeTextChar
  split
  · exact decode_of_isListed isListed_amp inAttribute rest
  · exact decode_of_isListed hlt inAttribute rest
  · exact decode_of_isListed hgt inAttribute rest
  · exact decode_of_isListed isListed_nbsp inAttribute rest
  · exact decode_cons (by assumption) inAttribute rest

/-- A written character of an attribute value is read back. -/
lemma decode_writeAttributeChar (inAttribute : Bool) (c : Char) (rest : List Char) :
    decode inAttribute (writeAttributeChar c ++ rest) = c :: decode inAttribute rest := by
  have hquot : isListed 'q' "uot;" [34] = true := by decide +kernel
  unfold writeAttributeChar
  split
  · exact decode_of_isListed isListed_amp inAttribute rest
  · exact decode_of_isListed hquot inAttribute rest
  · exact decode_of_isListed isListed_nbsp inAttribute rest
  · exact decode_cons (by assumption) inAttribute rest

/-- Written text is read back. -/
lemma decode_writeText (inAttribute : Bool) (text : List Char) :
    decode inAttribute (text.flatMap writeTextChar) = text := by
  induction text with
  | nil => rfl
  | cons c cs ih => rw [List.flatMap_cons, decode_writeTextChar, ih]

/-- A written attribute value is read back. -/
lemma decode_writeAttribute (inAttribute : Bool) (value : List Char) :
    decode inAttribute (value.flatMap writeAttributeChar) = value := by
  induction value with
  | nil => rfl
  | cons c cs ih => rw [List.flatMap_cons, decode_writeAttributeChar, ih]

/-- Written text does not open with a number. -/
lemma opensBroken_writeText (text : List Char) :
    opensBroken (text.flatMap writeTextChar) = false := by
  cases text with
  | nil => rfl
  | cons c cs =>
    rw [List.flatMap_cons]
    unfold writeTextChar
    split
    iterate 4 rfl
    next hamp _ _ _ =>
      unfold opensBroken
      split
      iterate 3
        next heq => exact absurd (List.cons.inj heq).1 hamp
      rfl

end Reference

end Html

end LiterateLinks
