import Mathlib.Tactic.Common
import LiterateLinks.Proofs.Glob.Language
import LiterateLinks.Proofs.Regex.Reading

/-!
# The expression of a wildcard pattern

A wildcard pattern is matched by way of a written regular expression.  This file reads that
expression back, part by part, and computes what it is: `Glob.compile?_eq` says that a pattern
compiles to the sequence of the expressions of its parts, tied to both ends, and that it fails to
compile exactly when the set of some part cannot be read.

The delicate part is the set.  Its body is written with some characters quoted, and reading it again
goes by the rules of sets in written expressions: a leading caret negates, leading dashes stand for
themselves, pairs of certain characters are operators.  `Glob.leadingItems?_bodyGlyphs` shows that
all of this comes to a plain reading of the body from left to right, `Glob.setItems`.
-/

namespace LiterateLinks

/-- The ends of a range are in order; a single character always is. -/
def ClassItem.Ordered : ClassItem → Prop
  | .single _ => True
  | .range lo hi => lo ≤ hi

/-- Whether the ends of a range are in order is a comparison. -/
instance : DecidablePred ClassItem.Ordered
  | .single _ => inferInstanceAs (Decidable True)
  | .range lo hi => inferInstanceAs (Decidable (lo ≤ hi))

namespace Glob

open Regex

/-! ## Reading a set from left to right -/

/-- Whether a character of a set is written with a backslash, given the one before it. -/
def isSpecial (last : Option Char) (c : Char) : Bool :=
  ['\\', '[', ']', '&', '~', '^'].contains c || (c == '-' && last == some '-')

/-- The glyphs of the body of a set. -/
def bodyGlyphs : Option Char → List Char → List Glyph
  | _, [] => []
  | last, c :: cs => ⟨c, isSpecial last c⟩ :: bodyGlyphs (some c) cs

/-- Only metacharacters are written with a backslash. -/
lemma isMeta_of_isSpecial {last : Option Char} {c : Char} (h : isSpecial last c = true) :
    isMeta c = true := by
  simp only [isSpecial, Bool.or_eq_true, List.contains_iff_mem, List.mem_cons, List.not_mem_nil,
    or_false, Bool.and_eq_true, beq_iff_eq] at h
  rcases h with (rfl | rfl | rfl | rfl | rfl | rfl) | ⟨rfl, -⟩ <;> decide

/-- The written body of a set has one glyph for each character. -/
lemma glyphs?_writeBody_append (last : Option Char) (body rest : List Char) :
    glyphs? (writeBody last body ++ rest) = (bodyGlyphs last body ++ ·) <$> glyphs? rest := by
  induction body generalizing last with
  | nil => simp [writeBody, bodyGlyphs]
  | cons c cs ih =>
    have hwrite : writeBody last (c :: cs) =
        (if isSpecial last c then ['\\', c] else [c]) ++ writeBody (some c) cs := rfl
    rw [hwrite, List.append_assoc, bodyGlyphs]
    by_cases hc : isSpecial last c = true
    · rw [if_pos hc, hc]
      simp only [List.cons_append, List.nil_append, glyphs?_quoted (isMeta_of_isSpecial hc), ih]
      cases glyphs? rest <;> simp
    · have hne : c ≠ '\\' := by
        rintro rfl
        exact hc rfl
      rw [if_neg hc, Bool.eq_false_iff.2 hc]
      simp only [List.cons_append, List.nil_append, glyphs?_plain hne, ih]
      cases glyphs? rest <;> simp

/-- A character that is always quoted in a set is never plain there. -/
lemma isPlain_special (last : Option Char) (c : Char) {d : Char}
    (hd : d ∈ ['\\', '[', ']', '&', '~', '^']) :
    (⟨c, isSpecial last c⟩ : Glyph).isPlain d = false := by
  by_cases hc : c = d
  · subst hc
    have hcontains : ['\\', '[', ']', '&', '~', '^'].contains c = true := by simpa using hd
    simp only [Glyph.isPlain, isSpecial, hcontains, Bool.true_or]
    simp
  · simp [Glyph.isPlain, hc]

/-- A dash is plain in a set unless it follows a dash. -/
lemma isPlain_dash_iff {last : Option Char} {c : Char} :
    (⟨c, isSpecial last c⟩ : Glyph).isPlain '-' = true ↔ c = '-' ∧ last ≠ some '-' := by
  by_cases hc : c = '-'
  · subst hc
    simp [Glyph.isPlain, isSpecial]
  · simp [Glyph.isPlain, hc]

/-- No operator of sets is ever written. -/
lemma isReserved_bodyGlyphs (last : Option Char) (c : Char) (cs : List Char) :
    isReserved ⟨c, isSpecial last c⟩ (bodyGlyphs (some c) cs) = false := by
  have hopen : (⟨c, isSpecial last c⟩ : Glyph).isPlain '[' = false :=
    isPlain_special last c (by simp)
  have hand : (⟨c, isSpecial last c⟩ : Glyph).isPlain '&' = false :=
    isPlain_special last c (by simp)
  have htilde : (⟨c, isSpecial last c⟩ : Glyph).isPlain '~' = false :=
    isPlain_special last c (by simp)
  cases cs with
  | nil => simp [isReserved, hopen, bodyGlyphs]
  | cons d ds =>
    -- a dash after a dash is quoted, so a plain pair of dashes does not occur
    have hdash : ¬((⟨c, isSpecial last c⟩ : Glyph).isPlain '-' = true ∧
        (⟨d, isSpecial (some c) d⟩ : Glyph).isPlain '-' = true) := by
      rw [isPlain_dash_iff, isPlain_dash_iff]
      rintro ⟨⟨rfl, -⟩, -, hlast⟩
      exact hlast rfl
    simp [isReserved, hopen, hand, htilde, bodyGlyphs]
    simpa using hdash

/-- A list of entries, if the ends of all its ranges are in order. -/
def ordered? (items : List ClassItem) : Option (List ClassItem) :=
  if ∀ item ∈ items, item.Ordered then some items else none

/-- One more entry in front of a list. -/
lemma ordered?_cons {item : ClassItem} (hitem : item.Ordered) (items : List ClassItem) :
    ordered? (item :: items) = (item :: ·) <$> ordered? items := by
  by_cases h : ∀ i ∈ items, i.Ordered
  · simp [ordered?, hitem]
  · have h' : ¬∀ i ∈ item :: items, i.Ordered := fun hall => h fun i hi => hall i (by simp [hi])
    simp only [ordered?, if_neg h, if_neg h']
    rfl

/-- A range whose ends are not in order spoils the list. -/
lemma ordered?_cons_of_not {item : ClassItem} (hitem : ¬item.Ordered) (items : List ClassItem) :
    ordered? (item :: items) = none := by
  simp [ordered?, hitem]

/-- Reading the glyphs of a set gives its entries from left to right, whatever stands before it.
The cases are those of `setItems`: a range, a single character before two others, a single character
before at most one. -/
lemma classItems?_bodyGlyphs (last : Option Char) (body : List Char) :
    classItems? (bodyGlyphs last body) = ordered? (setItems body) := by
  induction body using setItems.induct generalizing last with
  | case1 x d y rest hrange ih =>
    obtain ⟨hx, rfl⟩ := hrange
    have hd : (⟨'-', isSpecial (some x) '-'⟩ : Glyph).isPlain '-' = true := by
      rw [isPlain_dash_iff]
      exact ⟨rfl, by simpa using hx⟩
    have hy : (⟨y, isSpecial (some '-') y⟩ : Glyph).isPlain '-' = false := by
      rw [Bool.eq_false_iff, Ne, isPlain_dash_iff]
      simp
    have hreserved := isReserved_bodyGlyphs last x ('-' :: y :: rest)
    simp only [bodyGlyphs] at hreserved ⊢
    rw [setItems, if_pos ⟨hx, rfl⟩, classItems?]
    simp only [hreserved, hd, hy]
    by_cases hxy : x ≤ y
    · have hordered : (ClassItem.range x y).Ordered := hxy
      simp [hxy, ordered?_cons hordered, ih]
    · have hordered : ¬(ClassItem.range x y).Ordered := hxy
      simp [hxy, ordered?_cons_of_not hordered]
  | case2 x d y rest hrange ih =>
    have hd : (⟨d, isSpecial (some x) d⟩ : Glyph).isPlain '-' = false := by
      rw [Bool.eq_false_iff, Ne, isPlain_dash_iff]
      rintro ⟨rfl, hlast⟩
      exact hrange ⟨by simpa using hlast, rfl⟩
    have hreserved := isReserved_bodyGlyphs last x (d :: y :: rest)
    have hordered : (ClassItem.single x).Ordered := trivial
    have ih' := ih (some x)
    simp only [bodyGlyphs] at hreserved ih' ⊢
    rw [setItems, if_neg hrange, classItems?, ordered?_cons hordered, ← ih']
    simp [hreserved, hd]
  | case3 x rest hshort ih =>
    have hreserved := isReserved_bodyGlyphs last x rest
    have hordered : (ClassItem.single x).Ordered := trivial
    have ih' := ih (some x)
    have hitems : setItems (x :: rest) = .single x :: setItems rest := by
      rw [setItems]
      exact hshort
    rw [hitems, ordered?_cons hordered, ← ih']
    rcases rest with _ | ⟨d, _ | ⟨y, rest⟩⟩
    · simp [bodyGlyphs, classItems?, isReserved] at hreserved ⊢
      simpa using hreserved
    · simp only [bodyGlyphs] at hreserved ⊢
      rw [classItems?]
      simp [hreserved]
    · exact absurd rfl (hshort d y rest)
  | case4 => simp [bodyGlyphs, classItems?, setItems, ordered?]

/-- A dash never begins a range. -/
lemma setItems_dash (rest : List Char) : setItems ('-' :: rest) = .single '-' :: setItems rest := by
  rcases rest with _ | ⟨d, _ | ⟨y, rest⟩⟩ <;> simp [setItems]

/-- Entries that do not begin with a plain dash have no leading dashes. -/
lemma leadingItems?_of_not_plain {last : Option Char} {body : List Char}
    (h : last = some '-' ∨ body.head? ≠ some '-') :
    leadingItems? (bodyGlyphs last body) = classItems? (bodyGlyphs last body) := by
  cases body with
  | nil => simp [bodyGlyphs, leadingItems?, classItems?]
  | cons c cs =>
    have hplain : ¬(⟨c, isSpecial last c⟩ : Glyph).isPlain '-' = true := by
      rw [isPlain_dash_iff]
      rintro ⟨rfl, hlast⟩
      rcases h with hdash | hhead
      · exact hlast hdash
      · exact hhead rfl
    rw [bodyGlyphs, leadingItems?, if_neg hplain]

/-- Leading dashes are read the same way as any other character of a set. -/
lemma leadingItems?_bodyGlyphs (last : Option Char) (body : List Char) :
    leadingItems? (bodyGlyphs last body) = ordered? (setItems body) := by
  by_cases hdash : last = some '-' ∨ body.head? ≠ some '-'
  · rw [leadingItems?_of_not_plain hdash, classItems?_bodyGlyphs]
  · push Not at hdash
    obtain ⟨hlast, hhead⟩ := hdash
    obtain ⟨rest, rfl⟩ : ∃ rest, body = '-' :: rest := by
      cases body with
      | nil => simp at hhead
      | cons c cs => exact ⟨cs, by simpa using hhead⟩
    have hplain : (⟨'-', isSpecial last '-'⟩ : Glyph).isPlain '-' = true :=
      isPlain_dash_iff.2 ⟨rfl, hlast⟩
    have hordered : (ClassItem.single '-').Ordered := trivial
    rw [bodyGlyphs, leadingItems?, if_pos hplain, leadingItems?_of_not_plain (.inl rfl),
      classItems?_bodyGlyphs, setItems_dash, ordered?_cons hordered]

/-! ## Reading a whole set -/

/-- The set with the given body: a leading `!` excludes the entries, otherwise they are included. -/
def bodySet? : List Char → Option CharSet
  | '!' :: body => .bracket true <$> ordered? (setItems body)
  | body => .bracket false <$> ordered? (setItems body)

/-- The glyphs of a set, between its brackets. -/
def setGlyphs : List Char → List Glyph
  | '!' :: body => ⟨'^', false⟩ :: bodyGlyphs none body
  | body => bodyGlyphs none body

/-- The glyphs of a set with its brackets. -/
def bracketGlyphs (body : List Char) : List Glyph :=
  ⟨'[', false⟩ :: (setGlyphs body ++ [⟨']', false⟩])

/-- A set body is not empty, and there is something after a leading `!`. -/
def IsSetBody (body : List Char) : Prop :=
  body ≠ [] ∧ body ≠ ['!']

/-- It makes no difference to the glyphs of a set what stands before it, if it is no dash. -/
lemma bodyGlyphs_of_ne_dash {last : Option Char} (hlast : last ≠ some '-') (body : List Char) :
    bodyGlyphs last body = bodyGlyphs none body := by
  cases body with
  | nil => rfl
  | cons c cs => simp [bodyGlyphs, isSpecial, hlast]

/-- A set is written between brackets. -/
lemma glyphs?_writeSet_append (body rest : List Char) :
    glyphs? (writeSet body ++ rest) = (bracketGlyphs body ++ ·) <$> glyphs? rest := by
  have hclose : glyphs? (']' :: rest) = (⟨']', false⟩ :: ·) <$> glyphs? rest :=
    glyphs?_plain (by decide) rest
  have hopen (text : List Char) : glyphs? ('[' :: text) = (⟨'[', false⟩ :: ·) <$> glyphs? text :=
    glyphs?_plain (by decide) text
  have hcaret (text : List Char) : glyphs? ('^' :: text) = (⟨'^', false⟩ :: ·) <$> glyphs? text :=
    glyphs?_plain (by decide) text
  have hquoted (text : List Char) :
      glyphs? ('\\' :: '^' :: text) = (⟨'^', true⟩ :: ·) <$> glyphs? text :=
    glyphs?_quoted (by decide) text
  unfold writeSet bracketGlyphs setGlyphs
  split
  · simp only [List.cons_append, List.nil_append, List.append_assoc, hopen, hcaret,
      glyphs?_writeBody_append, hclose]
    cases glyphs? rest <;> simp
  · next body =>
    have hbody : bodyGlyphs none ('^' :: body) = ⟨'^', true⟩ :: bodyGlyphs none body := by
      rw [bodyGlyphs, bodyGlyphs_of_ne_dash (by decide)]
      rfl
    simp only [List.cons_append, List.nil_append, List.append_assoc, hopen, hquoted,
      glyphs?_writeBody_append, hclose]
    cases glyphs? rest <;> simp [hbody]
  · simp only [List.cons_append, List.nil_append, List.append_assoc, hopen,
      glyphs?_writeBody_append, hclose]
    cases glyphs? rest <;> simp

/-- The glyphs of a body hold no plain character that is always quoted. -/
lemma isPlain_of_mem_bodyGlyphs {last : Option Char} {body : List Char} {d : Char}
    (hd : d ∈ ['\\', '[', ']', '&', '~', '^']) :
    ∀ g ∈ bodyGlyphs last body, g.isPlain d = false := by
  induction body generalizing last with
  | nil => simp [bodyGlyphs]
  | cons c cs ih =>
    intro g hg
    rcases List.mem_cons.1 hg with rfl | hlater
    · exact isPlain_special last c hd
    · exact ih g hlater

/-- No glyph of a set is a closing bracket. -/
lemma isPlain_of_mem_setGlyphs {body : List Char} :
    ∀ g ∈ setGlyphs body, g.isPlain ']' = false := by
  unfold setGlyphs
  split
  · intro g hg
    rcases List.mem_cons.1 hg with rfl | hlater
    · rfl
    · exact isPlain_of_mem_bodyGlyphs (by simp) g hlater
  · exact isPlain_of_mem_bodyGlyphs (by simp)

/-- A body that is not empty has a glyph. -/
lemma bodyGlyphs_ne_nil {last : Option Char} {body : List Char} (h : body ≠ []) :
    bodyGlyphs last body ≠ [] := by
  cases body with
  | nil => exact absurd rfl h
  | cons c cs => simp [bodyGlyphs]

/-- Reading the glyphs of a set gives the set of its body. -/
lemma bracket?_setGlyphs {body : List Char} (h : IsSetBody body) :
    bracket? (setGlyphs body) = bodySet? body := by
  unfold setGlyphs bodySet?
  split
  · next body =>
    have hne : (bodyGlyphs none body).isEmpty = false := by
      have hbody : body ≠ [] := fun hnil => h.2 (by rw [hnil])
      simpa using bodyGlyphs_ne_nil hbody
    have hcaret : (⟨'^', false⟩ : Glyph).isPlain '^' = true := rfl
    simp [bracket?, hcaret, hne, leadingItems?_bodyGlyphs]
  · next body hbang =>
    obtain ⟨c, cs, rfl⟩ := List.exists_cons_of_ne_nil h.1
    have hcaret : (⟨c, isSpecial none c⟩ : Glyph).isPlain '^' = false :=
      isPlain_special none c (by simp)
    have hitems := leadingItems?_bodyGlyphs none (c :: cs)
    rw [bodyGlyphs] at hitems ⊢
    simp [bracket?, hcaret, hitems]

/-- Inside brackets, glyphs are collected up to the closing bracket. -/
lemma roles?_inside (glyphs : List Glyph) (hglyphs : ∀ g ∈ glyphs, g.isPlain ']' = false)
    (collected rest : List Glyph) :
    roles? (some collected) (glyphs ++ ⟨']', false⟩ :: rest) =
      (bracket? (collected.reverse ++ glyphs)).bind fun set =>
        (Role.set set :: ·) <$> roles? none rest := by
  induction glyphs generalizing collected with
  | nil =>
    have hclose : (⟨']', false⟩ : Glyph).isPlain ']' = true := rfl
    simp only [List.nil_append, roles?, hclose, if_true, List.append_nil]
    cases bracket? collected.reverse <;> cases roles? none rest <;> rfl
  | cons g gs ih =>
    have hg : g.isPlain ']' = false := hglyphs g (by simp)
    rw [List.cons_append, roles?]
    simp only [hg]
    rw [if_neg (by simp), ih fun g' hg' => hglyphs g' (by simp [hg'])]
    simp

/-- The role of a set in brackets. -/
lemma roles?_bracketGlyphs_append {body : List Char} (h : IsSetBody body) (rest : List Glyph) :
    roles? none (bracketGlyphs body ++ rest) =
      (bodySet? body).bind fun set => (Role.set set :: ·) <$> roles? none rest := by
  have hopen : (⟨'[', false⟩ : Glyph).isPlain '[' = true := rfl
  have hinside := roles?_inside (setGlyphs body) isPlain_of_mem_setGlyphs [] rest
  rw [List.reverse_nil, List.nil_append, bracket?_setGlyphs h] at hinside
  rw [← hinside, bracketGlyphs, List.cons_append, roles?, if_pos hopen, List.append_assoc]
  rfl

/-! ## Reading the parts of a pattern -/

/-- The glyphs of a part. -/
def Part.glyphs : Part → List Glyph
  | .star => [⟨'.', false⟩, ⟨'*', false⟩]
  | .any => [⟨'.', false⟩]
  | .bracket body => bracketGlyphs body
  | .char c => [glyphOf c]

/-- The roles of a part together with the expression they give. -/
def Part.reading? : Part → Option (List Role × Regex)
  | .star => some ([.dot, .star], .many .any true)
  | .any => some ([.dot], .one .any)
  | .bracket body => (bodySet? body).map fun set => ([.set set], .one set)
  | .char c => some ([roleOf c], readOne c)

/-- The expression of a part, if its set can be read. -/
def Part.regex? (part : Part) : Option Regex :=
  part.reading?.map (·.2)

/-- A part whose set, if it is one, has a proper body. -/
def Part.WellFormed : Part → Prop
  | .bracket body => IsSetBody body
  | _ => True

/-- The glyphs of a written part. -/
lemma glyphs?_write_append (part : Part) (rest : List Char) :
    glyphs? (part.write ++ rest) = (part.glyphs ++ ·) <$> glyphs? rest := by
  cases part with
  | star =>
    simp only [Part.write, Part.glyphs, List.cons_append, List.nil_append]
    rw [glyphs?_plain (by decide), glyphs?_plain (by decide)]
    cases glyphs? rest <;> simp
  | any => exact glyphs?_plain (by decide) rest
  | bracket body => exact glyphs?_writeSet_append body rest
  | char c => exact glyphs?_quote_singleton c rest

/-- The glyphs of several written parts. -/
lemma glyphs?_flatMap_write_append (parts : List Part) (rest : List Char) :
    glyphs? (parts.flatMap Part.write ++ rest) =
      (parts.flatMap Part.glyphs ++ ·) <$> glyphs? rest := by
  induction parts with
  | nil => simp
  | cons part parts ih =>
    rw [List.flatMap_cons, List.append_assoc, glyphs?_write_append, ih]
    cases glyphs? rest <;> simp

/-- The roles of a part come before those of the rest. -/
lemma roles?_part_append {part : Part} (h : part.WellFormed) (rest : List Glyph) :
    roles? none (part.glyphs ++ rest) =
      part.reading?.bind fun reading => (reading.1 ++ ·) <$> roles? none rest := by
  cases part with
  | star =>
    cases hrest : roles? none rest <;>
      simp [Part.glyphs, Part.reading?, roles?, Glyph.isPlain, Glyph.role?, hrest]
  | any =>
    cases hrest : roles? none rest <;>
      simp [Part.glyphs, Part.reading?, roles?, Glyph.isPlain, Glyph.role?, hrest]
  | bracket body =>
    rw [Part.glyphs, Part.reading?, roles?_bracketGlyphs_append h]
    cases bodySet? body <;> simp
  | char c =>
    rw [Part.glyphs, Part.reading?, List.singleton_append, roles?_glyphOf_cons]
    simp

/-- The roles of several parts, if all their sets can be read. -/
lemma roles?_parts_append {parts : List Part} (h : ∀ part ∈ parts, part.WellFormed)
    (rest : List Glyph) :
    roles? none (parts.flatMap Part.glyphs ++ rest) =
      (parts.mapM Part.reading?).bind fun readings =>
        (readings.flatMap (·.1) ++ ·) <$> roles? none rest := by
  induction parts with
  | nil => simp
  | cons part parts ih =>
    have hpart : part.WellFormed := h part (by simp)
    rw [List.flatMap_cons, List.append_assoc, roles?_part_append hpart,
      ih fun p hp => h p (by simp [hp]), List.mapM_cons]
    cases part.reading? <;> cases parts.mapM Part.reading? <;> cases roles? none rest <;> simp

/-- The roles of a part push its expression onto a group in which a dot crosses lines.  The role
after them must not be a question mark, which would make a repetition lazy. -/
lemma assemble?_part {part : Part} {reading : List Role × Regex} (h : part.reading? = some reading)
    {rest : List Role} (hrest : rest.head? ≠ some .question) (count : ℕ) (parts : List Regex)
    (outer : List Frame) :
    assemble? (reading.1 ++ rest) count ⟨none, true, parts⟩ outer =
      assemble? rest count ⟨none, true, reading.2 :: parts⟩ outer := by
  cases part with
  | star =>
    obtain rfl := Option.some.inj h
    rcases rest with _ | ⟨_ | _ | _ | _ | _ | _ | _, rest⟩ <;> first | rfl | simp at hrest
  | any =>
    obtain rfl := Option.some.inj h
    rfl
  | bracket body =>
    obtain ⟨set, -, rfl⟩ := Option.map_eq_some_iff.1 h
    rfl
  | char c =>
    obtain rfl := Option.some.inj h
    rfl

/-- No part begins with a question mark. -/
lemma head?_reading {part : Part} {reading : List Role × Regex} (h : part.reading? = some reading)
    (rest : List Role) : (reading.1 ++ rest).head? ≠ some .question := by
  cases part with
  | bracket body =>
    obtain ⟨set, -, rfl⟩ := Option.map_eq_some_iff.1 h
    simp
  | _ =>
    obtain rfl := Option.some.inj h
    simp [roleOf]

/-- The roles of several parts push their expressions. -/
lemma assemble?_parts {parts : List Part} {readings : List (List Role × Regex)}
    (h : parts.mapM Part.reading? = some readings) (rest : List Role)
    (hrest : rest.head? ≠ some .question) (count : ℕ) (pushed : List Regex) (outer : List Frame) :
    assemble? (readings.flatMap (·.1) ++ rest) count ⟨none, true, pushed⟩ outer =
      assemble? rest count ⟨none, true, (readings.map (·.2)).reverse ++ pushed⟩ outer := by
  induction parts generalizing readings pushed with
  | nil =>
    obtain rfl : readings = [] := by simpa using h.symm
    rfl
  | cons part parts ih =>
    rw [List.mapM_cons] at h
    obtain ⟨reading, hreading, h⟩ := Option.bind_eq_some_iff.1 h
    obtain ⟨later, hlater, h⟩ := Option.bind_eq_some_iff.1 h
    obtain rfl : reading :: later = readings := Option.some.inj h
    have hnext : (later.flatMap (·.1) ++ rest).head? ≠ some .question := by
      cases parts with
      | nil =>
        obtain rfl : later = [] := by simpa using hlater.symm
        simpa using hrest
      | cons next parts =>
        rw [List.mapM_cons] at hlater
        obtain ⟨first, hfirst, hlater⟩ := Option.bind_eq_some_iff.1 hlater
        obtain ⟨others, -, hlater⟩ := Option.bind_eq_some_iff.1 hlater
        obtain rfl : first :: others = later := Option.some.inj hlater
        simpa using head?_reading hfirst (others.flatMap (·.1) ++ rest)
    rw [List.flatMap_cons, List.append_assoc, assemble?_part hreading hnext, ih hlater]
    simp

/-! ## Well-formed parts -/

/-- The body of a closed bracket is a set body. -/
lemma ClosedBy.isSetBody {rest body after : List Char} (h : ClosedBy rest body after) :
    IsSetBody body := by
  obtain ⟨rfl, hlead, -⟩ := h
  constructor
  · rintro rfl
    simp [lead] at hlead
  · rintro rfl
    simp [lead] at hlead

/-- Every part of a pattern is well formed. -/
lemma wellFormed_of_mem_parts {pattern : List Char} {part : Part} (h : part ∈ parts pattern) :
    part.WellFormed := by
  rw [parts] at h
  generalize 0 = hidden at h
  fun_induction partsFrom hidden pattern with
  | case1 => simp at h
  | case2 hidden c cs ih => exact ih h
  | case5 cs body hbody _ _ ih =>
    rcases List.mem_cons.1 h with rfl | h
    · obtain ⟨after, hclosed⟩ := classBody?_eq_some_iff.1 hbody
      exact hclosed.isSetBody
    · exact ih h
  | _ =>
    rename_i ih
    rcases List.mem_cons.1 h with rfl | h
    · trivial
    · exact ih h

/-! ## The whole expression -/

/-- The roles before the parts open a group in which a dot crosses lines. -/
def groupRoles : List Role :=
  [.opening, .question, .set (.only 's'), .set (.only ':')]

/-- The glyphs of the group around the parts. -/
def groupGlyphs (parts : List Part) : List Glyph :=
  [⟨'(', false⟩, ⟨'?', false⟩, ⟨'s', false⟩, ⟨':', false⟩] ++
    (parts.flatMap Part.glyphs ++ [⟨')', false⟩])

/-- The glyphs of the whole expression: the group between its two ties. -/
lemma glyphs?_tied (parts : List Part) :
    glyphs? (['^', '(', '?', 's', ':'] ++ parts.flatMap Part.write ++ [')', '$']) =
      some (⟨'^', false⟩ :: (groupGlyphs parts ++ [⟨'$', false⟩])) := by
  have hend : glyphs? [')', '$'] = some [⟨')', false⟩, ⟨'$', false⟩] := by decide
  simp only [List.cons_append, List.nil_append]
  rw [glyphs?_plain (by decide), glyphs?_plain (by decide), glyphs?_plain (by decide),
    glyphs?_plain (by decide), glyphs?_plain (by decide), glyphs?_flatMap_write_append, hend]
  simp [groupGlyphs]

/-- The roles of the group. -/
lemma roles?_groupGlyphs {parts : List Part} (h : ∀ part ∈ parts, part.WellFormed) :
    roles? none (groupGlyphs parts) =
      (parts.mapM Part.reading?).map fun readings =>
        groupRoles ++ (readings.flatMap (·.1) ++ [.closing]) := by
  have hend : roles? none [⟨')', false⟩] = some [.closing] := by decide
  have hstart (rest : List Glyph) : roles? none
      ([⟨'(', false⟩, ⟨'?', false⟩, ⟨'s', false⟩, ⟨':', false⟩] ++ rest) =
        (groupRoles ++ ·) <$> roles? none rest := by
    cases hrest : roles? none rest <;>
      simp [roles?, Glyph.isPlain, Glyph.role?, hrest, groupRoles]
  rw [groupGlyphs, hstart, roles?_parts_append h, hend]
  cases parts.mapM Part.reading? <;> simp

/-- The group is the sequence of the expressions of its parts. -/
lemma ofGlyphs?_groupGlyphs {parts : List Part} (h : ∀ part ∈ parts, part.WellFormed) :
    ofGlyphs? (groupGlyphs parts) =
      (parts.mapM Part.reading?).map fun readings => concat [concat (readings.map (·.2))] := by
  unfold ofGlyphs?
  rw [roles?_groupGlyphs h]
  cases hreadings : parts.mapM Part.reading? with
  | none => rfl
  | some readings =>
    have hopen : assemble? (groupRoles ++ (readings.flatMap (·.1) ++ [.closing])) 0
        ⟨none, false, []⟩ [] =
          assemble? (readings.flatMap (·.1) ++ [.closing]) 0 ⟨none, true, []⟩
            [⟨none, false, []⟩] := by
      simp [groupRoles, assemble?]
    simp only [Option.map_some, Option.bind_eq_bind, Option.bind_some]
    rw [hopen, assemble?_parts hreadings _ (by simp)]
    simp [assemble?, Frame.push, Frame.close]

/-- The expressions of several parts are those of their readings. -/
lemma mapM_regex? (parts : List Part) :
    parts.mapM Part.regex? = (parts.mapM Part.reading?).map fun readings => readings.map (·.2) := by
  induction parts with
  | nil => rfl
  | cons part parts ih =>
    rw [List.mapM_cons, List.mapM_cons, ih, Part.regex?]
    cases part.reading? <;> cases parts.mapM Part.reading? <;> simp

/-- A pattern compiles to the sequence of the expressions of its parts, tied to both ends. -/
lemma compile?_eq (pattern : String) :
    compile? pattern = ((parts pattern.toList).mapM Part.regex?).map fun es =>
      ⟨true, concat [concat es], true⟩ := by
  have hopen : "^(?s:".toList = ['^', '(', '?', 's', ':'] := by decide
  have hclose : ")$".toList = [')', '$'] := by decide
  unfold compile?
  rw [hopen, hclose, expression, String.toList_ofList,
    Pattern.parse?_eq_of_tied (glyphs?_tied (parts pattern.toList)),
    ofGlyphs?_groupGlyphs fun part => wellFormed_of_mem_parts, mapM_regex?]
  simp [Option.map_map, Function.comp_def]

end Glob

end LiterateLinks
