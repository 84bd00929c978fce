import Mathlib.Tactic.Common
import LiterateLinks.Markup.Basic

/-!
# Markup, part by part

Markup is a tree, but it is written from left to right: an opening tag, what stands inside, a
closing tag.  `Markup.parts` lists these parts in the order in which they are written, and
`Markup.toList_render` says that markup is written part by part.  After that, what is written is
studied on a list, and no proof has to go through the tree again.

The texts of the markup, its tags and its attribute values are read off its parts.
-/

namespace LiterateLinks

namespace Markup

/-- A part of markup as it is written: a tag or a text. -/
inductive Part where
  | opening (tag : String) (attributes : List (String × String))
  | text (content : String)
  | closing (tag : String)
  deriving Repr, DecidableEq

mutual

/-- The parts of markup, from left to right. -/
def parts : Markup → List Part
  | .text content => [.text content]
  | .element tag attributes children =>
    .opening tag attributes :: (partsIn children ++ [.closing tag])

/-- The parts of siblings, from left to right. -/
def partsIn : List Markup → List Part
  | [] => []
  | m :: ms => parts m ++ partsIn ms

end

/-- The parts of siblings are listed one sibling after the other. -/
lemma partsIn_eq_flatMap (ms : List Markup) : partsIn ms = ms.flatMap parts := by
  induction ms with
  | nil => rfl
  | cons m ms ih => rw [partsIn, ih, List.flatMap_cons]

/-! ## Views -/

/-- The tag of a part that opens an element. -/
def Part.tag? : Part → Option String
  | .opening tag _ => some tag
  | _ => none

/-- The content of a part that is a text. -/
def Part.text? : Part → Option String
  | .text content => some content
  | _ => none

/-- A part with a content is a text. -/
lemma Part.eq_text_of_text? {part : Part} {content : String} (h : part.text? = some content) :
    part = .text content := by
  cases part <;> simp_all [text?]

/-- The attribute values of a part. -/
def Part.values : Part → List String
  | .opening _ attributes => attributes.map (·.2)
  | _ => []

/-- The tags of the elements of the markup. -/
def tags (m : Markup) : List String :=
  m.parts.filterMap Part.tag?

/-- The texts of the markup, in order. -/
def texts (m : Markup) : List String :=
  m.parts.filterMap Part.text?

/-- The attribute values of the markup. -/
def attributeValues (m : Markup) : List String :=
  m.parts.flatMap Part.values

/-- The label that the markup shows: its first text. -/
def label (m : Markup) : String :=
  m.texts.headD ""

/-! ## Writing -/

/-- The characters of an attribute, with a space in front. -/
def writeAttribute (a : String × String) : List Char :=
  ' ' :: (a.1.toList ++ '=' :: '"' :: (a.2.toList.flatMap escapeAttributeChar ++ ['"']))

/-- The characters of a part. -/
def Part.write : Part → List Char
  | .opening tag attributes => '<' :: (tag.toList ++ (attributes.flatMap writeAttribute ++ ['>']))
  | .text content => content.toList.flatMap escapeTextChar
  | .closing tag => '<' :: '/' :: (tag.toList ++ ['>'])

/-- The attributes of a tag are written one by one. -/
lemma toList_renderAttributes (attributes : List (String × String)) :
    (renderAttributes attributes).toList = attributes.flatMap writeAttribute := by
  induction attributes with
  | nil => rfl
  | cons a attributes ih =>
    simp [renderAttributes, writeAttribute, escapeAttribute, ih]

mutual

/-- Markup is written part by part. -/
lemma toList_render : ∀ m : Markup, m.render.toList = m.parts.flatMap Part.write
  | .text content => by simp [render, parts, escapeText, Part.write]
  | .element tag attributes children => by
    simp [render, parts, Part.write, toList_renderAttributes, toList_renderAll children]

/-- Siblings are written part by part. -/
lemma toList_renderAll : ∀ ms : List Markup, (renderAll ms).toList = (partsIn ms).flatMap Part.write
  | [] => by simp [renderAll, partsIn]
  | m :: ms => by simp [renderAll, partsIn, toList_render m, toList_renderAll ms]

end

/-! ## Angle brackets

Texts and attribute values are written without angle brackets, so the only ones in written markup
are those around its tags. -/

/-- The text holds no angle bracket. -/
def Unbracketed (text : List Char) : Prop :=
  '<' ∉ text ∧ '>' ∉ text

instance (text : List Char) : Decidable (Unbracketed text) :=
  inferInstanceAs (Decidable ('<' ∉ text ∧ '>' ∉ text))

/-- A text put together from two texts holds no angle bracket if neither of them does. -/
lemma unbracketed_append_iff {u v : List Char} :
    Unbracketed (u ++ v) ↔ Unbracketed u ∧ Unbracketed v := by
  unfold Unbracketed
  rw [List.mem_append, List.mem_append, not_or, not_or]
  tauto

/-- A text written piece by piece holds no angle bracket if no piece does. -/
lemma unbracketed_flatMap {α : Type} {f : α → List Char} {as : List α}
    (h : ∀ a ∈ as, Unbracketed (f a)) : Unbracketed (as.flatMap f) := by
  unfold Unbracketed
  simp only [List.mem_flatMap, not_exists, not_and]
  exact ⟨fun a ha => (h a ha).1, fun a ha => (h a ha).2⟩

/-- A character of text is written without angle brackets. -/
lemma unbracketed_escapeTextChar (c : Char) : Unbracketed (escapeTextChar c) := by
  unfold escapeTextChar
  split
  · decide
  · decide
  · decide
  · next hless hgreater => exact ⟨by simpa using Ne.symm hless, by simpa using Ne.symm hgreater⟩

/-- A character of an attribute value is written without angle brackets. -/
lemma unbracketed_escapeAttributeChar (c : Char) : Unbracketed (escapeAttributeChar c) := by
  unfold escapeAttributeChar
  split
  · decide
  · exact unbracketed_escapeTextChar _

/-- Whether the word is made of ASCII letters and digits. -/
def isWord (word : String) : Bool :=
  !word.isEmpty && word.toList.all Char.isAlphanum

/-- A word holds no angle bracket. -/
lemma unbracketed_of_isWord {word : String} (h : isWord word = true) : Unbracketed word.toList := by
  rw [isWord, Bool.and_eq_true, List.all_eq_true] at h
  exact ⟨fun hc => absurd (h.2 _ hc) (by decide), fun hc => absurd (h.2 _ hc) (by decide)⟩

/-- Whether the tag and the attribute names of the part are words. -/
def Part.isPlain : Part → Bool
  | .opening tag attributes => isWord tag && attributes.all fun a => isWord a.1
  | .text _ => true
  | .closing tag => isWord tag

/-- A text is written without angle brackets. -/
lemma unbracketed_write_text (content : String) : Unbracketed (Part.text content).write :=
  unbracketed_flatMap fun c _ => unbracketed_escapeTextChar c

/-- An attribute whose name is a word is written without angle brackets. -/
lemma unbracketed_writeAttribute {a : String × String} (h : isWord a.1 = true) :
    Unbracketed (writeAttribute a) := by
  have hvalue : Unbracketed (a.2.toList.flatMap escapeAttributeChar) :=
    unbracketed_flatMap fun c _ => unbracketed_escapeAttributeChar c
  have hwritten : writeAttribute a =
      [' '] ++
        (a.1.toList ++ (['=', '"'] ++ (a.2.toList.flatMap escapeAttributeChar ++ ['"']))) := rfl
  simp only [hwritten, unbracketed_append_iff]
  exact ⟨by decide, unbracketed_of_isWord h, by decide, hvalue, by decide⟩

/-- A tag whose names are words is written between angle brackets, with none inside. -/
lemma Part.exists_write_eq {part : Part} (hplain : part.isPlain = true)
    (htext : part.text? = none) :
    ∃ body, body ≠ [] ∧ Unbracketed body ∧ part.write = '<' :: (body ++ ['>']) := by
  cases part with
  | text content => simp [text?] at htext
  | opening tag attributes =>
    rw [isPlain, Bool.and_eq_true, List.all_eq_true] at hplain
    obtain ⟨htag, hattributes⟩ := hplain
    refine ⟨tag.toList ++ attributes.flatMap writeAttribute, ?_, ?_, by simp [write]⟩
    · have hne : tag ≠ "" := by
        rintro rfl
        exact absurd htag (by decide)
      simp [hne]
    · rw [unbracketed_append_iff]
      exact ⟨unbracketed_of_isWord htag,
        unbracketed_flatMap fun a ha => unbracketed_writeAttribute (hattributes a ha)⟩
  | closing tag =>
    refine ⟨['/'] ++ tag.toList, by simp, ?_, by simp [write]⟩
    rw [unbracketed_append_iff]
    exact ⟨by decide, unbracketed_of_isWord hplain⟩

end Markup

end LiterateLinks
