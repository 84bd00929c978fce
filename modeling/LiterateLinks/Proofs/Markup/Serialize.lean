import Mathlib.Tactic.Common
import LiterateLinks.Document.Serialize
import LiterateLinks.Proofs.Markup.Parts

/-!
# Rendered and serialized markup

Generated markup reaches a page in two ways: it is rendered as text, or it is turned into nodes that
are serialized with the page.  The two do not escape the same characters.  In attribute values only
rendering escapes the angle brackets, and only serializing escapes the no-break space, there and in
texts.

This is the only difference.  Where a character is written differently the two results can be told
apart at once, so they agree exactly when there is no such character.  The comparison is made by
`Parallel`: two ways of writing that agree exactly on some things, whatever is written after them.
It holds of characters and is carried from there to attributes, to the parts of markup
(`Markup.parallel_part`) and to markup.
-/

namespace LiterateLinks

/-! ## Ways of writing side by side -/

/-- Two ways of writing agree exactly on the things with the property `p`.  On all others they can
be told apart, whatever comes after. -/
def Parallel {α : Type} (f g : α → List Char) (p : α → Prop) : Prop :=
  ∀ (a : α) (u v : List Char), f a ++ u = g a ++ v ↔ p a ∧ u = v

namespace Parallel

variable {α β : Type} {f g : α → List Char} {p : α → Prop}

/-- What agrees on single things agrees on the lists of them. -/
lemma flatMap (h : Parallel f g p) :
    Parallel (List.flatMap f) (List.flatMap g) fun as => ∀ a ∈ as, p a := by
  intro as
  induction as with
  | nil => simp
  | cons a as ih =>
    intro u v
    simp only [List.flatMap_cons, List.append_assoc, h a, ih, List.forall_mem_cons, and_assoc]

/-- Writing the same characters in front and behind makes no difference. -/
lemma frame (h : Parallel f g p) (front back : β → List Char) (inner : β → α) :
    Parallel (fun b => front b ++ (f (inner b) ++ back b))
      (fun b => front b ++ (g (inner b) ++ back b))
      fun b => p (inner b) := by
  intro b u v
  simp only [List.append_assoc, List.append_cancel_left_eq, h (inner b)]

end Parallel

namespace Markup

open Document (writeTextChar writeAttributeChar)

/-- Texts that begin with different characters can be told apart, whatever comes after them. -/
lemma append_ne_append {x y : List Char} (hx : x ≠ []) (hy : y ≠ []) (hhead : x.head? ≠ y.head?)
    (u v : List Char) : x ++ u ≠ y ++ v := by
  obtain ⟨a, x, rfl⟩ := List.exists_cons_of_ne_nil hx
  obtain ⟨b, y, rfl⟩ := List.exists_cons_of_ne_nil hy
  intro h
  rw [List.cons_append, List.cons_append, List.cons.injEq] at h
  exact hhead (congrArg some h.1)

/-- A character of text is written alike unless it is a no-break space. -/
lemma parallel_textChar : Parallel writeTextChar escapeTextChar (· ≠ '\u00a0') := by
  intro c u v
  by_cases hc : c = '\u00a0'
  · -- a reference begins with an ampersand
    subst hc
    have hne := append_ne_append (x := writeTextChar '\u00a0') (y := escapeTextChar '\u00a0')
      (by decide) (by decide) (by decide) u v
    simp [hne]
  · have hsame : writeTextChar c = escapeTextChar c := by
      unfold writeTextChar escapeTextChar
      split <;> simp_all
    simp [hsame, hc]

/-- A character of an attribute value is written alike unless it is an angle bracket or a no-break
space. -/
lemma parallel_attributeChar :
    Parallel writeAttributeChar escapeAttributeChar (· ∉ ['<', '>', '\u00a0']) := by
  intro c u v
  by_cases hc : c ∈ ['<', '>', '\u00a0']
  · have hne : writeAttributeChar c ++ u ≠ escapeAttributeChar c ++ v := by
      simp only [List.mem_cons, List.not_mem_nil, or_false] at hc
      rcases hc with rfl | rfl | rfl <;>
        exact append_ne_append (by decide) (by decide) (by decide) u v
    simp [hne, hc]
  · have hsame : writeAttributeChar c = escapeAttributeChar c := by
      unfold writeAttributeChar escapeAttributeChar escapeTextChar
      split <;> simp_all
    simp [hsame, hc]

/-- A text is written alike unless it holds a no-break space. -/
lemma parallel_text :
    Parallel (List.flatMap writeTextChar) (List.flatMap escapeTextChar) ('\u00a0' ∉ ·) := by
  intro text u v
  rw [parallel_textChar.flatMap text u v]
  grind

/-- An attribute value is written alike unless it holds an angle bracket or a no-break space. -/
lemma parallel_value :
    Parallel (List.flatMap writeAttributeChar) (List.flatMap escapeAttributeChar) fun value =>
      '<' ∉ value ∧ '>' ∉ value ∧ '\u00a0' ∉ value := by
  intro value u v
  rw [parallel_attributeChar.flatMap value u v]
  grind

/-! ## Serialized parts -/

/-- The characters of an attribute as it is serialized. -/
def serializeAttribute (a : String × String) : List Char :=
  ' ' :: (a.1.toList ++ '=' :: '"' :: (a.2.toList.flatMap writeAttributeChar ++ ['"']))

/-- The characters of a part as it is serialized. -/
def Part.serialize : Part → List Char
  | .opening tag attributes =>
    '<' :: (tag.toList ++ (attributes.flatMap serializeAttribute ++ ['>']))
  | .text content => content.toList.flatMap writeTextChar
  | .closing tag => '<' :: '/' :: (tag.toList ++ ['>'])

/-- The part holds no character that is serialized differently. -/
def Part.Agrees (part : Part) : Prop :=
  (∀ value ∈ part.values, '<' ∉ value.toList ∧ '>' ∉ value.toList ∧ '\u00a0' ∉ value.toList) ∧
    ∀ text ∈ part.text?, '\u00a0' ∉ text.toList

/-- An attribute is serialized as it is rendered if its value is. -/
lemma parallel_attribute :
    Parallel serializeAttribute writeAttribute fun a =>
      '<' ∉ a.2.toList ∧ '>' ∉ a.2.toList ∧ '\u00a0' ∉ a.2.toList := by
  have h := parallel_value.frame (fun a : String × String => ' ' :: (a.1.toList ++ ['=', '"']))
    (fun _ => ['"']) fun a => a.2.toList
  simpa [Parallel, serializeAttribute, writeAttribute] using h

/-- A part is serialized as it is rendered if its text and its attribute values are. -/
lemma parallel_part : Parallel Part.serialize Part.write Part.Agrees := by
  intro part u v
  cases part with
  | opening tag attributes =>
    have hagrees : (Part.opening tag attributes).Agrees ↔ ∀ a ∈ attributes,
        '<' ∉ a.2.toList ∧ '>' ∉ a.2.toList ∧ '\u00a0' ∉ a.2.toList := by
      simp only [Part.Agrees, Part.values, List.forall_mem_map, Part.text?]
      simp
    have h := parallel_attribute.flatMap.frame (fun _ : Unit => '<' :: tag.toList) (fun _ => ['>'])
      (fun _ => attributes) () u v
    rw [hagrees]
    simpa [Part.serialize, Part.write] using h
  | text content =>
    simpa [Part.serialize, Part.write, Part.Agrees, Part.values, Part.text?] using
      parallel_text content.toList u v
  | closing tag => simp [Part.serialize, Part.write, Part.Agrees, Part.values, Part.text?]

/-! ## Serialized markup -/

open Document (Surroundings writeNode writeNodes writeAttributes writeQualifier)

/-- The elements that replacements are made of. -/
def replacementTags : List String :=
  ["a", "span", "div"]

/-- Inside the elements of replacements, tags are written and text is not raw. -/
lemma enter_replacementTag {tag : Tag} (h : tag.name ∈ replacementTags) :
    Surroundings.enter {} tag = {} := by
  have hwritten : ∀ name ∈ replacementTags,
      Document.rawTextElements.contains name = false ∧
        Document.voidElements.contains name = false := by
    decide
  obtain ⟨hraw, hvoid⟩ := hwritten tag.name h
  simp only [Surroundings.enter, hraw, hvoid, Bool.and_false, Bool.or_false]

/-- The attributes of a page element are serialized one by one. -/
lemma toList_writeAttributes (attributes : List (String × String)) :
    (writeAttributes (attributes.map fun (name, value) => { name, value })).toList =
      attributes.flatMap serializeAttribute := by
  induction attributes with
  | nil => rfl
  | cons a attributes ih =>
    simp [writeAttributes, writeQualifier, serializeAttribute, ih]

mutual

/-- Markup made of the elements of replacements is serialized part by part. -/
lemma toList_writeNode_ofMarkup :
    ∀ m : Markup, (∀ tag ∈ m.parts.filterMap Part.tag?, tag ∈ replacementTags) →
      (writeNode {} (.ofMarkup m)).toList = m.parts.flatMap Part.serialize
  | .text content, _ => by simp [Node.ofMarkup, writeNode, parts, Part.serialize]
  | .element tag attributes children, h => by
    simp only [parts, List.filterMap_cons, List.filterMap_append, Part.tag?] at h
    have hinside := toList_writeNodes_ofMarkups children fun name hname => h name (by simp [hname])
    rw [Node.ofMarkup, Node.ofTag, writeNode, enter_replacementTag (h tag (by simp))]
    simp [parts, Part.serialize, toList_writeAttributes, hinside]

/-- Siblings made of the elements of replacements are serialized part by part. -/
lemma toList_writeNodes_ofMarkups :
    ∀ ms : List Markup, (∀ tag ∈ (partsIn ms).filterMap Part.tag?, tag ∈ replacementTags) →
      (writeNodes {} (Node.ofMarkups ms)).toList = (partsIn ms).flatMap Part.serialize
  | [], _ => by simp [Node.ofMarkups, writeNodes, partsIn]
  | m :: ms, h => by
    simp only [partsIn, List.filterMap_append, List.mem_append] at h
    have hfirst := toList_writeNode_ofMarkup m fun tag htag => h tag (.inl htag)
    have hrest := toList_writeNodes_ofMarkups ms fun tag htag => h tag (.inr htag)
    simp [Node.ofMarkups, writeNodes, partsIn, hfirst, hrest]

end

/-- All parts agree exactly when no attribute value holds an angle bracket and neither a text nor an
attribute value holds a no-break space. -/
lemma forall_agrees_iff (m : Markup) :
    (∀ part ∈ m.parts, part.Agrees) ↔
      (∀ value ∈ m.attributeValues, '<' ∉ value.toList ∧ '>' ∉ value.toList) ∧
        ∀ text ∈ m.texts ++ m.attributeValues, '\u00a0' ∉ text.toList := by
  simp only [Part.Agrees, attributeValues, texts, List.mem_append, List.mem_flatMap,
    List.mem_filterMap, Option.mem_def]
  constructor
  · intro h
    refine ⟨?_, ?_⟩
    · rintro value ⟨part, hpart, hvalue⟩
      obtain ⟨hless, hgreater, -⟩ := (h part hpart).1 value hvalue
      exact ⟨hless, hgreater⟩
    · rintro text (⟨part, hpart, htext⟩ | ⟨part, hpart, hvalue⟩)
      · exact (h part hpart).2 text htext
      · exact ((h part hpart).1 text hvalue).2.2
  · rintro ⟨hbrackets, hspaces⟩ part hpart
    refine ⟨fun value hvalue => ?_, fun text htext => hspaces text (.inl ⟨part, hpart, htext⟩)⟩
    obtain ⟨hless, hgreater⟩ := hbrackets value ⟨part, hpart, hvalue⟩
    exact ⟨hless, hgreater, hspaces value (.inr ⟨part, hpart, hvalue⟩)⟩

end Markup

/-- Markup made of anchors, spans and divisions, whatever its attributes are named, is serialized
alone in a document as it is rendered exactly when no attribute value holds an angle bracket and
neither a text nor an attribute value holds a no-break space. -/
theorem serialize_ofMarkup_eq_render_iff (m : Markup)
    (hm : ∀ tag ∈ m.tags, tag ∈ ["a", "span", "div"]) :
    Document.serialize ⟨[.ofMarkup m]⟩ = m.render ↔
      (∀ value ∈ m.attributeValues, '<' ∉ value.toList ∧ '>' ∉ value.toList) ∧
        ∀ text ∈ m.texts ++ m.attributeValues, '\u00a0' ∉ text.toList := by
  have hserialized : (Document.serialize ⟨[.ofMarkup m]⟩).toList =
      m.parts.flatMap Markup.Part.serialize := by
    rw [Document.serialize, Document.writeNodes, Document.writeNodes, String.append_empty]
    exact Markup.toList_writeNode_ofMarkup m hm
  have hparallel := Markup.parallel_part.flatMap m.parts [] []
  simp only [List.append_nil, and_true] at hparallel
  rw [← Markup.forall_agrees_iff, ← hparallel, ← hserialized, ← Markup.toList_render,
    String.toList_inj]

/-- A quotation mark in an attribute value and angle brackets in a text are written alike; an angle
bracket in an attribute value is not. -/
theorem serialize_ofMarkup_eq_render_iff_brackets :
    let alike : Markup := .element "span" [("class", "\"&")]
      [.text "a<b>", .element "div" [] [.element "a" [("href", "#a")] [.text "a & b"]]]
    let different : Markup := .element "a" [("href", "#a<b>")] [.text "a<b>"]
    ((∀ tag ∈ alike.tags, tag ∈ ["a", "span", "div"]) ∧
        Document.serialize ⟨[.ofMarkup alike]⟩ = alike.render) ∧
      (∀ tag ∈ different.tags, tag ∈ ["a", "span", "div"]) ∧
        Document.serialize ⟨[.ofMarkup different]⟩ ≠ different.render := by
  intro alike different
  have halike : ∀ tag ∈ alike.tags, tag ∈ ["a", "span", "div"] := by decide
  have hdifferent : ∀ tag ∈ different.tags, tag ∈ ["a", "span", "div"] := by decide
  refine ⟨⟨halike, ?_⟩, hdifferent, ?_⟩
  · rw [serialize_ofMarkup_eq_render_iff alike halike]
    decide
  · rw [ne_eq, serialize_ofMarkup_eq_render_iff different hdifferent]
    decide

end LiterateLinks
