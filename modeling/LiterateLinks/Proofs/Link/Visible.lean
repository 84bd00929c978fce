import Mathlib.Tactic.Common
import LiterateLinks.Proofs.Link.InPage
import LiterateLinks.Proofs.Link.Rendered
import LiterateLinks.Proofs.Link.Segments

/-!
# The visible text of rendered texts

What a reader sees of HTML is the text between its tags, with references read as the characters they
stand for.  `visibleText` computes it in the plainest way: it deletes everything from a `<` to the
next `>` and decodes four references, once and from left to right.

Nothing that goes into a rendered text, no name, annotation or location, can add to what is seen or
take away from it.  `visibleText_flatMap_write` says that of the parts of markup their texts are
seen, just as they are, and nothing else.  So what is seen of a linked text is the text itself, with
each marker replaced by its label, and for a wildcard paste by its label, the caption and the names
it matches.
-/

namespace LiterateLinks

open Markup (Part Unbracketed)

/-! ## Deleting tags and decoding references -/

/-- The text without the stretches that run from a `<` to the next `>`. -/
def deleteTags : List Char → List Char
  | [] => []
  | c :: cs =>
    if c = '<' ∧ '>' ∈ cs then deleteTags (cs.drop (cs.idxOf '>' + 1)) else c :: deleteTags cs
  termination_by text => text.length

/-- The text with four references replaced by the characters they stand for, once and from left to
right. -/
def decodeReferences : List Char → List Char
  | '&' :: 'l' :: 't' :: ';' :: rest => '<' :: decodeReferences rest
  | '&' :: 'g' :: 't' :: ';' :: rest => '>' :: decodeReferences rest
  | '&' :: 'q' :: 'u' :: 'o' :: 't' :: ';' :: rest => '"' :: decodeReferences rest
  | '&' :: 'a' :: 'm' :: 'p' :: ';' :: rest => '&' :: decodeReferences rest
  | c :: rest => c :: decodeReferences rest
  | [] => []

/-- What is seen of HTML. -/
def visibleText (html : List Char) : List Char :=
  decodeReferences (deleteTags html)

/-- Text in front of the first tag is kept. -/
lemma deleteTags_append {u : List Char} (hu : '<' ∉ u) (v : List Char) :
    deleteTags (u ++ v) = u ++ deleteTags v := by
  induction u with
  | nil => rfl
  | cons c u ih =>
    rw [List.mem_cons, not_or] at hu
    have hc : ¬(c = '<' ∧ '>' ∈ u ++ v) := fun h => hu.1 h.1.symm
    rw [List.cons_append, deleteTags, if_neg hc, ih hu.2, List.cons_append]

/-- A tag is deleted. -/
lemma deleteTags_tag {body : List Char} (hbody : '>' ∉ body) (v : List Char) :
    deleteTags ('<' :: (body ++ '>' :: v)) = deleteTags v := by
  have hclosed : '<' = '<' ∧ '>' ∈ body ++ '>' :: v := ⟨rfl, by simp⟩
  have hrest : (body ++ '>' :: v).drop ((body ++ '>' :: v).idxOf '>' + 1) = v := by
    rw [List.idxOf_append_of_notMem hbody]
    simp
  rw [deleteTags, if_pos hclosed, hrest]

/-- A character that begins no reference is kept. -/
lemma decodeReferences_cons {c : Char} (hc : c ≠ '&') (rest : List Char) :
    decodeReferences (c :: rest) = c :: decodeReferences rest := by
  conv_lhs => unfold decodeReferences
  split <;> simp_all

/-- A written character of text is read as the character. -/
lemma decodeReferences_escapeTextChar_append (c : Char) (rest : List Char) :
    decodeReferences (Markup.escapeTextChar c ++ rest) = c :: decodeReferences rest := by
  have hampersand : "&amp;".toList = ['&', 'a', 'm', 'p', ';'] := by decide
  have hless : "&lt;".toList = ['&', 'l', 't', ';'] := by decide
  have hgreater : "&gt;".toList = ['&', 'g', 't', ';'] := by decide
  unfold Markup.escapeTextChar
  split
  · simp only [hampersand, List.cons_append, List.nil_append, decodeReferences]
  · simp only [hless, List.cons_append, List.nil_append, decodeReferences]
  · simp only [hgreater, List.cons_append, List.nil_append, decodeReferences]
  · next hc _ _ => exact decodeReferences_cons hc rest

/-- A written text is read as the text. -/
lemma decodeReferences_flatMap_append (text rest : List Char) :
    decodeReferences (text.flatMap Markup.escapeTextChar ++ rest) =
      text ++ decodeReferences rest := by
  induction text with
  | nil => rfl
  | cons c text ih =>
    rw [List.flatMap_cons, List.append_assoc, decodeReferences_escapeTextChar_append, ih,
      List.cons_append]

/-! ## What is seen of markup -/

/-- A written text is seen as it is. -/
lemma visibleText_text_append (content : String) (rest : List Char) :
    visibleText ((Part.text content).write ++ rest) = content.toList ++ visibleText rest := by
  unfold visibleText
  -- no tag begins in a written text
  rw [deleteTags_append (Markup.unbracketed_write_text content).1]
  exact decodeReferences_flatMap_append content.toList _

/-- A tag is not seen. -/
lemma visibleText_tag_append {part : Part} (hplain : part.isPlain = true)
    (htext : part.text? = none)
    (rest : List Char) : visibleText (part.write ++ rest) = visibleText rest := by
  obtain ⟨body, -, hbody, hwrite⟩ := Part.exists_write_eq hplain htext
  have hsplit : part.write ++ rest = '<' :: (body ++ '>' :: rest) := by simp [hwrite]
  rw [visibleText, hsplit, deleteTags_tag hbody.2, visibleText]

/-- Of parts whose names are words, the texts are seen and nothing else. -/
theorem visibleText_flatMap_write {parts : List Part} (h : ∀ part ∈ parts, part.isPlain = true) :
    visibleText (parts.flatMap Part.write) =
      (parts.filterMap Part.text?).flatMap String.toList := by
  induction parts with
  | nil => simp [visibleText, deleteTags, decodeReferences]
  | cons part parts ih =>
    rw [List.forall_mem_cons] at h
    rw [List.flatMap_cons]
    cases htext : part.text? with
    | some content =>
      obtain rfl := Part.eq_text_of_text? htext
      rw [visibleText_text_append, ih h.2, List.filterMap_cons_some htext, List.flatMap_cons]
    | none => rw [visibleText_tag_append h.1 htext, ih h.2, List.filterMap_cons_none htext]

/-- The characters that are seen of a segment. -/
def Segment.shown (segment : Segment) : List Char :=
  (segment.parts.filterMap Part.text?).flatMap String.toList

/-- A stretch is seen as it is. -/
lemma Segment.shown_text (content : String) : (Segment.text content).shown = content.toList := by
  simp [shown, parts, Part.text?]

/-- What is seen of a rendered text is seen of its segments. -/
lemma LinkedText.visibleText_render {r : LinkedText} (h : ∀ part ∈ r.parts, part.isPlain = true) :
    visibleText r.render.toList = r.segments.flatMap Segment.shown := by
  rw [toList_render, visibleText_flatMap_write h, parts, List.filterMap_flatMap, List.flatMap_assoc]
  rfl

/-! ## What is seen of replacements -/

/-- The text of a link. -/
lemma Markup.texts_link (href text : String) : (Markup.link href text).texts = [text] := by
  rw [texts, parts_link]
  rfl

/-- An anchor shows its definition in parentheses. -/
lemma Linker.shown_anchor (t : MarkerText) :
    (Segment.markup (anchor t)).shown = '(' :: (t.written.toList ++ [')']) := by
  have htexts : (anchor t).parts.filterMap Part.text? = [t.definitionLabel] := by
    rw [parts_anchor]
    rfl
  rw [Segment.shown, Segment.parts, htexts, List.flatMap_singleton]
  simp [MarkerText.definitionLabel]

namespace Policy

/-- The texts of a popup are its label, the caption and the texts of its links. -/
lemma texts_popup (label : String) (links : List Markup) :
    (popup label links).texts = label :: "Matched:" :: links.flatMap Markup.texts := by
  have hback : List.filterMap Part.text? [.closing "div", .closing "span"] = [] := rfl
  rw [Markup.texts, parts_popup, List.filterMap_append, List.filterMap_append, hback,
    List.append_nil, List.filterMap_flatMap]
  rfl

variable (policy : Policy) (symbols : SymbolTable)

/-- What a paste shows: its label and, for a wildcard, the caption and the known names that the
pattern matches, in their order. -/
def pasteShown (t : MarkerText) : String :=
  if t.isWildcard then
    t.pasteLabel ++ "Matched:" ++
      String.join ((policy.knownNames symbols).filter (Glob.selects t.name))
  else t.pasteLabel

/-- The names that fit a pattern are the known names that it matches. -/
lemma map_fst_fitting (pattern : String) :
    (policy.fitting symbols pattern).value.map Prod.fst =
      (policy.knownNames symbols).filter (Glob.selects pattern) := by
  unfold fitting Glob.selects
  cases Glob.compile? pattern with
  | none => simp
  | some expression => simp [Function.comp_def]

/-- The replacement of a paste shows what the paste shows. -/
lemma shown_resolve (t : MarkerText) :
    (Segment.markup (policy.resolve symbols t).value).shown =
      (policy.pasteShown symbols t).toList := by
  have hshown (m : Markup) : (Segment.markup m).shown = m.texts.flatMap String.toList := rfl
  unfold resolve pasteShown
  rw [hshown]
  split
  · have hlinks : ((policy.fitting symbols t.name).value.map fun found =>
        Markup.link found.2.href found.1).flatMap Markup.texts =
          (policy.knownNames symbols).filter (Glob.selects t.name) := by
      rw [← map_fst_fitting, List.flatMap_map, List.map_eq_flatMap]
      simp only [Markup.texts_link]
    simp only [Logged.value_bind, Logged.value_pure, texts_popup, hlinks, List.flatMap_cons,
      String.toList_append, String.toList_join, List.append_assoc]
  · simp [Markup.texts_link]

end Policy

/-- What is seen of a text that has been linked and rendered is the text itself, with every
definition replaced by its name and annotation in parentheses, or with every paste replaced by its
label and, for a wildcard, the caption and the names it matches. -/
theorem visibleText_linked (r : Resolution) (hleft : r.delimiters.left ≠ "")
    (hright : r.delimiters.right ≠ "") :
    ∃ linker, Linker.ofResolution r = .ok linker ∧ ∀ (symbols : SymbolTable) (text : String),
      let definitions := linker.markers.definition.scan text.toList
      let pastes := linker.markers.paste.scan text.toList
      (definitions.Covers r.delimiters MarkerText.written text ∧
        visibleText (linker.linkDefinitions symbols text).1.render.toList =
          definitions.replaced fun m => '(' :: ((MarkerText.ofMatch m).written.toList ++ [')'])) ∧
      pastes.Covers r.delimiters MarkerText.pasteLabel text ∧
        visibleText (linker.linkPastes symbols text).value.render.toList =
          pastes.replaced fun m => (r.policy.pasteShown symbols (MarkerText.ofMatch m)).toList := by
  refine ⟨r.linker, Resolution.ofResolution_eq_ok hleft hright, fun symbols text => ?_⟩
  refine ⟨⟨r.delimiters.covers_definition text, ?_⟩, r.delimiters.covers_paste text, ?_⟩
  · rw [LinkedText.visibleText_render (r.linker.isPlain_linkDefinitions symbols text),
      Linker.linkDefinitions_fst]
    refine Eq.trans (LinkedText.flatMap_segments_eq_replaced Segment.shown_text) ?_
    exact Scan.replaced_congr fun hit _ => Linker.shown_anchor _
  · rw [LinkedText.visibleText_render (r.linker.isPlain_linkPastes symbols text),
      Linker.linkPastes_value, LinkedText.flatMap_segments_eq_replaced Segment.shown_text]
    exact Scan.replaced_congr fun hit _ => Policy.shown_resolve _ _ _

/-- A text that holds tags and references of its own, inside markers and outside, and a table with a
name that is a tag: they are seen as they were written. -/
theorem visibleText_linked_tags :
    let r : Resolution := {}
    let text := "<i>&lt; <<x\"&amp;,n>> <<=<b>*>>"
    let symbols : SymbolTable := .ofNames ["<b>1", "2"]
    (r.delimiters.left ≠ "" ∧ r.delimiters.right ≠ "") ∧
      ∃ linker, Linker.ofResolution r = .ok linker ∧
        visibleText (linker.linkDefinitions {} text).1.render.toList =
          "<i>&lt; (x\"&amp;,n) <<=<b>*>>".toList ∧
        visibleText (linker.linkPastes symbols text).value.render.toList =
          "<i>&lt; <<x\"&amp;,n>> =<b>*Matched:<b>1".toList := by
  intro r text symbols
  have hleft : r.delimiters.left ≠ "" := by decide
  have hright : r.delimiters.right ≠ "" := by decide
  obtain ⟨linker, hlinker, hvisible⟩ := visibleText_linked r hleft hright
  refine ⟨⟨hleft, hright⟩, linker, hlinker, ?_⟩
  rw [Resolution.ofResolution_eq_ok hleft hright] at hlinker
  obtain ⟨⟩ := hlinker
  rw [(hvisible {} text).1.2, (hvisible symbols text).2.2]
  exact ⟨by decide +kernel, by decide +kernel⟩

end LiterateLinks
