import Mathlib.Tactic.Common
import LiterateLinks.Proofs.Link.Settled
import LiterateLinks.Proofs.Markup.Parts

/-!
# Rendered texts hold no markers

A linked text is rendered part by part: its stretches are texts, its replacements are made of texts
and of tags whose names are plain words.  Angle brackets stand only around tags, and a tag is never
empty, so no two of them open next to each other.  If the opening delimiter holds two opening angle
brackets in a row, as the default one does, a rendered text therefore holds no marker of either
shape, whatever names, annotations and locations have gone into it.
-/

namespace LiterateLinks

open Markup (Part Unbracketed)

/-! ## Two brackets in a row -/

/-- Two opening angle brackets in a row do not begin with another character. -/
lemma doubled_of_cons {c : Char} {v : List Char} (hc : c ≠ '<') (h : ['<', '<'] <:+: c :: v) :
    ['<', '<'] <:+: v := by
  rcases List.infix_cons_iff.1 h with hhere | hlater
  · rw [List.cons_prefix_cons] at hhere
    exact absurd hhere.1.symm hc
  · exact hlater

/-- Two opening angle brackets in a row are behind a text without any. -/
lemma doubled_of_append {u v : List Char} (hu : '<' ∉ u) (h : ['<', '<'] <:+: u ++ v) :
    ['<', '<'] <:+: v := by
  induction u with
  | nil => exact h
  | cons c u ih =>
    rw [List.mem_cons, not_or] at hu
    exact ih hu.2 (doubled_of_cons (Ne.symm hu.1) h)

/-- Two opening angle brackets in a row are behind a part, if its names are words. -/
lemma Markup.Part.doubled_of_write_append {part : Part} (hpart : part.isPlain = true)
    {v : List Char} (h : ['<', '<'] <:+: part.write ++ v) : ['<', '<'] <:+: v := by
  cases htext : part.text? with
  | some content =>
    obtain rfl := eq_text_of_text? htext
    exact doubled_of_append (unbracketed_write_text content).1 h
  | none =>
    obtain ⟨body, hne, hbody, hwrite⟩ := exists_write_eq hpart htext
    obtain ⟨c, body, rfl⟩ := List.exists_cons_of_ne_nil hne
    rw [hwrite, List.cons_append, List.append_assoc] at h
    have hc : c ≠ '<' := fun hc => hbody.1 (by simp [hc])
    -- the bracket in front of the tag is followed by its name
    have hinside : ['<', '<'] <:+: (c :: body) ++ (['>'] ++ v) := by
      rcases List.infix_cons_iff.1 h with hhere | hlater
      · simp [List.cons_prefix_cons, hc.symm] at hhere
      · exact hlater
    exact doubled_of_cons (by decide) (doubled_of_append hbody.1 hinside)

/-- Parts whose names are words are written without two opening angle brackets in a row. -/
lemma Markup.not_doubled_flatMap_write {parts : List Part}
    (h : ∀ part ∈ parts, part.isPlain = true) :
    ¬['<', '<'] <:+: parts.flatMap Part.write := by
  induction parts with
  | nil => simp
  | cons part parts ih =>
    rw [List.forall_mem_cons] at h
    rw [List.flatMap_cons]
    exact fun hdoubled => ih h.2 (part.doubled_of_write_append h.1 hdoubled)

/-! ## The parts of a linked text -/

/-- The parts of a segment. -/
def Segment.parts : Segment → List Part
  | .text content => [.text content]
  | .markup replacement => replacement.parts

/-- The parts of a linked text. -/
def LinkedText.parts (r : LinkedText) : List Part :=
  r.segments.flatMap Segment.parts

/-- A linked text is rendered part by part. -/
lemma LinkedText.toList_render (r : LinkedText) : r.render.toList = r.parts.flatMap Part.write := by
  have hsegment (segment : Segment) :
      (renderSegment segment).toList = segment.parts.flatMap Part.write := by
    cases segment with
    | text content => simp [renderSegment, Segment.parts, Markup.escapeText, Part.write]
    | markup replacement => exact replacement.toList_render
  rw [render, String.toList_join, List.flatMap_map, parts, List.flatMap_assoc]
  exact List.flatMap_congr fun segment _ => hsegment segment

/-! ## The parts of replacements -/

/-- The parts of a link. -/
lemma Markup.parts_link (href text : String) :
    (Markup.link href text).parts = [.opening "a" [("href", href)], .text text, .closing "a"] := by
  simp [link, parts, partsIn]

/-- The parts of an anchor. -/
lemma Linker.parts_anchor (t : MarkerText) :
    (anchor t).parts = [.opening "a" [("name", t.name)], .opening "span" [("class", "lpdefine")],
      .text t.definitionLabel, .closing "span", .closing "a"] := by
  simp [anchor, Markup.parts, Markup.partsIn]

/-- The names in replacements are words. -/
lemma Markup.isWord_of_mem :
    ∀ name ∈ ["a", "span", "div", "href", "name", "class", "id"], isWord name = true := by
  decide

/-- The names in a link are words. -/
lemma Markup.isPlain_link (href text : String) :
    ∀ part ∈ (Markup.link href text).parts, part.isPlain = true := by
  simp [parts_link, Part.isPlain, isWord_of_mem]

/-- The names in an anchor are words. -/
lemma Linker.isPlain_anchor (t : MarkerText) : ∀ part ∈ (anchor t).parts, part.isPlain = true := by
  simp [parts_anchor, Part.isPlain, Markup.isWord_of_mem]

namespace Policy

/-- The parts of a popup: its label, the caption and the parts of its links. -/
lemma parts_popup (label : String) (links : List Markup) :
    (popup label links).parts =
      [.opening "span" [("class", "popup")], .text label, .opening "div" [],
        .opening "span" [("id", "caption")], .text "Matched:", .closing "span"] ++
          (links.flatMap Markup.parts ++ [.closing "div", .closing "span"]) := by
  simp [popup, Markup.parts, Markup.partsIn, Markup.partsIn_eq_flatMap]

/-- The names in what replaces a paste are words. -/
lemma isPlain_resolve (policy : Policy) (symbols : SymbolTable) (t : MarkerText) :
    ∀ part ∈ (policy.resolve symbols t).value.parts, part.isPlain = true := by
  unfold resolve
  split
  · intro part hpart
    simp only [Logged.value_bind, Logged.value_pure, parts_popup, List.mem_append] at hpart
    rcases hpart with hfront | hlinks | hback
    · revert part
      simp [Part.isPlain, Markup.isWord_of_mem]
    · obtain ⟨link, hlink, hpart⟩ := List.mem_flatMap.1 hlinks
      obtain ⟨found, -, rfl⟩ := List.mem_map.1 hlink
      exact Markup.isPlain_link _ _ part hpart
    · revert part
      simp [Part.isPlain, Markup.isWord_of_mem]
  · exact Markup.isPlain_link _ _

end Policy

/-- The names in a linked text are words, if those in its replacements are. -/
lemma LinkedText.isPlain_ofScan {scan : Scan} {replacements : List Markup}
    (h : ∀ replacement ∈ replacements, ∀ part ∈ replacement.parts, part.isPlain = true) :
    ∀ part ∈ (ofScan scan replacements).parts, part.isPlain = true := by
  intro part hpart
  obtain ⟨segment, hsegment, hpart⟩ := List.mem_flatMap.1 hpart
  rcases mem_segments_ofScan hsegment with ⟨s, -, rfl⟩ | ⟨replacement, hreplacement, rfl⟩
  · obtain rfl : part = .text (String.ofList s) := by simpa [Segment.parts] using hpart
    rfl
  · exact h replacement hreplacement part hpart

namespace Linker

variable (linker : Linker) (symbols : SymbolTable) (text : String)

/-- The names in a text whose definitions are linked are words. -/
lemma isPlain_linkDefinitions :
    ∀ part ∈ (linker.linkDefinitions symbols text).1.parts, part.isPlain = true := by
  rw [linkDefinitions_fst]
  refine LinkedText.isPlain_ofScan fun replacement hreplacement => ?_
  obtain ⟨t, -, rfl⟩ := List.mem_map.1 hreplacement
  exact isPlain_anchor t

/-- The names in a text whose pastes are linked are words. -/
lemma isPlain_linkPastes :
    ∀ part ∈ (linker.linkPastes symbols text).value.parts, part.isPlain = true := by
  rw [linkPastes_value]
  refine LinkedText.isPlain_ofScan fun replacement hreplacement => ?_
  obtain ⟨t, -, rfl⟩ := List.mem_map.1 hreplacement
  exact Policy.isPlain_resolve _ _ t

/-- A rendered text whose names are words holds no marker, if the opening delimiter holds two
opening angle brackets in a row. -/
lemma settles_render {r : Resolution} (hleft : ['<', '<'] <:+: r.delimiters.left.toList)
    {linked : LinkedText} (h : ∀ part ∈ linked.parts, part.isPlain = true) :
    r.linker.Settles linked.render := by
  have hdoubled := Markup.not_doubled_flatMap_write h
  rw [← LinkedText.toList_render] at hdoubled
  rw [settles_linker_iff]
  exact ⟨Regex.avoids_marker_of_not_part hleft hdoubled,
    Regex.avoids_marker_of_not_part (hleft.trans (List.infix_append' [] _ _)) hdoubled⟩

/-- Linking the definitions of a settled text changes neither the text nor the table. -/
lemma linkDefinitions_eq_of_settles {linker : Linker} {text : String} (h : linker.Settles text)
    (symbols : SymbolTable) :
    linker.linkDefinitions symbols text = (⟨[.text text], 0⟩, symbols) := by
  refine Prod.ext (linkDefinitions_of_settles h symbols) ?_
  rw [linkDefinitions_snd, namesIn_of_settles h]
  split <;> rfl

end Linker

/-- If the opening delimiter holds two opening angle brackets in a row, a text that has been linked
and rendered, by definitions or by pastes and under any policy, holds no marker of either shape:
linking it again, with any table, changes nothing. -/
theorem link_render_eq_self (r : Resolution) (hleft : ['<', '<'] <:+: r.delimiters.left.toList)
    (hright : r.delimiters.right ≠ "") :
    ∃ linker, Linker.ofResolution r = .ok linker ∧ ∀ (symbols : SymbolTable) (text : String),
      ∀ html ∈ [(linker.linkDefinitions symbols text).1.render,
          (linker.linkPastes symbols text).value.render],
        ((linker.markers.definition.scan html.toList).hits = [] ∧
          (linker.markers.paste.scan html.toList).hits = []) ∧
        ∀ table : SymbolTable, linker.linkDefinitions table html = (⟨[.text html], 0⟩, table) ∧
          linker.linkPastes table html = ⟨⟨[.text html], 0⟩, []⟩ := by
  have hne : r.delimiters.left ≠ "" := by
    intro h
    rw [h] at hleft
    simp at hleft
  refine ⟨r.linker, Resolution.ofResolution_eq_ok hne hright, fun symbols text html hhtml => ?_⟩
  have hsettles : r.linker.Settles html := by
    simp only [List.mem_cons, List.not_mem_nil, or_false] at hhtml
    rcases hhtml with rfl | rfl
    · exact Linker.settles_render hleft (r.linker.isPlain_linkDefinitions symbols text)
    · exact Linker.settles_render hleft (r.linker.isPlain_linkPastes symbols text)
  exact ⟨hsettles, fun table => ⟨Linker.linkDefinitions_eq_of_settles hsettles table,
    Linker.linkPastes_of_settles hsettles table⟩⟩

/-- A command map whose only name and location are markers themselves: the popup lists the name and
leads to the location, and what is rendered holds no marker. -/
theorem link_render_eq_self_markers :
    let r : Resolution := ⟨⟨"(<<", ">"⟩, .mapped (.ofList [("(<<a>", "(<<=b>")])⟩
    let text := "(<<=*> & (<<c>"
    (['<', '<'] <:+: r.delimiters.left.toList ∧ r.delimiters.right ≠ "") ∧
      ∃ linker, Linker.ofResolution r = .ok linker ∧
        (linker.linkPastes {} text).value.substitutions = 1 ∧
        (linker.markers.definition.scan (linker.linkPastes {} text).value.render.toList).hits = [] ∧
        linker.linkPastes {} (linker.linkPastes {} text).value.render =
          ⟨⟨[.text (linker.linkPastes {} text).value.render], 0⟩, []⟩ := by
  intro r text
  have hleft : ['<', '<'] <:+: r.delimiters.left.toList := ⟨['('], [], by decide⟩
  have hright : r.delimiters.right ≠ "" := by decide
  obtain ⟨linker, hlinker, hself⟩ := link_render_eq_self r hleft hright
  obtain ⟨⟨hdefinitions, -⟩, hagain⟩ :=
    hself {} text (linker.linkPastes {} text).value.render (by simp)
  refine ⟨⟨hleft, hright⟩, linker, hlinker, ?_, hdefinitions, (hagain {}).2⟩
  rw [Resolution.ofResolution_eq_ok (by decide) hright] at hlinker
  obtain ⟨⟩ := hlinker
  decide +kernel

end LiterateLinks
