import Mathlib.Tactic.Common
import LiterateLinks.Proofs.Document.Serialize
import LiterateLinks.Proofs.Link.Settled

/-!
# Linked texts as they are written

With the default delimiters, a text that holds a marker is written differently once it is linked,
and the difference shows at the first marker.  The marker begins with two angle brackets, which are
written as references, or as they are where text is raw; its replacement begins with a tag, or with
the label where tags are left out.  So a document whose linked form is written as before holds no
marker: `Linker.isSettled_of_serialize_eq`.
-/

namespace LiterateLinks

namespace Document

/-! ## How replacements begin -/

/-- The text does not begin like a written marker: it begins with a tag or with a character that
begins labels. -/
inductive Unmarked : List Char → Prop where
  | tag {c : Char} {text : List Char} : c ≠ '<' → Unmarked ('<' :: c :: text)
  | definition {text : List Char} : Unmarked ('(' :: text)
  | paste {text : List Char} : Unmarked ('=' :: text)

/-- A text that does not begin like a marker is not what is written for one. -/
lemma Unmarked.ne_writeText {written : List Char} (h : Unmarked written) (around : Surroundings)
    (marker u : List Char) : writeText around ('<' :: '<' :: marker) ++ u ≠ written := by
  have hchar : writeTextChar '<' = ['&', 'l', 't', ';'] := by decide
  rintro rfl
  unfold writeText at h
  split at h
  · cases h with
    | tag hc => exact hc rfl
  · rw [List.flatMap_cons, hchar] at h
    cases h

/-- A text that begins with a character of a label does not begin like a marker. -/
lemma unmarked_writeNode_text {content : String} {c : Char} {text : List Char}
    (hcontent : content.toList = c :: text) (hc : c = '(' ∨ c = '=') (around : Surroundings)
    (v : List Char) : Unmarked ((writeNode around (.text content)).toList ++ v) := by
  have hopening : writeTextChar '(' = ['('] := by decide
  have hequals : writeTextChar '=' = ['='] := by decide
  rw [toList_writeNode_text, hcontent, writeText]
  rcases hc with rfl | rfl
  · split
    · exact .definition
    · rw [List.flatMap_cons, hopening]
      exact .definition
  · split
    · exact .paste
    · rw [List.flatMap_cons, hequals]
      exact .paste

/-- An element that begins with a label does not begin like a marker, whether its tags are written
or not. -/
lemma unmarked_writeNode_ofTag {name : String} {attributes : List (String × String)}
    {first : Node} {children : List Node} {c : Char} {cs : List Char}
    (hname : name.toList = c :: cs) (hc : c ≠ '<')
    (hfirst : ∀ around v, Unmarked ((writeNode around first).toList ++ v))
    (around : Surroundings) (v : List Char) :
    Unmarked ((writeNode around (.ofTag name attributes (first :: children))).toList ++ v) := by
  have hopening : "<".toList = ['<'] := by decide
  simp only [Node.ofTag, writeNode, writeNodes, String.toList_append, List.append_assoc]
  split
  · exact hfirst _ _
  · simp only [String.toList_append, hopening, hname, List.cons_append, List.nil_append]
    exact .tag hc

end Document

namespace Linker

open Document

/-- The tags of replacements, character by character. -/
lemma toList_tags : "a".toList = ['a'] ∧ "span".toList = ['s', 'p', 'a', 'n'] := by decide

/-- The anchor of a definition does not begin like a marker. -/
lemma unmarked_anchor (t : MarkerText) (around : Surroundings) (v : List Char) :
    Unmarked ((writeNode around (.ofMarkup (anchor t))).toList ++ v) := by
  have hlabel : t.definitionLabel.toList = '(' :: (t.written ++ ")").toList := by
    simp [MarkerText.definitionLabel]
  refine unmarked_writeNode_ofTag toList_tags.1 (by decide) ?_ around v
  refine unmarked_writeNode_ofTag toList_tags.2 (by decide) ?_
  exact unmarked_writeNode_text hlabel (.inl rfl)

/-- The replacement of a paste does not begin like a marker. -/
lemma unmarked_resolve (policy : Policy) (symbols : SymbolTable) (t : MarkerText)
    (around : Surroundings) (v : List Char) :
    Unmarked ((writeNode around (.ofMarkup (policy.resolve symbols t).value)).toList ++ v) := by
  have hlabel : t.pasteLabel.toList = '=' :: t.written.toList := by
    simp [MarkerText.pasteLabel]
  unfold Policy.resolve
  split
  · refine unmarked_writeNode_ofTag toList_tags.2 (by decide) ?_ around v
    exact unmarked_writeNode_text hlabel (.inr rfl)
  · refine unmarked_writeNode_ofTag toList_tags.1 (by decide) ?_ around v
    exact unmarked_writeNode_text hlabel (.inr rfl)

/-! ## The first marker of a text -/

/-- The segments of a linked text up to the replacement of its first marker. -/
lemma exists_segments_eq {scan : Scan} {before : List Char} {m : Match}
    {hits : List (List Char × Match)} (hhits : scan.hits = (before, m) :: hits)
    (replacement : Markup) (replacements : List Markup) :
    ∃ others, (LinkedText.ofScan scan (replacement :: replacements)).segments =
      LinkedText.stretch before ++ .markup replacement :: others := by
  simp [LinkedText.ofScan, hhits]

/-- A stretch is written as its text. -/
lemma writeNodes_stretch (around : Surroundings) (text : List Char) :
    (writeNodes around ((LinkedText.stretch text).map Segment.toNode)).toList =
      writeText around text := by
  unfold LinkedText.stretch
  split
  · next h =>
    obtain rfl : text = [] := by simpa using h
    simp [writeNodes, writeText]
  · simp [Segment.toNode, writeNodes_singleton, toList_writeNode_text]

/-- The first marker in a text, for markers that begin with two angle brackets. -/
lemma exists_first_hit {opening closing text : List Char} {set : CharSet}
    (h : ((Regex.marker ('<' :: '<' :: opening) set closing).scan text).hits ≠ []) :
    ∃ before m hits rest, text = before ++ '<' :: '<' :: rest ∧
      ((Regex.marker ('<' :: '<' :: opening) set closing).scan text).hits =
        (before, m) :: hits := by
  have hscan := Regex.scanned_scan
    (Regex.not_accepts_marker_nil ('<' :: '<' :: opening) set closing) text
  generalize (Regex.marker ('<' :: '<' :: opening) set closing).scan text = scan at h hscan ⊢
  cases hscan with
  | done => exact absurd rfl h
  | @hit before rest m scan _ hm _ =>
    obtain ⟨name, note, -, -, hwhole, -⟩ := Regex.markerReading_of_matchHere? hm
    exact ⟨before, m, scan.hits, _, by rw [hwhole]; rfl, rfl⟩

/-- The label of an anchor is kept when pastes are linked. -/
lemma linkSegment_anchor {r : Resolution} (hd : r.delimiters.Unobtrusive) {text : String}
    {t : MarkerText} (ht : t ∈ r.linker.definitionsIn text) (symbols : SymbolTable) :
    r.linker.linkSegment symbols (.markup (anchor t)) = [.ofMarkup (anchor t)] := by
  have hlabel := settles_linker_iff.2 (clean_of_mem_definitionsIn hd ht).2
  rw [linkSegment_markup_anchor, pasteNodes_of_hits_eq_nil hlabel.2]
  rfl

section AngleBrackets

variable {r : Resolution} {more : List Char}
  (hleft : r.delimiters.left.toList = '<' :: '<' :: more)

include hleft

/-- A text that is written like its replacement when its pastes are linked holds no paste. -/
lemma paste_hits_eq_nil_of_written {symbols : SymbolTable} {content : String}
    {around : Surroundings} {u v : List Char}
    (h : writeText around content.toList ++ u =
      (writeNodes around (r.linker.pasteNodes symbols content)).toList ++ v) :
    (r.linker.markers.paste.scan content.toList).hits = [] := by
  have hpaste : r.linker.markers.paste =
      Regex.marker ('<' :: '<' :: (more ++ ['='])) .inLine r.delimiters.right.toList := by
    simp [Resolution.linker, Delimiters.paste, hleft]
  by_contra hhits
  rw [hpaste] at hhits
  obtain ⟨before, m, hits, rest, htext, hfirst⟩ := exists_first_hit hhits
  rw [← hpaste] at hfirst
  rw [pasteNodes, linkPastes_value, markerTexts, hfirst, List.map_cons, List.map_cons] at h
  obtain ⟨others, hsegments⟩ := exists_segments_eq hfirst
    (r.linker.policy.resolve symbols (MarkerText.ofMatch m)).value
    ((hits.map fun hit => MarkerText.ofMatch hit.2).map fun t =>
      (r.linker.policy.resolve symbols t).value)
  rw [hsegments, htext, writeText_append, List.map_append, writeNodes_append, String.toList_append,
    writeNodes_stretch, List.append_assoc, List.append_assoc, List.append_cancel_left_eq,
    List.map_cons, writeNodes, String.toList_append, List.append_assoc] at h
  exact (unmarked_resolve _ _ _ around _).ne_writeText around rest u h

/-- The stretch before the first definition is written as it is, if the whole text is written like
its replacement. -/
lemma writeNodes_linkSegment_stretch {symbols : SymbolTable} {before u v : List Char}
    {around : Surroundings}
    (h : writeText around before ++ u = (writeNodes around
      ((LinkedText.stretch before).flatMap (r.linker.linkSegment symbols))).toList ++ v) :
    (writeNodes around
      ((LinkedText.stretch before).flatMap (r.linker.linkSegment symbols))).toList =
        writeText around before := by
  unfold LinkedText.stretch at h ⊢
  split at h
  · next hbefore =>
    obtain rfl : before = [] := by simpa using hbefore
    simp [writeNodes, writeText]
  · next hbefore =>
    rw [if_neg hbefore]
    simp only [List.flatMap_singleton, linkSegment] at h ⊢
    have hhits : (r.linker.markers.paste.scan (String.ofList before).toList).hits = [] :=
      paste_hits_eq_nil_of_written hleft (by simpa using h)
    simp [pasteNodes_of_hits_eq_nil hhits, writeNodes_singleton, toList_writeNode_text]

/-- A text that is written like its replacement holds no marker. -/
lemma settles_of_written (hd : r.delimiters.Unobtrusive) {symbols : SymbolTable} {content : String}
    {around : Surroundings} {u v : List Char}
    (h : writeText around content.toList ++ u =
      (writeNodes around (r.linker.linkedNodes symbols content)).toList ++ v) :
    r.linker.Settles content := by
  have hdefinition : r.linker.markers.definition =
      Regex.marker ('<' :: '<' :: more) Regex.nameSet r.delimiters.right.toList := by
    simp [Resolution.linker, Delimiters.definition, hleft]
  rw [linkedNodes, linkDefinitions_fst] at h
  by_cases hhits : (r.linker.markers.definition.scan content.toList).hits = []
  · rw [ofScan_of_hits_eq_nil hhits, List.flatMap_singleton, linkSegment] at h
    exact ⟨hhits, paste_hits_eq_nil_of_written hleft h⟩
  · exfalso
    rw [hdefinition] at hhits
    obtain ⟨before, m, hits, rest, htext, hfirst⟩ := exists_first_hit hhits
    rw [← hdefinition] at hfirst
    have hmem : MarkerText.ofMatch m ∈ r.linker.definitionsIn content := by
      simp [definitionsIn, markerTexts, hfirst]
    rw [definitionsIn, markerTexts, hfirst, List.map_cons, List.map_cons] at h
    obtain ⟨others, hsegments⟩ := exists_segments_eq hfirst (anchor (MarkerText.ofMatch m))
      ((hits.map fun hit => MarkerText.ofMatch hit.2).map anchor)
    rw [hsegments, List.flatMap_append, List.flatMap_cons, linkSegment_anchor hd hmem,
      writeNodes_append, writeNodes_append, writeNodes_singleton, htext, writeText_append] at h
    simp only [String.toList_append, List.append_assoc] at h
    rw [writeNodes_linkSegment_stretch hleft h, List.append_cancel_left_eq] at h
    exact (unmarked_anchor _ around _).ne_writeText around rest u h

/-- A document whose linked form is written as before holds no marker. -/
lemma isSettled_of_serialize_eq (hd : r.delimiters.Unobtrusive) {document : Document}
    (h : (r.linker.link document).value.1.serialize = document.serialize) :
    r.linker.IsSettled document.children := by
  have hdistinguishes : Distinguishes
      (r.linker.linkedNodes (r.linker.tableOf document.children)) r.linker.Settles :=
    ⟨fun text htext => linkedNodes_of_settles htext _,
      fun around text u v => settles_of_written hleft hd⟩
  rw [link_eq_linkedOnce, linkedOnce, serialize, serialize] at h
  refine (of_writeNodes_replaceTextsIn hdistinguishes document.children {} [] [] ?_).1
  rw [h]

end AngleBrackets

end Linker

end LiterateLinks
