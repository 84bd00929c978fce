import Mathlib.Tactic.Common
import LiterateLinks.Proofs.Document.Equality
import LiterateLinks.Proofs.Link.Tags
import LiterateLinks.Proofs.Marker.Pasted
import LiterateLinks.Proofs.Marker.Position

/-!
# Markers in the labels of definitions

A definition is replaced by an anchor, whose text is its label: what the marker has read, between
parentheses.  The walk that links pastes comes to this text too.  This file says when a label holds
a marker again, for all delimiters.

A marker needs a closing delimiter behind its name, and in what a marker has read this delimiter
stands only at the very start or where the annotation begins (`Regex.MarkerReading.closing_stands`).
At the start there is no room for a name in front of it.  So a marker in a label is closed in one of
two ways: at the annotation, if the delimiter begins with a comma, or with the parenthesis that the
label puts behind what was read, if the delimiter ends with one
(`MarkerShape.not_avoids_label_iff`).  A paste needs an equals sign in front of its name, which the
name of a definition does not hold, so a paste is closed in the second way only.
-/

namespace LiterateLinks

namespace MarkerText

/-- The characters of the label of a definition. -/
lemma toList_definitionLabel (t : MarkerText) :
    t.definitionLabel.toList = '(' :: (t.written.toList ++ [')']) := by
  simp [definitionLabel]

/-- The characters that a marker has read: those of its name and of its annotation. -/
lemma toList_written (t : MarkerText) :
    t.written.toList = t.name.toList ++ (t.annotation.map String.toList).getD [] := by
  cases h : t.annotation <;> simp [written, h]

end MarkerText

namespace MarkerShape

open Regex (Avoids EndsAt MarkerReading marker)

/-! ## Occurrences of a marker -/

/-- What can stand between the opening and the closing text of a marker: a name, which is not empty
and does not hold the barred character, and behind it nothing or an annotation, which begins with a
comma and stays within its line. -/
def Encloses (s : MarkerShape) (w : List Char) : Prop :=
  ∃ name note, w = name ++ note ∧ name ≠ [] ∧ s.barred ∉ name ∧
    (note = [] ∨ ∃ n, note = ',' :: n ∧ '\n' ∉ n)

variable {s : MarkerShape}

/-- Between the delimiters of a marker there is something. -/
lemma Encloses.ne_nil {w : List Char} (h : s.Encloses w) : w ≠ [] := by
  obtain ⟨name, note, rfl, hname, -⟩ := h
  simp [hname]

/-- A marker can end where the closing text follows, or an annotation and then the closing text. -/
lemma endsAt_iff {closing text : List Char} :
    EndsAt closing text ↔ ∃ note rest, text = note ++ (closing ++ rest) ∧
      (note = [] ∨ ∃ n, note = ',' :: n ∧ '\n' ∉ n) := by
  constructor
  · rintro (⟨n, w, rfl, hn, rest, rfl⟩ | ⟨rest, rfl⟩)
    · exact ⟨',' :: n, rest, rfl, .inr ⟨n, rfl, fun hmem => hn _ hmem rfl⟩⟩
    · exact ⟨[], rest, rfl, .inl rfl⟩
  · rintro ⟨note, rest, rfl, rfl | ⟨n, rfl, hn⟩⟩
    · exact .inr (List.prefix_append _ _)
    · exact .inl ⟨n, closing ++ rest, rfl, fun c hc heq => hn (heq ▸ hc), List.prefix_append _ _⟩

/-- A text holds a marker exactly when an opening text, something that it can enclose and a closing
text stand next to each other in it. -/
lemma not_avoids_iff {set : CharSet} (hset : ∀ c, set.contains c = true ↔ c ≠ s.barred)
    {text : List Char} :
    ¬Avoids (marker s.opening set s.closing) text ↔
      ∃ u w v, text = u ++ (s.opening ++ (w ++ (s.closing ++ v))) ∧ s.Encloses w := by
  constructor
  · intro h
    simp only [Avoids, not_forall, not_not] at h
    obtain ⟨found, ⟨u, v, rfl⟩, hfound⟩ := h
    have hhere : (marker s.opening set s.closing).matchHere? (found ++ v) ≠ none := fun hnone =>
      Regex.matchHere?_eq_none_iff.1 hnone found (List.prefix_append _ _) hfound
    obtain ⟨m, hm⟩ := Option.ne_none_iff_exists'.1 hhere
    obtain ⟨name, note, rest, hread, -⟩ := Regex.markerReading_of_matchHere? hm
    obtain ⟨note', rest', hend, hnote'⟩ := endsAt_iff.1 hread.ending.endsAt
    refine ⟨u, name ++ note', rest', ?_, name, note', rfl, hread.name_ne_nil, ?_, hnote'⟩
    · rw [List.append_assoc, hread.text_eq, hend]
      simp
    · intro hmem
      exact (hset _).1 (hread.name_set _ hmem) rfl
  · rintro ⟨u, w, v, rfl, name, note, rfl, hne, hbarred, hnote⟩ havoids
    have hnone : (marker s.opening set s.closing).matchHere?
        (s.opening ++ (name ++ (note ++ (s.closing ++ v)))) = none := by
      rw [Regex.matchHere?_eq_none_iff]
      rintro found ⟨after, hafter⟩
      exact havoids found ⟨u, after, by simp [← hafter]⟩
    refine Regex.matchHere?_marker_eq_none_iff.1 hnone name (note ++ (s.closing ++ v)) rfl hne ?_
      (endsAt_iff.2 ⟨note, v, rfl, hnote⟩)
    intro c hc
    exact (hset c).2 fun heq => hbarred (heq ▸ hc)

/-! ## Occurrences in a label -/

/-- A marker in the label of a definition that is closed where the annotation begins: the annotation
begins with the closing text, and an opening text stands in front of it with a name behind it. -/
def ClosedByNote (s : MarkerShape) (t : MarkerText) : Prop :=
  (∃ n, t.annotation = some n ∧ s.closing <+: n.toList) ∧
    ∃ u w, '(' :: t.name.toList = u ++ (s.opening ++ w) ∧ s.Encloses w

/-- A marker in the label of a definition that is closed with its last parenthesis: what the
definition has read ends with the rest of the closing text. -/
def ClosedByParenthesis (s : MarkerShape) (t : MarkerText) : Prop :=
  ∃ u w r, s.closing = r ++ [')'] ∧ '(' :: t.written.toList = u ++ (s.opening ++ (w ++ r)) ∧
    s.Encloses w

/-- A label holds a marker exactly when one is closed in one of the two ways. -/
lemma not_avoids_label_iff {set readSet : CharSet}
    (hset : ∀ c, set.contains c = true ↔ c ≠ s.barred) (hopening : s.opening ≠ [])
    (hclosing : s.closing ≠ []) {opening text rest : List Char} {t : MarkerText}
    (hread : MarkerReading opening readSet s.closing text t.name.toList
      (t.annotation.map String.toList) rest) :
    ¬Avoids (marker s.opening set s.closing) t.definitionLabel.toList ↔
      s.ClosedByNote t ∨ s.ClosedByParenthesis t := by
  rw [not_avoids_iff hset, MarkerText.toList_definitionLabel]
  constructor
  · rintro ⟨u, w, v, hlabel, hw⟩
    have hfront : u ++ (s.opening ++ w) ≠ [] := by simp [hopening]
    have hplace : '(' :: (t.written.toList ++ [')']) =
        (u ++ (s.opening ++ w)) ++ (s.closing ++ v) := by simpa using hlabel
    rcases parenthesized_cases hclosing hfront hplace with ⟨r, hr, hcut⟩ | ⟨x, y, hx, hinner⟩
    · exact .inr ⟨u, w, r, hr, by simpa using hcut, hw⟩
    · rw [MarkerText.toList_written] at hinner
      rcases hread.closing_stands hclosing hinner with rfl | ⟨rfl, hnote⟩
      · -- one character is too little for an opening text and a name
        have hlength := congrArg List.length hx
        have hleft := List.length_pos_iff.2 hopening
        have hname := List.length_pos_iff.2 hw.ne_nil
        simp only [List.length_append, List.length_cons, List.length_nil] at hlength
        omega
      · obtain ⟨n, hn, hchars⟩ := Option.map_eq_some_iff.1 hnote
        exact .inl ⟨⟨n, hn, hchars ▸ List.prefix_append _ _⟩, u, w, hx.symm, hw⟩
  · rintro (⟨⟨n, hn, y, hy⟩, u, w, hname, hw⟩ | ⟨u, w, r, hr, hcut, hw⟩)
    · have hwritten : t.written.toList = t.name.toList ++ (s.closing ++ y) := by
        rw [MarkerText.toList_written, hn, hy]
        rfl
      refine ⟨u, w, y ++ [')'], ?_, hw⟩
      rw [hwritten, List.append_assoc, ← List.cons_append, hname]
      simp
    · refine ⟨u, w, [], ?_, hw⟩
      rw [← List.cons_append, hcut, hr]
      simp

/-- A marker whose opening text has a character that the name does not hold is not closed at the
annotation. -/
lemma not_closedByNote {t : MarkerText} {c : Char} (hc : c ∈ s.opening)
    (hname : c ∉ '(' :: t.name.toList) : ¬s.ClosedByNote t := by
  rintro ⟨-, u, w, hcut, -⟩
  exact hname (hcut ▸ by simp [hc])

/-- A closing text that does not begin with a comma does not begin an annotation. -/
lemma not_closedByNote_of_not_comma {opening closing text rest : List Char} {set : CharSet}
    {t : MarkerText} (hread : MarkerReading opening set closing text t.name.toList
      (t.annotation.map String.toList) rest) (hclosing : s.closing ≠ [])
    (hcomma : ¬[','] <+: s.closing) : ¬s.ClosedByNote t := by
  rintro ⟨⟨n, hn, hleads⟩, -⟩
  obtain ⟨w, hw, -⟩ := hread.ending.of_some n.toList (by rw [hn]; rfl)
  obtain ⟨c, cs, hcons⟩ := List.exists_cons_of_ne_nil hclosing
  rw [hw, hcons, List.cons_prefix_cons] at hleads
  exact hcomma (by simp [hcons, hleads.1])

/-- A closing text that does not end with a parenthesis is not closed by one. -/
lemma not_closedByParenthesis {t : MarkerText} (hlast : ¬[')'] <:+ s.closing) :
    ¬s.ClosedByParenthesis t := by
  rintro ⟨u, w, r, hr, -⟩
  exact hlast (hr ▸ List.suffix_append _ _)

end MarkerShape

namespace Linker

open Node (tagsNamedIn)

/-! ## Labels in a run -/

/-- A definition of a text has been read at some place. -/
lemma exists_markerReading_of_mem_definitionsIn {r : Resolution} {text : String} {t : MarkerText}
    (ht : t ∈ r.linker.definitionsIn text) :
    ∃ s rest, Regex.MarkerReading r.delimiters.left.toList Regex.nameSet r.delimiters.right.toList s
      t.name.toList (t.annotation.map String.toList) rest := by
  obtain ⟨s, hm⟩ := exists_matchHere?_of_mem_definitionsIn ht
  exact ⟨s, Regex.map_ofMatch_eq_some_iff.1 (Option.map_eq_some_iff.2 hm)⟩

/-- Some definition is found exactly in the texts that hold one. -/
lemma definitionsIn_ne_nil_iff {r : Resolution} {text : String} :
    r.linker.definitionsIn text ≠ [] ↔ ¬Regex.Avoids r.delimiters.definition text.toList := by
  rw [← Regex.scan_hits_eq_nil_iff r.delimiters.not_accepts_definition_nil]
  exact not_congr List.map_eq_nil_iff

/-- Some paste is found exactly in the texts that hold one. -/
lemma pastesIn_ne_nil_iff {r : Resolution} {text : String} :
    r.linker.pastesIn text ≠ [] ↔ ¬Regex.Avoids r.delimiters.paste text.toList := by
  rw [← Regex.scan_hits_eq_nil_iff r.delimiters.not_accepts_paste_nil]
  exact not_congr List.map_eq_nil_iff

/-- The walk that links pastes leaves an anchor as it is exactly when its label holds no paste. -/
lemma walkPastes_anchor_eq_iff (linker : Linker) (symbols : SymbolTable) (t : MarkerText) :
    (linker.walkPastes symbols [.ofMarkup (anchor t)]).1 = [.ofMarkup (anchor t)] ↔
      linker.pastesIn t.definitionLabel = [] := by
  have hwalk : (linker.walkPastes symbols [.ofMarkup (anchor t)]).1 =
      linker.linkSegment symbols (.markup (anchor t)) := by
    rw [walkPastes_eq]
    exact List.append_nil _
  have hanchor : ([.ofMarkup (anchor t)] : List Node) = [.ofTag "a" [("name", t.name)]
      [.ofTag "span" [("class", "lpdefine")] [.text t.definitionLabel]]] := rfl
  rw [hwalk, linkSegment_markup_anchor, hanchor]
  constructor
  · intro h
    have hlabel : linker.pasteNodes symbols t.definitionLabel = [.text t.definitionLabel] := by
      simpa [Node.ofTag] using h
    have htags (name : String) :
        tagsNamedIn name (linker.pasteNodes symbols t.definitionLabel) = [] := by
      rw [hlabel]
      rfl
    exact pastesIn_eq_nil_of_tagsNamedIn_eq_nil (htags "a") (htags "span")
  · intro h
    rw [pasteNodes_of_hits_eq_nil (List.map_eq_nil_iff.1 h)]

end Linker

/-- Markers in the labels of definitions, under settings with non-empty delimiters.  The label of a
definition of any text holds a definition exactly when one is closed at the annotation or with the
parenthesis of the label, and a paste exactly when one is closed with the parenthesis.  The walk
that links pastes changes the anchor of the definition exactly in the second case.  If the closing
delimiter neither begins with a comma nor ends with a parenthesis, no label holds a marker. -/
theorem label_holds_marker_iff (r : Resolution) (hleft : r.delimiters.left ≠ "")
    (hright : r.delimiters.right ≠ "") :
    ∃ linker, Linker.ofResolution r = .ok linker ∧
      ∀ (text : String), ∀ t ∈ linker.definitionsIn text,
        let definition := r.delimiters.definitionShape
        let paste := r.delimiters.pasteShape
        (linker.definitionsIn t.definitionLabel ≠ [] ↔
          definition.ClosedByNote t ∨ definition.ClosedByParenthesis t) ∧
        (linker.pastesIn t.definitionLabel ≠ [] ↔ paste.ClosedByParenthesis t) ∧
        (∀ symbols, (linker.walkPastes symbols [.ofMarkup (Linker.anchor t)]).1 =
          [.ofMarkup (Linker.anchor t)] ↔ ¬paste.ClosedByParenthesis t) ∧
        (¬[','] <+: r.delimiters.right.toList → ¬[')'] <:+ r.delimiters.right.toList →
          linker.definitionsIn t.definitionLabel = [] ∧
            linker.pastesIn t.definitionLabel = []) := by
  refine ⟨r.linker, Resolution.ofResolution_eq_ok hleft hright, fun text t ht => ?_⟩
  intro definition paste
  have hopening : definition.opening ≠ [] := by
    simpa [definition, Delimiters.definitionShape] using hleft
  have hclosing : definition.closing ≠ [] := Delimiters.right_ne_nil hright
  obtain ⟨s, rest, hread⟩ := Linker.exists_markerReading_of_mem_definitionsIn ht
  have hdefinition : r.linker.definitionsIn t.definitionLabel ≠ [] ↔
      definition.ClosedByNote t ∨ definition.ClosedByParenthesis t :=
    Linker.definitionsIn_ne_nil_iff.trans
      (MarkerShape.not_avoids_label_iff Delimiters.contains_nameSet_iff hopening hclosing hread)
  -- the name of a definition holds no equals sign
  have hequals : '=' ∉ '(' :: t.name.toList := by
    rw [List.mem_cons, not_or]
    exact ⟨by decide, fun hmem =>
      (Delimiters.contains_nameSet_iff (d := r.delimiters) _).1 (hread.name_set _ hmem) rfl⟩
  have hnote : ¬paste.ClosedByNote t :=
    MarkerShape.not_closedByNote (List.mem_append_right _ (List.mem_singleton_self '=')) hequals
  have hpaste : r.linker.pastesIn t.definitionLabel ≠ [] ↔ paste.ClosedByParenthesis t := by
    rw [Linker.pastesIn_ne_nil_iff]
    exact (MarkerShape.not_avoids_label_iff Delimiters.contains_inLine_iff
      (List.append_ne_nil_of_left_ne_nil hopening _) hclosing hread).trans (or_iff_right hnote)
  refine ⟨hdefinition, hpaste, fun symbols => ?_, fun hcomma hlast => ?_⟩
  · rw [Linker.walkPastes_anchor_eq_iff, ← hpaste, not_not]
  · rw [← not_ne_iff, hdefinition, ← not_ne_iff, hpaste, not_or]
    exact ⟨⟨MarkerShape.not_closedByNote_of_not_comma hread hclosing hcomma,
      MarkerShape.not_closedByParenthesis hlast⟩, MarkerShape.not_closedByParenthesis hlast⟩

/-- Between the default delimiters an annotation may hold the start of a paste: the label of the
definition holds no marker.  Between parentheses the label of a definition is a definition
itself. -/
theorem label_holds_marker_iff_parentheses :
    let narrow : Resolution := { delimiters := ⟨"(", ")"⟩ }
    let noted : MarkerText := ⟨"a", some ",<<=b"⟩
    let bare : MarkerText := ⟨"a", none⟩
    (∃ linker, Linker.ofResolution {} = .ok linker ∧ noted ∈ linker.definitionsIn "<<a,<<=b>>" ∧
      linker.definitionsIn noted.definitionLabel = [] ∧
        linker.pastesIn noted.definitionLabel = []) ∧
      ∃ linker, Linker.ofResolution narrow = .ok linker ∧ bare ∈ linker.definitionsIn "(a)" ∧
        narrow.delimiters.definitionShape.ClosedByParenthesis bare := by
  intro narrow noted bare
  obtain ⟨linker, hlinker, hlabels⟩ := label_holds_marker_iff {} (by decide) (by decide)
  obtain ⟨linker', hlinker', hlabels'⟩ := label_holds_marker_iff narrow (by decide) (by decide)
  refine ⟨⟨linker, hlinker, ?_⟩, linker', hlinker', ?_⟩
  · rw [Resolution.ofResolution_eq_ok (by decide) (by decide)] at hlinker
    obtain ⟨⟩ := hlinker
    have hmem : noted ∈ ({} : Resolution).linker.definitionsIn "<<a,<<=b>>" := by decide +kernel
    obtain ⟨-, -, -, hnone⟩ := hlabels "<<a,<<=b>>" noted hmem
    exact ⟨hmem, hnone (by decide) (by decide)⟩
  · rw [Resolution.ofResolution_eq_ok (by decide) (by decide)] at hlinker'
    obtain ⟨⟩ := hlinker'
    have hmem : bare ∈ narrow.linker.definitionsIn "(a)" := by decide +kernel
    obtain ⟨hdefinition, -⟩ := hlabels' "(a)" bare hmem
    rcases hdefinition.1 (by decide +kernel) with ⟨⟨n, hn, -⟩, -⟩ | hclosed
    · cases hn
    · exact ⟨hmem, hclosed⟩

/-- A label that holds a paste: the closing delimiter of the definition is the parenthesis that the
label puts in its place, and the same run rewrites the text of the anchor. -/
theorem pastesIn_definitionLabel_ne_nil :
    let r : Resolution := { delimiters := ⟨"<", ")"⟩ }
    let t : MarkerText := ⟨"a", some ",<=b"⟩
    let document : Document := ⟨[.ofTag "p" [] [.text "<a,<=b)"]]⟩
    t ∈ r.linker.definitionsIn "<a,<=b)" ∧ r.linker.pastesIn t.definitionLabel = [⟨"b", none⟩] ∧
      (r.linker.walkDefinitions document.children).1 =
        [.ofTag "p" [] [.ofMarkup (Linker.anchor t)]] ∧
      (r.linker.link document).value.1 = ⟨[.ofTag "p" [] [.ofTag "a" [("name", "a")]
        [.ofTag "span" [("class", "lpdefine")]
          [.text "(a,", .ofMarkup (Markup.link "#b" "=b")]]]]⟩ := by
  decide +kernel

end LiterateLinks
