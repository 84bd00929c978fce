import Mathlib.Tactic.Common
import LiterateLinks.Proofs.Link.OneShot
import LiterateLinks.Proofs.Marker.Clean

/-!
# Linking twice

A document is settled when none of its shown texts holds a marker.  Linking a settled document
changes nothing and reports nothing (`Linker.link_of_isSettled`), so linking is idempotent as soon
as it leaves a settled document behind.

What a run leaves behind is known from `Linker.linkedOnce`: stretches between markers, the labels of
definitions and pastes, the caption of a popup and the names listed in it.  A stretch holds no
marker because the search would have found it; the others are clean by the lemmas on labels.
-/

namespace LiterateLinks

namespace Policy

open Node (shownTexts shownTextsIn)

/-- The names that fit a pattern are known names. -/
lemma mem_knownNames_of_fitting {policy : Policy} {symbols : SymbolTable} {pattern name : String}
    {target : Target} (h : (name, target) ∈ (policy.fitting symbols pattern).value) :
    name ∈ policy.knownNames symbols := by
  unfold fitting at h
  split at h
  · simp at h
  · simp only [Logged.value_mapM, List.mem_map, List.mem_filter] at h
    obtain ⟨known, ⟨hknown, -⟩, heq⟩ := h
    obtain rfl : known = name := congrArg Prod.fst heq
    exact hknown

/-- The shown texts of a link are its label. -/
lemma shownTexts_link (href text : String) :
    shownTexts (.ofMarkup (Markup.link href text)) = [text] := by
  rfl

/-- The shown texts of a list of links are their labels. -/
lemma shownTextsIn_links (links : List (String × String)) :
    shownTextsIn (Node.ofMarkups (links.map fun link => Markup.link link.1 link.2)) =
      links.map (·.2) := by
  induction links with
  | nil => rfl
  | cons link links ih =>
    simp only [List.map_cons, Node.ofMarkups, shownTextsIn, shownTexts_link, ih]
    rfl

/-- The shown texts of a popup are its label, the caption and the texts of its links. -/
lemma shownTexts_popup (label : String) (links : List Markup) :
    shownTexts (.ofMarkup (popup label links)) =
      label :: "Matched:" :: shownTextsIn (Node.ofMarkups links) := by
  simp [popup, Node.ofMarkup, Node.ofMarkups, Node.ofTag, shownTexts, shownTextsIn,
    Linker.skippedElements]

/-- What a paste shows is its label, the caption of a popup or a known name. -/
lemma mem_shownTexts_resolve {policy : Policy} {symbols : SymbolTable} {paste : MarkerText}
    {text : String} (h : text ∈ shownTexts (.ofMarkup (policy.resolve symbols paste).value)) :
    text = paste.pasteLabel ∨ text = "Matched:" ∨ text ∈ policy.knownNames symbols := by
  unfold resolve at h
  split at h
  · have hlinks := shownTextsIn_links
      ((policy.fitting symbols paste.name).value.map fun found => (found.2.href, found.1))
    simp only [List.map_map, Function.comp_def] at hlinks
    simp only [Logged.value_bind, Logged.value_pure, shownTexts_popup, hlinks, List.mem_cons,
      List.mem_map] at h
    rcases h with hlabel | hcaption | ⟨⟨name, target⟩, hfound, rfl⟩
    · exact .inl hlabel
    · exact .inr (.inl hcaption)
    · exact .inr (.inr (mem_knownNames_of_fitting hfound))
  · simp only [Logged.value_bind, Logged.value_pure, shownTexts_link, List.mem_singleton] at h
    exact .inl h

end Policy

namespace Linker

open Node (shownTexts shownTextsIn replaceTexts replaceTextsIn)

/-! ## Settled documents -/

/-- The text holds neither a definition nor a paste. -/
def Settles (linker : Linker) (text : String) : Prop :=
  (linker.markers.definition.scan text.toList).hits = [] ∧
    (linker.markers.paste.scan text.toList).hits = []

/-- No shown text of the nodes holds a marker. -/
def IsSettled (linker : Linker) (nodes : List Node) : Prop :=
  ∀ text ∈ shownTextsIn nodes, linker.Settles text

/-- A text without a match is one segment. -/
lemma ofScan_of_hits_eq_nil {e : Regex} {text : String} (h : (e.scan text.toList).hits = [])
    (replacements : List Markup) :
    LinkedText.ofScan (e.scan text.toList) replacements = ⟨[.text text], 0⟩ := by
  have htail := Regex.scan_tail_of_hits_eq_nil h
  simp [LinkedText.ofScan, h, htail]

/-- A settled text defines no names. -/
lemma namesIn_of_settles {linker : Linker} {text : String} (h : linker.Settles text) :
    linker.namesIn text = [] := by
  simp [namesIn, definitionsIn, markerTexts, h.1]

/-- A settled text is left as it is by the definitions. -/
lemma linkDefinitions_of_settles {linker : Linker} {text : String} (h : linker.Settles text)
    (symbols : SymbolTable) : (linker.linkDefinitions symbols text).1 = ⟨[.text text], 0⟩ := by
  rw [linkDefinitions_fst]
  exact ofScan_of_hits_eq_nil h.1 _

/-- A settled text is left as it is by the pastes. -/
lemma linkPastes_of_settles {linker : Linker} {text : String} (h : linker.Settles text)
    (symbols : SymbolTable) : linker.linkPastes symbols text = ⟨⟨[.text text], 0⟩, []⟩ := by
  have hscan := ofScan_of_hits_eq_nil h.2
  simp [linkPastes, markerTexts, h.2, hscan]
  rfl

/-- A text without pastes is not changed when its pastes are linked. -/
lemma pasteNodes_of_hits_eq_nil {linker : Linker} {content : String}
    (h : (linker.markers.paste.scan content.toList).hits = []) (symbols : SymbolTable) :
    linker.pasteNodes symbols content = [.text content] := by
  rw [pasteNodes, linkPastes_value, ofScan_of_hits_eq_nil h]
  rfl

/-- Replacing the definitions of nodes without definitions changes nothing. -/
lemma replaceTextsIn_definitions {linker : Linker} {nodes : List Node}
    (h : ∀ text ∈ shownTextsIn nodes, (linker.markers.definition.scan text.toList).hits = []) :
    replaceTextsIn (fun text => (linker.linkDefinitions {} text).1.segments.map Segment.toNode)
      nodes = nodes := by
  refine Eq.trans (Node.replaceTextsIn_congr fun text htext => ?_) (Node.replaceTextsIn_text nodes)
  rw [linkDefinitions_fst, ofScan_of_hits_eq_nil (h text htext)]
  rfl

/-- A settled text is its own replacement. -/
lemma linkedNodes_of_settles {linker : Linker} {text : String} (h : linker.Settles text)
    (symbols : SymbolTable) : linker.linkedNodes symbols text = [.text text] := by
  simp [linkedNodes, linkDefinitions_of_settles h, linkSegment, pasteNodes_of_hits_eq_nil h.2]

/-- Counting texts without markers counts nothing. -/
lemma foldl_count_eq {r : String → LinkedText} (texts : List String)
    (h : ∀ text ∈ texts, (r text).isUnchanged = true) (tally : Tally) :
    texts.foldl (fun tally text => tally.count (r text)) tally = tally := by
  induction texts with
  | nil => rfl
  | cons text texts ih =>
    have hcount : tally.count (r text) = tally := by
      simp [Tally.count, h text (by simp)]
    rw [List.foldl_cons, hcount]
    exact ih fun t ht => h t (by simp [ht])

/-- The table of a settled document is empty. -/
lemma tableOf_of_isSettled {linker : Linker} {nodes : List Node} (h : linker.IsSettled nodes) :
    linker.tableOf nodes = {} := by
  have hnames : (shownTextsIn nodes).flatMap linker.namesIn = [] := by
    rw [List.flatMap_eq_nil_iff]
    exact fun text ht => namesIn_of_settles (h text ht)
  simp [tableOf, hnames]

/-- Linking a settled document changes nothing and finds nothing. -/
lemma link_of_isSettled {linker : Linker} {document : Document}
    (h : linker.IsSettled document.children) :
    linker.link document = ⟨(document, {}), [.linked linker.policy.name 0 0 0]⟩ := by
  have hdefined := replaceTextsIn_definitions fun text ht => (h text ht).1
  have hpasted : replaceTextsIn (linker.pasteNodes {}) document.children = document.children :=
    Eq.trans (Node.replaceTextsIn_congr fun text ht => pasteNodes_of_hits_eq_nil (h text ht).2 {})
      (Node.replaceTextsIn_text document.children)
  have hcountDefinitions := foldl_count_eq (r := fun text => (linker.linkDefinitions {} text).1)
    (shownTextsIn document.children)
    (fun text ht => by simp [linkDefinitions_of_settles (h text ht), LinkedText.isUnchanged]) {}
  have hcountPastes := foldl_count_eq (r := fun text => (linker.linkPastes {} text).value)
    (shownTextsIn document.children)
    (fun text ht => by simp [linkPastes_of_settles (h text ht), LinkedText.isUnchanged]) {}
  have hlog : ((shownTextsIn document.children).flatMap fun text =>
      (linker.linkPastes {} text).log) = [] := by
    rw [List.flatMap_eq_nil_iff]
    exact fun text ht => by rw [linkPastes_of_settles (h text ht)]
  simp only [link, walkDefinitions_eq, walkPastes_eq, tableOf_of_isSettled h, hdefined, hpasted,
    hcountDefinitions, hcountPastes, hlog]
  rfl

/-- Counting a text adds its markers. -/
lemma substitutions_count (tally : Tally) (r : LinkedText) :
    (tally.count r).substitutions = tally.substitutions + r.substitutions := by
  unfold Tally.count LinkedText.isUnchanged
  split <;> simp_all

/-- If no markers are counted, no text holds one. -/
lemma substitutions_eq_zero_of_foldl_count {r : String → LinkedText} {texts : List String}
    {tally : Tally}
    (h : (texts.foldl (fun tally text => tally.count (r text)) tally).substitutions = 0) :
    tally.substitutions = 0 ∧ ∀ text ∈ texts, (r text).substitutions = 0 := by
  induction texts generalizing tally with
  | nil => exact ⟨h, by simp⟩
  | cons text texts ih =>
    rw [List.foldl_cons] at h
    obtain ⟨hcount, hrest⟩ := ih h
    rw [substitutions_count] at hcount
    refine ⟨by omega, ?_⟩
    rw [List.forall_mem_cons]
    exact ⟨by omega, hrest⟩

/-- A run that counts no markers was made on a settled document. -/
lemma isSettled_of_report {linker : Linker} {document : Document}
    (hdefinitions : (linker.link document).value.2.definitions = 0)
    (hpastes : (linker.link document).value.2.pastes = 0) :
    linker.IsSettled document.children := by
  simp only [link, walkDefinitions_eq, walkPastes_eq] at hdefinitions hpastes
  have hdefined : ∀ text ∈ shownTextsIn document.children,
      (linker.markers.definition.scan text.toList).hits = [] := by
    intro text htext
    have hzero := (substitutions_eq_zero_of_foldl_count hdefinitions).2 text htext
    rw [linkDefinitions_fst] at hzero
    exact List.length_eq_zero_iff.1 hzero
  -- without definitions the second walk meets the texts of the document itself
  rw [replaceTextsIn_definitions hdefined] at hpastes
  intro text htext
  have hzero := (substitutions_eq_zero_of_foldl_count hpastes).2 text htext
  rw [linkPastes_value] at hzero
  exact ⟨hdefined text htext, List.length_eq_zero_iff.1 hzero⟩

/-! ## What a run leaves behind -/

variable {r : Resolution}

/-- A text is settled exactly when it is clean. -/
lemma settles_linker_iff {text : String} :
    r.linker.Settles text ↔ r.delimiters.Clean text.toList :=
  and_congr (Regex.scan_hits_eq_nil_iff r.delimiters.not_accepts_definition_nil)
    (Regex.scan_hits_eq_nil_iff r.delimiters.not_accepts_paste_nil)

/-- A definition of a text is read from the match at some place. -/
lemma exists_matchHere?_of_mem_definitionsIn {text : String} {t : MarkerText}
    (ht : t ∈ r.linker.definitionsIn text) :
    ∃ s m, r.delimiters.definition.matchHere? s = some m ∧ MarkerText.ofMatch m = t := by
  obtain ⟨hit, hhit, rfl⟩ := List.mem_map.1 ht
  obtain ⟨s, hs⟩ := (Regex.scanned_scan r.delimiters.not_accepts_definition_nil
    text.toList).exists_matchHere? hit hhit
  exact ⟨s, hit.2, hs, rfl⟩

/-- The names and labels of the definitions in a text are clean. -/
lemma clean_of_mem_definitionsIn (hd : r.delimiters.Unobtrusive) {text : String} {t : MarkerText}
    (ht : t ∈ r.linker.definitionsIn text) :
    r.delimiters.Clean t.name.toList ∧ r.delimiters.Clean t.definitionLabel.toList := by
  obtain ⟨s, m, hm, rfl⟩ := exists_matchHere?_of_mem_definitionsIn ht
  obtain ⟨hname, hlabel, -⟩ := hd.clean_of_matchHere? hm
  exact ⟨hname, hlabel⟩

/-- What is left of a text without definitions when its pastes are replaced is clean, if the names
that popups list are. -/
lemma clean_of_mem_pasteNodes (hd : r.delimiters.Unobtrusive) {symbols : SymbolTable}
    (hnames : ∀ name ∈ r.policy.knownNames symbols, r.delimiters.Clean name.toList)
    {content text : String} (hcontent : Regex.Avoids r.delimiters.definition content.toList)
    (ht : text ∈ shownTextsIn (r.linker.pasteNodes symbols content)) :
    r.delimiters.Clean text.toList := by
  have hscan := Regex.scanned_scan r.delimiters.not_accepts_paste_nil content.toList
  rw [pasteNodes, linkPastes_value, Node.mem_shownTextsIn] at ht
  obtain ⟨n, hn, htext⟩ := ht
  obtain ⟨segment, hsegment, rfl⟩ := List.mem_map.1 hn
  rcases LinkedText.mem_segments_ofScan hsegment with ⟨s, hs, rfl⟩ | ⟨replacement, hmem, rfl⟩
  · -- a stretch of the text, between pastes
    obtain ⟨hpart, havoids⟩ := hscan.avoids r.delimiters.not_accepts_paste_nil hs
    obtain rfl : text = String.ofList s := by simpa [Segment.toNode, shownTexts] using htext
    rw [String.toList_ofList]
    exact ⟨hcontent.of_part hpart, havoids⟩
  · -- the replacement of a paste
    obtain ⟨paste, hpaste, rfl⟩ := List.mem_map.1 hmem
    obtain ⟨hit, hhit, rfl⟩ := List.mem_map.1 hpaste
    obtain ⟨s, hs⟩ := hscan.exists_matchHere? hit hhit
    rcases Policy.mem_shownTexts_resolve htext with rfl | rfl | hknown
    · exact (hd.clean_of_matchHere? hs).2.2
    · exact hd.clean_caption
    · exact hnames text hknown

/-- The only shown text of an anchor is its label. -/
lemma shownTexts_anchor (t : MarkerText) :
    shownTexts (.ofMarkup (anchor t)) = [t.definitionLabel] := by
  rfl

/-- What takes the place of a text when its definitions and pastes are linked is clean, if the names
that popups list are. -/
lemma clean_of_mem_linkedNodes (hd : r.delimiters.Unobtrusive) {symbols : SymbolTable}
    (hnames : ∀ name ∈ r.policy.knownNames symbols, r.delimiters.Clean name.toList)
    {content text : String} (ht : text ∈ shownTextsIn (r.linker.linkedNodes symbols content)) :
    r.delimiters.Clean text.toList := by
  have hscan := Regex.scanned_scan r.delimiters.not_accepts_definition_nil content.toList
  rw [linkedNodes, linkDefinitions_fst, Node.mem_shownTextsIn] at ht
  obtain ⟨n, hn, htext⟩ := ht
  obtain ⟨segment, hsegment, hnode⟩ := List.mem_flatMap.1 hn
  have hshown : text ∈ shownTextsIn (r.linker.linkSegment symbols segment) :=
    Node.mem_shownTextsIn.2 ⟨n, hnode, htext⟩
  rcases LinkedText.mem_segments_ofScan hsegment with ⟨s, hs, rfl⟩ | ⟨replacement, hmem, rfl⟩
  · obtain ⟨-, havoids⟩ := hscan.avoids r.delimiters.not_accepts_definition_nil hs
    exact clean_of_mem_pasteNodes hd hnames (by simpa using havoids) hshown
  · obtain ⟨t, ht, rfl⟩ := List.mem_map.1 hmem
    have hlabel := (clean_of_mem_definitionsIn hd ht).2
    rw [linkSegment, Node.shownTextsIn_replaceTexts, shownTexts_anchor, List.flatMap_singleton]
      at hshown
    exact clean_of_mem_pasteNodes hd hnames hlabel.1 hshown

/-- The names that popups of a document list are clean, if those of its command map are. -/
lemma clean_of_mem_knownNames (hd : r.delimiters.Unobtrusive)
    (hcommands : ∀ commands, r.policy = .mapped commands →
      ∀ name ∈ commands.names, r.delimiters.Clean name.toList)
    (nodes : List Node) :
    ∀ name ∈ r.policy.knownNames (r.linker.tableOf nodes), r.delimiters.Clean name.toList := by
  intro name hname
  cases hpolicy : r.policy with
  | mapped commands =>
    rw [hpolicy] at hname
    exact hcommands commands hpolicy name hname
  | inPage =>
    have hcollects : r.linker.policy.collects = true := by
      simp [Resolution.linker, hpolicy, Policy.collects]
    rw [hpolicy, Policy.knownNames, tableOf, if_pos hcollects, SymbolTable.names_ofNames,
      List.mem_eraseDups, List.mem_flatMap] at hname
    obtain ⟨text, -, hname⟩ := hname
    obtain ⟨t, ht, rfl⟩ := List.mem_map.1 hname
    exact (clean_of_mem_definitionsIn hd ht).1

/-- A run leaves a settled document behind. -/
lemma isSettled_link (hd : r.delimiters.Unobtrusive)
    (hcommands : ∀ commands, r.policy = .mapped commands →
      ∀ name ∈ commands.names, r.delimiters.Clean name.toList)
    (document : Document) :
    r.linker.IsSettled (r.linker.link document).value.1.children := by
  intro text htext
  rw [link_eq_linkedOnce, linkedOnce, Node.shownTextsIn_replaceTextsIn, List.mem_flatMap] at htext
  obtain ⟨content, -, hshown⟩ := htext
  rw [settles_linker_iff]
  exact clean_of_mem_linkedNodes hd (clean_of_mem_knownNames hd hcommands _) hshown

end Linker

/-- Linking is idempotent for unobtrusive delimiters, if no name of the command map holds a marker:
the second run changes nothing and counts nothing. -/
theorem link_link (r : Resolution) (hd : r.delimiters.Unobtrusive)
    (hcommands : ∀ commands, r.policy = .mapped commands →
      ∀ name ∈ commands.names, r.delimiters.Clean name.toList) :
    Linker.ofResolution r = .ok r.linker ∧ ∀ document : Document,
      (r.linker.link (r.linker.link document).value.1).value =
        ((r.linker.link document).value.1,
          { definitions := 0, pastes := 0, chunks := 0, nodesChanged := 0 }) := by
  refine ⟨Resolution.ofResolution_eq_ok hd.left_ne hd.right_ne, fun document => ?_⟩
  rw [Linker.link_of_isSettled (Linker.isSettled_link hd hcommands document)]

/-- Double brackets with a command map that knows one fragment: the delimiters are unobtrusive, the
name is clean, and linking any document a second time changes nothing. -/
theorem link_link_brackets :
    let r : Resolution := ⟨⟨"[[", "]]"⟩, .mapped (.ofList [("part.0", "part.html")])⟩
    r.delimiters.Unobtrusive ∧ r.delimiters.Clean "part.0".toList ∧
      Linker.ofResolution r = .ok r.linker ∧ ∀ document : Document,
        (r.linker.link (r.linker.link document).value.1).value =
          ((r.linker.link document).value.1,
            { definitions := 0, pastes := 0, chunks := 0, nodesChanged := 0 }) := by
  intro r
  have hd : r.delimiters.Unobtrusive := by decide
  have hclean : r.delimiters.Clean "part.0".toList := by
    have hopening : '[' ∈ r.delimiters.left.toList := by decide
    have htext : '[' ∉ "part.0".toList := by decide
    exact ⟨Regex.avoids_marker_of_not_mem hopening htext,
      Regex.avoids_marker_of_not_mem (List.mem_append_left _ hopening) htext⟩
  refine ⟨hd, hclean, link_link r hd ?_⟩
  rintro commands ⟨⟩ name hname
  obtain rfl : name = "part.0" := by
    rwa [CommandMap.names, CommandMap.entries_ofList_of_nodup (by decide), List.map_singleton,
      List.mem_singleton] at hname
  exact hclean

end LiterateLinks
