import Mathlib.Data.List.Basic
import Mathlib.Data.List.Chain
import Mathlib.Tactic.Common
import LiterateLinks.Proofs.Link.OneShot
import LiterateLinks.Proofs.Marker.Clean
import LiterateLinks.Proofs.Markup.Parts

/-!
# What the segments of a linked text tell

Linking a text replaces its markers and keeps the rest.  Nothing is lost on the way: the label of
every replacement tells what stood between the delimiters, so the segments of a linked text give
back the text (`LinkedText.Faithful.joined`).  Nothing is missed either: a stretch of text between
two replacements holds no marker, because the search takes the first place where there is one.

Both facts are first stated of a scan.  `Scan.Covers` says that the matches of a scan, put back into
their places, give the text, and that each of them stands between the delimiters; the segments of a
linked text are then compared with the scan they come from.
-/

namespace LiterateLinks

/-! ## Scans and their texts -/

namespace Scan

/-- The text of a scan with every match replaced. -/
def replaced (scan : Scan) (f : Match → List Char) : List Char :=
  (scan.hits.flatMap fun hit => hit.1 ++ f hit.2) ++ scan.tail

/-- Only the matches of the scan are replaced. -/
lemma replaced_congr {scan : Scan} {f g : Match → List Char}
    (h : ∀ hit ∈ scan.hits, f hit.2 = g hit.2) : scan.replaced f = scan.replaced g := by
  unfold replaced
  rw [List.flatMap_congr fun hit hhit => by rw [h hit hhit]]

/-- The scan takes the text apart at markers: its matches, put back, give the text, and each of them
is what `inner` gives for its name and annotation, between the delimiters. -/
structure Covers (scan : Scan) (d : Delimiters) (inner : MarkerText → String)
    (text : String) : Prop where
  whole : scan.replaced Match.whole = text.toList
  framed : ∀ hit ∈ scan.hits, hit.2.whole =
    d.left.toList ++ ((inner (MarkerText.ofMatch hit.2)).toList ++ d.right.toList)

end Scan

/-- The matches of a scan, put back into their places, give the text. -/
lemma Regex.Scanned.replaced_whole {e : Regex} {text : List Char} {scan : Scan}
    (h : Regex.Scanned e text scan) : scan.replaced Match.whole = text := by
  induction h with
  | done => rfl
  | @hit before rest m scan _ _ _ ih =>
    rw [Scan.replaced] at ih ⊢
    rw [List.flatMap_cons, List.append_assoc, ih, List.append_assoc]

/-- A marker is its name and its annotation between the opening and the closing text. -/
lemma Regex.whole_of_matchHere? {opening closing text : List Char} {set : CharSet} {m : Match}
    (h : (Regex.marker opening set closing).matchHere? text = some m) :
    m.whole = opening ++ ((MarkerText.ofMatch m).written.toList ++ closing) := by
  obtain ⟨name, note, rest, -, hwhole, hname, hnote⟩ := Regex.markerReading_of_matchHere? h
  rw [hwhole, MarkerText.toList_written_ofMatch hname hnote, List.append_assoc]

namespace Delimiters

variable (d : Delimiters) (text : String)

/-- The search for definitions takes a text apart at its definitions. -/
lemma covers_definition : (d.definition.scan text.toList).Covers d MarkerText.written text := by
  have hscan := Regex.scanned_scan d.not_accepts_definition_nil text.toList
  refine ⟨hscan.replaced_whole, fun hit hhit => ?_⟩
  obtain ⟨s, hs⟩ := hscan.exists_matchHere? hit hhit
  exact Regex.whole_of_matchHere? hs

/-- The search for pastes takes a text apart at its pastes. -/
lemma covers_paste : (d.paste.scan text.toList).Covers d MarkerText.pasteLabel text := by
  have hscan := Regex.scanned_scan d.not_accepts_paste_nil text.toList
  refine ⟨hscan.replaced_whole, fun hit hhit => ?_⟩
  obtain ⟨s, hs⟩ := hscan.exists_matchHere? hit hhit
  have hwhole := Regex.whole_of_matchHere? hs
  simpa [MarkerText.pasteLabel] using hwhole

end Delimiters

/-! ## Segments and their sources -/

/-- A label without the parentheses around it. -/
def unparenthesized (label : String) : String :=
  match label.toList with
  | '(' :: inner => if inner.getLast? = some ')' then String.ofList inner.dropLast else label
  | _ => label

/-- The definition that a replacement stands for, read off its label. -/
def Delimiters.definitionOf (d : Delimiters) (replacement : Markup) : String :=
  d.left ++ unparenthesized replacement.label ++ d.right

/-- The paste that a replacement stands for, read off its label. -/
def Delimiters.pasteOf (d : Delimiters) (replacement : Markup) : String :=
  d.left ++ replacement.label ++ d.right

/-- The text that a segment stands for, if `restore` gives the marker of a replacement. -/
def Segment.source (restore : Markup → String) : Segment → String
  | .text content => content
  | .markup replacement => restore replacement

/-- One of two segments is a replacement. -/
def Segment.Alternate (a b : Segment) : Prop :=
  a.markup?.isSome ∨ b.markup?.isSome

namespace LinkedText

/-- The linked text tells all of the text it comes from.  Its segments give the text back, every
replacement is counted, a stretch is empty only if the text is, no two stretches stand side by side,
and the expression matches nowhere inside a stretch. -/
structure Faithful (r : LinkedText) (e : Regex) (restore : Markup → String)
    (text : String) : Prop where
  joined : String.join (r.segments.map (Segment.source restore)) = text
  counted : (r.segments.filterMap Segment.markup?).length = r.substitutions
  nonempty : ∀ content, .text content ∈ r.segments → content = "" → text = ""
  separated : r.segments.IsChain Segment.Alternate
  settled : ∀ content, .text content ∈ r.segments → (e.scan content.toList).hits = []

/-- Replacements with their stretches in front alternate. -/
lemma isChain_replaced_append (pairs : List ((List Char × Match) × Markup)) {last : List Segment}
    (hlast : last.IsChain Segment.Alternate) :
    List.IsChain Segment.Alternate
      ((pairs.flatMap fun pair => stretch pair.1.1 ++ [.markup pair.2]) ++ last) := by
  induction pairs with
  | nil => exact hlast
  | cons pair pairs ih =>
    rw [List.flatMap_cons, List.append_assoc, List.append_assoc, List.singleton_append]
    have hreplacement := List.isChain_cons.2
      ⟨fun _ _ => (.inl rfl : Segment.Alternate (.markup pair.2) _), ih⟩
    unfold stretch
    split
    · exact hreplacement
    · exact List.isChain_cons_cons.2 ⟨.inr rfl, hreplacement⟩

/-- Of two neighbouring segments one is a replacement. -/
lemma isChain_segments_ofScan (scan : Scan) (replacements : List Markup) :
    (ofScan scan replacements).segments.IsChain Segment.Alternate := by
  refine isChain_replaced_append _ ?_
  unfold stretch
  split
  · simp
  · split <;> simp

/-- There is a replacement for every match. -/
lemma length_map_markerTexts (scan : Scan) (replace : MarkerText → Markup) :
    ((Linker.markerTexts scan).map replace).length = scan.hits.length := by
  simp [Linker.markerTexts]

/-- What is collected from the segments, stretches being collected as they are, is the text of the
scan with what is collected from the replacements in the places of the matches. -/
lemma flatMap_segments_eq_replaced {scan : Scan} {replace : MarkerText → Markup}
    {f : Segment → List Char} (hf : ∀ content, f (.text content) = content.toList) :
    (ofScan scan ((Linker.markerTexts scan).map replace)).segments.flatMap f =
      scan.replaced fun m => f (.markup (replace (MarkerText.ofMatch m))) := by
  rw [flatMap_segments_eq (length_map_markerTexts scan replace) (hf ""), Linker.markerTexts,
    List.map_map, ← List.map_prod_left_eq_zip, List.flatMap_map]
  simp [hf, Scan.replaced]

/-- A text cut at its markers is faithful to the text, if every replacement tells its marker. -/
lemma faithful_ofScan {e : Regex} (he : ¬Regex.Accepts e []) {d : Delimiters}
    {inner : MarkerText → String} {text : String} (hscan : (e.scan text.toList).Covers d inner text)
    {replace : MarkerText → Markup} {restore : Markup → String}
    (hrestore : ∀ t, restore (replace t) = d.left ++ inner t ++ d.right) :
    (ofScan (e.scan text.toList) ((Linker.markerTexts (e.scan text.toList)).map replace)).Faithful
      e restore text where
  joined := by
    rw [← String.toList_inj, String.toList_join, List.flatMap_map,
      flatMap_segments_eq_replaced fun _ => rfl]
    refine Eq.trans (Scan.replaced_congr fun hit hhit => ?_) hscan.whole
    rw [hscan.framed hit hhit, Segment.source, hrestore]
    simp
  counted := by
    rw [filterMap_markup?_ofScan (length_map_markerTexts _ replace), length_map_markerTexts]
    rfl
  nonempty := by
    rintro content hcontent rfl
    by_cases hhits : (e.scan text.toList).hits = []
    · -- the only segment is the text
      have htail := Regex.scan_tail_of_hits_eq_nil hhits
      simpa [ofScan, hhits, htail, eq_comm] using hcontent
    · exact absurd rfl (ne_empty_of_mem_ofScan hhits (length_map_markerTexts _ replace) hcontent)
  separated := isChain_segments_ofScan _ _
  settled := by
    intro content hcontent
    rcases mem_segments_ofScan hcontent with ⟨s, hs, hsegment⟩ | ⟨replacement, -, hsegment⟩
    · obtain ⟨-, havoids⟩ := (Regex.scanned_scan he text.toList).avoids he hs
      obtain rfl : content = String.ofList s := by simpa using hsegment
      rw [Regex.scan_hits_eq_nil_iff he, String.toList_ofList]
      exact havoids
    · cases hsegment

end LinkedText

/-! ## Labels -/

/-- The parentheses around a text are taken off again. -/
lemma unparenthesized_parenthesized (text : String) :
    unparenthesized ("(" ++ text ++ ")") = text := by
  have hopening : "(".toList = ['('] := by decide
  have hclosing : ")".toList = [')'] := by decide
  rw [unparenthesized]
  simp [hopening, hclosing]

/-- The label of an anchor is that of its definition. -/
lemma Linker.label_anchor (t : MarkerText) : (anchor t).label = t.definitionLabel := rfl

/-- The label of what replaces a paste is that of the paste. -/
lemma Policy.label_resolve (policy : Policy) (symbols : SymbolTable) (t : MarkerText) :
    (policy.resolve symbols t).value.label = t.pasteLabel := by
  unfold resolve
  split <;> rfl

/-- Linking a text, by definitions or by pastes, loses nothing and misses nothing: the linked text
tells all of the text. -/
theorem faithful_linked (r : Resolution) (hleft : r.delimiters.left ≠ "")
    (hright : r.delimiters.right ≠ "") :
    ∃ linker, Linker.ofResolution r = .ok linker ∧ ∀ (symbols : SymbolTable) (text : String),
      (linker.linkDefinitions symbols text).1.Faithful linker.markers.definition
          r.delimiters.definitionOf text ∧
        (linker.linkPastes symbols text).value.Faithful linker.markers.paste
          r.delimiters.pasteOf text := by
  refine ⟨r.linker, Resolution.ofResolution_eq_ok hleft hright, fun symbols text => ⟨?_, ?_⟩⟩
  · rw [Linker.linkDefinitions_fst]
    refine LinkedText.faithful_ofScan r.delimiters.not_accepts_definition_nil
      (r.delimiters.covers_definition text) fun t => ?_
    rw [Delimiters.definitionOf, Linker.label_anchor, MarkerText.definitionLabel,
      unparenthesized_parenthesized]
  · rw [Linker.linkPastes_value]
    refine LinkedText.faithful_ofScan r.delimiters.not_accepts_paste_nil
      (r.delimiters.covers_paste text) fun t => ?_
    rw [Delimiters.pasteOf, Policy.label_resolve]

/-- A definition whose name holds the opening delimiter, right in front of a paste: each is found
once, and the segments of either pass tell the whole text. -/
theorem faithful_linked_adjacent :
    let r : Resolution := {}
    let text := "<<<<a,x>><<=b*,n>>"
    (r.delimiters.left ≠ "" ∧ r.delimiters.right ≠ "") ∧
      ∃ linker, Linker.ofResolution r = .ok linker ∧
        ((linker.linkDefinitions {} text).1.substitutions = 1 ∧
          (linker.linkDefinitions {} text).1.Faithful linker.markers.definition
            r.delimiters.definitionOf text) ∧
        (linker.linkPastes {} text).value.substitutions = 1 ∧
          (linker.linkPastes {} text).value.Faithful linker.markers.paste
            r.delimiters.pasteOf text := by
  intro r text
  have hleft : r.delimiters.left ≠ "" := by decide
  have hright : r.delimiters.right ≠ "" := by decide
  obtain ⟨linker, hlinker, hfaithful⟩ := faithful_linked r hleft hright
  refine ⟨⟨hleft, hright⟩, linker, hlinker, ?_⟩
  rw [Resolution.ofResolution_eq_ok hleft hright] at hlinker
  obtain ⟨⟩ := hlinker
  obtain ⟨hdefinitions, hpastes⟩ := hfaithful {} text
  exact ⟨⟨by decide +kernel, hdefinitions⟩, by decide +kernel, hpastes⟩

end LiterateLinks
