import Mathlib.Data.List.Basic
import LiterateLinks.Link.Document
import LiterateLinks.Proofs.Regex.Search

/-!
# The segments of a linked text

Linking a text gives a list of segments: the stretches between its markers and the replacements of
the markers.  What is collected from the segments is collected from these, in their order
(`LinkedText.flatMap_segments_eq`).

A walk turns segments into nodes in two ways: a text without markers is kept as it is, and the
segments of any other text become nodes with the empty stretches left out.  For the texts that
linking produces the two ways are one, because a stretch beside a replacement is never empty: every
text is replaced by its segments, one node for each (`Linker.nodes_ofScan`).

Pastes are linked with a log.  What they are replaced by does not depend on it
(`Linker.linkPastes_value`).
-/

namespace LiterateLinks

namespace Logged

/-- The value of a pure computation. -/
@[simp] lemma value_pure {α : Type} (a : α) : (pure a : Logged α).value = a := rfl

/-- The value of two computations in a row. -/
@[simp] lemma value_bind {α β : Type} (x : Logged α) (f : α → Logged β) :
    (x >>= f).value = (f x.value).value := rfl

/-- The value of a computation whose result is passed on to a function. -/
@[simp] lemma value_map {α β : Type} (f : α → β) (x : Logged α) : (f <$> x).value = f x.value := rfl

/-- Putting logs in order obeys the monad laws. -/
instance : LawfulMonad Logged :=
  LawfulMonad.mk' Logged
    (fun x => by
      cases x
      simp [Functor.map, andThen])
    (fun a f => by simp [pure, bind, andThen])
    (fun x f g => by simp [bind, andThen])

/-- The values of a list of computations are computed one by one. -/
@[simp] lemma value_mapM {α β : Type} (f : α → Logged β) (xs : List α) :
    (xs.mapM f).value = xs.map fun x => (f x).value := by
  induction xs with
  | nil => simp
  | cons x xs ih => simp [List.mapM_cons, ih]

end Logged

/-- The node of a segment. -/
def Segment.toNode : Segment → Node
  | .text content => .text content
  | .markup replacement => .ofMarkup replacement

/-- The replacement of a segment, if it is one. -/
def Segment.markup? : Segment → Option Markup
  | .text _ => none
  | .markup replacement => some replacement

namespace LinkedText

/-- Without empty stretches, every segment leaves a node. -/
lemma nodesOf_eq_map {r : LinkedText} (h : ∀ content, .text content ∈ r.segments → content ≠ "") :
    Linker.nodesOf r = r.segments.map Segment.toNode := by
  unfold Linker.nodesOf
  rw [List.filterMap_eq_map_iff_forall_eq_some]
  intro segment hsegment
  cases segment with
  | text content => simp [h content hsegment, Segment.toNode]
  | markup replacement => rfl

/-- A stretch is never empty. -/
lemma ne_empty_of_mem_stretch {text : List Char} {content : String}
    (h : .text content ∈ stretch text) : content ≠ "" := by
  unfold stretch at h
  by_cases ht : text.isEmpty = true
  · simp [ht] at h
  · have hcontent : content = String.ofList text := by simpa [ht] using h
    rw [hcontent]
    simpa using ht

/-- The replacements of a scan with their stretches; every one of them leaves a segment. -/
lemma ofScan_eq {scan : Scan} {replacements : List Markup} (hhits : scan.hits ≠ [])
    (hlen : replacements.length = scan.hits.length) :
    ofScan scan replacements =
      ⟨((scan.hits.zip replacements).flatMap fun (hit, replacement) =>
          stretch hit.1 ++ [.markup replacement]) ++ stretch scan.tail, scan.hits.length⟩ := by
  obtain ⟨hit, hits, hcons⟩ := List.exists_cons_of_ne_nil hhits
  cases replacements with
  | nil => simp [hcons] at hlen
  | cons replacement replacements => simp [ofScan, hcons]

/-- Beside a replacement there is no empty text. -/
lemma ne_empty_of_mem_ofScan {scan : Scan} {replacements : List Markup} (hhits : scan.hits ≠ [])
    (hlen : replacements.length = scan.hits.length) {content : String}
    (h : .text content ∈ (ofScan scan replacements).segments) : content ≠ "" := by
  rw [ofScan_eq hhits hlen, List.mem_append, List.mem_flatMap] at h
  rcases h with ⟨⟨hit, replacement⟩, -, hmem⟩ | htail
  · have hstretch : .text content ∈ stretch hit.1 := by simpa using hmem
    exact ne_empty_of_mem_stretch hstretch
  · exact ne_empty_of_mem_stretch htail

/-- The segments of a linked text are its stretches and the replacements of its markers. -/
lemma mem_segments_ofScan {scan : Scan} {replacements : List Markup} {segment : Segment}
    (h : segment ∈ (ofScan scan replacements).segments) :
    (∃ s, (s = scan.tail ∨ ∃ hit ∈ scan.hits, s = hit.1) ∧ segment = .text (String.ofList s)) ∨
      ∃ replacement ∈ replacements, segment = .markup replacement := by
  have hstretch {s : List Char} (hs : segment ∈ stretch s) : segment = .text (String.ofList s) := by
    unfold stretch at hs
    split at hs
    · simp at hs
    · simpa using hs
  simp only [ofScan, List.mem_append, List.mem_flatMap] at h
  rcases h with ⟨⟨hit, replacement⟩, hzip, hmem⟩ | hlast
  · obtain ⟨hhit, hreplacement⟩ := List.of_mem_zip hzip
    rcases hmem with hs | hs
    · exact .inl ⟨hit.1, .inr ⟨hit, hhit, rfl⟩, hstretch hs⟩
    · exact .inr ⟨replacement, hreplacement, by simpa using hs⟩
  · refine .inl ⟨scan.tail, .inl rfl, ?_⟩
    split at hlast
    · simpa using hlast
    · exact hstretch hlast

/-- What is collected from the segments of a linked text, if the empty text gives nothing: from each
replacement behind the text in front of it, and from the text at the end. -/
lemma flatMap_segments_eq {β : Type} {scan : Scan} {replacements : List Markup}
    (hlen : replacements.length = scan.hits.length) {f : Segment → List β}
    (hf : f (.text "") = []) :
    (ofScan scan replacements).segments.flatMap f =
      ((scan.hits.zip replacements).flatMap fun pair =>
        f (.text (String.ofList pair.1.1)) ++ f (.markup pair.2)) ++
          f (.text (String.ofList scan.tail)) := by
  have hstretch (s : List Char) : (stretch s).flatMap f = f (.text (String.ofList s)) := by
    unfold stretch
    split
    · next hs =>
      obtain rfl : s = [] := by simpa using hs
      exact hf.symm
    · simp
  by_cases hhits : scan.hits = []
  · simp [ofScan, hhits]
  · rw [ofScan_eq hhits hlen]
    simp only [List.flatMap_append, List.flatMap_assoc, hstretch, List.flatMap_singleton]

/-- What is collected from the replacements of a linked text alone is collected in their order. -/
lemma flatMap_segments_ofScan {β : Type} {scan : Scan} {replacements : List Markup}
    (hlen : replacements.length = scan.hits.length) {f : Segment → List β}
    (hf : ∀ content, f (.text content) = []) :
    (ofScan scan replacements).segments.flatMap f =
      replacements.flatMap fun replacement => f (.markup replacement) := by
  have hzip : (scan.hits.zip replacements).map Prod.snd = replacements :=
    List.map_snd_zip (Nat.le_of_eq hlen)
  rw [flatMap_segments_eq hlen (hf "")]
  simp only [hf, List.nil_append, List.append_nil]
  conv_rhs => rw [← hzip, List.flatMap_map]

/-- The replacements among the segments are all the replacements. -/
lemma filterMap_markup?_ofScan {scan : Scan} {replacements : List Markup}
    (hlen : replacements.length = scan.hits.length) :
    (ofScan scan replacements).segments.filterMap Segment.markup? = replacements := by
  rw [List.filterMap_eq_flatMap_toList, flatMap_segments_ofScan hlen fun _ => rfl]
  simp [Segment.markup?]

/-- Every replacement is a segment. -/
lemma markup_mem_segments_ofScan {scan : Scan} {replacements : List Markup}
    (hlen : replacements.length = scan.hits.length) {replacement : Markup}
    (h : replacement ∈ replacements) :
    .markup replacement ∈ (ofScan scan replacements).segments := by
  rw [← filterMap_markup?_ofScan hlen] at h
  obtain ⟨segment, hsegment, hmem⟩ := List.mem_filterMap.1 h
  cases segment with
  | text content => simp [Segment.markup?] at hmem
  | markup m =>
    obtain rfl : m = replacement := by simpa [Segment.markup?] using hmem
    exact hsegment

end LinkedText

namespace Linker

/-- A text whose markers are replaced is replaced, as a node, by its segments. -/
lemma nodes_ofScan {e : Regex} {content : String} {replacements : List Markup}
    (hlen : replacements.length = (e.scan content.toList).hits.length) :
    let r := LinkedText.ofScan (e.scan content.toList) replacements
    (if r.isUnchanged then [.text content] else nodesOf r) = r.segments.map Segment.toNode := by
  intro r
  by_cases hhits : (e.scan content.toList).hits = []
  · have htail := Regex.scan_tail_of_hits_eq_nil hhits
    simp [r, LinkedText.ofScan, LinkedText.isUnchanged, hhits, htail, Segment.toNode]
  · have hchanged : r.isUnchanged = false := by
      simp [r, LinkedText.ofScan, LinkedText.isUnchanged, hhits]
    rw [hchanged]
    exact LinkedText.nodesOf_eq_map fun _ => LinkedText.ne_empty_of_mem_ofScan hhits hlen

/-- The definitions of a text, in order. -/
def definitionsIn (linker : Linker) (text : String) : List MarkerText :=
  markerTexts (linker.markers.definition.scan text.toList)

/-- The text with its definitions replaced does not depend on the names collected before. -/
lemma linkDefinitions_fst (linker : Linker) (symbols : SymbolTable) (text : String) :
    (linker.linkDefinitions symbols text).1 =
      LinkedText.ofScan (linker.markers.definition.scan text.toList)
        ((linker.definitionsIn text).map anchor) := rfl

/-- The text with its pastes replaced does not depend on the log. -/
lemma linkPastes_value (linker : Linker) (symbols : SymbolTable) (text : String) :
    (linker.linkPastes symbols text).value =
      LinkedText.ofScan (linker.markers.paste.scan text.toList)
        ((markerTexts (linker.markers.paste.scan text.toList)).map fun paste =>
          (linker.policy.resolve symbols paste).value) := by
  simp [linkPastes]

end Linker

end LiterateLinks
