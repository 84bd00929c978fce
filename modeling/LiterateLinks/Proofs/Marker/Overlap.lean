import Mathlib.Tactic.Common
import LiterateLinks.Proofs.Marker.Position

/-!
# Definitions and pastes of the same text

Both marker expressions may be searched for in the same text.  A definition name holds no equals
sign and a paste begins with one behind its opening delimiter, so no definition starts where a paste
starts, no text is a definition and a paste at once, and no paste begins within the name of a
definition.

This does not keep the matches of the two searches apart.  An annotation may hold anything, also the
beginning of a paste, and so may the text of a paste.  For delimiters that have no character in
common and hold no equals sign these are the only ways (`Delimiters.overlaps_iff_of_layout`): a
definition and a paste overlap exactly when the equals sign of the paste stands in the annotation of
the definition or the opening delimiter of the definition stands between the equals sign and the
closing delimiter of the paste.

The argument looks at single characters.  The layout of a found marker (`MarkerShape.Layout`) says
which part of the marker each position belongs to, and a position cannot belong to parts that have
no character in common.
-/

namespace LiterateLinks

section Characters

variable {text word : List Char} {i j k : ℕ} {c : Char}

/-- The characters of a word that stands in a text are characters of the text. -/
lemma StandsAt.exists_mem (h : StandsAt word text i) (hij : i ≤ j) (hj : j < i + word.length) :
    ∃ c ∈ word, text[j]? = some c := by
  obtain ⟨v, hv⟩ := h
  have hlt : j - i < word.length := by omega
  refine ⟨word[j - i], List.getElem_mem hlt, ?_⟩
  have hat : (text.drop i)[j - i]? = text[j]? := by
    rw [List.getElem?_drop, Nat.add_sub_cancel' hij]
  rw [← hat, ← hv, List.getElem?_append_left hlt, List.getElem?_eq_getElem hlt]

/-- The last character of a word that stands in a text. -/
lemma StandsAt.getElem?_last (h : StandsAt (word ++ [c]) text i) :
    text[i + word.length]? = some c := by
  obtain ⟨v, hv⟩ := h
  rw [← List.getElem?_drop, ← hv]
  simp

/-- A character between two positions is in the stretch between them. -/
lemma mem_extract_of_getElem? (h : text[j]? = some c) (hij : i ≤ j) (hjk : j < k) :
    c ∈ text.extract i k := by
  refine List.mem_of_getElem? (i := j - i) ?_
  rw [List.getElem?_take_of_lt (by omega), List.getElem?_drop, Nat.add_sub_cancel' hij]
  exact h

/-- Words without a common character do not stand across each other. -/
lemma not_standsAt_of_disjoint {u v : List Char} (huv : ∀ c ∈ u, c ∉ v) (hu : StandsAt u text i)
    (hv : StandsAt v text k) (hij : i ≤ j) (hj : j < i + u.length) (hkj : k ≤ j)
    (hj' : j < k + v.length) : False := by
  obtain ⟨c, hc, hcj⟩ := hu.exists_mem hij hj
  obtain ⟨c', hc', hcj'⟩ := hv.exists_mem hkj hj'
  rw [hcj] at hcj'
  obtain ⟨⟩ := hcj'
  exact huv c hc hc'

end Characters

/-! ## The layout of a found marker -/

namespace MarkerShape

/-- The position behind the name of a found marker. -/
def nameStop (s : MarkerShape) (p : FoundMarker) : ℕ :=
  p.start + s.opening.length + p.marker.name.length

/-- The position of the closing text of a found marker. -/
def closingStart (s : MarkerShape) (p : FoundMarker) : ℕ :=
  p.stop - s.closing.length

/-- The parts of a found marker stand in the text one behind the other: the opening text, the name,
the annotation if there is one, and the closing text. -/
structure Layout (s : MarkerShape) (text : List Char) (p : FoundMarker) : Prop where
  opening : StandsAt s.opening text p.start
  name : s.NameRuns text p.start (s.nameStop p)
  le : s.nameStop p ≤ s.closingStart p
  comma : s.nameStop p < s.closingStart p → text[s.nameStop p]? = some ','
  closing : StandsAt s.closing text (s.closingStart p)
  stop_eq : p.stop = s.closingStart p + s.closing.length

variable {s : MarkerShape} {text : List Char}

/-- The markers that the procedure finds are read where they start. -/
lemma Successive.reads_of_mem {last : ℕ} {found : List FoundMarker}
    (h : s.Successive text last found) :
    ∀ p ∈ found, s.OpensAt text p.start ∧ s.Reads text p.start p := by
  induction h with
  | done => simp
  | @next last i first rest hi hread _ ih =>
    have hstart : first.start = i := by cases hread <;> rfl
    rw [List.forall_mem_cons, hstart]
    exact ⟨⟨hi.1.2, hread⟩, ih⟩

/-- The length of a name that runs to a position inside the text. -/
lemma NameRuns.add_length (hclosing : s.closing ≠ []) {i k : ℕ} (h : s.NameRuns text i k) :
    i + s.opening.length + (String.ofList (text.extract (i + s.opening.length) k)).length = k := by
  have hlt := h.lt
  rw [← String.length_toList, String.toList_ofList,
    length_extract _ (h.lt_length hclosing).le]
  omega

/-- The ends of the name and of what stands before the closing text of a marker. -/
lemma Reads.exists_ends (hclosing : s.closing ≠ []) {i : ℕ} {p : FoundMarker}
    (h : s.Reads text i p) :
    ∃ k m, s.nameStop p = k ∧ p.stop = m + s.closing.length ∧ s.NameRuns text p.start k ∧ k ≤ m ∧
      (k < m → text[k]? = some ',') ∧ StandsAt s.closing text m := by
  cases h with
  | @noted k m hk hm =>
    exact ⟨k, m, hk.1.add_length hclosing, rfl, hk.1, hm.1.lt.le, fun _ => hm.1.comma, hm.1.closing⟩
  | @bare k hk hnone =>
    have hstands := hk.1.ends.resolve_left fun ⟨m, hm⟩ => hnone m hm
    exact ⟨k, k, hk.1.add_length hclosing, rfl, hk.1, le_rfl, fun hlt => by omega, hstands⟩

/-- The markers that the procedure finds have their parts one behind the other. -/
lemma Successive.layout_of_mem (hclosing : s.closing ≠ []) {last : ℕ} {found : List FoundMarker}
    (h : s.Successive text last found) {p : FoundMarker} (hp : p ∈ found) : s.Layout text p := by
  obtain ⟨hopens, hread⟩ := h.reads_of_mem p hp
  obtain ⟨k, m, rfl, hstop, hname, hle, hcomma, hclosed⟩ := hread.exists_ends hclosing
  obtain rfl : s.closingStart p = m := by rw [closingStart, hstop, Nat.add_sub_cancel]
  exact ⟨hopens.1, hname, hle, hcomma, hclosed, hstop⟩

end MarkerShape

/-! ## Overlaps -/

/-- Two markers have a position in common. -/
def FoundMarker.Overlaps (p q : FoundMarker) : Prop :=
  p.start < q.stop ∧ q.start < p.stop

namespace Delimiters

/-- The delimiters have no character in common, and neither holds an equals sign. -/
structure Separate (d : Delimiters) : Prop where
  disjoint : ∀ c ∈ d.left.toList, c ∉ d.right.toList
  left_equals : '=' ∉ d.left.toList
  right_equals : '=' ∉ d.right.toList

/-- The equals sign of the paste `q` stands in the annotation of the definition `p`. -/
def PasteInNote (d : Delimiters) (p q : FoundMarker) : Prop :=
  d.definitionShape.nameStop p < q.start + d.left.length ∧
    q.start + d.left.length < d.definitionShape.closingStart p

/-- The opening delimiter of the definition `p` stands between the equals sign and the closing
delimiter of the paste `q`. -/
def DefinitionInPaste (d : Delimiters) (p q : FoundMarker) : Prop :=
  q.start + d.left.length < p.start ∧ p.start + d.left.length ≤ d.pasteShape.closingStart q

variable {d : Delimiters} {text : List Char}

/-- A definition opens nowhere where a paste opens: one has an equals sign behind the opening
delimiter, and the other has none. -/
lemma not_opensAt_pasteShape {i : ℕ} (h : d.definitionShape.OpensAt text i) :
    ¬d.pasteShape.OpensAt text i := by
  rintro ⟨hpaste, -⟩
  obtain ⟨-, k, hk⟩ := h
  exact hk.unbarred (mem_extract_of_getElem? hpaste.getElem?_last le_rfl hk.lt)

/-- No text begins with a definition and with a paste. -/
lemma definition_eq_none_or_paste_eq_none (hright : d.right ≠ "") (text : List Char) :
    d.definition.matchHere? text = none ∨ d.paste.matchHere? text = none := by
  have hdefinition : d.definition.matchHere? (text.drop 0) = none ↔
      ¬d.definitionShape.OpensAt text 0 :=
    MarkerShape.matchHere?_drop_eq_none_iff contains_nameSet_iff (right_ne_nil hright)
  have hpaste : d.paste.matchHere? (text.drop 0) = none ↔ ¬d.pasteShape.OpensAt text 0 :=
    MarkerShape.matchHere?_drop_eq_none_iff contains_inLine_iff (right_ne_nil hright)
  by_cases h : d.definitionShape.OpensAt text 0
  · exact .inr (hpaste.2 (not_opensAt_pasteShape h))
  · exact .inl (hdefinition.2 h)

section Overlap

variable {p q : FoundMarker} (hp : d.definitionShape.Layout text p)
  (hq : d.pasteShape.Layout text q)

include hp in
/-- The positions of a definition, in order. -/
lemma lt_nameStop_definition (hright : d.right ≠ "") :
    p.start + d.left.length < d.definitionShape.nameStop p ∧
      d.definitionShape.closingStart p < p.stop := by
  have hpos := List.length_pos_iff.2 (right_ne_nil hright)
  have hlt := hp.name.lt
  have hstop := hp.stop_eq
  simp only [definitionShape, String.length_toList] at hlt hpos hstop ⊢
  exact ⟨hlt, by omega⟩

include hq in
/-- The positions of a paste, in order. -/
lemma lt_closingStart_paste (hright : d.right ≠ "") :
    q.start + d.left.length + 1 < d.pasteShape.closingStart q ∧
      d.pasteShape.closingStart q < q.stop := by
  have hpos := List.length_pos_iff.2 (right_ne_nil hright)
  have hlt := hq.name.lt
  have hle := hq.le
  have hstop := hq.stop_eq
  simp only [pasteShape, List.length_append, List.length_singleton, String.length_toList]
    at hlt hle hpos hstop ⊢
  exact ⟨by omega, by omega⟩

include hq in
/-- The equals sign of a paste. -/
lemma getElem?_equals : text[q.start + d.left.length]? = some '=' := by
  have hequals := hq.opening.getElem?_last
  rwa [String.length_toList] at hequals

include hp hq

/-- A definition and a paste do not start at the same position. -/
lemma start_ne_start : p.start ≠ q.start := by
  intro hstart
  have hopens : d.pasteShape.OpensAt text p.start := hstart ▸ ⟨hq.opening, _, hq.name⟩
  exact not_opensAt_pasteShape ⟨hp.opening, _, hp.name⟩ hopens

/-- The name of a definition holds no equals sign, so a paste that does not start before the
definition has its equals sign behind that name. -/
lemma nameStop_le_of_le (hle : p.start ≤ q.start) :
    d.definitionShape.nameStop p ≤ q.start + d.left.length := by
  by_contra hin
  have hlength : d.left.toList.length = d.left.length := String.length_toList
  have hstart : p.start + d.left.toList.length ≤ q.start + d.left.length := by omega
  exact hp.name.unbarred (mem_extract_of_getElem? (getElem?_equals hq) hstart (by omega))

/-- A paste that starts inside a definition has its equals sign in the annotation: the name holds
none, and neither does the closing delimiter, and the opening delimiter of the paste does not stand
across the end of the definition. -/
lemma pasteInNote_of_lt (hd : d.Separate) (hright : d.right ≠ "") (hlt : p.start < q.start)
    (hover : q.start < p.stop) : d.PasteInNote p q := by
  have hequals := getElem?_equals hq
  have hlength : d.left.toList.length = d.left.length := String.length_toList
  obtain ⟨hname, hclosed⟩ := lt_nameStop_definition hp hright
  have hclosing : StandsAt d.right.toList text (d.definitionShape.closingStart p) := hp.closing
  have hstop : p.stop = d.definitionShape.closingStart p + d.right.toList.length := hp.stop_eq
  have hbehind := nameStop_le_of_le hp hq hlt.le
  have hbefore : q.start + d.left.length < d.definitionShape.closingStart p := by
    by_contra hin
    rcases Nat.lt_or_ge (q.start + d.left.length) p.stop with hstops | hstops
    · obtain ⟨c, hc, hcat⟩ := hclosing.exists_mem (Nat.le_of_not_lt hin) (by omega)
      rw [hequals] at hcat
      obtain ⟨⟩ := hcat
      exact hd.right_equals hc
    · have hopening : StandsAt d.left.toList text q.start :=
        (List.prefix_append _ _).trans hq.opening
      have hlast : q.start ≤ p.stop - 1 := by omega
      exact not_standsAt_of_disjoint hd.disjoint hopening hclosing hlast (by omega) (by omega)
        (by omega)
  refine ⟨lt_of_le_of_ne hbehind fun heq => ?_, hbefore⟩
  have hcomma := hp.comma (by omega)
  rw [heq, hequals] at hcomma
  cases hcomma

/-- A definition that starts inside a paste has its opening delimiter between the equals sign and
the closing delimiter of the paste: it does not hold the one and has no character of the other. -/
lemma definitionInPaste_of_lt (hd : d.Separate) (hleft : d.left ≠ "") (hright : d.right ≠ "")
    (hlt : q.start < p.start) (hover : p.start < q.stop) : d.DefinitionInPaste p q := by
  have hequals := getElem?_equals hq
  have hlength : d.left.toList.length = d.left.length := String.length_toList
  have hpos : 0 < d.left.toList.length := List.length_pos_iff.2 (by simpa using hleft)
  obtain ⟨-, hclosed⟩ := lt_closingStart_paste hq hright
  have hopening : StandsAt d.left.toList text p.start := hp.opening
  have hclosing : StandsAt d.right.toList text (d.pasteShape.closingStart q) := hq.closing
  have hstop : q.stop = d.pasteShape.closingStart q + d.right.toList.length := hq.stop_eq
  constructor
  · by_contra hin
    obtain ⟨c, hc, hcat⟩ := hopening.exists_mem (Nat.le_of_not_lt hin) (by omega)
    rw [hequals] at hcat
    obtain ⟨⟩ := hcat
    exact hd.left_equals hc
  · by_contra hin
    -- the later of the two starts would be a position of both delimiters
    have hcommon := le_max_left p.start (d.pasteShape.closingStart q)
    exact not_standsAt_of_disjoint hd.disjoint hopening hclosing hcommon (by omega) (by omega)
      (by omega)

/-- When a definition and a paste overlap. -/
lemma overlaps_iff_of_layout (hd : d.Separate) (hleft : d.left ≠ "") (hright : d.right ≠ "") :
    p.Overlaps q ↔ d.PasteInNote p q ∨ d.DefinitionInPaste p q := by
  obtain ⟨hname, hclosed⟩ := lt_nameStop_definition hp hright
  obtain ⟨hname', hclosed'⟩ := lt_closingStart_paste hq hright
  have hle := hp.le
  constructor
  · rintro ⟨hpq, hqp⟩
    rcases Nat.lt_or_gt_of_ne (start_ne_start hp hq) with hlt | hlt
    · exact .inl (pasteInNote_of_lt hp hq hd hright hlt hqp)
    · exact .inr (definitionInPaste_of_lt hp hq hd hleft hright hlt hpq)
  · rintro (⟨h₁, h₂⟩ | ⟨h₁, h₂⟩)
    · exact ⟨by omega, by omega⟩
    · exact ⟨by omega, by omega⟩

end Overlap

end Delimiters

/-- Between non-empty delimiters no text begins with a definition and with a paste, and no paste
found in a text has its equals sign in the name of a definition found in it.  If the delimiters have
no character in common and hold no equals sign, a definition and a paste found in the same text
overlap exactly when the paste begins in the annotation of the definition or the definition opens
inside the paste. -/
theorem overlaps_iff (d : Delimiters) (hleft : d.left ≠ "") (hright : d.right ≠ "") :
    ∃ markers, Markers.ofDelimiters d = .ok markers ∧
      (∀ text, markers.definition.matchHere? text = none ∨ markers.paste.matchHere? text = none) ∧
      ∀ text, ∀ p ∈ (markers.definition.scan text).placed, ∀ q ∈ (markers.paste.scan text).placed,
        (p.start ≤ q.start → d.definitionShape.nameStop p ≤ q.start + d.left.length) ∧
        (d.Separate → (p.Overlaps q ↔ d.PasteInNote p q ∨ d.DefinitionInPaste p q)) := by
  refine ⟨_, Markers.ofDelimiters_eq_ok hleft hright,
    Delimiters.definition_eq_none_or_paste_eq_none hright, fun text p hp q hq => ?_⟩
  have hdefinitions : d.definitionShape.Successive text 0 _ :=
    (Delimiters.successive_definitionShape_iff hright).2 rfl
  have hpastes : d.pasteShape.Successive text 0 _ :=
    (Delimiters.successive_pasteShape_iff hright).2 rfl
  have hclosing := Delimiters.right_ne_nil hright
  have hp' := hdefinitions.layout_of_mem hclosing hp
  have hq' := hpastes.layout_of_mem hclosing hq
  exact ⟨Delimiters.nameStop_le_of_le hp' hq',
    fun hd => Delimiters.overlaps_iff_of_layout hp' hq' hd hleft hright⟩

/-- The default delimiters are separate, and a paste in the annotation of a definition overlaps
it. -/
theorem overlaps_iff_note :
    let d : Delimiters := {}
    let text := "<<a,<<=b>>".toList
    let p : FoundMarker := ⟨0, 10, text, ⟨"a", some ",<<=b"⟩⟩
    let q : FoundMarker := ⟨4, 10, "<<=b>>".toList, ⟨"b", none⟩⟩
    (d.left ≠ "" ∧ d.right ≠ "" ∧ d.Separate) ∧ d.PasteInNote p q ∧
      ∃ markers, Markers.ofDelimiters d = .ok markers ∧
        p ∈ (markers.definition.scan text).placed ∧ q ∈ (markers.paste.scan text).placed ∧
        p.Overlaps q := by
  intro d text p q
  have hleft : d.left ≠ "" := by decide
  have hright : d.right ≠ "" := by decide
  have hd : d.Separate := by
    refine ⟨fun c hc => ?_, by decide, by decide⟩
    obtain rfl : c = '<' := by simpa [d] using hc
    decide
  have hnote : d.PasteInNote p q := ⟨by decide, by decide⟩
  obtain ⟨markers, hmarkers, -, hoverlaps⟩ := overlaps_iff d hleft hright
  refine ⟨⟨hleft, hright, hd⟩, hnote, markers, hmarkers, ?_⟩
  rw [Markers.ofDelimiters_eq_ok hleft hright] at hmarkers
  obtain ⟨⟩ := hmarkers
  have hp : p ∈ (d.definition.scan text).placed := by decide +kernel
  have hq : q ∈ (d.paste.scan text).placed := by decide +kernel
  exact ⟨hp, hq, ((hoverlaps text p hp q hq).2 hd).2 (.inl hnote)⟩

/-- The search for definitions and the search for pastes find overlapping markers in one text. -/
theorem definition_overlaps_paste :
    ∃ markers, Markers.ofDelimiters {} = .ok markers ∧
      ∃ p ∈ (markers.definition.scan "<<a,<<=b>>".toList).placed,
        ∃ q ∈ (markers.paste.scan "<<a,<<=b>>".toList).placed, p.Overlaps q := by
  refine ⟨_, Markers.ofDelimiters_eq_ok (by decide) (by decide),
    ⟨0, 10, "<<a,<<=b>>".toList, ⟨"a", some ",<<=b"⟩⟩, by decide +kernel,
    ⟨4, 10, "<<=b>>".toList, ⟨"b", none⟩⟩, by decide +kernel, by decide, by decide⟩

end LiterateLinks
