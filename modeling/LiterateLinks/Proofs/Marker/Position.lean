import Mathlib.Order.Bounds.Basic
import Mathlib.Tactic.Common
import LiterateLinks.Proofs.Marker.Reading

/-!
# The markers of a text by position

The search for markers is described here without regular expressions, by positions in the text.
From a given position on, the next marker opens at the first place behind which a name can be
closed: by the closing text, or by an annotation, which is a comma from which the closing text is
reached within the line.  The name goes to the first place where it can be closed, and an annotation
that is possible there goes to the first closing text.  The search continues where the marker ends.
`MarkerShape.Successive` is this procedure; the two shapes of markers differ in their opening text
and in the character that a name must not hold.

The procedure finds the matches of the marker expressions and nothing else, with the names and the
annotations that the expressions capture (`Delimiters.successive_definitionShape_iff`,
`Delimiters.successive_pasteShape_iff`).  The delimiters appear in it as plain texts, so each of
their characters stands for itself.
-/

namespace LiterateLinks

/-! ## Positions -/

/-- The word stands in the text at the position. -/
def StandsAt (word text : List Char) (i : ℕ) : Prop :=
  word <+: text.drop i

section Positions

variable {text u v : List Char} {i j : ℕ}

/-- What follows a position is what stands up to a later one and what follows that. -/
lemma extract_append_drop (text : List Char) (h : i ≤ j) :
    text.extract i j ++ text.drop j = text.drop i := by
  have hsplit := List.take_append_drop (j - i) (text.drop i)
  rwa [List.drop_drop, Nat.add_sub_cancel' h] at hsplit

/-- A stretch between two positions of the text has the length of their distance. -/
lemma length_extract (i : ℕ) (h : j ≤ text.length) : (text.extract i j).length = j - i := by
  simp only [List.length_take, List.length_drop]
  omega

/-- What follows a position, cut in two: the first part is the stretch of its length. -/
lemma extract_of_drop_eq (h : text.drop i = u ++ v) : text.extract i (i + u.length) = u := by
  simp [h]

/-- What follows a position, cut in two: the second part follows a later position. -/
lemma drop_of_drop_eq (h : text.drop i = u ++ v) : text.drop (i + u.length) = v := by
  rw [← List.drop_drop, h, List.drop_left]

/-- What follows a position with a given character. -/
lemma drop_eq_cons_of_getElem? {c : Char} (h : text[i]? = some c) :
    text.drop i = c :: text.drop (i + 1) := by
  obtain ⟨hi, rfl⟩ := List.getElem?_eq_some_iff.1 h
  exact List.drop_eq_getElem_cons hi

/-- The first character of what follows a position stands at that position. -/
lemma getElem?_of_drop_eq_cons {c : Char} (h : text.drop i = c :: v) : text[i]? = some c := by
  have hfirst := congrArg List.head? h
  rwa [List.head?_drop] at hfirst

/-- A word that is not empty stands inside the text. -/
lemma StandsAt.add_length_le (h : StandsAt u text i) (hu : u ≠ []) :
    i + u.length ≤ text.length := by
  have hlen := h.length_le
  have hpos := List.length_pos_iff.2 hu
  rw [List.length_drop] at hlen
  omega

end Positions

/-! ## The procedure -/

/-- A shape of markers: the text that opens a marker, the character that its name must not hold and
the text that closes it. -/
structure MarkerShape where
  opening : List Char
  barred : Char
  closing : List Char

/-- A marker found in a text: the positions where it starts and where it ends, the text it covers
and what stands between its delimiters. -/
structure FoundMarker where
  start : ℕ
  stop : ℕ
  whole : List Char
  marker : MarkerText
  deriving Repr, DecidableEq

/-- The matches of a scan as markers, if the text before the first one starts at position `last`. -/
def placedFrom : ℕ → List (List Char × Match) → List FoundMarker
  | _, [] => []
  | last, (before, m) :: hits =>
    ⟨last + before.length, last + before.length + m.whole.length, m.whole, MarkerText.ofMatch m⟩ ::
      placedFrom (last + before.length + m.whole.length) hits

/-- The matches of the scan of a whole text as markers. -/
def Scan.placed (scan : Scan) : List FoundMarker :=
  placedFrom 0 scan.hits

namespace MarkerShape

/-- An annotation can run from the comma at position `k` to the closing text at position `m`. -/
structure NoteRuns (s : MarkerShape) (text : List Char) (k m : ℕ) : Prop where
  comma : text[k]? = some ','
  lt : k < m
  inLine : '\n' ∉ text.extract (k + 1) m
  closing : StandsAt s.closing text m

/-- The name of a marker that opens at position `i` can run to position `k`: it is not empty, it
does not hold the barred character, and an annotation or the closing text follows. -/
structure NameRuns (s : MarkerShape) (text : List Char) (i k : ℕ) : Prop where
  lt : i + s.opening.length < k
  unbarred : s.barred ∉ text.extract (i + s.opening.length) k
  ends : (∃ m, s.NoteRuns text k m) ∨ StandsAt s.closing text k

/-- A marker can open at position `i`. -/
def OpensAt (s : MarkerShape) (text : List Char) (i : ℕ) : Prop :=
  StandsAt s.opening text i ∧ ∃ k, s.NameRuns text i k

/-- The marker that opens at position `i`.  Its name is as short as possible, and so is its
annotation, which is taken if there can be one behind the name. -/
inductive Reads (s : MarkerShape) (text : List Char) (i : ℕ) : FoundMarker → Prop where
  | noted {k m : ℕ} : IsLeast {k | s.NameRuns text i k} k → IsLeast {m | s.NoteRuns text k m} m →
      Reads s text i
        { start := i
          stop := m + s.closing.length
          whole := text.extract i (m + s.closing.length)
          marker := ⟨String.ofList (text.extract (i + s.opening.length) k),
            some (String.ofList (text.extract k m))⟩ }
  | bare {k : ℕ} : IsLeast {k | s.NameRuns text i k} k → (∀ m, ¬s.NoteRuns text k m) →
      Reads s text i
        { start := i
          stop := k + s.closing.length
          whole := text.extract i (k + s.closing.length)
          marker := ⟨String.ofList (text.extract (i + s.opening.length) k), none⟩ }

/-- The successive markers of a text from position `last` on: the next one opens at the first place
where a marker can open, and the others follow from its end on. -/
inductive Successive (s : MarkerShape) (text : List Char) : ℕ → List FoundMarker → Prop where
  | done {last : ℕ} : (∀ i, last ≤ i → ¬s.OpensAt text i) → Successive s text last []
  | next {last i : ℕ} {found : FoundMarker} {rest : List FoundMarker} :
      IsLeast {i | last ≤ i ∧ s.OpensAt text i} i → s.Reads text i found →
      Successive s text found.stop rest → Successive s text last (found :: rest)

variable {s : MarkerShape} {text : List Char}

/-- At most one marker is read at a position. -/
lemma Reads.unique {i : ℕ} {a b : FoundMarker} (ha : s.Reads text i a) (hb : s.Reads text i b) :
    a = b := by
  cases ha with
  | noted hk hm =>
    cases hb with
    | noted hk' hm' =>
      obtain rfl := hk.unique hk'
      obtain rfl := hm.unique hm'
      rfl
    | bare hk' hnone =>
      obtain rfl := hk.unique hk'
      exact absurd hm.1 (hnone _)
  | bare hk hnone =>
    cases hb with
    | noted hk' hm' =>
      obtain rfl := hk.unique hk'
      exact absurd hm'.1 (hnone _)
    | bare hk' _ =>
      obtain rfl := hk.unique hk'
      rfl

/-- The procedure has one result. -/
lemma Successive.unique {last : ℕ} {a b : List FoundMarker} (ha : s.Successive text last a)
    (hb : s.Successive text last b) : a = b := by
  induction ha generalizing b with
  | done hnone =>
    cases hb with
    | done => rfl
    | next hi _ _ => exact absurd hi.1.2 (hnone _ hi.1.1)
  | next hi hread _ ih =>
    cases hb with
    | done hnone => exact absurd hi.1.2 (hnone _ hi.1.1)
    | next hi' hread' hrest =>
      obtain rfl := hi.unique hi'
      obtain rfl := hread.unique hread'
      rw [ih hrest]

/-! ## Positions and readings -/

open Regex (marker EndsAt HasNote EndReading MarkerReading)

/-- An annotation can be read behind a position exactly when one can run from it. -/
lemma hasNote_drop_iff {k : ℕ} :
    HasNote s.closing (text.drop k) ↔ ∃ m, s.NoteRuns text k m := by
  constructor
  · rintro ⟨n, w, htext, hn, hw⟩
    have hrest : text.drop (k + 1) = n ++ w := by
      rw [← List.drop_drop, htext, List.drop_one, List.tail_cons]
    refine ⟨k + 1 + n.length, getElem?_of_drop_eq_cons htext, by omega, ?_, ?_⟩
    · rw [extract_of_drop_eq hrest]
      exact fun h => hn _ h rfl
    · rwa [StandsAt, drop_of_drop_eq hrest]
  · rintro ⟨m, hm⟩
    refine ⟨text.extract (k + 1) m, text.drop m, ?_, ?_, hm.closing⟩
    · rw [extract_append_drop text hm.lt]
      exact drop_eq_cons_of_getElem? hm.comma
    · rintro c hc rfl
      exact hm.inLine hc

/-- A marker can end at a position exactly when an annotation can run from it or the closing text
stands there. -/
lemma endsAt_drop_iff {k : ℕ} :
    EndsAt s.closing (text.drop k) ↔ (∃ m, s.NoteRuns text k m) ∨ StandsAt s.closing text k :=
  or_congr hasNote_drop_iff Iff.rfl

/-- The place where a name can be closed is inside the text. -/
lemma NameRuns.lt_length (hclosing : s.closing ≠ []) {i k : ℕ} (h : s.NameRuns text i k) :
    k < text.length := by
  rcases h.ends with ⟨m, hm⟩ | hstands
  · exact (List.getElem?_eq_some_iff.1 hm.comma).1
  · have hle := hstands.add_length_le hclosing
    have hpos := List.length_pos_iff.2 hclosing
    omega

/-- A name that runs from an opening text to some position, cut out of the text. -/
lemma NameRuns.drop_eq {i k : ℕ} (h : s.NameRuns text i k) (hopening : StandsAt s.opening text i) :
    text.drop i = s.opening ++ (text.extract (i + s.opening.length) k ++ text.drop k) := by
  obtain ⟨v, hv⟩ := hopening
  rw [extract_append_drop text h.lt.le, drop_of_drop_eq hv.symm, hv]

section Search

variable {set : CharSet} (hset : ∀ c, set.contains c = true ↔ c ≠ s.barred)
  (hclosing : s.closing ≠ [])

include hset hclosing

/-- The search finds no marker at a position exactly when none can open there. -/
lemma matchHere?_drop_eq_none_iff {i : ℕ} :
    (marker s.opening set s.closing).matchHere? (text.drop i) = none ↔ ¬s.OpensAt text i := by
  rw [Regex.matchHere?_marker_eq_none_iff]
  constructor
  · rintro h ⟨hopening, k, hk⟩
    have hlength := length_extract (i + s.opening.length) (hk.lt_length hclosing).le
    refine h _ _ (hk.drop_eq hopening) ?_ ?_ (endsAt_drop_iff.2 hk.ends)
    · rw [← List.length_pos_iff, hlength]
      have hlt := hk.lt
      omega
    · intro c hc
      rw [hset]
      rintro rfl
      exact hk.unbarred hc
  · rintro h name v hdrop hne hname hends
    have hinner := drop_of_drop_eq hdrop
    have hpos := List.length_pos_iff.2 hne
    refine h ⟨⟨name ++ v, hdrop.symm⟩, i + s.opening.length + name.length, by omega, ?_, ?_⟩
    · rw [extract_of_drop_eq hinner]
      exact fun hmem => (hset _).1 (hname _ hmem) rfl
    · rwa [← endsAt_drop_iff, drop_of_drop_eq hinner]

/-- The name of a reading runs to the first place where it can be closed. -/
lemma isLeast_nameRuns {i : ℕ} {name rest : List Char} {note : Option (List Char)}
    (h : MarkerReading s.opening set s.closing (text.drop i) name note rest) :
    IsLeast {k | s.NameRuns text i k} (i + s.opening.length + name.length) := by
  have hinner := drop_of_drop_eq h.text_eq
  constructor
  · refine ⟨?_, ?_, ?_⟩
    · have hpos := List.length_pos_iff.2 h.name_ne_nil
      omega
    · rw [extract_of_drop_eq hinner]
      exact fun hmem => (hset _).1 (h.name_set _ hmem) rfl
    · rw [← endsAt_drop_iff, drop_of_drop_eq hinner]
      exact h.ending.endsAt
  · -- an earlier end of the name was tried before
    intro k hk
    by_contra hlt
    have hlength := length_extract (i + s.opening.length) (hk.lt_length hclosing).le
    have hk' := hk.lt
    refine h.name_least (text.extract (i + s.opening.length) k) (text.drop k) ?_ ?_ ?_
      (endsAt_drop_iff.2 hk.ends)
    · rw [← hinner, extract_append_drop text hk'.le]
    · rw [← List.length_pos_iff, hlength]
      omega
    · rw [hlength]
      omega

omit hset in
/-- The annotation of a reading runs to the first closing text. -/
lemma isLeast_noteRuns {k : ℕ} {w rest : List Char}
    (h : EndReading s.closing (text.drop k) (some (',' :: w)) rest) :
    IsLeast {m | s.NoteRuns text k m} (k + (',' :: w).length) := by
  have hdrop : text.drop k = ',' :: (w ++ (s.closing ++ rest)) := by simpa using h.text_eq
  have hinner : text.drop (k + 1) = w ++ (s.closing ++ rest) :=
    drop_of_drop_eq (u := [',']) hdrop
  have hpos : k + (',' :: w).length = k + 1 + w.length := by
    rw [List.length_cons]
    omega
  obtain ⟨_, ⟨⟩, hline, hleast⟩ := h.of_some _ rfl
  rw [hpos]
  constructor
  · refine ⟨getElem?_of_drop_eq_cons hdrop, by omega, ?_, ?_⟩
    · rw [extract_of_drop_eq hinner]
      exact fun hmem => hline _ hmem rfl
    · rw [StandsAt, drop_of_drop_eq hinner]
      exact List.prefix_append _ _
  · -- the closing text was looked for at every earlier place
    intro m hm
    by_contra hlt
    have hle := hm.closing.add_length_le hclosing
    have hm' := hm.lt
    have hlength : (text.extract (k + 1) m).length = m - (k + 1) :=
      length_extract (k + 1) (by omega)
    refine hleast (text.extract (k + 1) m) (text.drop m) ?_ ?_ hm.closing
    · rw [← hinner, extract_append_drop text hm']
    · rw [hlength]
      omega

/-- The search reads the marker of the position. -/
lemma reads_of_matchHere? {i : ℕ} {m : Match}
    (h : (marker s.opening set s.closing).matchHere? (text.drop i) = some m) :
    s.Reads text i ⟨i, i + m.whole.length, m.whole, MarkerText.ofMatch m⟩ := by
  obtain ⟨name, note, rest, hread, hwhole, hname, hnote⟩ := Regex.markerReading_of_matchHere? h
  have hleast := isLeast_nameRuns hset hclosing hread
  have hinner := drop_of_drop_eq hread.text_eq
  have hend := drop_of_drop_eq hinner
  have hextract : text.extract i (i + m.whole.length) = m.whole := by
    refine extract_of_drop_eq (v := rest) ?_
    rw [hread.text_eq, hwhole]
    simp
  have hnameText :
      text.extract (i + s.opening.length) (i + s.opening.length + name.length) = name :=
    extract_of_drop_eq hinner
  cases note with
  | none =>
    have hstop : i + s.opening.length + name.length + s.closing.length = i + m.whole.length := by
      simp only [hwhole, Option.getD_none, List.nil_append, List.length_append]
      omega
    have hbare : ∀ k, ¬s.NoteRuns text (i + s.opening.length + name.length) k := by
      intro k hk
      refine hread.ending.of_none rfl ?_
      rw [← hend, hasNote_drop_iff]
      exact ⟨k, hk⟩
    have hreads := Reads.bare hleast hbare
    rw [hstop, hextract, hnameText] at hreads
    simpa [MarkerText.ofMatch, hname, hnote] using hreads
  | some n =>
    obtain ⟨w, rfl, -, -⟩ := hread.ending.of_some n rfl
    have hstop : i + s.opening.length + name.length + (',' :: w).length + s.closing.length =
        i + m.whole.length := by
      simp only [hwhole, Option.getD_some, List.length_append]
      omega
    have hnoted := isLeast_noteRuns hclosing (hend ▸ hread.ending)
    have hreads := Reads.noted hleast hnoted
    have hnoteText := extract_of_drop_eq hend
    rw [Option.getD_some] at hnoteText
    rw [hstop, hextract, hnameText, hnoteText] at hreads
    simpa [MarkerText.ofMatch, hname, hnote] using hreads

/-- The scan of what follows a position is the procedure from that position on. -/
lemma successive_of_scanned {rest : List Char} {scan : Scan}
    (h : Regex.Scanned (marker s.opening set s.closing) rest scan) :
    ∀ last, rest = text.drop last → s.Successive text last (placedFrom last scan.hits) := by
  induction h with
  | done havoids =>
    rintro last rfl
    refine .done fun i hi hopens => ?_
    have hlater : text.drop i <:+: text.drop last := (List.drop_suffix_drop_left text hi).isInfix
    have hnone : (marker s.opening set s.closing).matchHere? (text.drop i) = none :=
      Regex.matchHere?_eq_none_iff.2 fun u hu => havoids u (hu.isInfix.trans hlater)
    exact (matchHere?_drop_eq_none_iff hset hclosing).1 hnone hopens
  | @hit before rest m scan hbefore hm _ ih =>
    intro last hlast
    have hstart : text.drop (last + before.length) = m.whole ++ rest := drop_of_drop_eq hlast.symm
    have hopens : s.OpensAt text (last + before.length) := by
      by_contra hnot
      have hnone := (matchHere?_drop_eq_none_iff hset hclosing).2 hnot
      rw [hstart, hm] at hnone
      cases hnone
    have hreads := reads_of_matchHere? hset hclosing (hstart ▸ hm)
    refine .next ⟨⟨Nat.le_add_right _ _, hopens⟩, ?_⟩ hreads (ih _ (drop_of_drop_eq hstart).symm)
    -- the search has found nothing at the places before
    rintro i ⟨hi, hopens'⟩
    by_contra hlt
    have hdrop : text.drop i = before.drop (i - last) ++ (m.whole ++ rest) := by
      rw [← List.drop_append_of_le_length (by omega), hlast, List.drop_drop, Nat.add_sub_cancel' hi]
    have hne : before.drop (i - last) ≠ [] := by
      rw [ne_eq, List.drop_eq_nil_iff]
      omega
    have hnone := hbefore _ _ (List.take_append_drop (i - last) before).symm hne
    rw [← hdrop, matchHere?_drop_eq_none_iff hset hclosing] at hnone
    exact hnone hopens'

/-- The procedure finds the matches of a scan and nothing else. -/
lemma successive_iff {found : List FoundMarker} :
    s.Successive text 0 found ↔ found = ((marker s.opening set s.closing).scan text).placed := by
  have hscan := Regex.scanned_scan (Regex.not_accepts_marker_nil s.opening set s.closing) text
  have hplaced := successive_of_scanned hset hclosing hscan 0 rfl
  constructor
  · exact fun h => h.unique hplaced
  · rintro rfl
    exact hplaced

end Search

end MarkerShape

namespace Delimiters

/-- The shape of definitions: a name without an equals sign. -/
def definitionShape (d : Delimiters) : MarkerShape :=
  ⟨d.left.toList, '=', d.right.toList⟩

/-- The shape of pastes: an equals sign behind the opening delimiter, and a name within its line. -/
def pasteShape (d : Delimiters) : MarkerShape :=
  ⟨d.left.toList ++ ['='], '\n', d.right.toList⟩

section Shapes

variable {d : Delimiters}

/-- The set that the expression of definitions reads names from. -/
lemma contains_nameSet_iff (c : Char) :
    Regex.nameSet.contains c = true ↔ c ≠ d.definitionShape.barred := by
  simp [Regex.nameSet, CharSet.contains, ClassItem.holds, definitionShape]

/-- The set that the expression of pastes reads names from. -/
lemma contains_inLine_iff (c : Char) :
    CharSet.inLine.contains c = true ↔ c ≠ d.pasteShape.barred := by
  simp [CharSet.contains, pasteShape]

variable (hright : d.right ≠ "")

include hright

/-- The closing text of both shapes is not empty. -/
lemma right_ne_nil : d.right.toList ≠ [] := by
  simpa using hright

/-- The procedure for definitions finds the matches of the expression of definitions. -/
lemma successive_definitionShape_iff {text : List Char} {found : List FoundMarker} :
    d.definitionShape.Successive text 0 found ↔ found = (d.definition.scan text).placed :=
  MarkerShape.successive_iff contains_nameSet_iff (right_ne_nil hright)

/-- The procedure for pastes finds the matches of the expression of pastes. -/
lemma successive_pasteShape_iff {text : List Char} {found : List FoundMarker} :
    d.pasteShape.Successive text 0 found ↔ found = (d.paste.scan text).placed :=
  MarkerShape.successive_iff contains_inLine_iff (right_ne_nil hright)

end Shapes

end Delimiters

/-- For every pair of non-empty delimiters the successive matches of the two marker expressions,
with their places, names and annotations, are those of the procedure. -/
theorem successive_iff_placed (d : Delimiters) (hleft : d.left ≠ "") (hright : d.right ≠ "") :
    ∃ markers, Markers.ofDelimiters d = .ok markers ∧
      ∀ (text : List Char) (found : List FoundMarker),
        (d.definitionShape.Successive text 0 found ↔
          found = (markers.definition.scan text).placed) ∧
        (d.pasteShape.Successive text 0 found ↔ found = (markers.paste.scan text).placed) :=
  ⟨⟨d.definition, d.paste⟩, Markers.ofDelimiters_eq_ok hleft hright, fun _ _ =>
    ⟨Delimiters.successive_definitionShape_iff hright, Delimiters.successive_pasteShape_iff hright⟩⟩

/-- Delimiters that hold commas and a metacharacter: the procedure finds one marker of each shape,
and a comma that begins a closing delimiter begins no annotation. -/
theorem successive_iff_placed_commas :
    let d : Delimiters := ⟨"*,", ",*"⟩
    let text := "*,a,b,* *,=c,*".toList
    (d.left ≠ "" ∧ d.right ≠ "") ∧
      d.definitionShape.Successive text 0 [⟨0, 7, "*,a,b,*".toList, ⟨"a", some ",b"⟩⟩] ∧
      d.pasteShape.Successive text 0 [⟨8, 14, "*,=c,*".toList, ⟨"c", none⟩⟩] := by
  intro d text
  have hleft : d.left ≠ "" := by decide
  have hright : d.right ≠ "" := by decide
  obtain ⟨markers, hmarkers, hfound⟩ := successive_iff_placed d hleft hright
  rw [Markers.ofDelimiters_eq_ok hleft hright] at hmarkers
  obtain ⟨⟩ := hmarkers
  exact ⟨⟨hleft, hright⟩, (hfound text _).1.2 (by decide +kernel),
    (hfound text _).2.2 (by decide +kernel)⟩

end LiterateLinks
