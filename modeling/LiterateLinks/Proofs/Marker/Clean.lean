import Mathlib.Data.List.Basic
import LiterateLinks.Proofs.Marker.Reading

/-!
# Texts without markers

A text is clean when it holds no marker of either shape.  Everything that is shown in the place of a
marker is clean, for delimiters that are unobtrusive: they hold no letter and none of the characters
`,` `=` `(` `)` `:`.

The reason is one and the same for names and labels.  The closing delimiter stands in what a marker
reads only at the very start, so in a label it stands at most one character behind the start, where
there is no room in front of it for an opening delimiter and a name.  The characters that a label
puts around the name cannot complete a closing delimiter.  The caption of a popup is clean because
it has no character in common with the opening delimiter.
-/

namespace LiterateLinks

/-- Where a word stands in a text between parentheses, behind the first of them: it ends with the
last parenthesis, or it stands inside the text. -/
lemma parenthesized_cases {w word x y : List Char} (hword : word ≠ []) (hx : x ≠ [])
    (h : '(' :: (w ++ [')']) = x ++ (word ++ y)) :
    (∃ r, word = r ++ [')'] ∧ '(' :: w = x ++ r) ∨
      ∃ x' y', x = '(' :: x' ∧ w = x' ++ (word ++ y') := by
  obtain ⟨c, x', rfl⟩ := List.exists_cons_of_ne_nil hx
  rw [List.cons_append, List.cons.injEq] at h
  obtain ⟨rfl, h⟩ := h
  rcases List.eq_nil_or_concat' y with rfl | ⟨y', b, rfl⟩
  · obtain ⟨r, b, rfl⟩ := (List.eq_nil_or_concat' word).resolve_left hword
    rw [List.append_nil, ← List.append_assoc] at h
    obtain ⟨hinit, hlast⟩ := List.append_inj' h rfl
    obtain rfl : ')' = b := by simpa using hlast
    exact .inl ⟨r, rfl, by rw [hinit, List.cons_append]⟩
  · rw [← List.append_assoc, ← List.append_assoc] at h
    obtain ⟨hinit, -⟩ := List.append_inj' h rfl
    exact .inr ⟨x', y', rfl, by rw [hinit, List.append_assoc]⟩

namespace Delimiters

/-- The delimiters are not empty, and they hold no letter and none of the characters that labels and
captions put around names. -/
structure Unobtrusive (d : Delimiters) : Prop where
  left_ne : d.left ≠ ""
  right_ne : d.right ≠ ""
  of_mem : ∀ c, c ∈ d.left.toList ∨ c ∈ d.right.toList →
    c.isAlpha = false ∧ c ∉ [',', '=', '(', ')', ':']

/-- Whether delimiters are unobtrusive is found by looking at their characters. -/
instance (d : Delimiters) : Decidable d.Unobtrusive :=
  decidable_of_iff
    (d.left ≠ "" ∧ d.right ≠ "" ∧ (d.left.toList ++ d.right.toList).all
      (fun c => !c.isAlpha && !(List.contains [',', '=', '(', ')', ':'] c)) = true)
    (by
      constructor
      · rintro ⟨hleft, hright, hall⟩
        refine ⟨hleft, hright, fun c hc => ?_⟩
        have hchar := List.all_eq_true.1 hall c (List.mem_append.2 hc)
        simpa using hchar
      · rintro ⟨hleft, hright, hmem⟩
        refine ⟨hleft, hright, List.all_eq_true.2 fun c hc => ?_⟩
        have hchar := hmem c (List.mem_append.1 hc)
        simpa using hchar)

/-- The text holds no marker of either shape. -/
def Clean (d : Delimiters) (text : List Char) : Prop :=
  Regex.Avoids d.definition text ∧ Regex.Avoids d.paste text

/-- No definition is empty. -/
lemma not_accepts_definition_nil (d : Delimiters) : ¬Regex.Accepts d.definition [] :=
  Regex.not_accepts_marker_nil _ _ _

/-- No paste is empty. -/
lemma not_accepts_paste_nil (d : Delimiters) : ¬Regex.Accepts d.paste [] :=
  Regex.not_accepts_marker_nil _ _ _

section Labels

variable {d : Delimiters} (hd : d.Unobtrusive)

include hd

/-- The closing delimiter is a list of characters that is not empty. -/
lemma Unobtrusive.right_ne_nil : d.right.toList ≠ [] := by
  simpa using hd.right_ne

/-- The opening delimiter has at least one character. -/
lemma Unobtrusive.left_length_pos : 0 < d.left.toList.length := by
  rw [List.length_pos_iff]
  simpa using hd.left_ne

/-- The characters of labels are not in the closing delimiter. -/
lemma Unobtrusive.not_mem_right {c : Char} (hc : c ∈ [',', '=', '(', ')', ':']) :
    c ∉ d.right.toList :=
  fun hmem => (hd.of_mem c (.inr hmem)).2 hc

/-- A text is clean if the closing delimiter stands at most one character behind its start. -/
lemma Unobtrusive.clean_of_closing {text : List Char}
    (h : ∀ x y, text = x ++ (d.right.toList ++ y) → x.length ≤ 1) : d.Clean text := by
  have hleft := hd.left_length_pos
  constructor
  · refine Regex.avoids_marker_of_closing fun x y hxy => ?_
    have := h x y hxy
    omega
  · refine Regex.avoids_marker_of_closing fun x y hxy => ?_
    have := h x y hxy
    simp only [List.length_append]
    omega

/-- The caption of a popup is clean. -/
lemma Unobtrusive.clean_caption : d.Clean "Matched:".toList := by
  obtain ⟨c, hc⟩ := List.exists_mem_of_length_pos hd.left_length_pos
  have hchars : "Matched:".toList.all (fun x => x.isAlpha || x == ':') = true := by decide
  have hcaption : c ∉ "Matched:".toList := by
    intro hmem
    obtain ⟨halpha, hnot⟩ := hd.of_mem c (.inl hc)
    have hchar := List.all_eq_true.1 hchars c hmem
    rw [Bool.or_eq_true, beq_iff_eq] at hchar
    rcases hchar with hletter | rfl
    · rw [hletter] at halpha
      cases halpha
    · exact hnot (by decide)
  exact ⟨Regex.avoids_marker_of_not_mem hc hcaption,
    Regex.avoids_marker_of_not_mem (List.mem_append_left _ hc) hcaption⟩

/-- A text in which the closing delimiter stands at most at the start is clean. -/
lemma Unobtrusive.clean_inner {w : List Char}
    (hw : ∀ x y, w = x ++ (d.right.toList ++ y) → x = []) : d.Clean w := by
  refine hd.clean_of_closing fun x y hxy => ?_
  simp [hw x y hxy]

/-- Such a text stays clean between parentheses, neither of which is in the closing delimiter. -/
lemma Unobtrusive.clean_parenthesized {w : List Char}
    (hw : ∀ x y, w = x ++ (d.right.toList ++ y) → x = []) : d.Clean ('(' :: (w ++ [')'])) := by
  refine hd.clean_of_closing fun x y hxy => ?_
  by_cases hx : x = []
  · simp [hx]
  rcases parenthesized_cases hd.right_ne_nil hx hxy with ⟨r, hright, -⟩ | ⟨x', y', rfl, hinner⟩
  · -- the closing delimiter would end in the parenthesis
    have hmem : ')' ∈ d.right.toList := by simp [hright]
    exact absurd hmem (hd.not_mem_right (by decide))
  · simp [hw x' y' hinner]

/-- Such a text stays clean after an equals sign. -/
lemma Unobtrusive.clean_equals {w : List Char}
    (hw : ∀ x y, w = x ++ (d.right.toList ++ y) → x = []) : d.Clean ('=' :: w) := by
  refine hd.clean_of_closing fun x y hxy => ?_
  cases x with
  | nil => simp
  | cons c x =>
    simp only [List.cons_append, List.cons.injEq] at hxy
    simp [hw x y hxy.2]

/-- The name and the labels of a marker are clean, because the closing delimiter stands in what the
marker reads at most at the very start. -/
lemma Unobtrusive.clean_of_matchHere? {opening text : List Char} {set : CharSet} {m : Match}
    (h : (Regex.marker opening set d.right.toList).matchHere? text = some m) :
    d.Clean (MarkerText.ofMatch m).name.toList ∧
      d.Clean (MarkerText.ofMatch m).definitionLabel.toList ∧
      d.Clean (MarkerText.ofMatch m).pasteLabel.toList := by
  obtain ⟨name, note, rest, hread, -, hname, hnote⟩ := Regex.markerReading_of_matchHere? h
  have hofMatch := MarkerText.ofMatch_eq hname hnote
  have hwritten := MarkerText.toList_written_ofMatch hname hnote
  have hinner : ∀ x y, name ++ note.getD [] = x ++ (d.right.toList ++ y) → x = [] :=
    fun x y => hread.eq_nil_of_closing hd.right_ne_nil (hd.not_mem_right (by decide))
  refine ⟨?_, ?_, ?_⟩
  · refine hd.clean_inner fun x y hxy => hinner x (y ++ note.getD []) ?_
    have hsplit : name = x ++ (d.right.toList ++ y) := by simpa [hofMatch] using hxy
    rw [hsplit]
    simp
  · simpa [MarkerText.definitionLabel, hwritten] using hd.clean_parenthesized hinner
  · simpa [MarkerText.pasteLabel, hwritten] using hd.clean_equals hinner

end Labels

end Delimiters

end LiterateLinks
