import Mathlib.Tactic.Common
import LiterateLinks.Proofs.Marker.Reading

/-!
# Pasting what a definition names

A chunk is pasted by writing the text of its definition behind an equals sign.  The two markers are
read by the same rules, except for the characters of the name: a definition name may hold anything
but an equals sign, the name of a paste anything but a line break.  Of a text without an equals sign
the paste therefore reads the same name and the same annotation as the definition, provided that the
name stays within its line; if it does not, the paste is not read at all
(`Delimiters.paste_eq_some_iff_definition`).

The comparison rests on two facts about readings: a text has at most one reading
(`Regex.MarkerReading.unique`), and the name of a marker that is written with nothing behind it is
part of what stands between its delimiters (`Regex.MarkerReading.name_leads`).
-/

namespace LiterateLinks

namespace Regex

section Unique

variable {opening closing text name name' rest rest' : List Char} {set : CharSet}
  {note note' : Option (List Char)}

/-- The end of a marker is read in one way only. -/
lemma EndReading.unique (h : EndReading closing text note rest)
    (h' : EndReading closing text note' rest') : note = note' ∧ rest = rest' := by
  have htext := h.text_eq.symm.trans h'.text_eq
  cases note with
  | none =>
    cases note' with
    | none => simpa using htext
    | some n' => exact absurd h'.hasNote (h.of_none rfl)
  | some n =>
    cases note' with
    | none => exact absurd h.hasNote (h'.of_none rfl)
    | some n' =>
      obtain ⟨w, rfl, -, hleast⟩ := h.of_some n rfl
      obtain ⟨w', rfl, -, hleast'⟩ := h'.of_some n' rfl
      have hw : w ++ (closing ++ rest) = w' ++ (closing ++ rest') := by simpa using htext
      -- of two closing texts the search takes the first
      have hle : w.length ≤ w'.length := by
        by_contra hlt
        exact hleast w' _ hw (by omega) (List.prefix_append _ _)
      have hge : w'.length ≤ w.length := by
        by_contra hlt
        exact hleast' w _ hw.symm (by omega) (List.prefix_append _ _)
      obtain ⟨rfl, hrest⟩ := List.append_inj hw (Nat.le_antisymm hle hge)
      exact ⟨rfl, List.append_cancel_left hrest⟩

/-- A text has at most one reading. -/
lemma MarkerReading.unique (h : MarkerReading opening set closing text name note rest)
    (h' : MarkerReading opening set closing text name' note' rest') :
    name = name' ∧ note = note' ∧ rest = rest' := by
  have htext := List.append_cancel_left (h.text_eq.symm.trans h'.text_eq)
  -- of two places where the marker can end the name takes the first
  have hle : name.length ≤ name'.length := by
    by_contra hlt
    exact h.name_least name' _ htext h'.name_ne_nil (by omega) h'.ending.endsAt
  have hge : name'.length ≤ name.length := by
    by_contra hlt
    exact h'.name_least name _ htext.symm h.name_ne_nil (by omega) h.ending.endsAt
  obtain ⟨rfl, hend⟩ := List.append_inj htext (Nat.le_antisymm hle hge)
  have hending := h'.ending
  rw [← hend] at hending
  exact ⟨rfl, h.ending.unique hending⟩

end Unique

/-- The search reads a marker exactly as its reading says. -/
lemma map_ofMatch_eq_some_iff {opening closing text : List Char} {set : CharSet} {t : MarkerText} :
    ((marker opening set closing).matchHere? text).map MarkerText.ofMatch = some t ↔
      ∃ rest, MarkerReading opening set closing text t.name.toList
        (t.annotation.map String.toList) rest := by
  constructor
  · intro h
    obtain ⟨m, hm, rfl⟩ := Option.map_eq_some_iff.1 h
    obtain ⟨name, note, rest, hread, -, hname, hnote⟩ := markerReading_of_matchHere? hm
    refine ⟨rest, ?_⟩
    rw [MarkerText.ofMatch_eq hname hnote]
    simpa [Option.map_map, Function.comp_def] using hread
  · rintro ⟨rest, hread⟩
    cases hm : (marker opening set closing).matchHere? text with
    | none =>
      exact absurd hread.ending.endsAt (matchHere?_marker_eq_none_iff.1 hm _ _ hread.text_eq
        hread.name_ne_nil hread.name_set)
    | some m =>
      obtain ⟨name, note, rest', hread', -, hname, hnote⟩ := markerReading_of_matchHere? hm
      obtain ⟨rfl, rfl, -⟩ := hread.unique hread'
      rw [Option.map_some, MarkerText.ofMatch_eq hname hnote]
      simp [Option.map_map, Function.comp_def]

/-- What is read behind the opening text does not depend on that text. -/
lemma markerReading_append_iff {opening closing text name rest : List Char} {set : CharSet}
    {note : Option (List Char)} :
    MarkerReading opening set closing (opening ++ text) name note rest ↔
      MarkerReading [] set closing text name note rest := by
  constructor
  · intro h
    exact { h with text_eq := List.append_cancel_left h.text_eq }
  · intro h
    exact { h with text_eq := congrArg (opening ++ ·) h.text_eq }

/-- The name of a marker with nothing behind it stands at the start of what is between the
delimiters, because the marker can end where that does. -/
lemma MarkerReading.name_leads {closing w name rest : List Char} {set : CharSet}
    {note : Option (List Char)} (h : MarkerReading [] set closing (w ++ closing) name note rest)
    (hw : w ≠ []) : name <+: w := by
  have htext : name ++ (note.getD [] ++ (closing ++ rest)) = w ++ closing := h.text_eq.symm
  have hle : name.length ≤ w.length := by
    by_contra hlt
    exact h.name_least w closing htext hw (by omega) (.inr List.prefix_rfl)
  exact List.prefix_of_prefix_length_le ⟨_, htext⟩ (List.prefix_append _ _) hle

/-- Between the delimiters, what a name within its line reads is what a name without an equals sign
reads, if there is no equals sign and the name stays within its line. -/
lemma markerReading_inLine_iff {closing w name rest : List Char} {note : Option (List Char)}
    (hw : w ≠ []) (hequals : '=' ∉ w) :
    MarkerReading [] .inLine closing (w ++ closing) name note rest ↔
      MarkerReading [] nameSet closing (w ++ closing) name note rest ∧ '\n' ∉ name := by
  constructor
  · intro h
    have hname : ∀ c ∈ name, nameSet.contains c = true := by
      intro c hc
      have hne : c ≠ '=' := fun heq => hequals (heq ▸ (h.name_leads hw).subset hc)
      simpa [nameSet, CharSet.contains, ClassItem.holds] using hne
    refine ⟨{ h with name_set := hname }, fun hmem => ?_⟩
    simpa [CharSet.contains] using h.name_set _ hmem
  · rintro ⟨h, hline⟩
    have hname : ∀ c ∈ name, CharSet.inLine.contains c = true := by
      intro c hc
      have hne : c ≠ '\n' := fun heq => hline (heq ▸ hc)
      simpa [CharSet.contains] using hne
    exact { h with name_set := hname }

end Regex

namespace Delimiters

open Regex

/-- The definition of a text that is not empty and holds no equals sign is read at its place. -/
lemma exists_definition_eq_some (d : Delimiters) {w : List Char} (hw : w ≠ []) (hequals : '=' ∉ w) :
    ∃ t, (d.definition.matchHere? (d.left.toList ++ (w ++ d.right.toList))).map MarkerText.ofMatch =
      some t := by
  have hread : d.definition.matchHere? (d.left.toList ++ (w ++ d.right.toList)) ≠ none := by
    intro hnone
    refine matchHere?_marker_eq_none_iff.1 hnone w d.right.toList rfl hw ?_ (.inr List.prefix_rfl)
    intro c hc
    have hne : c ≠ '=' := fun heq => hequals (heq ▸ hc)
    simpa [nameSet, CharSet.contains, ClassItem.holds] using hne
  obtain ⟨m, hm⟩ := Option.ne_none_iff_exists'.1 hread
  exact ⟨MarkerText.ofMatch m, by rw [hm, Option.map_some]⟩

/-- The paste of a text is read like its definition if the name stays within its line, and not at
all otherwise. -/
lemma paste_eq_some_iff_definition (d : Delimiters) {w : List Char} (hw : w ≠ [])
    (hequals : '=' ∉ w) (t : MarkerText) :
    (d.paste.matchHere? (d.left.toList ++ ['='] ++ (w ++ d.right.toList))).map MarkerText.ofMatch =
        some t ↔
      (d.definition.matchHere? (d.left.toList ++ (w ++ d.right.toList))).map MarkerText.ofMatch =
          some t ∧ '\n' ∉ t.name.toList := by
  rw [paste, definition, map_ofMatch_eq_some_iff, map_ofMatch_eq_some_iff, ← exists_and_right]
  refine exists_congr fun rest => ?_
  rw [markerReading_append_iff, markerReading_append_iff, markerReading_inLine_iff hw hequals]

end Delimiters

/-- Between non-empty delimiters every text that is not empty and holds no equals sign is read as a
definition.  Behind an equals sign it is read as a paste with a certain name and annotation exactly
when the definition has that name and that annotation and the name stays within its line. -/
theorem paste_eq_some_iff (d : Delimiters) (hleft : d.left ≠ "") (hright : d.right ≠ "") :
    ∃ markers, Markers.ofDelimiters d = .ok markers ∧
      ∀ w : String, w ≠ "" → '=' ∉ w.toList →
        (∃ t,
          (markers.definition.matchHere? (d.left ++ w ++ d.right).toList).map MarkerText.ofMatch =
          some t) ∧
        ∀ t,
          (markers.paste.matchHere? (d.left ++ "=" ++ w ++ d.right).toList).map MarkerText.ofMatch =
            some t ↔
          (markers.definition.matchHere? (d.left ++ w ++ d.right).toList).map MarkerText.ofMatch =
              some t ∧ '\n' ∉ t.name.toList := by
  refine ⟨_, Markers.ofDelimiters_eq_ok hleft hright, fun w hw hequals => ?_⟩
  have hw' : w.toList ≠ [] := by simpa using hw
  have hpaste := d.paste_eq_some_iff_definition hw' hequals
  have hdefinition := d.exists_definition_eq_some hw' hequals
  simp only [String.toList_append, List.append_assoc] at hpaste hdefinition ⊢
  exact ⟨hdefinition, hpaste⟩

/-- With the default delimiters, a name of two words and an annotation are pasted as they are
defined. -/
theorem paste_eq_some_iff_words :
    let d : Delimiters := {}
    (d.left ≠ "" ∧ d.right ≠ "") ∧ ("two words,note" ≠ "" ∧ '=' ∉ "two words,note".toList) ∧
      ∃ markers, Markers.ofDelimiters d = .ok markers ∧
        (markers.paste.matchHere? "<<=two words,note>>".toList).map MarkerText.ofMatch =
          some ⟨"two words", some ",note"⟩ := by
  intro d
  have hleft : d.left ≠ "" := by decide
  have hright : d.right ≠ "" := by decide
  have hequals : '=' ∉ "two words,note".toList := by decide
  obtain ⟨markers, hmarkers, hread⟩ := paste_eq_some_iff d hleft hright
  refine ⟨⟨hleft, hright⟩, ⟨by decide, hequals⟩, markers, hmarkers, ?_⟩
  rw [Markers.ofDelimiters_eq_ok hleft hright] at hmarkers
  obtain ⟨⟩ := hmarkers
  exact ((hread "two words,note" (by decide) hequals).2 _).2 ⟨by decide +kernel, by decide⟩

/-- A name of two lines is defined but not pasted: the definition is read with that name, and
nothing is read where it is pasted. -/
theorem paste_ne_definition_lines :
    ∃ markers, Markers.ofDelimiters {} = .ok markers ∧
      ¬∀ t, (markers.definition.matchHere? "<<a\nb>>".toList).map MarkerText.ofMatch = some t ↔
        (markers.paste.matchHere? "<<=a\nb>>".toList).map MarkerText.ofMatch = some t := by
  refine ⟨_, Markers.ofDelimiters_eq_ok (by decide) (by decide), fun h => ?_⟩
  have hdefinition : ((({} : Delimiters).definition.matchHere? "<<a\nb>>".toList).map
      MarkerText.ofMatch) = some ⟨"a\nb", none⟩ := by decide +kernel
  have hpaste : ((({} : Delimiters).paste.matchHere? "<<=a\nb>>".toList).map MarkerText.ofMatch) =
      none := by decide +kernel
  have hboth := (h _).1 hdefinition
  rw [hpaste] at hboth
  cases hboth

end LiterateLinks
