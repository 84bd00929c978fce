import Mathlib.Tactic.Common
import LiterateLinks.Regex.Basic

/-!
# Tables answer the question whether there is a match

Whether a text holds a match is computed by tables with one entry for every suffix of the text.
`Marks P text row` says that the row has the right length and marks exactly the suffixes with the
property `P`.  Every step of the computation turns a row that marks one property into a row that
marks another (`Regex.marks_rows`): the suffixes from which the expression reads a word and reaches
a marked suffix.  For an expression tied to both ends this says that the whole text is a word of the
expression (`Pattern.isMatch_tied_iff`).
-/

namespace LiterateLinks

/-- The row has an entry for every suffix of the text, and its entries mark the suffixes that have
the property. -/
def Marks (P : List Char → Prop) : List Char → List Bool → Prop
  | [], [b] => b = true ↔ P []
  | c :: cs, b :: row => (b = true ↔ P (c :: cs)) ∧ Marks P cs row
  | _, _ => False

variable {P Q : List Char → Prop}

/-- The first entry of a row is about the whole text. -/
lemma Marks.headD_iff {text : List Char} {row : List Bool} (h : Marks P text row) :
    row.headD false = true ↔ P text := by
  cases text with
  | nil =>
    cases row with
    | nil => exact h.elim
    | cons b row =>
      cases row with
      | nil => exact h
      | cons b' row => exact h.elim
  | cons c cs =>
    cases row with
    | nil => exact h.elim
    | cons b row => exact h.1

/-- Equivalent properties have the same rows. -/
lemma Marks.congr {text : List Char} {row : List Bool} (h : Marks P text row)
    (hPQ : ∀ s, P s ↔ Q s) : Marks Q text row := by
  obtain rfl : P = Q := funext fun s => propext (hPQ s)
  exact h

/-- The suffixes with either of two properties. -/
lemma Marks.or {text : List Char} {first second : List Bool} (hP : Marks P text first)
    (hQ : Marks Q text second) :
    Marks (fun s => P s ∨ Q s) text (List.zipWith (· || ·) first second) := by
  induction text generalizing first second with
  | nil =>
    rcases first with _ | ⟨b, _ | _⟩ <;> rcases second with _ | ⟨b', _ | _⟩ <;> simp_all [Marks]
  | cons c cs ih =>
    rcases first with _ | ⟨b, first⟩ <;> rcases second with _ | ⟨b', second⟩
    · exact hP.elim
    · exact hP.elim
    · exact hQ.elim
    · exact ⟨by simp [hP.1, hQ.1], ih hP.2 hQ.2⟩

/-- The suffixes that start with a character of the set and go on with a marked suffix. -/
lemma CharSet.marks_stepRow (set : CharSet) {text : List Char} {row : List Bool}
    (h : Marks P text row) :
    Marks (fun s => ∃ c cs, s = c :: cs ∧ set.contains c = true ∧ P cs) text
      (set.stepRow text row) := by
  induction text generalizing row with
  | nil =>
    rcases row with _ | ⟨b, _ | _⟩ <;> simp_all [Marks, stepRow]
  | cons c cs ih =>
    rcases row with _ | ⟨b, row⟩
    · exact h.elim
    · refine ⟨?_, ih h.2⟩
      simp only [Bool.and_eq_true, h.2.headD_iff, List.cons.injEq]
      constructor
      · rintro ⟨hc, hP⟩
        exact ⟨c, cs, ⟨rfl, rfl⟩, hc, hP⟩
      · rintro ⟨_, _, ⟨rfl, rfl⟩, hc, hP⟩
        exact ⟨hc, hP⟩

/-- The suffixes from which some characters of the set lead to a marked suffix. -/
lemma CharSet.marks_manyRow (set : CharSet) {text : List Char} {row : List Bool}
    (h : Marks P text row) :
    Marks (fun s => ∃ u v, s = u ++ v ∧ (∀ c ∈ u, set.contains c = true) ∧ P v) text
      (set.manyRow text row) := by
  induction text generalizing row with
  | nil =>
    rcases row with _ | ⟨b, _ | _⟩
    · exact h.elim
    · refine Iff.trans h ⟨fun hP => ⟨[], [], rfl, by simp, hP⟩, ?_⟩
      rintro ⟨u, v, huv, -, hP⟩
      obtain ⟨-, rfl⟩ := List.append_eq_nil_iff.1 huv.symm
      exact hP
    · exact h.elim
  | cons c cs ih =>
    rcases row with _ | ⟨b, row⟩
    · exact h.elim
    · have hlater := ih h.2
      refine ⟨?_, hlater⟩
      simp only [Bool.or_eq_true, Bool.and_eq_true, h.1, hlater.headD_iff]
      constructor
      · rintro (hP | ⟨hc, u, v, rfl, hu, hP⟩)
        · exact ⟨[], c :: cs, rfl, by simp, hP⟩
        · exact ⟨c :: u, v, rfl, by simpa [hc] using hu, hP⟩
      · rintro ⟨_ | ⟨d, u⟩, v, huv, hu, hP⟩
        · exact .inl (by rwa [huv])
        · simp only [List.cons_append, List.cons.injEq] at huv
          obtain ⟨rfl, rfl⟩ := huv
          exact .inr ⟨hu c (by simp), u, v, rfl, fun x hx => hu x (by simp [hx]), hP⟩

namespace Regex

/-- The rows of an expression mark the suffixes from which it reads a word and reaches a marked
suffix. -/
lemma marks_rows (e : Regex) {text : List Char} {row : List Bool} (h : Marks P text row) :
    Marks (fun s => ∃ u v, s = u ++ v ∧ Accepts e u ∧ P v) text (e.rows text row) := by
  induction e generalizing P row with
  | empty =>
    refine h.congr fun s => ⟨fun hP => ⟨[], s, rfl, .empty, hP⟩, ?_⟩
    rintro ⟨u, v, rfl, hu, hP⟩
    cases hu
    exact hP
  | one set =>
    refine (set.marks_stepRow h).congr fun s => ⟨?_, ?_⟩
    · rintro ⟨c, cs, rfl, hc, hP⟩
      exact ⟨[c], cs, rfl, .one hc, hP⟩
    · rintro ⟨u, v, rfl, hu, hP⟩
      cases hu with
      | one hc => exact ⟨_, v, rfl, hc, hP⟩
  | many set greedy =>
    refine (set.marks_manyRow h).congr fun s => ⟨?_, ?_⟩
    · rintro ⟨u, v, rfl, hu, hP⟩
      exact ⟨u, v, rfl, .many hu, hP⟩
    · rintro ⟨u, v, rfl, hu, hP⟩
      cases hu with
      | many hword => exact ⟨u, v, rfl, hword, hP⟩
  | cat first second ihf ihs =>
    refine (ihf (ihs h)).congr fun s => ⟨?_, ?_⟩
    · rintro ⟨u, _, rfl, hu, u', v, rfl, hu', hP⟩
      exact ⟨u ++ u', v, by simp, .cat hu hu', hP⟩
    · rintro ⟨_, v, rfl, hw, hP⟩
      cases hw with
      | @cat _ _ u u' hu hu' => exact ⟨u, u' ++ v, by simp, hu, u', v, rfl, hu', hP⟩
  | maybe body greedy ih =>
    refine ((ih h).or h).congr fun s => ⟨?_, ?_⟩
    · rintro (⟨u, v, rfl, hu, hP⟩ | hP)
      · exact ⟨u, v, rfl, .take hu, hP⟩
      · exact ⟨[], s, rfl, .skip, hP⟩
    · rintro ⟨u, v, rfl, hu, hP⟩
      cases hu with
      | skip => exact .inr hP
      | take hbody => exact .inl ⟨u, v, rfl, hbody, hP⟩
  | group index body ih =>
    refine (ih h).congr fun s => ⟨?_, ?_⟩
    · rintro ⟨u, v, rfl, hu, hP⟩
      exact ⟨u, v, rfl, .group hu, hP⟩
    · rintro ⟨u, v, rfl, hu, hP⟩
      cases hu with
      | group hbody => exact ⟨u, v, rfl, hbody, hP⟩

end Regex

namespace Pattern

/-- An expression tied to the end has to read up to the empty suffix. -/
lemma marks_lastRow (text : List Char) : Marks (· = []) text (lastRow true text) := by
  induction text with
  | nil => simp [lastRow, Marks]
  | cons c cs ih => exact ⟨by simp, ih⟩

/-- An expression tied to both ends matches a text exactly when the text is one of its words. -/
theorem isMatch_tied_iff (e : Regex) (text : List Char) :
    (⟨true, e, true⟩ : Pattern).isMatch text = true ↔ e.Accepts text := by
  have hrows := Regex.marks_rows e (marks_lastRow text)
  rw [isMatch, if_pos rfl, hrows.headD_iff]
  constructor
  · rintro ⟨u, v, huv, hu, rfl⟩
    rwa [huv, List.append_nil]
  · intro h
    exact ⟨text, [], (List.append_nil text).symm, h, rfl⟩

end Pattern

end LiterateLinks
