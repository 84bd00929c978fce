import Mathlib.Tactic.Common
import LiterateLinks.Text.Pieces

/-!
# The pieces of a text

A text is cut at every separator, so the separator stands in no piece, and two texts with a
separator between them have the pieces of both.  A text without a separator is its only piece, and
in front of another text it extends the first piece of that one.
-/

namespace LiterateLinks

namespace Text

variable {α : Type} [DecidableEq α] {separator : α}

/-- The pieces of a text are the lists that the library's splitting gives. -/
lemma pieces_eq_splitOn (separator : α) (text : List α) :
    pieces separator text = text.splitOn separator := by
  induction text with
  | nil => rfl
  | cons c text ih =>
    rw [pieces, List.splitOn_cons_eq_if_modifyHead, ih]
    by_cases hc : c = separator
    · simp [hc]
    · rw [if_neg hc, if_neg (by simpa using hc)]
      cases hpieces : text.splitOn separator with
      | nil => exact absurd hpieces (List.splitOn_ne_nil separator text)
      | cons piece rest => rfl

/-- There is a first piece. -/
lemma pieces_ne_nil (separator : α) (text : List α) : pieces separator text ≠ [] := by
  rw [pieces_eq_splitOn]
  exact List.splitOn_ne_nil separator text

/-- A letter other than the separator belongs to the first piece. -/
lemma pieces_cons_of_ne {c : α} (h : c ≠ separator) (text : List α) :
    pieces separator (c :: text) = (pieces separator text).modifyHead (c :: ·) := by
  rw [pieces, if_neg h]
  cases hpieces : pieces separator text with
  | nil => exact absurd hpieces (pieces_ne_nil separator text)
  | cons piece rest => rfl

/-- A text without a separator is put in front of the first piece. -/
lemma pieces_append_of_not_mem {front : List α} (h : separator ∉ front) (text : List α) :
    pieces separator (front ++ text) = (pieces separator text).modifyHead (front ++ ·) := by
  induction front with
  | nil =>
    rw [List.nil_append]
    cases pieces separator text <;> rfl
  | cons c front ih =>
    obtain ⟨hc, hfront⟩ := not_or.1 (mt List.mem_cons.2 h)
    rw [List.cons_append, pieces_cons_of_ne (Ne.symm hc), ih hfront]
    cases pieces separator text <;> rfl

/-- A text without a separator is its only piece. -/
lemma pieces_of_not_mem {text : List α} (h : separator ∉ text) :
    pieces separator text = [text] := by
  rw [pieces_eq_splitOn, List.splitOn_eq_singleton h]

/-- A separator keeps the pieces on its two sides apart. -/
lemma pieces_append_cons (text rest : List α) :
    pieces separator (text ++ separator :: rest) =
      pieces separator text ++ pieces separator rest := by
  simp only [pieces_eq_splitOn]
  exact List.splitOn_append_cons_self text rest

/-- The separator stands in no piece. -/
lemma not_mem_of_mem_pieces {text piece : List α} (h : piece ∈ pieces separator text) :
    separator ∉ piece := by
  induction text generalizing piece with
  | nil =>
    obtain rfl : piece = [] := by simpa [pieces] using h
    exact List.not_mem_nil
  | cons c text ih =>
    by_cases hc : c = separator
    · rw [pieces, if_pos hc, List.mem_cons] at h
      obtain rfl | hlater := h
      · exact List.not_mem_nil
      · exact ih hlater
    · rw [pieces_cons_of_ne hc] at h
      cases hpieces : pieces separator text with
      | nil => exact absurd hpieces (pieces_ne_nil separator text)
      | cons first rest =>
        rw [hpieces] at ih h
        obtain rfl | hlater := List.mem_cons.1 h
        · have hfirst : separator ∉ first := ih List.mem_cons_self
          simpa [hfirst] using fun heq => hc heq.symm
        · exact ih (List.mem_cons_of_mem first hlater)

end Text

end LiterateLinks
