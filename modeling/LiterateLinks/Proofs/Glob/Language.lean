import Mathlib.Tactic.Common
import LiterateLinks.Glob

/-!
# The language of a wildcard pattern

`Glob.Fits pattern name` says what a wildcard pattern means, directly on the text of the pattern:
the pattern is read from left to right, a star stands for any run of characters, a question mark for
any one character, a closed bracket for one character of its set, and any other character, an
unclosed bracket among them, for itself.

A bracket is closed by the first `]` that comes after an optional `!` and an optional `]`
(`Glob.ClosedBy`).  The body of a set is read from left to right (`Glob.setItems`); a leading `!`
complements it (`Glob.InSet`).

The rest of the file compares this with the way patterns are taken apart: `Glob.fits_iff_partsFit`
says that a name fits a pattern exactly when it is made of pieces that fit its parts.
-/

namespace LiterateLinks

namespace Glob

/-! ## The meaning of a pattern -/

/-- The number of characters after an opening bracket that cannot close it: an optional `!` and then
an optional `]`. -/
def lead : List Char → ℕ
  | '!' :: ']' :: _ => 2
  | '!' :: _ => 1
  | ']' :: _ => 1
  | _ => 0

/-- The text after an opening bracket is the body of a set, the closing bracket and what comes after
it.  The closing bracket is the first one that can close the set. -/
structure ClosedBy (rest body after : List Char) : Prop where
  rest_eq : rest = body ++ ']' :: after
  lead_le : lead rest ≤ body.length
  not_mem : ']' ∉ body.drop (lead rest)

/-- The entries of a set, read from left to right: a character other than a dash that is followed by
a dash and a further character begins a range, anything else is a single character. -/
def setItems : List Char → List ClassItem
  | x :: d :: y :: rest =>
    if x ≠ '-' ∧ d = '-' then .range x y :: setItems rest
    else .single x :: setItems (d :: y :: rest)
  | x :: rest => .single x :: setItems rest
  | [] => []

/-- The character belongs to the set with the given body.  A leading `!` complements the set. -/
def InSet : List Char → Char → Prop
  | '!' :: body, c => ¬∃ item ∈ setItems body, item.holds c = true
  | body, c => ∃ item ∈ setItems body, item.holds c = true

/-- The name fits the pattern as a whole. -/
inductive Fits : List Char → List Char → Prop where
  | nil : Fits [] []
  | star {pattern name : List Char} (run : List Char) :
      Fits pattern name → Fits ('*' :: pattern) (run ++ name)
  | any {pattern name : List Char} (c : Char) :
      Fits pattern name → Fits ('?' :: pattern) (c :: name)
  | set {rest body after name : List Char} {c : Char} :
      ClosedBy rest body after → InSet body c → Fits after name → Fits ('[' :: rest) (c :: name)
  | unclosed {rest name : List Char} :
      (∀ body after, ¬ClosedBy rest body after) → Fits rest name → Fits ('[' :: rest) ('[' :: name)
  | char {pattern name : List Char} {c : Char} :
      c ≠ '*' → c ≠ '?' → c ≠ '[' → Fits pattern name → Fits (c :: pattern) (c :: name)

/-! ## Closing brackets -/

/-- A text that does not begin with a character has another one in front, or none. -/
lemma head?_ne_of_forall_ne {c : Char} {text : List Char} (h : ∀ rest, text = c :: rest → False) :
    ¬text.head? = some c := by
  cases text with
  | nil => simp
  | cons d rest =>
    simp only [List.head?_cons, Option.some.injEq]
    rintro rfl
    exact h rest rfl

/-- The body of a set consists of the characters that cannot close it and of those up to the next
closing bracket. -/
lemma classBody?_eq (rest : List Char) :
    classBody? rest = if (rest.drop (lead rest)).contains ']' then
      some (rest.take (lead rest) ++ (rest.drop (lead rest)).takeWhile (· != ']')) else none := by
  unfold lead
  split
  · simp [classBody?]
  · next hbracket => simp [classBody?, head?_ne_of_forall_ne hbracket]
  · simp [classBody?]
  · next _ hbang hbracket =>
    simp [classBody?, head?_ne_of_forall_ne hbang, head?_ne_of_forall_ne hbracket]

/-- The characters before the first closing bracket are other characters. -/
lemma bne_of_not_mem {c : Char} {text : List Char} (h : c ∉ text) :
    ∀ d ∈ text, (d != c) = true := by
  intro d hd
  rw [bne_iff_ne]
  rintro rfl
  exact h hd

/-- A bracket has a body exactly when it is closed. -/
lemma classBody?_eq_some_iff {rest body : List Char} :
    classBody? rest = some body ↔ ∃ after, ClosedBy rest body after := by
  rw [classBody?_eq]
  constructor
  · intro h
    split at h
    · next hmem =>
      obtain ⟨inner, after, hdrop, hnot⟩ :=
        List.eq_append_cons_of_mem (List.contains_iff_mem.1 hmem)
      rw [hdrop, List.takeWhile_append_of_pos (bne_of_not_mem hnot),
        List.takeWhile_cons_of_neg (by decide), List.append_nil] at h
      obtain rfl := Option.some.inj h
      have hlength : (rest.take (lead rest)).length = lead rest := by
        have hne : rest.drop (lead rest) ≠ [] := by simp [hdrop]
        have hlt := List.length_lt_of_drop_ne_nil hne
        simp only [List.length_take]
        omega
      refine ⟨after, ?_, ?_, ?_⟩
      · rw [List.append_assoc, ← hdrop, List.take_append_drop]
      · rw [List.length_append, hlength]
        omega
      · rwa [List.drop_left' hlength]
    · cases h
  · rintro ⟨after, hrest, hlead, hnot⟩
    generalize lead rest = k at hlead hnot ⊢
    subst hrest
    rw [List.drop_append_of_le_length hlead, List.take_append_of_le_length hlead,
      List.takeWhile_append_of_pos (bne_of_not_mem hnot), List.takeWhile_cons_of_neg (by decide),
      if_pos (by simp)]
    simp

/-- An unclosed bracket has no body. -/
lemma classBody?_eq_none_iff {rest : List Char} :
    classBody? rest = none ↔ ∀ body after, ¬ClosedBy rest body after := by
  rw [Option.eq_none_iff_forall_ne_some]
  refine forall_congr' fun body => ?_
  rw [Ne, classBody?_eq_some_iff, not_exists]

/-- Induction along the reading of a pattern.  After a closed bracket the reading goes on behind the
bracket that closes it, after anything else with the next character. -/
@[elab_as_elim]
lemma pattern_induction {motive : List Char → Prop} (pattern : List Char) (nil : motive [])
    (star : ∀ rest, motive rest → motive ('*' :: rest))
    (any : ∀ rest, motive rest → motive ('?' :: rest))
    (closed : ∀ rest body after, ClosedBy rest body after → motive after → motive ('[' :: rest))
    (unclosed : ∀ rest, (∀ body after, ¬ClosedBy rest body after) → motive rest →
      motive ('[' :: rest))
    (char : ∀ c rest, c ≠ '*' → c ≠ '?' → c ≠ '[' → motive rest → motive (c :: rest)) :
    motive pattern := by
  -- The length carries the induction: what comes after a closed bracket is not the tail.
  induction hn : pattern.length using Nat.strongRecOn generalizing pattern with
  | ind n ih =>
    subst hn
    rcases pattern with _ | ⟨c, rest⟩
    · exact nil
    have htail : motive rest := ih _ (by simp) rest rfl
    by_cases hstar : c = '*'
    · subst hstar
      exact star rest htail
    by_cases hany : c = '?'
    · subst hany
      exact any rest htail
    by_cases hopen : c = '['
    · subst hopen
      by_cases hclosed : ∃ body after, ClosedBy rest body after
      · obtain ⟨body, after, hclosed⟩ := hclosed
        have hafter : after.length < ('[' :: rest).length := by
          simp only [hclosed.rest_eq, List.length_cons, List.length_append]
          omega
        exact closed rest body after hclosed (ih _ hafter after rfl)
      · push Not at hclosed
        exact unclosed rest hclosed htail
    · exact char c rest hstar hany hopen htail

/-! ## Taking a pattern apart -/

/-- The characters of the last set are skipped. -/
lemma partsFrom_eq_drop (hidden : ℕ) (pattern : List Char) :
    partsFrom hidden pattern = parts (pattern.drop hidden) := by
  induction pattern generalizing hidden with
  | nil => simp [partsFrom, parts]
  | cons c cs ih =>
    cases hidden with
    | zero => rfl
    | succ hidden => simpa [partsFrom] using ih hidden

/-- A closed bracket is one part. -/
lemma parts_closed {rest body after : List Char} (h : ClosedBy rest body after) :
    parts ('[' :: rest) = .bracket body :: parts after := by
  have hbody : classBody? rest = some body := classBody?_eq_some_iff.2 ⟨after, h⟩
  have hdrop : rest.drop (body.length + 1) = after := by simp [h.rest_eq]
  calc parts ('[' :: rest) = .bracket body :: partsFrom (body.length + 1) rest := by
        simp [parts, partsFrom, hbody]
    _ = .bracket body :: parts after := by rw [partsFrom_eq_drop, hdrop]

/-- An unclosed bracket stands for itself. -/
lemma parts_unclosed {rest : List Char} (h : ∀ body after, ¬ClosedBy rest body after) :
    parts ('[' :: rest) = .char '[' :: parts rest := by
  simp [parts, partsFrom, classBody?_eq_none_iff.2 h]

/-- A character that is no wildcard stands for itself. -/
lemma parts_char {c : Char} (hstar : c ≠ '*') (hany : c ≠ '?') (hopen : c ≠ '[')
    (pattern : List Char) : parts (c :: pattern) = .char c :: parts pattern := by
  simp [parts, partsFrom, hstar, hany, hopen]

/-- The text stands for the part. -/
def Part.Stands : Part → List Char → Prop
  | .star, _ => True
  | .any, word => ∃ c, word = [c]
  | .bracket body, word => ∃ c, word = [c] ∧ InSet body c
  | .char c, word => word = [c]

/-- The name consists of texts that stand for the parts, in order. -/
def PartsFit : List Part → List Char → Prop
  | [], name => name = []
  | part :: parts, name => ∃ word rest, name = word ++ rest ∧ part.Stands word ∧ PartsFit parts rest

/-- A name that fits a pattern is made of texts that stand for its parts. -/
lemma partsFit_of_fits {pattern name : List Char} (h : Fits pattern name) :
    PartsFit (parts pattern) name := by
  induction h with
  | nil => rfl
  | star run _ ih => exact ⟨run, _, rfl, trivial, ih⟩
  | any c _ ih => exact ⟨[c], _, rfl, ⟨c, rfl⟩, ih⟩
  | @set rest body after name c hclosed hmem _ ih =>
    rw [parts_closed hclosed]
    exact ⟨[c], _, rfl, ⟨c, rfl, hmem⟩, ih⟩
  | unclosed hunclosed _ ih =>
    rw [parts_unclosed hunclosed]
    exact ⟨['['], _, rfl, rfl, ih⟩
  | @char pattern name c hstar hany hopen _ ih =>
    rw [parts_char hstar hany hopen]
    exact ⟨[c], _, rfl, rfl, ih⟩

/-- A name that is made of texts that stand for the parts of a pattern fits it. -/
lemma fits_of_partsFit {pattern name : List Char} (h : PartsFit (parts pattern) name) :
    Fits pattern name := by
  induction pattern using pattern_induction generalizing name with
  | nil =>
    obtain rfl : name = [] := h
    exact .nil
  | star rest ih =>
    obtain ⟨run, name, rfl, -, hname⟩ := h
    exact .star run (ih hname)
  | any rest ih =>
    obtain ⟨word, name, rfl, ⟨c, rfl⟩, hname⟩ := h
    exact .any c (ih hname)
  | closed rest body after hclosed ih =>
    rw [parts_closed hclosed] at h
    obtain ⟨word, name, rfl, ⟨c, rfl, hmem⟩, hname⟩ := h
    exact .set hclosed hmem (ih hname)
  | unclosed rest hunclosed ih =>
    rw [parts_unclosed hunclosed] at h
    obtain ⟨word, name, rfl, rfl, hname⟩ := h
    exact .unclosed hunclosed (ih hname)
  | char c rest hstar hany hopen ih =>
    rw [parts_char hstar hany hopen] at h
    obtain ⟨word, name, rfl, rfl, hname⟩ := h
    exact .char hstar hany hopen (ih hname)

/-- A name fits a pattern exactly when it is made of texts that stand for its parts. -/
lemma fits_iff_partsFit {pattern name : List Char} :
    Fits pattern name ↔ PartsFit (parts pattern) name :=
  ⟨partsFit_of_fits, fits_of_partsFit⟩

end Glob

end LiterateLinks
