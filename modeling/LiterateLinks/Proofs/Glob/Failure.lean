import Mathlib.Tactic.Common
import LiterateLinks.Proofs.Glob.Expression

/-!
# Patterns that do not compile

The expression of a wildcard pattern is written so that nothing in the text of the pattern is taken
for syntax that it was not meant to be.  One thing can still go wrong: a range in a set may have its
ends out of order.  `Glob.compile?_eq_none_iff` says that there is no other way to fail.

The sets of a pattern are those that a reading from left to right meets (`Glob.HasSet`).  A bracket
inside a set opens no set of its own, and an unclosed bracket hides nothing that comes after it.
The ranges of a set are those that a reading of its body meets, where the two ends of a range belong
to that range alone (`Glob.HasReversedRange`).
-/

namespace LiterateLinks

namespace Glob

/-! ## The sets of a pattern -/

/-- The body is that of a closed set which a reading of the pattern from left to right meets. -/
inductive HasSet : List Char → List Char → Prop where
  | here {rest body after : List Char} : ClosedBy rest body after → HasSet ('[' :: rest) body
  | behind {rest other after body : List Char} :
      ClosedBy rest other after → HasSet after body → HasSet ('[' :: rest) body
  | unclosed {rest body : List Char} :
      (∀ other after, ¬ClosedBy rest other after) → HasSet rest body → HasSet ('[' :: rest) body
  | char {rest body : List Char} {c : Char} : c ≠ '[' → HasSet rest body → HasSet (c :: rest) body

/-- Every set of a pattern is one of its parts. -/
lemma HasSet.mem_parts {pattern body : List Char} (h : HasSet pattern body) :
    .bracket body ∈ parts pattern := by
  induction h with
  | here hclosed => simp [parts_closed hclosed]
  | behind hclosed _ ih => simp [parts_closed hclosed, ih]
  | unclosed hunclosed _ ih => simp [parts_unclosed hunclosed, ih]
  | @char rest body c hopen _ ih =>
    by_cases hstar : c = '*'
    · subst hstar
      exact List.mem_cons_of_mem _ ih
    by_cases hany : c = '?'
    · subst hany
      exact List.mem_cons_of_mem _ ih
    · simp [parts_char hstar hany hopen, ih]

/-- Every part of a pattern that is a set is met by a reading of the pattern. -/
lemma hasSet_of_mem_parts {pattern body : List Char} (h : .bracket body ∈ parts pattern) :
    HasSet pattern body := by
  induction pattern using pattern_induction with
  | nil => simp [parts, partsFrom] at h
  | star rest ih => exact .char (by decide) (ih (List.mem_of_ne_of_mem (by simp) h))
  | any rest ih => exact .char (by decide) (ih (List.mem_of_ne_of_mem (by simp) h))
  | closed rest other after hclosed ih =>
    rw [parts_closed hclosed, List.mem_cons] at h
    rcases h with hsame | hlater
    · obtain rfl : body = other := by simpa using hsame
      exact .here hclosed
    · exact .behind hclosed (ih hlater)
  | unclosed rest hunclosed ih =>
    rw [parts_unclosed hunclosed] at h
    exact .unclosed hunclosed (ih (List.mem_of_ne_of_mem (by simp) h))
  | char c rest hstar hany hopen ih =>
    rw [parts_char hstar hany hopen] at h
    exact .char hopen (ih (List.mem_of_ne_of_mem (by simp) h))

/-! ## Ranges out of order -/

/-- The body of a set without a leading `!`. -/
def afterBang : List Char → List Char
  | '!' :: body => body
  | body => body

/-- A range of the set with the given body has its ends out of order. -/
def HasReversedRange (body : List Char) : Prop :=
  ∃ lo hi, .range lo hi ∈ setItems (afterBang body) ∧ hi < lo

/-- Entries are refused exactly when they hold a range whose ends are out of order. -/
lemma ordered?_eq_none_iff {items : List ClassItem} :
    ordered? items = none ↔ ∃ lo hi, .range lo hi ∈ items ∧ hi < lo := by
  unfold ordered?
  constructor
  · intro h
    have hnot : ¬∀ item ∈ items, item.Ordered := by simpa using h
    push Not at hnot
    obtain ⟨item, hmem, hitem⟩ := hnot
    cases item with
    | single c => exact absurd trivial hitem
    | range lo hi => exact ⟨lo, hi, hmem, Char.not_le.1 hitem⟩
  · rintro ⟨lo, hi, hmem, hlt⟩
    have hnot : ¬∀ item ∈ items, item.Ordered := fun hall => Char.not_le.2 hlt (hall _ hmem)
    rw [if_neg hnot]

/-- A set cannot be read exactly when it has a range whose ends are out of order. -/
lemma bodySet?_eq_none_iff {body : List Char} : bodySet? body = none ↔ HasReversedRange body := by
  unfold bodySet? HasReversedRange afterBang
  split
  · simp [ordered?_eq_none_iff]
  · simp [ordered?_eq_none_iff]

/-- A part has no expression exactly when it is a set that cannot be read. -/
lemma regex?_eq_none_iff {part : Part} :
    part.regex? = none ↔ ∃ body, part = .bracket body ∧ bodySet? body = none := by
  cases part <;> simp [Part.regex?, Part.reading?]

/-- One part without an expression is enough for a list of parts to have none. -/
lemma mapM_regex?_eq_none_iff {parts : List Part} :
    parts.mapM Part.regex? = none ↔ ∃ part ∈ parts, part.regex? = none := by
  induction parts with
  | nil => simp
  | cons part parts ih =>
    rw [List.mapM_cons]
    cases hpart : part.regex? with
    | none => simp [hpart]
    | some e =>
      cases hparts : parts.mapM Part.regex? with
      | none => simpa [hpart, hparts] using ih
      | some es => simpa [hpart, hparts] using ih

/-- A pattern fails to compile exactly when one of its sets has a range whose ends are out of
order. -/
lemma compile?_eq_none_iff (pattern : String) :
    compile? pattern = none ↔ ∃ body, HasSet pattern.toList body ∧ HasReversedRange body := by
  rw [compile?_eq, Option.map_eq_none_iff, mapM_regex?_eq_none_iff]
  constructor
  · rintro ⟨part, hmem, hpart⟩
    obtain ⟨body, rfl, hbody⟩ := regex?_eq_none_iff.1 hpart
    exact ⟨body, hasSet_of_mem_parts hmem, bodySet?_eq_none_iff.1 hbody⟩
  · rintro ⟨body, hset, hreversed⟩
    exact ⟨_, hset.mem_parts, regex?_eq_none_iff.2 ⟨body, rfl, bodySet?_eq_none_iff.2 hreversed⟩⟩

/-- A pattern compiles if the ranges of all its sets are in order. -/
lemma exists_compile?_eq_some {pattern : String}
    (h : ∀ body, .bracket body ∈ parts pattern.toList → ¬HasReversedRange body) :
    ∃ compiled, compile? pattern = some compiled := by
  refine Option.ne_none_iff_exists'.1 fun hnone => ?_
  obtain ⟨body, hset, hreversed⟩ := (compile?_eq_none_iff pattern).1 hnone
  exact h body hset.mem_parts hreversed

end Glob

end LiterateLinks
