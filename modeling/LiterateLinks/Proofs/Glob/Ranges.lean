import Mathlib.Tactic.Common
import LiterateLinks.Proofs.Glob.Failure
import LiterateLinks.Proofs.Glob.Match

/-!
# Ranges in sets

In a shell the body of a set is a sequence of single characters and ranges.  A dash makes a range
unless it is the first or the last character, and a range may start with a dash if it comes first.
This file starts from such a sequence (`Glob.SpellsSet`), writes it down and says which characters
the compiled set contains.

Single characters and ranges are what they are in a shell, with one exception.  In a range that
starts with a dash the second dash is quoted, so that it does not begin an operator, and then it
makes no range: the set contains the two ends of the range and nothing between them
(`ClassItem.Contributes`).  The set is that of the shell exactly when the characters between these
ends belong to other entries (`Glob.LeavesNoGap`).
-/

namespace LiterateLinks

namespace ClassItem

/-- The entry as it is written in a set. -/
def written : ClassItem → List Char
  | .single c => [c]
  | .range lo hi => [lo, '-', hi]

/-- The character that the entry starts with. -/
def first : ClassItem → Char
  | .single c => c
  | .range lo _ => lo

/-- The character is one that the entry contributes to a compiled set.  A range that starts with a
dash contributes its two ends only. -/
def Contributes : ClassItem → Char → Prop
  | .single d, c => c = d
  | .range lo hi, c => if lo = '-' then c = lo ∨ c = hi else lo ≤ c ∧ c ≤ hi

/-- Whether an entry contributes a character is a comparison. -/
instance : (item : ClassItem) → (c : Char) → Decidable (item.Contributes c)
  | .single d, c => inferInstanceAs (Decidable (c = d))
  | .range lo hi, c =>
    inferInstanceAs (Decidable (if lo = '-' then c = lo ∨ c = hi else lo ≤ c ∧ c ≤ hi))

/-- The entries that are read where the entry is written. -/
def reading : ClassItem → List ClassItem
  | .single c => [.single c]
  | .range lo hi => if lo = '-' then [.single lo, .single '-', .single hi] else [.range lo hi]

variable {item : ClassItem} {c : Char}

/-- What an entry contributes is held by the entries that are read in its place. -/
lemma exists_mem_reading_iff :
    (∃ i ∈ item.reading, i.holds c = true) ↔ item.Contributes c := by
  cases item with
  | single d => simp [reading, holds, Contributes]
  | range lo hi =>
    by_cases hlo : lo = '-'
    · simp [reading, holds, Contributes, hlo]
    · simp [reading, holds, Contributes, hlo]

/-- Reading keeps the ends of ranges in order. -/
lemma ordered_of_mem_reading (h : item.Ordered) : ∀ i ∈ item.reading, i.Ordered := by
  cases item with
  | single d => simp [reading, Ordered]
  | range lo hi =>
    have hle : lo ≤ hi := h
    by_cases hlo : lo = '-'
    · simp [reading, Ordered, hlo]
    · simpa [reading, Ordered, hlo] using hle

/-- An entry holds what it contributes. -/
lemma Contributes.holds (h : item.Contributes c) (hordered : item.Ordered) :
    item.holds c = true := by
  cases item with
  | single d => simpa [Contributes, ClassItem.holds] using h
  | range lo hi =>
    have hle : lo ≤ hi := hordered
    by_cases hlo : lo = '-'
    · simp only [Contributes, if_pos hlo] at h
      rcases h with rfl | rfl
      · simpa [ClassItem.holds] using hle
      · simpa [ClassItem.holds] using hle
    · simpa [Contributes, ClassItem.holds, hlo] using h

/-- An entry that is no range from a dash contributes what it holds. -/
lemma contributes_of_holds (h : item.holds c = true) (hdash : ∀ hi, item ≠ .range '-' hi) :
    item.Contributes c := by
  cases item with
  | single d => simpa [Contributes, holds] using h
  | range lo hi =>
    have hlo : lo ≠ '-' := by
      rintro rfl
      exact hdash hi rfl
    simpa [Contributes, holds, hlo] using h

/-- Where a range from a dash does not contribute what it holds, the character lies strictly between
its ends. -/
lemma contributes_or_between {hi : Char} (h : (range '-' hi).holds c = true) :
    (range '-' hi).Contributes c ∨ '-' < c ∧ c < hi := by
  have hbounds : '-' ≤ c ∧ c ≤ hi := by simpa [holds] using h
  by_cases hlow : c = '-'
  · exact .inl (by simp [Contributes, hlow])
  by_cases hhigh : c = hi
  · exact .inl (by simp [Contributes, hhigh])
  · refine .inr ⟨?_, ?_⟩
    · exact Char.not_le.1 fun hle => hlow (Char.le_antisymm hle hbounds.1)
    · exact Char.not_le.1 fun hle => hhigh (Char.le_antisymm hbounds.2 hle)

end ClassItem

namespace Glob

/-! ## Writing a set -/

/-- The body of the set with the given entries. -/
def bodyOf (items : List ClassItem) : List Char :=
  items.flatMap ClassItem.written

/-- The entries are written in a set as in a shell: there is at least one, the ends of ranges are in
order, no closing bracket occurs, only the first entry may start with a dash, and it does not start
with `!`. -/
structure SpellsSet (items : List ClassItem) : Prop where
  ne_nil : items ≠ []
  ordered : ∀ item ∈ items, item.Ordered
  not_mem : ']' ∉ bodyOf items
  first_ne_dash : ∀ item ∈ items.tail, item.first ≠ '-'
  first_ne_bang : (bodyOf items).head? ≠ some '!'

/-- What lies strictly inside a leading range from a dash belongs to another entry. -/
def LeavesNoGap (items : List ClassItem) : Prop :=
  ∀ hi, items.head? = some (.range '-' hi) → ∀ c, '-' < c → c < hi →
    ∃ item ∈ items.tail, item.holds c = true

/-- An entry is written with its first character in front. -/
lemma head?_bodyOf (items : List ClassItem) :
    (bodyOf items).head? = items.head?.map ClassItem.first := by
  rcases items with _ | ⟨_ | _, items⟩ <;> rfl

/-- A character that no dash follows is an entry of its own. -/
lemma setItems_of_head?_ne {rest : List Char} (h : rest.head? ≠ some '-') (c : Char) :
    setItems (c :: rest) = .single c :: setItems rest := by
  rcases rest with _ | ⟨d, _ | ⟨y, rest⟩⟩
  · simp [setItems]
  · simp [setItems]
  · have hd : ¬(c ≠ '-' ∧ d = '-') := fun hrange => h (by simp [hrange.2])
    rw [setItems, if_neg hd]

/-- An entry is read where it is written, if no dash follows it. -/
lemma setItems_written_append {rest : List Char} (h : rest.head? ≠ some '-') (item : ClassItem) :
    setItems (item.written ++ rest) = item.reading ++ setItems rest := by
  cases item with
  | single c => exact setItems_of_head?_ne h c
  | range lo hi =>
    by_cases hlo : lo = '-'
    · subst hlo
      simp [ClassItem.written, ClassItem.reading, setItems_dash, setItems_of_head?_ne h]
    · simp [ClassItem.written, ClassItem.reading, hlo, setItems]

/-- The entries of a written set are read one after the other. -/
lemma setItems_bodyOf {items : List ClassItem} (h : ∀ item ∈ items.tail, item.first ≠ '-') :
    setItems (bodyOf items) = items.flatMap ClassItem.reading := by
  induction items with
  | nil => rfl
  | cons item items ih =>
    have hnext : (bodyOf items).head? ≠ some '-' := by
      rw [head?_bodyOf]
      cases items with
      | nil => simp
      | cons next items => simpa using h next (by simp)
    have hlater := ih fun i hi => h i (List.mem_of_mem_tail hi)
    rw [List.flatMap_cons, ← hlater]
    exact setItems_written_append hnext item

namespace SpellsSet

variable {items : List ClassItem}

/-- The body of a set has a first character, which neither negates the set nor closes it. -/
lemma exists_bodyOf_eq (h : SpellsSet items) :
    ∃ c cs, bodyOf items = c :: cs ∧ c ≠ '!' ∧ ']' ∉ c :: cs := by
  obtain ⟨item, more, rfl⟩ := List.exists_cons_of_ne_nil h.ne_nil
  have hne : bodyOf (item :: more) ≠ [] := by cases item <;> simp [bodyOf, ClassItem.written]
  obtain ⟨c, cs, hbody⟩ := List.exists_cons_of_ne_nil hne
  have hbang := h.first_ne_bang
  have hmem := h.not_mem
  rw [hbody] at hbang hmem
  exact ⟨c, cs, hbody, by simpa using hbang, hmem⟩

/-- The set is the whole pattern. -/
lemma parts_bracket (h : SpellsSet items) :
    parts ('[' :: (bodyOf items ++ [']'])) = [.bracket (bodyOf items)] := by
  obtain ⟨c, cs, hbody, hbang, hmem⟩ := h.exists_bodyOf_eq
  have hclose : c ≠ ']' := fun heq => hmem (by simp [heq])
  have hlead : lead (c :: cs ++ [']']) = 0 := by simp [lead, hbang, hclose]
  have hclosed : ClosedBy (c :: cs ++ [']']) (c :: cs) [] :=
    ⟨rfl, by rw [hlead]; exact Nat.zero_le _, by rwa [hlead, List.drop_zero]⟩
  rw [hbody, parts_closed hclosed]
  rfl

/-- The negated set is the whole pattern. -/
lemma parts_negated (h : SpellsSet items) :
    parts ('[' :: '!' :: (bodyOf items ++ [']'])) = [.bracket ('!' :: bodyOf items)] := by
  obtain ⟨c, cs, hbody, -, hmem⟩ := h.exists_bodyOf_eq
  have hclose : c ≠ ']' := fun heq => hmem (by simp [heq])
  have hlead : lead ('!' :: (c :: cs ++ [']'])) = 1 := by simp [lead, hclose]
  have hclosed : ClosedBy ('!' :: (c :: cs ++ [']'])) ('!' :: c :: cs) [] :=
    ⟨rfl, by rw [hlead]; simp, by rwa [hlead, List.drop_one, List.tail_cons]⟩
  rw [hbody, parts_closed hclosed]
  rfl

/-- The characters of the entries that are read are those that the written entries contribute. -/
lemma exists_mem_setItems_iff (h : SpellsSet items) (c : Char) :
    (∃ item ∈ setItems (bodyOf items), item.holds c = true) ↔
      ∃ item ∈ items, item.Contributes c := by
  rw [setItems_bodyOf h.first_ne_dash]
  simp only [List.mem_flatMap, ← ClassItem.exists_mem_reading_iff]
  constructor
  · rintro ⟨i, ⟨item, hitem, hi⟩, hholds⟩
    exact ⟨item, hitem, i, hi, hholds⟩
  · rintro ⟨item, hitem, i, hi, hholds⟩
    exact ⟨i, ⟨item, hitem, hi⟩, hholds⟩

/-- The body of the set has no leading `!`. -/
lemma afterBang_bodyOf (h : SpellsSet items) : afterBang (bodyOf items) = bodyOf items := by
  obtain ⟨c, cs, hbody, hbang, -⟩ := h.exists_bodyOf_eq
  simp [hbody, afterBang, hbang]

/-- A character belongs to the set exactly when some entry contributes it. -/
lemma inSet_bodyOf_iff (h : SpellsSet items) (c : Char) :
    InSet (bodyOf items) c ↔ ∃ item ∈ items, item.Contributes c := by
  rw [← h.exists_mem_setItems_iff]
  obtain ⟨d, cs, hbody, hbang, -⟩ := h.exists_bodyOf_eq
  simp [hbody, InSet, hbang]

/-- A character belongs to the negated set exactly when no entry contributes it. -/
lemma inSet_negated_iff (h : SpellsSet items) (c : Char) :
    InSet ('!' :: bodyOf items) c ↔ ¬∃ item ∈ items, item.Contributes c := by
  rw [← h.exists_mem_setItems_iff]
  rfl

/-- The set has no range whose ends are out of order. -/
lemma not_hasReversedRange (h : SpellsSet items) {body : List Char}
    (hbody : afterBang body = bodyOf items) : ¬HasReversedRange body := by
  rintro ⟨lo, hi, hmem, hlt⟩
  rw [hbody, setItems_bodyOf h.first_ne_dash] at hmem
  obtain ⟨item, hitem, hread⟩ := List.mem_flatMap.1 hmem
  exact Char.not_le.2 hlt (ClassItem.ordered_of_mem_reading (h.ordered item hitem) _ hread)

/-- Only the first entry can be a range that starts with a dash. -/
lemma ne_dash_range_of_mem_tail (h : SpellsSet items) {item : ClassItem}
    (hitem : item ∈ items.tail) :
    ∀ hi, item ≠ .range '-' hi := by
  rintro hi rfl
  exact h.first_ne_dash _ hitem rfl

/-- If every character that is held is contributed, no gap is left. -/
lemma leavesNoGap (h : SpellsSet items)
    (hall : ∀ c, (∃ item ∈ items, item.holds c = true) → ∃ item ∈ items, item.Contributes c) :
    LeavesNoGap items := by
  intro hi hhead c hlow hhigh
  obtain ⟨more, rfl⟩ := List.head?_eq_some_iff.1 hhead
  have hbounds : '-' ≤ c ∧ c ≤ hi :=
    ⟨Char.not_lt.1 (Char.lt_asymm hlow), Char.not_lt.1 (Char.lt_asymm hhigh)⟩
  have hholds : (ClassItem.range '-' hi).holds c = true := by
    simpa [ClassItem.holds] using hbounds
  obtain ⟨item, hitem, hcontributes⟩ := hall c ⟨_, List.mem_cons_self, hholds⟩
  rcases List.mem_cons.1 hitem with rfl | hlater
  · -- the range itself contributes its ends only
    rcases hcontributes with rfl | rfl
    · exact absurd hlow (Char.lt_irrefl _)
    · exact absurd hhigh (Char.lt_irrefl _)
  · exact ⟨item, hlater, hcontributes.holds (h.ordered item hitem)⟩

/-- If no gap is left, every character that is held is contributed. -/
lemma exists_contributes (h : SpellsSet items) (hgap : LeavesNoGap items) {item : ClassItem}
    {c : Char} (hitem : item ∈ items) (hholds : item.holds c = true) :
    ∃ other ∈ items, other.Contributes c := by
  obtain ⟨first, more, rfl⟩ := List.exists_cons_of_ne_nil h.ne_nil
  have hmore : ∀ other ∈ more, other.holds c = true → other.Contributes c := fun other hother hc =>
    ClassItem.contributes_of_holds hc (h.ne_dash_range_of_mem_tail hother)
  rcases List.mem_cons.1 hitem with rfl | hlater
  · by_cases hdash : ∃ hi, item = .range '-' hi
    · obtain ⟨hi, rfl⟩ := hdash
      rcases ClassItem.contributes_or_between hholds with hcontributes | ⟨hlow, hhigh⟩
      · exact ⟨_, hitem, hcontributes⟩
      · obtain ⟨other, hother, hc⟩ := hgap hi rfl c hlow hhigh
        exact ⟨other, List.mem_cons_of_mem _ hother, hmore other hother hc⟩
    · push Not at hdash
      exact ⟨item, hitem, ClassItem.contributes_of_holds hholds hdash⟩
  · exact ⟨item, hitem, hmore item hlater hholds⟩

/-- The entries contribute what they hold exactly when they leave no gap. -/
lemma contributes_iff_holds (h : SpellsSet items) :
    (∀ c, (∃ item ∈ items, item.Contributes c) ↔ ∃ item ∈ items, item.holds c = true) ↔
      LeavesNoGap items := by
  constructor
  · exact fun hsame => h.leavesNoGap fun c => (hsame c).2
  · intro hgap c
    constructor
    · rintro ⟨item, hitem, hcontributes⟩
      exact ⟨item, hitem, hcontributes.holds (h.ordered item hitem)⟩
    · rintro ⟨item, hitem, hholds⟩
      exact h.exists_contributes hgap hitem hholds

end SpellsSet

/-! ## Matching a set -/

/-- A pattern that is a single set compiles if the set can be read, and matches the one-character
names of the set. -/
lemma exists_compile?_of_parts {pattern : String} {body : List Char}
    (hparts : parts pattern.toList = [.bracket body]) (hbody : ¬HasReversedRange body) :
    ∃ compiled, compile? pattern = some compiled ∧
      ∀ name : List Char, compiled.isMatch name = true ↔ ∃ c, name = [c] ∧ InSet body c := by
  have hsets : ∀ other, .bracket other ∈ parts pattern.toList → ¬HasReversedRange other := by
    intro other hmem
    obtain rfl : other = body := by simpa [hparts] using hmem
    exact hbody
  obtain ⟨compiled, hcompiled⟩ := exists_compile?_eq_some hsets
  refine ⟨compiled, hcompiled, fun name => ?_⟩
  rw [isMatch_iff_partsFit hcompiled, hparts]
  simp [PartsFit, Part.Stands]

/-- A set that is written as in a shell compiles, negated or not, and matches exactly the
one-character names that some entry contributes, or, negated, the other one-character names.  These
are the names that some entry holds exactly when no gap is left inside a range that starts with a
dash. -/
theorem isMatch_set_iff {items : List ClassItem} (h : SpellsSet items) :
    ∃ inside outside,
      compile? ("[" ++ String.ofList (bodyOf items) ++ "]") = some inside ∧
      compile? ("[!" ++ String.ofList (bodyOf items) ++ "]") = some outside ∧
      (∀ name : String, inside.isMatch name.toList = true ↔
        ∃ c, name.toList = [c] ∧ ∃ item ∈ items, item.Contributes c) ∧
      (∀ name : String, outside.isMatch name.toList = true ↔
        ∃ c, name.toList = [c] ∧ ¬∃ item ∈ items, item.Contributes c) ∧
      ((∀ c, (∃ item ∈ items, item.Contributes c) ↔ ∃ item ∈ items, item.holds c = true) ↔
        LeavesNoGap items) := by
  have hopen : ("[" ++ String.ofList (bodyOf items) ++ "]").toList =
      '[' :: (bodyOf items ++ [']']) := by simp
  have hbang : ("[!" ++ String.ofList (bodyOf items) ++ "]").toList =
      '[' :: '!' :: (bodyOf items ++ [']']) := by simp
  obtain ⟨inside, hinside, hmatch⟩ := exists_compile?_of_parts (hopen ▸ h.parts_bracket)
    (h.not_hasReversedRange h.afterBang_bodyOf)
  obtain ⟨outside, houtside, hnegated⟩ := exists_compile?_of_parts (hbang ▸ h.parts_negated)
    (h.not_hasReversedRange rfl)
  refine ⟨inside, outside, hinside, houtside, fun name => ?_, fun name => ?_,
    h.contributes_iff_holds⟩
  · simp only [hmatch, h.inSet_bodyOf_iff]
  · simp only [hnegated, h.inSet_negated_iff]

/-- A range that starts with a dash, a caret and a range that ends with a dash: the comma is inside
the last range, the digit zero is lost in the gap that the first range leaves. -/
theorem isMatch_set_iff_dashes :
    let items : List ClassItem := [.range '-' '9', .single '^', .range '+' '-']
    SpellsSet items ∧ ¬LeavesNoGap items ∧
      ∃ inside outside, compile? "[--9^+--]" = some inside ∧ compile? "[!--9^+--]" = some outside ∧
        inside.isMatch ",".toList = true ∧ outside.isMatch "0".toList = true := by
  intro items
  have hspells : SpellsSet items := ⟨by decide, by decide, by decide, by decide, by decide⟩
  obtain ⟨inside, outside, hinside, houtside, hmatch, hnegated, hgap⟩ := isMatch_set_iff hspells
  have hlost : ¬∃ item ∈ items, item.Contributes '0' := by decide
  refine ⟨hspells, ?_, inside, outside, hinside, houtside, ?_, ?_⟩
  · rw [← hgap]
    intro hsame
    exact hlost ((hsame '0').2 (by decide))
  · exact (hmatch ",").2 ⟨',', rfl, by decide⟩
  · exact (hnegated "0").2 ⟨'0', rfl, hlost⟩

/-- A full stop lies in the range from the dash to the digit zero, but the compiled range does not
match it. -/
theorem isMatch_dash_range_ne_holds :
    SpellsSet [.range '-' '0'] ∧ bodyOf [.range '-' '0'] = "--0".toList ∧
      (ClassItem.range '-' '0').holds '.' = true ∧
      ∃ compiled, compile? "[--0]" = some compiled ∧ compiled.isMatch ".".toList = false := by
  have hmatch : (compile? "[--0]").any (fun compiled => !compiled.isMatch ".".toList) = true := by
    decide +kernel
  obtain ⟨compiled, hcompiled, hname⟩ := (Option.any_eq_true _ _).1 hmatch
  exact ⟨⟨by decide, by decide, by decide, by decide, by decide⟩, by decide, by decide, compiled,
    hcompiled, by simpa using hname⟩

end Glob

end LiterateLinks
