import Mathlib.Data.List.TakeWhile
import Mathlib.Tactic.Common
import LiterateLinks.Chunk.Name
import LiterateLinks.Proofs.Regex.Search

/-!
# The ordinals of fragments

A fragment is named by its parent, a dot and a number (`Chunk.IsNumber`): decimal digits, with at
most one minus sign in front.  The number holds no dot, so its dot is the last one of the name, and
everything in front of that dot belongs to the parent, whatever dots, digits and line breaks stand
there.

The ordinal is found by a search from left to right for an expression that is tied to the end of the
name.  A dot and a number further to the left are read and then given up, because the name does not
end there (`Chunk.find?_ordinal_eq_some`).  So the search finds what is also found from the end of
the name, by reading it backwards: digits as far as they go, a minus sign if there is one, and the
dot (`Chunk.stripOrdinal_eq_dropOrdinal`).  What is left is determined by the name, and so a name
has at most one parent.
-/

namespace LiterateLinks

namespace Chunk

/-! ## Numbers -/

/-- At least one decimal digit, and nothing else.  Only the ten digits of ASCII count. -/
def IsDigits (text : List Char) : Prop :=
  text ≠ [] ∧ ∀ c ∈ text, '0' ≤ c ∧ c ≤ '9'

/-- The number of a fragment: digits, with an optional minus sign in front. -/
def IsNumber (number : String) : Prop :=
  ∃ sign ∈ [[], ['-']], ∃ digits, IsDigits digits ∧ number.toList = sign ++ digits

/-- A sign reads the same in both directions. -/
lemma reverse_sign {sign : List Char} (h : sign ∈ [[], ['-']]) : sign.reverse = sign := by
  revert sign
  decide

/-- Digits stay digits when they are reversed. -/
lemma isDigits_reverse {text : List Char} : IsDigits text.reverse ↔ IsDigits text := by
  simp [IsDigits]

/-- Each of the digits is one for the library. -/
lemma IsDigits.all_isDigit {text : List Char} (h : IsDigits text) :
    ∀ c ∈ text, c.isDigit = true := by
  intro c hc
  simpa [Char.isDigit, Char.le_def] using h.2 c hc

/-- The digits that a text begins with. -/
lemma isDigits_takeWhile {text : List Char} (h : text.takeWhile Char.isDigit ≠ []) :
    IsDigits (text.takeWhile Char.isDigit) := by
  refine ⟨h, fun c hc => ?_⟩
  have hdigit : c.isDigit = true := List.mem_takeWhile_imp hc
  simpa [Char.isDigit, Char.le_def] using hdigit

/-- No dot stands in a number. -/
lemma IsNumber.no_dot {number : String} (h : IsNumber number) : '.' ∉ number.toList := by
  obtain ⟨sign, hsign, digits, hdigits, hnumber⟩ := h
  have hnot : '.' ∉ digits := fun hdot => absurd (hdigits.all_isDigit '.' hdot) (by decide)
  obtain rfl | rfl : sign = [] ∨ sign = ['-'] := by simpa using hsign
  · rwa [hnumber, List.nil_append]
  · rw [hnumber, List.singleton_append, List.mem_cons, not_or]
    exact ⟨by decide, hnot⟩

/-! ## The expression of an ordinal -/

/-- The set of the ten digits. -/
def digitSet : CharSet :=
  .bracket false [.range '0' '9']

/-- The expression that is read from its written form. -/
def ordinal : Pattern where
  fromStart := false
  body := .concat [.one (.only '.'), .maybe (.one (.only '-')) true,
    .cat (.one digitSet) (.many digitSet true)]
  toEnd := true

/-- The written expression of an ordinal can be read. -/
lemma ordinal?_eq : ordinal? = some ordinal := by
  decide +kernel

/-- The digit set contains the digits of ASCII. -/
lemma contains_digitSet {c : Char} : digitSet.contains c = true ↔ '0' ≤ c ∧ c ≤ '9' := by
  simp [digitSet, CharSet.contains, ClassItem.holds]

/-- One digit and then any number of them are digits. -/
lemma accepts_digits_iff {word : List Char} :
    Regex.Accepts (.cat (.one digitSet) (.many digitSet true)) word ↔ IsDigits word := by
  constructor
  · intro h
    cases h with
    | cat hfirst hrest =>
      obtain ⟨c, rfl, hc⟩ := Regex.accepts_one_iff.1 hfirst
      rw [Regex.accepts_many_iff] at hrest
      have hdigits : ∀ d ∈ _, '0' ≤ d ∧ d ≤ '9' := fun d hd => contains_digitSet.1 (hrest d hd)
      exact ⟨List.cons_ne_nil c _, List.forall_mem_cons.2 ⟨contains_digitSet.1 hc, hdigits⟩⟩
  · rintro ⟨hne, hdigits⟩
    obtain ⟨c, cs, rfl⟩ := List.exists_cons_of_ne_nil hne
    obtain ⟨hc, hcs⟩ := List.forall_mem_cons.1 hdigits
    exact .cat (.one (contains_digitSet.2 hc)) (.many fun d hd => contains_digitSet.2 (hcs d hd))

/-- The expression accepts a dot, an optional minus sign and digits. -/
lemma accepts_ordinal_iff {word : List Char} :
    Regex.Accepts ordinal.body word ↔
      ∃ sign ∈ [[], ['-']], ∃ digits, IsDigits digits ∧ word = '.' :: (sign ++ digits) := by
  simp only [ordinal, Regex.accepts_concat_cons_iff, Regex.accepts_concat_nil_iff,
    Regex.accepts_maybe_iff, Regex.accepts_one_iff, accepts_digits_iff]
  constructor
  · rintro ⟨_, _, rfl, ⟨dot, rfl, hdot⟩, sign, _, rfl, hsign, digits, _, rfl, hdigits, rfl⟩
    obtain rfl : dot = '.' := by simpa [CharSet.contains] using hdot
    refine ⟨sign, ?_, digits, hdigits, by simp⟩
    rcases hsign with rfl | ⟨minus, rfl, hminus⟩
    · exact List.mem_cons_self
    · obtain rfl : minus = '-' := by simpa [CharSet.contains] using hminus
      exact List.mem_cons_of_mem _ List.mem_cons_self
  · rintro ⟨sign, hsign, digits, hdigits, rfl⟩
    refine ⟨['.'], sign ++ digits, rfl, ⟨'.', rfl, by decide⟩, sign, digits, rfl, ?_, digits, [],
      by simp, hdigits, rfl⟩
    obtain rfl | rfl : sign = [] ∨ sign = ['-'] := by simpa using hsign
    · exact .inl rfl
    · exact .inr ⟨'-', rfl, by decide⟩

/-- What the search leaves in front of an ordinal, and the ordinal up to the end of the name. -/
lemma find?_ordinal_eq_some {name parent : List Char} {m : Match}
    (h : ordinal.find? name = some (parent, m)) :
    ∃ sign ∈ [[], ['-']], ∃ digits, IsDigits digits ∧ name = parent ++ '.' :: (sign ++ digits) := by
  obtain ⟨after, rfl, hfits⟩ := Pattern.fitsAt_of_find? h
  obtain rfl : after = [] := hfits.stop rfl
  obtain ⟨sign, hsign, digits, hdigits, hwhole⟩ := accepts_ordinal_iff.1 hfits.accepts
  exact ⟨sign, hsign, digits, hdigits, by rw [hwhole, List.append_nil]⟩

/-- A name that ends in an ordinal is not searched in vain. -/
lemma find?_ordinal_ne_none {parent sign digits : List Char} (hsign : sign ∈ [[], ['-']])
    (hdigits : IsDigits digits) : ordinal.find? (parent ++ '.' :: (sign ++ digits)) ≠ none := by
  have haccepts : Regex.Accepts ordinal.body ('.' :: (sign ++ digits)) :=
    accepts_ordinal_iff.2 ⟨sign, hsign, digits, hdigits, rfl⟩
  have hfits : ordinal.FitsAt parent ('.' :: (sign ++ digits)) [] :=
    ⟨haccepts, fun hstart => absurd hstart Bool.false_ne_true, fun _ => rfl⟩
  simpa using Pattern.find?_ne_none hfits

/-! ## Taking the ordinal off -/

/-- Removes the ordinal from the reversed name: digits, an optional minus sign and a dot in
front. -/
def dropOrdinal? (reversed : List Char) : Option (List Char) :=
  let digits := reversed.takeWhile Char.isDigit
  let rest := reversed.dropWhile Char.isDigit
  let rest := if rest.head? = some '-' then rest.tail else rest
  if digits.isEmpty || rest.head? != some '.' then none else some rest.tail

/-- What is left of a reversed name: digits, an optional minus sign and a dot are taken off its
front. -/
lemma dropOrdinal?_eq_some_iff {reversed parent : List Char} :
    dropOrdinal? reversed = some parent ↔
      ∃ sign ∈ [[], ['-']], ∃ digits, IsDigits digits ∧
        reversed = digits ++ (sign ++ '.' :: parent) := by
  constructor
  · intro h
    have hsplit := List.takeWhile_append_dropWhile (p := Char.isDigit) (l := reversed)
    by_cases hminus : (reversed.dropWhile Char.isDigit).head? = some '-'
    · simp only [dropOrdinal?, if_pos hminus, Option.ite_none_left_eq_some, Option.some.injEq,
        Bool.or_eq_true, List.isEmpty_iff, bne_iff_ne, not_or, not_not] at h
      obtain ⟨⟨hdigits, hdot⟩, rfl⟩ := h
      obtain ⟨rest, hrest⟩ := List.head?_eq_some_iff.1 hminus
      obtain ⟨parent, hparent⟩ := List.head?_eq_some_iff.1 hdot
      refine ⟨['-'], by simp, _, isDigits_takeWhile hdigits, ?_⟩
      rw [hparent, List.tail_cons, ← hparent, hrest, List.tail_cons, List.singleton_append, ← hrest,
        hsplit]
    · simp only [dropOrdinal?, if_neg hminus, Option.ite_none_left_eq_some, Option.some.injEq,
        Bool.or_eq_true, List.isEmpty_iff, bne_iff_ne, not_or, not_not] at h
      obtain ⟨⟨hdigits, hdot⟩, rfl⟩ := h
      obtain ⟨parent, hparent⟩ := List.head?_eq_some_iff.1 hdot
      refine ⟨[], by simp, _, isDigits_takeWhile hdigits, ?_⟩
      rw [hparent, List.tail_cons, List.nil_append, ← hparent, hsplit]
  · rintro ⟨sign, hsign, digits, hdigits, rfl⟩
    have hall := hdigits.all_isDigit
    obtain rfl | rfl : sign = [] ∨ sign = ['-'] := by simpa using hsign
    all_goals
      simp [dropOrdinal?, List.takeWhile_append_of_pos hall, List.dropWhile_append_of_pos hall,
        hdigits.1, show '.'.isDigit = false by decide, show '-'.isDigit = false by decide]

/-- The search from left to right finds what is taken off from the end. -/
lemma find?_ordinal_eq (name : List Char) :
    (ordinal.find? name).map Prod.fst = (dropOrdinal? name.reverse).map List.reverse := by
  cases hfind : ordinal.find? name with
  | some found =>
    obtain ⟨sign, hsign, digits, hdigits, hname⟩ := find?_ordinal_eq_some hfind
    have hdrop : dropOrdinal? name.reverse = some found.1.reverse := by
      rw [dropOrdinal?_eq_some_iff]
      refine ⟨sign, hsign, digits.reverse, isDigits_reverse.2 hdigits, ?_⟩
      rw [hname]
      simp [reverse_sign hsign]
    rw [hdrop, Option.map_some, Option.map_some, List.reverse_reverse]
  | none =>
    cases hdrop : dropOrdinal? name.reverse with
    | none => rfl
    | some parent =>
      obtain ⟨sign, hsign, digits, hdigits, hname⟩ := dropOrdinal?_eq_some_iff.1 hdrop
      have hsplit : name = parent.reverse ++ '.' :: (sign ++ digits.reverse) := by
        rw [← List.reverse_reverse name, hname]
        simp [reverse_sign hsign]
      rw [hsplit] at hfind
      exact absurd hfind (find?_ordinal_ne_none hsign (isDigits_reverse.2 hdigits))

/-- A name is stripped of the ordinal that its reversed text begins with. -/
lemma stripOrdinal_eq_dropOrdinal (name : String) :
    stripOrdinal name =
      ((dropOrdinal? name.toList.reverse).map fun parent => String.ofList parent.reverse).getD
        name := by
  have hfind := find?_ordinal_eq name.toList
  rw [stripOrdinal, ordinal?_eq, Option.bind_some]
  cases hdrop : dropOrdinal? name.toList.reverse with
  | none =>
    rw [hdrop, Option.map_none, Option.map_eq_none_iff] at hfind
    rw [hfind]
    rfl
  | some parent =>
    rw [hdrop, Option.map_some, Option.map_eq_some_iff] at hfind
    obtain ⟨⟨front, m⟩, hfound, rfl⟩ := hfind
    rw [hfound]
    rfl

/-- A name whose ordinal can be taken off is its parent, a dot and a number. -/
lemma dropOrdinal?_reverse_eq_some_iff {name parent : String} :
    dropOrdinal? name.toList.reverse = some parent.toList.reverse ↔
      ∃ number, IsNumber number ∧ name = parent ++ "." ++ number := by
  rw [dropOrdinal?_eq_some_iff]
  constructor
  · rintro ⟨sign, hsign, digits, hdigits, hname⟩
    refine ⟨String.ofList (sign ++ digits.reverse),
      ⟨sign, hsign, digits.reverse, isDigits_reverse.2 hdigits, String.toList_ofList⟩, ?_⟩
    apply String.toList_inj.1
    rw [← List.reverse_reverse name.toList, hname]
    simp [reverse_sign hsign]
  · rintro ⟨number, ⟨sign, hsign, digits, hdigits, hnumber⟩, rfl⟩
    refine ⟨sign, hsign, digits.reverse, isDigits_reverse.2 hdigits, ?_⟩
    simp [hnumber, reverse_sign hsign]

/-- A fragment is stripped to its parent. -/
lemma stripOrdinal_append {parent number : String} (h : IsNumber number) :
    stripOrdinal (parent ++ "." ++ number) = parent := by
  rw [stripOrdinal_eq_dropOrdinal, dropOrdinal?_reverse_eq_some_iff.2 ⟨number, h, rfl⟩]
  simp

/-- A name that is no fragment stays as it is. -/
lemma stripOrdinal_of_forall_ne {name : String}
    (h : ∀ parent number, IsNumber number → name ≠ parent ++ "." ++ number) :
    stripOrdinal name = name := by
  rw [stripOrdinal_eq_dropOrdinal]
  cases hdrop : dropOrdinal? name.toList.reverse with
  | none => rfl
  | some parent =>
    have hparent : parent = (String.ofList parent.reverse).toList.reverse := by simp
    rw [hparent, dropOrdinal?_reverse_eq_some_iff] at hdrop
    obtain ⟨number, hnumber, hname⟩ := hdrop
    exact absurd hname (h _ number hnumber)

/-- The parent and the number of a fragment are determined by its name. -/
lemma fragment_unique {parent parent' number number' : String} (h : IsNumber number)
    (h' : IsNumber number') (heq : parent ++ "." ++ number = parent' ++ "." ++ number') :
    parent = parent' ∧ number = number' := by
  obtain rfl : parent = parent' :=
    calc parent = stripOrdinal (parent ++ "." ++ number) := (stripOrdinal_append h).symm
      _ = stripOrdinal (parent' ++ "." ++ number') := by rw [heq]
      _ = parent' := stripOrdinal_append h'
  exact ⟨rfl, by simpa using heq⟩

/-- Exactly one ordinal is removed.  If the name is a parent, a dot and a number, the parent is
left; this is so in one way only, and the dot is the last one of the name.  Any other name is left
as it is.  So a parent comes back from each of its fragments, whatever it looks like itself. -/
theorem stripOrdinal_removes_one (name : String) :
    (∀ parent number, IsNumber number → name = parent ++ "." ++ number →
        stripOrdinal name = parent ∧ '.' ∉ number.toList ∧
          ∀ parent' number', IsNumber number' → name = parent' ++ "." ++ number' →
            parent' = parent ∧ number' = number) ∧
      ((¬∃ parent number, IsNumber number ∧ name = parent ++ "." ++ number) →
        stripOrdinal name = name) ∧
      ∀ number, IsNumber number → stripOrdinal (name ++ "." ++ number) = name := by
  refine ⟨?_, fun hname => ?_, fun number hnumber => stripOrdinal_append hnumber⟩
  · rintro parent number hnumber rfl
    exact ⟨stripOrdinal_append hnumber, hnumber.no_dot,
      fun parent' number' hnumber' heq => fragment_unique hnumber' hnumber heq.symm⟩
  · exact stripOrdinal_of_forall_ne fun parent number hnumber heq =>
      hname ⟨parent, number, hnumber, heq⟩

/-- Of three endings that look like ordinals, one of them with a digit outside ASCII and a line
break in front, only the last is removed; a name without a dot is left as it is. -/
theorem stripOrdinal_removes_one_last :
    IsNumber "-2" ∧ stripOrdinal "a.1\n.٣.-2" = "a.1\n.٣" ∧
      (¬∃ parent number, IsNumber number ∧ "v2" = parent ++ "." ++ number) ∧
      stripOrdinal "v2" = "v2" := by
  have hdigits : IsDigits ['2'] := ⟨by simp, List.forall_mem_singleton.2 (by decide)⟩
  have hnumber : IsNumber "-2" := ⟨['-'], by decide, ['2'], hdigits, by decide⟩
  have hplain : ¬∃ parent number, IsNumber number ∧ "v2" = parent ++ "." ++ number := by
    rintro ⟨parent, number, -, hname⟩
    have hdot : '.' ∈ "v2".toList := by simp [hname]
    revert hdot
    decide
  have hname : "a.1\n.٣.-2" = "a.1\n.٣" ++ "." ++ "-2" := by decide
  exact ⟨hnumber, ((stripOrdinal_removes_one _).1 _ _ hnumber hname).1, hplain,
    (stripOrdinal_removes_one _).2.1 hplain⟩

end Chunk

end LiterateLinks
