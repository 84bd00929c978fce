import Mathlib.Tactic.Common
import LiterateLinks.Marker.Basic
import LiterateLinks.Proofs.Regex.Reading

/-!
# The expressions of the two marker shapes

The marker expressions are written down as text, with the delimiters quoted, and read back.  This
file computes what is read.  `Regex.marker` is the expression of a marker with a given opening text,
a given set for the characters of its name and a given closing text; `Markers.ofDelimiters_eq_ok`
says that every pair of non-empty delimiters gives such an expression for definitions and one for
pastes, whatever characters the delimiters are made of.
-/

namespace LiterateLinks

namespace Regex

/-- The part of a marker that reads its name: one character of the set or more, as few as
possible. -/
def markerName (set : CharSet) : Regex :=
  .group 1 (concat [.cat (.one set) (.many set false)])

/-- The part of a marker that reads its annotation, if there is one. -/
def markerNote : Regex :=
  .maybe (.group 2 (concat [.one (.only ','), .many .inLine false])) true

/-- The expression of a marker with the given opening and closing texts, whose name is made of
characters of the set. -/
def marker (opening : List Char) (set : CharSet) (closing : List Char) : Regex :=
  concat (opening.map readOne ++ markerName set :: markerNote :: closing.map readOne)

/-- The characters of definition names: all but the equals sign. -/
def nameSet : CharSet := .bracket true [.single '=']

/-! ## Reading the written expressions

The name and the annotation are written the same way for all delimiters; the text between the two
quoted delimiters is read by computation, and the lemmas on quoted text do the rest. -/

/-- What stands between the delimiters in the expression of definitions. -/
def definitionText : List Char :=
  ['(', '[', '^', '=', ']', '+', '?', ')', '(', ',', '.', '*', '?', ')', '?']

/-- What stands between the delimiters in the expression of pastes. -/
def pasteText : List Char :=
  ['=', '(', '.', '+', '?', ')', '(', ',', '.', '*', '?', ')', '?']

/-- The roles of the name of a marker and of its optional annotation, the name being made of what
`head` reads. -/
def markerRoles (head : Role) : List Role :=
  [.opening, head, .plus, .question, .closing,
    .opening, roleOf ',', .dot, .star, .question, .closing, .question]

/-- The text between two quoted delimiters is written without backslashes. -/
lemma glyphs?_between {text : List Char} (htext : '\\' ∉ text) (rest : List Char) :
    glyphs? (text ++ rest) = (text.map (⟨·, false⟩) ++ ·) <$> glyphs? rest := by
  induction text with
  | nil => simp
  | cons c cs ih =>
    simp only [List.mem_cons, not_or] at htext
    rw [List.cons_append, glyphs?_plain (Ne.symm htext.1), ih htext.2]
    cases glyphs? rest <;> simp

/-- The roles of the inner text of a definition. -/
lemma roles?_definitionText (rest : List Glyph) :
    roles? none (definitionText.map (⟨·, false⟩) ++ rest) =
      (markerRoles (.set nameSet) ++ ·) <$> roles? none rest := by
  cases h : roles? none rest <;>
    simp [definitionText, roles?, Glyph.isPlain, Glyph.role?, h, bracket?, leadingItems?,
      classItems?, isReserved, markerRoles, roleOf, nameSet]

/-- The roles of the inner text of a paste. -/
lemma roles?_pasteText (rest : List Glyph) :
    roles? none (pasteText.map (⟨·, false⟩) ++ rest) =
      (roleOf '=' :: markerRoles .dot ++ ·) <$> roles? none rest := by
  cases h : roles? none rest <;>
    simp [pasteText, roles?, Glyph.isPlain, Glyph.role?, h, markerRoles, roleOf]

/-- The roles of a name and of an optional annotation push two expressions onto the outermost group.
The role after them must not be a further question mark. -/
lemma assemble?_markerRoles {set : CharSet} {head : Role}
    (hhead : head = .set set ∨ head = .dot ∧ set = .inLine) (c : Char) (rest : List Role)
    (parts : List Regex) :
    assemble? (markerRoles head ++ roleOf c :: rest) 0 ⟨none, false, parts⟩ [] =
      assemble? (roleOf c :: rest) 2 ⟨none, false, markerNote :: markerName set :: parts⟩ [] := by
  rcases hhead with rfl | ⟨rfl, rfl⟩ <;> rfl

/-- The expression of a marker, assembled from its roles. -/
lemma assemble?_marker {set : CharSet} {head : Role}
    (hhead : head = .set set ∨ head = .dot ∧ set = .inLine) (opening : List Char)
    {closing : List Char} (hclosing : closing ≠ []) :
    assemble? (opening.map roleOf ++ (markerRoles head ++ closing.map roleOf)) 0
      ⟨none, false, []⟩ [] =
      some (marker opening set closing) := by
  obtain ⟨c, cs, rfl⟩ := List.exists_cons_of_ne_nil hclosing
  rw [assemble?_roleOf_append, List.map_cons, assemble?_markerRoles hhead, ← List.map_cons,
    ← List.append_nil (List.map roleOf (c :: cs)), assemble?_roleOf_append]
  simp [assemble?, Frame.close, marker]

/-- The written expression of a marker is read as the expression of that marker. -/
lemma parse?_marker {set : CharSet} {head : Role} {left right inner : List Char}
    (lead : List Char) (hhead : head = .set set ∨ head = .dot ∧ set = .inLine)
    (hleft : left ≠ []) (hright : right ≠ []) (hinner : '\\' ∉ inner)
    (hroles : ∀ rest, roles? none (inner.map (⟨·, false⟩) ++ rest) =
      (lead.map roleOf ++ markerRoles head ++ ·) <$> roles? none rest) :
    Pattern.parse? (quote left ++ (inner ++ quote right)) =
      some ⟨false, marker (left ++ lead) set right, false⟩ := by
  have hend : glyphs? (quote right) = some (right.map glyphOf) := by
    have h := glyphs?_quote_append right []
    simpa [glyphs?] using h
  have hendRoles : roles? none (right.map glyphOf) = some (right.map roleOf) := by
    have h := roles?_glyphOf_append right []
    simpa [roles?] using h
  refine Pattern.parse?_eq_of_glyphs (inner.map (⟨·, false⟩)) hleft hright ?_ ?_
  · rw [glyphs?_quote_append, glyphs?_between hinner, hend]
    rfl
  · have hread := assemble?_marker hhead (left ++ lead) hright
    simp only [ofGlyphs?, roles?_glyphOf_append, hroles, hendRoles]
    simpa using hread

end Regex

namespace Delimiters

open Regex

/-- The expression of the definition markers between the two delimiters. -/
def definition (d : Delimiters) : Regex := marker d.left.toList nameSet d.right.toList

/-- The expression of the paste markers between the two delimiters. -/
def paste (d : Delimiters) : Regex := marker (d.left.toList ++ ['=']) .inLine d.right.toList

/-- The written expression of definitions is read as the expression of definitions. -/
lemma parse?_definitionSource {d : Delimiters} (hleft : d.left ≠ "") (hright : d.right ≠ "") :
    Pattern.parse? d.definitionSource.toList = some ⟨false, d.definition, false⟩ := by
  have hl : d.left.toList ≠ [] := by simpa using hleft
  have hr : d.right.toList ≠ [] := by simpa using hright
  have hsource : d.definitionSource.toList =
      quote d.left.toList ++ (definitionText ++ quote d.right.toList) := by
    have hinner : "([^=]+?)(,.*?)?".toList = definitionText := by decide
    simp only [definitionSource, String.toList_append, String.toList_ofList, hinner,
      List.append_assoc]
  have hread := parse?_marker [] (.inl rfl) hl hr (by decide) roles?_definitionText
  rw [hsource, hread, List.append_nil, definition]

/-- The written expression of pastes is read as the expression of pastes. -/
lemma parse?_pasteSource {d : Delimiters} (hleft : d.left ≠ "") (hright : d.right ≠ "") :
    Pattern.parse? d.pasteSource.toList = some ⟨false, d.paste, false⟩ := by
  have hl : d.left.toList ≠ [] := by simpa using hleft
  have hr : d.right.toList ≠ [] := by simpa using hright
  have hsource : d.pasteSource.toList =
      quote d.left.toList ++ (pasteText ++ quote d.right.toList) := by
    have hinner : "=(.+?)(,.*?)?".toList = pasteText := by decide
    simp only [pasteSource, String.toList_append, String.toList_ofList, hinner, List.append_assoc]
  have hread := parse?_marker ['='] (.inr ⟨rfl, rfl⟩) hl hr (by decide) roles?_pasteText
  rw [hsource, hread, paste]

end Delimiters

/-- Every pair of non-empty delimiters gives the two marker expressions. -/
theorem Markers.ofDelimiters_eq_ok {d : Delimiters} (hleft : d.left ≠ "") (hright : d.right ≠ "") :
    Markers.ofDelimiters d = .ok ⟨d.definition, d.paste⟩ := by
  have hl : d.left.isEmpty = false := by simpa using hleft
  have hr : d.right.isEmpty = false := by simpa using hright
  simp [Markers.ofDelimiters, hl, hr, Delimiters.parse?_definitionSource hleft hright,
    Delimiters.parse?_pasteSource hleft hright]

end LiterateLinks
