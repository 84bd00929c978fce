import Mathlib.Tactic.Common
import LiterateLinks.Html.Lexer
import LiterateLinks.Proofs.Html.Reference

/-!
# Reading written tokens

Tags, comments, doctypes and text are written next to each other, and the lexer has to find where
each of them ends.  This file shows for each kind of token that it is read from what was written for
it and that reading goes on right after it, whatever comes next: `Lexer.next_openTag`,
`Lexer.next_closeTag`, `Lexer.next_writtenComment`, `Lexer.next_writtenDoctype` and
`Lexer.next_writeText`.

Each of them has a condition that can be computed.  A name holds only characters that do not end it,
a comment does not hold its own end, and the raw text of an element does not hold the end tag of the
element.  Text inside special elements is covered by one statement for all kinds,
`Lexer.next_writtenText`.  A source of steady characters reaches the lexer as it is
(`Lexer.normalize_eq_self`).
-/

namespace LiterateLinks

namespace Html

open Document (writeTextChar writeAttributeChar writeAttributes)

/-- Whether the character is the same when it is read: no carriage return, which is read as a line
feed, and no null character. -/
def isSteady (c : Char) : Bool :=
  c != '\r' && c != '\x00'

namespace Lexer

/-! ### Tags -/

/-- Whether the character may stand in a name of a tag. -/
def isNameChar (c : Char) : Bool :=
  isSteady c && c.toLower == c && !isSpace c && c != '/' && c != '>'

/-- Whether a start tag with this name is read as such. -/
def isTagName (name : String) : Bool :=
  name.toList.head?.any Char.isAlpha && name.toList.all isNameChar

/-- Whether an attribute is read with this name.  An equals sign may only come first. -/
def isAttributeName (name : String) : Bool :=
  !name.toList.isEmpty && name.toList.all isNameChar && !name.toList.tail.contains '='

/-- Whether the attribute is the same when it is read. -/
def isSteadyAttribute (a : Attribute) : Bool :=
  a.qualifier == .plain && isAttributeName a.name && a.value.toList.all isSteady

/-- Whether the tag is the same when it is read. -/
def isSteadyTag (tag : Tag) : Bool :=
  tag.vocabulary == .html && isTagName tag.name && tag.attributes.all isSteadyAttribute &&
    decide (tag.attributes.map (·.name)).Nodup

/-- A steady tag is that of an element of the page. -/
lemma vocabulary_eq {tag : Tag} (h : isSteadyTag tag = true) : tag.vocabulary = .html := by
  simp only [isSteadyTag, Bool.and_eq_true, beq_iff_eq] at h
  exact h.1.1.1

/-- A steady tag has a name that is read as such. -/
lemma isTagName_name {tag : Tag} (h : isSteadyTag tag = true) : isTagName tag.name = true := by
  simp only [isSteadyTag, Bool.and_eq_true] at h
  exact h.1.1.2

/-- The start tag of an element as it is written. -/
def openTag (tag : Tag) : List Char :=
  '<' :: (tag.name.toList ++ ((writeAttributes tag.attributes).toList ++ ['>']))

/-- The start tag that is read for an element of the page. -/
def startTag (tag : Tag) : StartTag :=
  { name := tag.name, attributes := tag.attributes }

/-- The end tag of an element as it is written. -/
def closeTag (name : String) : List Char :=
  '<' :: '/' :: (name.toList ++ ['>'])

/-- A steady character is shown as it is. -/
lemma shown_of_isSteady {c : Char} (h : isSteady c = true) : shown c = c := by
  simp only [isSteady, Bool.and_eq_true, bne_iff_ne] at h
  simp [shown, h.2]

/-- Steady text is shown as it is. -/
lemma map_shown {text : List Char} (h : ∀ c ∈ text, isSteady c = true) : text.map shown = text :=
  (List.map_congr_left fun c hc => shown_of_isSteady (h c hc)).trans (List.map_id text)

/-- A name of a tag is read as it is. -/
lemma nameOf_toList {name : String} (h : ∀ c ∈ name.toList, isNameChar c = true) :
    nameOf name.toList = name := by
  have hmap : (name.toList.map fun c => (shown c).toLower) = name.toList := by
    refine (List.map_congr_left fun c hc => ?_).trans (List.map_id _)
    have hc := h c hc
    simp only [isNameChar, Bool.and_eq_true, beq_iff_eq] at hc
    simp [shown_of_isSteady hc.1.1.1.1, hc.1.1.1.2]
  rw [nameOf, hmap, String.ofList_toList]

/-- The characters of the references that are written. -/
def referenceChars : List Char :=
  "&amp;lgtquonbs".toList

/-- The references are written in those characters. -/
lemma mem_referenceChars {word : String} {x : Char} (hx : x ∈ word.toList)
    (hword : word ∈ ["&amp;", "&lt;", "&gt;", "&quot;", "&nbsp;"]) : x ∈ referenceChars := by
  have hall : ∀ w ∈ ["&amp;", "&lt;", "&gt;", "&quot;", "&nbsp;"],
      w.toList.all referenceChars.contains = true := by decide
  exact List.contains_iff_mem.1 (List.all_eq_true.1 (hall word hword) x hx)

/-- What is written for a character of an attribute value belongs to a reference or is the
character, which is then no quotation mark. -/
lemma mem_writeAttributeChar {c x : Char} (hx : x ∈ writeAttributeChar c) :
    x ∈ referenceChars ∨ x = c ∧ c ≠ '"' := by
  unfold writeAttributeChar at hx
  split at hx
  iterate 3 exact Or.inl (mem_referenceChars hx (by decide))
  next hquote _ => exact Or.inr ⟨List.mem_singleton.1 hx, hquote⟩

/-- What is written for a character of text belongs to a reference or is the character, which is
then no opening bracket. -/
lemma mem_writeTextChar {c x : Char} (hx : x ∈ writeTextChar c) :
    x ∈ referenceChars ∨ x = c ∧ c ≠ '<' := by
  unfold writeTextChar at hx
  split at hx
  iterate 4 exact Or.inl (mem_referenceChars hx (by decide))
  next hless _ _ => exact Or.inr ⟨List.mem_singleton.1 hx, hless⟩

/-- The characters of references are steady. -/
lemma isSteady_of_mem_referenceChars {x : Char} (hx : x ∈ referenceChars) : isSteady x = true := by
  have hall : referenceChars.all isSteady = true := by decide
  exact List.all_eq_true.1 hall x hx

/-- A word is read up to the character that ends it. -/
lemma takeWhile_append_stop {p : Char → Bool} {word : List Char} (h : ∀ x ∈ word, p x = true)
    {c : Char} (hc : p c = false) (rest : List Char) : (word ++ c :: rest).takeWhile p = word := by
  rw [List.takeWhile_append_of_pos h, List.takeWhile_cons_of_neg (by simp [hc]), List.append_nil]

/-- What follows a word starts with the character that ends it. -/
lemma dropWhile_append_stop {p : Char → Bool} {word : List Char} (h : ∀ x ∈ word, p x = true)
    {c : Char} (hc : p c = false) (rest : List Char) :
    (word ++ c :: rest).dropWhile p = c :: rest := by
  rw [List.dropWhile_append_of_pos h, List.dropWhile_cons_of_neg (by simp [hc])]

/-- A value between quotation marks is read up to the second one. -/
lemma readValue?_quoted {value : List Char} (h : ∀ x ∈ value, x ≠ '"') (rest : List Char) :
    readValue? ('"' :: (value ++ '"' :: rest)) = some (value, rest) := by
  have hvalue : ∀ x ∈ value, (x != '"') = true := fun x hx => bne_iff_ne.2 (h x hx)
  have htake := takeWhile_append_stop hvalue (c := '"') (by decide) rest
  have hdrop := dropWhile_append_stop hvalue (c := '"') (by decide) rest
  have hspace : ('"' :: (value ++ '"' :: rest)).dropWhile isSpace = '"' :: (value ++ '"' :: rest) :=
    List.dropWhile_cons_of_neg (by decide)
  simp [readValue?, hspace, htake, hdrop]

/-- An attribute as it is written, without the space in front. -/
def writtenAttribute (a : Attribute) : List Char :=
  a.name.toList ++ '=' :: '"' :: (a.value.toList.flatMap writeAttributeChar ++ ['"'])

/-- Steady attributes are written one after the other. -/
lemma toList_writeAttributes_cons {a : Attribute} (ha : isSteadyAttribute a = true)
    (attributes : List Attribute) :
    (writeAttributes (a :: attributes)).toList =
      ' ' :: (writtenAttribute a ++ (writeAttributes attributes).toList) := by
  simp only [isSteadyAttribute, Bool.and_eq_true, beq_iff_eq] at ha
  simp [writeAttributes, writtenAttribute, Document.writeQualifier, ha.1.1, String.toList_append]

/-- The characters of a written value are steady and no quotation marks. -/
lemma steady_of_mem_written {value : List Char} (h : ∀ c ∈ value, isSteady c = true) {x : Char}
    (hx : x ∈ value.flatMap writeAttributeChar) : isSteady x = true ∧ x ≠ '"' := by
  obtain ⟨c, hc, hx⟩ := List.mem_flatMap.1 hx
  rcases mem_writeAttributeChar hx with hreference | ⟨rfl, hquote⟩
  · have hne : '"' ∉ referenceChars := by decide
    exact ⟨isSteady_of_mem_referenceChars hreference, fun heq => hne (heq ▸ hreference)⟩
  · exact ⟨h x hc, hquote⟩

/-- A new attribute is added with the value that was written. -/
lemma addAttribute_written {attributes : List Attribute} {name value : String}
    (hnew : name ∉ attributes.map (·.name)) (hvalue : ∀ c ∈ value.toList, isSteady c = true) :
    addAttribute attributes name (value.toList.flatMap writeAttributeChar) =
      { name, value } :: attributes := by
  have hold : attributes.any (·.name == name) = false := by
    rw [List.any_eq_false]
    intro a ha hname
    exact hnew (List.mem_map.2 ⟨a, ha, beq_iff_eq.1 hname⟩)
  have hshown := map_shown fun x hx => (steady_of_mem_written hvalue hx).1
  simp only [addAttribute, hold, hshown, Reference.decode_writeAttribute, String.ofList_toList,
    Bool.false_eq_true, if_false]

/-- A written attribute is read and added to the others. -/
lemma readAttributes?_writtenAttribute {a : Attribute} (ha : isSteadyAttribute a = true)
    (fuel : Nat) {attributes : List Attribute} (hnew : a.name ∉ attributes.map (·.name))
    (rest : List Char) :
    readAttributes? (fuel + 1) attributes (' ' :: (writtenAttribute a ++ rest)) =
      readAttributes? fuel (a :: attributes) rest := by
  obtain ⟨name, value, qualifier⟩ := a
  simp only [isSteadyAttribute, isAttributeName, Bool.and_eq_true, beq_iff_eq, Bool.not_eq_true',
    List.all_eq_true] at ha
  obtain ⟨⟨rfl, ⟨hne, hchars⟩, htail⟩, hvalue⟩ := ha
  have hname := nameOf_toList hchars
  obtain ⟨c, cs, hcs⟩ := List.exists_cons_of_ne_nil (List.isEmpty_eq_false_iff.1 hne)
  rw [hcs] at hchars htail hname
  have hc := hchars c (by simp)
  simp only [isNameChar, Bool.and_eq_true, Bool.not_eq_true', bne_iff_ne] at hc
  have hin : ∀ x ∈ cs, (!isSpace x && x != '/' && x != '>' && x != '=') = true := by
    intro x hx
    have hx' := hchars x (by simp [hx])
    simp only [isNameChar, Bool.and_eq_true, Bool.not_eq_true', bne_iff_ne] at hx'
    have hequals : x ≠ '=' := by rintro rfl; simp [hx] at htail
    simp [hx', hequals]
  have htext : ' ' :: (writtenAttribute { name, value } ++ rest) =
      ' ' :: c :: (cs ++ '=' :: '"' ::
        (value.toList.flatMap writeAttributeChar ++ '"' :: rest)) := by
    simp [writtenAttribute, hcs]
  rw [htext, readAttributes?, List.dropWhile_cons_of_pos (by decide),
    List.dropWhile_cons_of_neg (by simp [hc.1.1.2])]
  split
  · next heq => cases heq
  · next heq => exact absurd (List.cons.inj heq).1 hc.2
  · next heq => exact absurd (List.cons.inj heq).1 hc.1.2
  · next heq => exact absurd (List.cons.inj heq).1 hc.1.2
  · next heq =>
    obtain ⟨rfl, rfl⟩ := List.cons.inj heq
    have hspace : ('=' :: '"' :: (value.toList.flatMap writeAttributeChar ++ '"' :: rest)).dropWhile
        isSpace = '=' :: '"' :: (value.toList.flatMap writeAttributeChar ++ '"' :: rest) :=
      List.dropWhile_cons_of_neg (by decide)
    simp only [takeWhile_append_stop hin (c := '=') (by decide),
      dropWhile_append_stop hin (c := '=') (by decide), hspace, hname,
      readValue?_quoted fun x hx => (steady_of_mem_written hvalue hx).2, Option.bind_eq_bind,
      Option.bind_some, addAttribute_written hnew hvalue]

/-- Written attributes are read up to the end of the tag. -/
lemma readAttributes?_writeAttributes {attributes : List Attribute}
    (h : ∀ a ∈ attributes, isSteadyAttribute a = true) (rest : List Char) :
    ∀ (fuel : Nat) (before : List Attribute), attributes.length < fuel →
      ((before ++ attributes).map (·.name)).Nodup →
      readAttributes? fuel before.reverse ((writeAttributes attributes).toList ++ '>' :: rest) =
        some (before ++ attributes, false, rest) := by
  induction attributes with
  | nil =>
    intro fuel before hfuel hnodup
    obtain ⟨fuel, rfl⟩ := Nat.exists_eq_add_one_of_ne_zero (Nat.ne_of_gt hfuel)
    have hspace : ('>' :: rest).dropWhile isSpace = '>' :: rest :=
      List.dropWhile_cons_of_neg (by decide)
    simp [writeAttributes, readAttributes?, hspace]
  | cons a attributes ih =>
    intro fuel before hfuel hnodup
    obtain ⟨fuel, rfl⟩ := Nat.exists_eq_add_one_of_ne_zero (Nat.ne_of_gt (Nat.zero_lt_of_lt hfuel))
    have ha := h a (by simp)
    have hnew : a.name ∉ before.reverse.map (·.name) := by
      simp only [List.map_append, List.map_cons, List.nodup_append, List.mem_map,
        List.mem_cons] at hnodup
      simp only [List.mem_map, List.mem_reverse]
      rintro ⟨b, hb, hname⟩
      exact hnodup.2.2 b.name ⟨b, hb, rfl⟩ a.name (by simp) hname
    rw [toList_writeAttributes_cons ha, List.cons_append, List.append_assoc,
      readAttributes?_writtenAttribute ha fuel hnew]
    have hrest := ih (fun b hb => h b (by simp [hb])) fuel (before ++ [a])
      (by simpa using hfuel) (by simpa using hnodup)
    simpa using hrest

/-- What comes after the name of a start tag does not belong to the name. -/
lemma exists_writeAttributes_eq_cons {attributes : List Attribute}
    (h : ∀ a ∈ attributes, isSteadyAttribute a = true) (rest : List Char) :
    ∃ c more, (writeAttributes attributes).toList ++ '>' :: rest = c :: more ∧
      (!isSpace c && c != '/' && c != '>') = false := by
  cases attributes with
  | nil => exact ⟨'>', rest, rfl, by decide⟩
  | cons a attributes =>
    rw [toList_writeAttributes_cons (h a (by simp)), List.cons_append]
    exact ⟨' ', _, rfl, by decide⟩

/-- Attributes are written with at least one character each. -/
lemma length_le_length_writeAttributes {attributes : List Attribute}
    (h : ∀ a ∈ attributes, isSteadyAttribute a = true) :
    attributes.length ≤ (writeAttributes attributes).toList.length := by
  induction attributes with
  | nil => simp
  | cons a attributes ih =>
    have hrest := ih fun b hb => h b (by simp [hb])
    rw [toList_writeAttributes_cons (h a (by simp))]
    simp only [List.length_cons, List.length_append]
    omega

/-- A tag is read from its name on. -/
lemma readTag?_written {name : String} (hname : isTagName name = true) {attributes : List Attribute}
    (hattributes : ∀ a ∈ attributes, isSteadyAttribute a = true)
    (hnodup : (attributes.map (·.name)).Nodup) (rest : List Char) :
    readTag? (name.toList ++ ((writeAttributes attributes).toList ++ '>' :: rest)) =
      some ({ name, attributes }, rest) := by
  simp only [isTagName, Bool.and_eq_true, List.all_eq_true] at hname
  have hin : ∀ x ∈ name.toList, (!isSpace x && x != '/' && x != '>') = true := by
    intro x hx
    have hx := hname.2 x hx
    simp only [isNameChar, Bool.and_eq_true] at hx
    simp [hx]
  obtain ⟨c, more, hmore, hc⟩ := exists_writeAttributes_eq_cons hattributes rest
  have hread := readAttributes?_writeAttributes hattributes rest
    ((writeAttributes attributes).toList ++ '>' :: rest).length.succ []
    (by
      have := length_le_length_writeAttributes hattributes
      simp only [List.length_append, List.length_cons]
      omega) (by simpa using hnodup)
  simp only [readTag?]
  rw [hmore] at hread ⊢
  rw [takeWhile_append_stop hin hc, dropWhile_append_stop hin hc, nameOf_toList hname.2]
  simp only [List.reverse_nil, List.nil_append, Nat.succ_eq_add_one] at hread
  simp only [hread]
  rfl

/-- A name of a tag starts with a letter. -/
lemma exists_toList_eq_cons {name : String} (h : isTagName name = true) :
    ∃ c cs, name.toList = c :: cs ∧ c.isAlpha = true ∧ c ≠ '!' ∧ c ≠ '/' ∧ c ≠ '?' ∧ c ≠ '>' := by
  simp only [isTagName, Bool.and_eq_true] at h
  cases hcs : name.toList with
  | nil => simp [hcs] at h
  | cons c cs =>
    have hc : c.isAlpha = true := by simpa [hcs] using h.1
    refine ⟨c, cs, rfl, hc, ?_, ?_, ?_, ?_⟩ <;> rintro rfl <;> revert hc <;> decide

/-- A written start tag is read. -/
lemma next_openTag {tag : Tag} (h : isSteadyTag tag = true) (foreign : Bool) (rest : List Char) :
    next .markup foreign (openTag tag ++ rest) = (.startTag (startTag tag), rest) := by
  simp only [isSteadyTag, Bool.and_eq_true, List.all_eq_true, decide_eq_true_eq] at h
  obtain ⟨⟨⟨-, hname⟩, hattributes⟩, hnodup⟩ := h
  have hread := readTag?_written hname hattributes hnodup rest
  obtain ⟨c, cs, hcs, halpha, hne⟩ := exists_toList_eq_cons hname
  rw [hcs] at hread
  simp only [openTag, hcs, List.cons_append, List.append_assoc, next, if_true]
  simp only [List.cons_append, List.nil_append] at hread ⊢
  rw [readTagOpen, if_pos halpha, hread]
  · rfl
  all_goals simp [hne]

/-- A written end tag is read, whatever kind of text is open. -/
lemma readTagOpen_closeTag {name : String} (hname : isTagName name = true) (foreign : Bool)
    (rest : List Char) :
    readTagOpen foreign ('/' :: (name.toList ++ '>' :: rest)) = (.endTag name, rest) := by
  have hread : readTag? (name.toList ++ ((writeAttributes []).toList ++ '>' :: rest)) =
      some ({ name }, rest) := readTag?_written hname (by simp) (by simp) rest
  obtain ⟨c, cs, hcs, halpha, hne⟩ := exists_toList_eq_cons hname
  simp only [writeAttributes, hcs, String.toList_empty, List.nil_append, List.cons_append]
    at hread ⊢
  rw [readTagOpen, readEndTag]
  · simp [halpha, hread]
  · simp [hne]

/-! ### Comments -/

/-- Whether a closing bracket ends a comment after these characters, given newest first. -/
def endsComment : List Char → Bool
  | [] | ['-'] | '-' :: '-' :: _ | '!' :: '-' :: '-' :: _ => true
  | _ => false

/-- Whether no closing bracket of the text ends a comment, given the characters of the comment in
front of it, newest first. -/
def staysInComment : List Char → List Char → Bool
  | _, [] => true
  | before, c :: cs => !(c == '>' && endsComment before) && staysInComment (c :: before) cs

/-- Whether the comment is the same when it is read. -/
def isSteadyComment (content : String) : Bool :=
  content.toList.all isSteady && staysInComment [] content.toList

/-- What is held back as a possible end of a comment, newest first. -/
def CommentState.held : CommentState → List Char
  | .start | .inside => []
  | .startDash | .dash => ['-']
  | .dashes => ['-', '-']
  | .bang => ['!', '-', '-']

/-- The state after some characters of a comment, given newest first. -/
structure CommentState.Seen (state : CommentState) (content before : List Char) : Prop where
  held_append : state.held ++ content = before
  at_start : state = .start ∨ state = .startDash → content = []

/-- Only a closing bracket ends a comment, and only after characters that allow it. -/
lemma CommentState.Seen.ends_of_step?_eq_none {state : CommentState} {content before : List Char}
    (h : state.Seen content before) {c : Char} (hc : state.step? content c = none) :
    (c == '>' && endsComment before) = true := by
  obtain ⟨rfl, hstart⟩ := h
  cases state with
  | inside => cases hc
  | start | startDash =>
    have hend : c = '>' := by
      by_contra hne
      simp only [step?, hne, if_false] at hc
      split at hc <;> cases hc
    rw [hend, hstart (by simp)]
    rfl
  | dash =>
    simp only [step?] at hc
    split at hc <;> cases hc
  | dashes | bang =>
    have hend : c = '>' := by
      by_contra hne
      simp only [step?, hne, if_false] at hc
      repeat' split at hc
      all_goals cases hc
    rw [hend]
    rfl

/-- A character that ends what was held back is seen. -/
lemma CommentState.seen_resume {held content before : List Char} (h : held ++ content = before)
    {c : Char} (hsteady : isSteady c = true) :
    (resume held content c).1.Seen (resume held content c).2 (c :: before) := by
  subst h
  unfold resume
  split
  · next hdash => exact ⟨by rw [hdash]; rfl, by simp⟩
  · exact ⟨by rw [shown_of_isSteady hsteady]; rfl, by simp⟩

/-- A character that does not end the comment is seen. -/
lemma CommentState.Seen.step {state next : CommentState} {content content' before : List Char}
    (h : state.Seen content before) {c : Char} (hsteady : isSteady c = true)
    (hc : state.step? content c = some (next, content')) : next.Seen content' (c :: before) := by
  have hresume : some (resume state.held content c) = some (next, content') →
      next.Seen content' (c :: before) := by
    intro heq
    have hseen := seen_resume h.held_append hsteady
    rwa [Option.some.inj heq] at hseen
  obtain ⟨rfl, hstart⟩ := h
  cases state with
  | start =>
    simp only [step?] at hc
    split_ifs at hc with hdash
    · cases hc
      exact ⟨by rw [hdash]; rfl, fun _ => hstart (Or.inl rfl)⟩
    · exact hresume hc
  | startDash | dash =>
    simp only [step?] at hc
    split_ifs at hc with hdash
    · cases hc
      exact ⟨by rw [hdash]; rfl, by simp⟩
    · exact hresume hc
  | inside => exact hresume hc
  | dashes =>
    simp only [step?] at hc
    split_ifs at hc with _ hbang hdash
    · cases hc
      exact ⟨by rw [hbang]; rfl, by simp⟩
    · cases hc
      exact ⟨by rw [hdash]; rfl, by simp⟩
    · exact hresume hc
  | bang =>
    simp only [step?] at hc
    split_ifs at hc
    exact hresume hc

/-- A written comment is read from any point on, with what was seen before. -/
lemma readComment_append (rest : List Char) :
    ∀ (text : List Char) (state : CommentState) (content before : List Char),
      state.Seen content before → (∀ c ∈ text, isSteady c = true) →
      staysInComment before text = true →
      readComment state content (text ++ '-' :: '-' :: '>' :: rest) =
        (String.ofList (before.reverse ++ text), rest)
  | [], state, content, before, hseen, _, _ => by
    obtain ⟨rfl, hstart⟩ := hseen
    cases state with
    | start | startDash =>
      rw [hstart (by simp)]
      rfl
    | inside | dash | dashes | bang =>
      simp [readComment, CommentState.step?, CommentState.resume, CommentState.held]
  | c :: cs, state, content, before, hseen, hsteady, hstays => by
    simp only [staysInComment, Bool.and_eq_true, Bool.not_eq_true'] at hstays
    rw [List.cons_append, readComment]
    cases hstep : state.step? content c with
    | none => simp [hseen.ends_of_step?_eq_none hstep] at hstays
    | some seen =>
      have hnext := hseen.step (hsteady c (by simp)) hstep
      have hrest := readComment_append rest cs _ _ _ hnext (fun x hx => hsteady x (by simp [hx]))
        hstays.2
      simpa using hrest

/-- A comment as it is written. -/
def writtenComment (content : String) : List Char :=
  '<' :: '!' :: '-' :: '-' :: (content.toList ++ ['-', '-', '>'])

/-- A written comment is read. -/
lemma next_writtenComment {content : String} (h : isSteadyComment content = true) (foreign : Bool)
    (rest : List Char) :
    next .markup foreign (writtenComment content ++ rest) = (.comment content, rest) := by
  simp only [isSteadyComment, Bool.and_eq_true, List.all_eq_true] at h
  have hread := readComment_append rest content.toList .start [] [] ⟨rfl, fun _ => rfl⟩ h.1 h.2
  simp only [List.reverse_nil, List.nil_append, String.ofList_toList] at hread
  simp [next, writtenComment, readTagOpen, readDeclaration, hread]

/-! ### Doctypes -/

/-- Whether a doctype with this name is the same when it is read. -/
def isSteadyDoctype (name : String) : Bool :=
  name.toList.all isNameChar

/-- A doctype as it is written. -/
def writtenDoctype (name : String) : List Char :=
  '<' :: '!' :: ("DOCTYPE".toList ++ ' ' :: (name.toList ++ ['>']))

/-- A doctype is read from after its first keyword. -/
lemma readDoctype_written {name : String} (h : isSteadyDoctype name = true) (rest : List Char) :
    ∃ d : Doctype, d.name.getD "" = name ∧
      readDoctype (' ' :: (name.toList ++ '>' :: rest)) = (d, rest) := by
  simp only [isSteadyDoctype, List.all_eq_true] at h
  have hin : ∀ x ∈ name.toList, isSpace x = false ∧ (!isSpace x && x != '>') = true := by
    intro x hx
    have hx := h x hx
    simp only [isNameChar, Bool.and_eq_true, Bool.not_eq_true'] at hx
    simp [hx]
  have hspace : (' ' :: (name.toList ++ '>' :: rest)).dropWhile isSpace =
      name.toList ++ '>' :: rest := by
    rw [List.dropWhile_cons_of_pos (by decide)]
    cases hname : name.toList with
    | nil => exact List.dropWhile_cons_of_neg (by decide)
    | cons c cs =>
      exact List.dropWhile_cons_of_neg (by simp [(hin c (by simp [hname])).1])
  have hend : ('>' :: rest).dropWhile isSpace = '>' :: rest :=
    List.dropWhile_cons_of_neg (by decide)
  have htake := takeWhile_append_stop (fun x hx => (hin x hx).2) (c := '>') (by decide) rest
  have hdrop := dropWhile_append_stop (fun x hx => (hin x hx).2) (c := '>') (by decide) rest
  simp only [readDoctype, hspace, htake, hdrop, hend, nameOf_toList h]
  by_cases hname : name.toList = []
  · refine ⟨{ defective := true }, ?_, by simp [hname, skipDoctype]⟩
    exact (String.toList_eq_nil_iff.1 hname).symm
  · exact ⟨{ name := some name }, rfl, by simp [hname]⟩

/-- A written doctype is read with its name. -/
lemma next_writtenDoctype {name : String} (h : isSteadyDoctype name = true) (foreign : Bool)
    (rest : List Char) :
    ∃ d : Doctype, d.name.getD "" = name ∧
      next .markup foreign (writtenDoctype name ++ rest) = (.doctype d, rest) := by
  obtain ⟨d, hd, hread⟩ := readDoctype_written h rest
  refine ⟨d, hd, ?_⟩
  have hword : startsWithWord "doctype".toList
      ("DOCTYPE".toList ++ ' ' :: (name.toList ++ '>' :: rest)) = true := by
    simp [startsWithWord]
  have hdrop : ("DOCTYPE".toList ++ ' ' :: (name.toList ++ '>' :: rest)).drop 7 =
      ' ' :: (name.toList ++ '>' :: rest) :=
    List.drop_left' (by decide)
  have htext : writtenDoctype name ++ rest =
      '<' :: '!' :: ("DOCTYPE".toList ++ ' ' :: (name.toList ++ '>' :: rest)) := by
    simp only [writtenDoctype, List.cons_append, List.append_assoc, List.nil_append]
  rw [htext, next, if_pos rfl, readTagOpen, readDeclaration, if_pos hword, hdrop, hread]
  simp

/-! ### Text -/

/-- No opening bracket is written for a character of text. -/
lemma ne_less_of_mem_writeText {text : List Char} {x : Char} (hx : x ∈ text.flatMap writeTextChar) :
    x ≠ '<' := by
  obtain ⟨c, -, hx⟩ := List.mem_flatMap.1 hx
  rcases mem_writeTextChar hx with hreference | ⟨rfl, hless⟩
  · have hne : '<' ∉ referenceChars := by decide
    exact fun heq => hne (heq ▸ hreference)
  · exact hless

/-- Steady text is written in steady characters. -/
lemma isSteady_of_mem_writeText {text : List Char} (h : ∀ c ∈ text, isSteady c = true) {x : Char}
    (hx : x ∈ text.flatMap writeTextChar) : isSteady x = true := by
  obtain ⟨c, hc, hx⟩ := List.mem_flatMap.1 hx
  rcases mem_writeTextChar hx with hreference | ⟨rfl, -⟩
  · exact isSteady_of_mem_referenceChars hreference
  · exact h x hc

/-- Every character is written. -/
lemma writeTextChar_ne_nil (c : Char) : writeTextChar c ≠ [] := by
  unfold writeTextChar
  split <;> simp

/-- Written text that is not empty starts with a character other than an opening bracket. -/
lemma exists_writeText_eq_cons {text : List Char} (h : text ≠ []) :
    ∃ c cs, text.flatMap writeTextChar = c :: cs ∧ c ≠ '<' := by
  obtain ⟨d, ds, rfl⟩ := List.exists_cons_of_ne_nil h
  obtain ⟨c, cs, hcs⟩ := List.exists_cons_of_ne_nil (writeTextChar_ne_nil d)
  have hwritten : (d :: ds).flatMap writeTextChar = c :: (cs ++ ds.flatMap writeTextChar) := by
    simp [hcs]
  exact ⟨c, _, hwritten, ne_less_of_mem_writeText (hwritten ▸ List.mem_cons_self)⟩

/-- Written text is read up to the next tag. -/
lemma next_writeText {text : List Char} (h : text ≠ []) (foreign : Bool) (rest : List Char) :
    next .markup foreign (text.flatMap writeTextChar ++ '<' :: rest) =
      (.text text, '<' :: rest) := by
  have hless : ∀ x ∈ text.flatMap writeTextChar, (x != '<') = true :=
    fun x hx => bne_iff_ne.2 (ne_less_of_mem_writeText hx)
  have htake := takeWhile_append_stop hless (c := '<') (by decide) rest
  have hdrop := dropWhile_append_stop hless (c := '<') (by decide) rest
  have hdecode := Reference.decode_writeText false text
  have hbroken := Reference.opensBroken_writeText text
  obtain ⟨c, cs, hcs, hc⟩ := exists_writeText_eq_cons h
  rw [hcs] at htake hdrop hdecode hbroken ⊢
  rw [List.cons_append] at htake hdrop ⊢
  simp [next, hc, next.readReferences, htake, hdrop, hdecode, hbroken]

/-! ### Text inside special elements -/

/-- Whether no end tag of the element stands in the text. -/
def isFreeOf (element : String) : List Char → Bool
  | [] => true
  | c :: cs => !(c == '<' && closes element cs) && isFreeOf element cs

/-- A word without an opening bracket is found in a text or not, whatever tag follows the text. -/
lemma startsWithWord_append {word : List Char} (h : '<' ∉ word) (text rest : List Char) :
    startsWithWord word (text ++ '<' :: rest) = startsWithWord word text := by
  by_cases hlength : word.length ≤ text.length
  · simp [startsWithWord, List.take_append_of_le_length hlength]
  · have hshort : startsWithWord word text = false := by
      rw [startsWithWord, beq_eq_false_iff_ne]
      intro heq
      have := congrArg List.length heq
      simp only [List.length_map, List.length_take] at this
      omega
    rw [hshort, startsWithWord, beq_eq_false_iff_ne]
    intro heq
    have hless : '<' ∈ ((text ++ '<' :: rest).take word.length).map Char.toLower := by
      refine List.mem_map.2 ⟨'<', List.mem_take_iff_getElem.2 ⟨text.length, ?_, ?_⟩, by decide⟩
      · simp only [List.length_append, List.length_cons]
        omega
      · simp
    exact h (heq ▸ hless)

/-- An opening bracket after some text does not complete an end tag. -/
lemma closes_append {element : String} (h : '<' ∉ element.toList) (text rest : List Char) :
    closes element (text ++ '<' :: rest) = closes element text := by
  cases text with
  | nil => rfl
  | cons c cs =>
    by_cases hc : c = '/'
    · subst hc
      rw [List.cons_append, closes, closes, startsWithWord_append h]
      cases hword : startsWithWord element.toList cs with
      | false => rfl
      | true =>
        have hlength : element.toList.length ≤ cs.length := by
          have := congrArg List.length (beq_iff_eq.1 hword)
          simp only [List.length_map, List.length_take] at this
          omega
        rw [List.drop_append_of_le_length hlength]
        cases cs.drop element.toList.length with
        | nil => rfl
        | cons d ds => rfl
    · have hother : ∀ more, closes element (c :: more) = false := by
        intro more
        unfold closes
        split
        · next heq => exact absurd (List.cons.inj heq).1 hc
        · rfl
      rw [List.cons_append, hother, hother]

/-- The end tag of an element closes it. -/
lemma closes_closeTag {element : String} (h : isTagName element = true) (rest : List Char) :
    closes element ('/' :: (element.toList ++ '>' :: rest)) = true := by
  simp only [isTagName, Bool.and_eq_true, List.all_eq_true] at h
  have hlower : element.toList.map Char.toLower = element.toList := by
    refine (List.map_congr_left fun c hc => ?_).trans (List.map_id _)
    have hc := h.2 c hc
    simp only [isNameChar, Bool.and_eq_true, beq_iff_eq] at hc
    exact hc.1.1.1.2
  simp [closes, startsWithWord, hlower]

/-- Text without an end tag of the element is read up to the end tag that follows it. -/
lemma readRaw_append {element : String} (hname : isTagName element = true)
    (hless : '<' ∉ element.toList) (rest : List Char) :
    ∀ text : List Char, (∀ c ∈ text, isSteady c = true) → isFreeOf element text = true →
      readRaw element (text ++ (closeTag element ++ rest)) = (text, closeTag element ++ rest)
  | [], _, _ => by
    have hcloses := closes_closeTag hname rest
    simp [closeTag, readRaw, hcloses]
  | c :: cs, hsteady, hfree => by
    simp only [isFreeOf, Bool.and_eq_true, Bool.not_eq_true'] at hfree
    have hrest := readRaw_append hname hless rest cs (fun x hx => hsteady x (by simp [hx])) hfree.2
    have hshown : shown c = c := shown_of_isSteady (hsteady c (by simp))
    have hopen : (c = '<' && closes element (cs ++ (closeTag element ++ rest))) = false := by
      rw [closeTag, List.cons_append, closes_append hless]
      simpa using hfree.1
    simp only [List.cons_append, readRaw, hopen, hrest, hshown, Bool.false_eq_true, if_false]

/-- Whether no end tag ends a script in this state inside the text, and one does after it. -/
def ScriptState.isOpenFor : ScriptState → List Char → Bool
  | state, [] => state.canClose
  | state, c :: cs =>
    !(c == '<' && state.canClose && closes "script" cs) && (state.step c).isOpenFor cs

/-- A script that stays open is read up to the end tag that follows it. -/
lemma readScript_append (rest : List Char) :
    ∀ (text : List Char) (state : ScriptState), (∀ c ∈ text, isSteady c = true) →
      state.isOpenFor text = true →
      readScript state (text ++ (closeTag "script" ++ rest)) = (text, closeTag "script" ++ rest)
  | [], state, _, hopen => by
    have hcloses : closes "script" ('/' :: ("script".toList ++ '>' :: rest)) = true :=
      closes_closeTag (by decide) rest
    rw [ScriptState.isOpenFor] at hopen
    simp only [closeTag, List.nil_append, List.cons_append, List.append_assoc, readScript, hopen,
      hcloses, decide_true, Bool.and_self, if_true]
  | c :: cs, state, hsteady, hopen => by
    simp only [ScriptState.isOpenFor, Bool.and_eq_true, Bool.not_eq_true'] at hopen
    have hrest := readScript_append rest cs (state.step c) (fun x hx => hsteady x (by simp [hx]))
      hopen.2
    have hshown : shown c = c := shown_of_isSteady (hsteady c (by simp))
    have hstays : (c = '<' && state.canClose &&
        closes "script" (cs ++ (closeTag "script" ++ rest))) = false := by
      rw [closeTag, List.cons_append, closes_append (by decide)]
      simpa using hopen.1
    simp only [List.cons_append, readScript, hstays, hrest, hshown, Bool.false_eq_true, if_false]

/-- The element whose end tag ends text of the kind. -/
def element? : TextKind → Option String
  | .escapable element | .raw element => some element
  | .script => some "script"
  | .markup | .plain => none

/-- Text of a kind that an end tag ends, as it is written. -/
def writtenText : TextKind → List Char → List Char
  | .escapable _, text => text.flatMap writeTextChar
  | _, text => text

/-- Some text is written. -/
lemma writtenText_ne_nil (kind : TextKind) {text : List Char} (h : text ≠ []) :
    writtenText kind text ≠ [] := by
  cases kind with
  | escapable element =>
    obtain ⟨c, cs, hcs, -⟩ := exists_writeText_eq_cons h
    simp [writtenText, hcs]
  | _ => exact h

/-- Whether text of the kind is read up to the end tag after it. -/
def holdsText : TextKind → List Char → Bool
  | .escapable _, _ => true
  | .raw element, text => isFreeOf element text
  | .script, text => ScriptState.outside.isOpenFor text
  | _, _ => false

/-- Text without opening brackets holds no end tag. -/
lemma isFreeOf_of_forall_ne (element : String) :
    ∀ {text : List Char}, (∀ x ∈ text, x ≠ '<') → isFreeOf element text = true
  | [], _ => rfl
  | c :: cs, h => by
    have hc : (c == '<') = false := beq_eq_false_iff_ne.2 (h c (by simp))
    simp [isFreeOf, hc, isFreeOf_of_forall_ne element fun x hx => h x (List.mem_cons_of_mem c hx)]

/-- The end tag of an element is read in its text. -/
lemma next_closeTag {kind : TextKind} {element : String} (hname : isTagName element = true)
    (hkind : kind = .markup ∨ element? kind = some element) (foreign : Bool) (rest : List Char) :
    next kind foreign (closeTag element ++ rest) = (.endTag element, rest) := by
  have hcloses := closes_closeTag hname rest
  have hread := readTagOpen_closeTag hname foreign rest
  simp only [closeTag, List.cons_append, List.append_assoc, List.nil_append]
  cases kind with
  | markup => simpa [next] using hread
  | plain => simp [element?] at hkind
  | script =>
    obtain rfl : "script" = element := by simpa [element?] using hkind
    simpa only [next, hcloses, decide_true, Bool.and_self, if_true] using hread
  | raw name | escapable name =>
    obtain rfl : name = element := by simpa [element?] using hkind
    simpa only [next, hcloses, decide_true, Bool.and_self, if_true] using hread

/-- A script that does not begin with its end tag is a token. -/
lemma next_script {source text rest : List Char} (hread : readScript .outside source = (text, rest))
    (hne : text ≠ []) (foreign : Bool) : next .script foreign source = (.text text, rest) := by
  cases source with
  | nil => simp_all [readScript]
  | cons c cs =>
    have hopen : (c = '<' && closes "script" cs) = false := by
      by_contra hcloses
      rw [Bool.not_eq_false] at hcloses
      rw [readScript, if_pos (by simpa [ScriptState.canClose] using hcloses)] at hread
      exact hne (Prod.mk.inj hread).1.symm
    simp [next, hopen, hread]

/-- Raw text that does not begin with the end tag of its element is not a tag. -/
lemma not_closes_of_readRaw {element : String} {c : Char} {cs text rest : List Char}
    (hread : readRaw element (c :: cs) = (text, rest)) (hne : text ≠ []) :
    (c = '<' && closes element cs) = false := by
  by_contra hcloses
  rw [Bool.not_eq_false] at hcloses
  rw [readRaw, if_pos hcloses] at hread
  exact hne (Prod.mk.inj hread).1.symm

/-- The written text of an element is read up to its end tag. -/
lemma next_writtenText {kind : TextKind} {element : String} (hname : isTagName element = true)
    (hless : '<' ∉ element.toList) (hkind : element? kind = some element) {text : List Char}
    (hne : text ≠ []) (hsteady : ∀ c ∈ text, isSteady c = true)
    (hholds : holdsText kind text = true) (foreign : Bool) (rest : List Char) :
    next kind foreign (writtenText kind text ++ (closeTag element ++ rest)) =
      (.text text, closeTag element ++ rest) := by
  cases kind with
  | markup | plain => simp [element?] at hkind
  | script =>
    obtain rfl : "script" = element := by simpa [element?] using hkind
    exact next_script (readScript_append rest text .outside hsteady hholds) hne foreign
  | raw name =>
    obtain rfl : name = element := by simpa [element?] using hkind
    have hread := readRaw_append hname hless rest text hsteady hholds
    obtain ⟨c, cs, rfl⟩ := List.exists_cons_of_ne_nil hne
    rw [List.cons_append] at hread
    simp [writtenText, next, not_closes_of_readRaw hread hne, hread]
  | escapable name =>
    obtain rfl : name = element := by simpa [element?] using hkind
    have hread := readRaw_append hname hless rest (text.flatMap writeTextChar)
      (fun x hx => isSteady_of_mem_writeText hsteady hx)
      (isFreeOf_of_forall_ne name fun x hx => ne_less_of_mem_writeText hx)
    have hdecode := Reference.decode_writeText false text
    have hbroken := Reference.opensBroken_writeText text
    obtain ⟨c, cs, hcs, -⟩ := exists_writeText_eq_cons hne
    rw [hcs] at hread hdecode hbroken
    rw [List.cons_append] at hread
    simp [writtenText, hcs, next, next.readReferences, not_closes_of_readRaw hread (by simp), hread,
      hdecode, hbroken]

/-! ### Steady sources -/

/-- Characters of names are steady. -/
lemma all_isSteady_of_all_isNameChar {text : List Char} (h : text.all isNameChar = true) :
    text.all isSteady = true := by
  refine List.all_eq_true.2 fun c hc => ?_
  have hc := List.all_eq_true.1 h c hc
  simp only [isNameChar, Bool.and_eq_true] at hc
  exact hc.1.1.1.1

/-- Written attributes are steady. -/
lemma all_isSteady_writeAttributes {attributes : List Attribute}
    (h : ∀ a ∈ attributes, isSteadyAttribute a = true) :
    (writeAttributes attributes).toList.all isSteady = true := by
  induction attributes with
  | nil => rfl
  | cons a attributes ih =>
    have ha := h a (by simp)
    have hrest := ih fun b hb => h b (by simp [hb])
    rw [toList_writeAttributes_cons ha]
    simp only [isSteadyAttribute, isAttributeName, Bool.and_eq_true, List.all_eq_true] at ha
    have hname := all_isSteady_of_all_isNameChar (List.all_eq_true.2 ha.1.2.1.2)
    have hvalue : (a.value.toList.flatMap writeAttributeChar).all isSteady = true :=
      List.all_eq_true.2 fun x hx => (steady_of_mem_written ha.2 hx).1
    simp [writtenAttribute, hname, hvalue, hrest, isSteady]

/-- A written start tag is steady. -/
lemma all_isSteady_openTag {tag : Tag} (h : isSteadyTag tag = true) :
    (openTag tag).all isSteady = true := by
  simp only [isSteadyTag, isTagName, Bool.and_eq_true] at h
  have hname := all_isSteady_of_all_isNameChar h.1.1.2.2
  have hattributes := all_isSteady_writeAttributes (List.all_eq_true.1 h.1.2)
  rw [openTag, List.all_cons, List.all_append, List.all_append, hname, hattributes]
  decide

/-- A written end tag is steady. -/
lemma all_isSteady_closeTag {name : String} (h : isTagName name = true) :
    (closeTag name).all isSteady = true := by
  simp only [isTagName, Bool.and_eq_true] at h
  rw [closeTag, List.all_cons, List.all_cons, List.all_append, all_isSteady_of_all_isNameChar h.2]
  decide

/-- A source without carriage returns has its line breaks already. -/
lemma newlines_eq_self : ∀ {source : List Char}, source.all isSteady = true →
    normalize.newlines source = source
  | [], _ => rfl
  | c :: cs, h => by
    simp only [List.all_cons, Bool.and_eq_true, isSteady, bne_iff_ne] at h
    rw [normalize.newlines, newlines_eq_self h.2]
    · exact fun _ heq _ => h.1.1 heq
    · exact h.1.1

/-- A steady source that does not start with a byte order mark is read as it is. -/
lemma normalize_eq_self {source : List Char} (hmark : skipMark source = source)
    (h : source.all isSteady = true) : normalize source = source := by
  rw [normalize, hmark, newlines_eq_self h]

end Lexer

end Html

end LiterateLinks
