import Mathlib.Tactic.Common
import LiterateLinks.Proofs.Marker.Expression
import LiterateLinks.Proofs.Regex.Search

/-!
# What a marker reads

This file says which match the search finds for a marker expression.  After the opening text the
name is read lazily: it ends at the first place, past its first character, where the marker can end.
A marker can end at the closing text, or at a comma from which the closing text is reached within
the line (`Regex.EndsAt`).  If there is such a comma the annotation runs from it to the first
closing text.  `Regex.MarkerReading` collects these facts and `Regex.markerReading_of_matchHere?`
proves them of the match.

Because the name and the annotation are read lazily, the closing text is nowhere inside them, except
perhaps at the very start of one of the two (`Regex.MarkerReading.closing_stands`); at the start of
the annotation only if it begins with a comma (`Regex.MarkerReading.eq_nil_of_closing`).
-/

namespace LiterateLinks

namespace MarkerText

variable {m : Match} {name : List Char} {note : Option (List Char)}

/-- The text of a marker is read from the two groups of its match. -/
lemma ofMatch_eq (hname : m.group? 1 = some name) (hnote : m.group? 2 = note) :
    ofMatch m = ⟨String.ofList name, note.map String.ofList⟩ := by
  simp [ofMatch, hname, hnote]

/-- A marker is written with what its two groups have read. -/
lemma toList_written_ofMatch (hname : m.group? 1 = some name) (hnote : m.group? 2 = note) :
    (ofMatch m).written.toList = name ++ note.getD [] := by
  rw [ofMatch_eq hname hnote]
  cases note <;> simp [written]

end MarkerText

namespace Regex

variable {β : Type}

/-! ## Sequences of expressions -/

/-- The expressions of two lists are read one after the other. -/
lemma attempt_concat_append (es fs : List Regex) (text : List Char) (captures : List Capture)
    (next : List Char → List Capture → Option β) :
    (concat (es ++ fs)).attempt text captures next =
      (concat es).attempt text captures fun rest found => (concat fs).attempt rest found next := by
  induction es generalizing text captures with
  | nil => rfl
  | cons e es ih =>
    simp only [List.cons_append, concat, attempt]
    congr 1
    funext rest found
    exact ih rest found

/-- A literal text is read by removing it from the front. -/
lemma attempt_literal_append (text rest : List Char) (captures : List Capture)
    (next : List Char → List Capture → Option β) :
    (literal text).attempt (text ++ rest) captures next = next rest captures := by
  induction text with
  | nil => rfl
  | cons c cs ih => simpa [literal, concat, attempt, readOne, CharSet.contains] using ih

/-- A literal text is only read where it stands. -/
lemma attempt_literal_of_not_leading {text s : List Char} (h : ¬text <+: s)
    (captures : List Capture) (next : List Char → List Capture → Option β) :
    (literal text).attempt s captures next = none := by
  induction text generalizing s with
  | nil => exact absurd List.nil_prefix h
  | cons c cs ih =>
    cases s with
    | nil => rfl
    | cons d ds =>
      by_cases hd : d = c
      · subst hd
        have hcs : ¬cs <+: ds := fun hp => h (List.cons_prefix_cons.2 ⟨rfl, hp⟩)
        simpa [literal, concat, attempt, readOne, CharSet.contains] using ih hcs
      · simp [literal, concat, attempt, readOne, CharSet.contains, hd]

/-- A reading of a literal text takes it from the front. -/
lemma attempt_literal_eq_some {text s : List Char} {captures : List Capture}
    {next : List Char → List Capture → Option β} {answer : β}
    (h : (literal text).attempt s captures next = some answer) :
    ∃ rest, s = text ++ rest ∧ next rest captures = some answer := by
  by_cases hp : text <+: s
  · obtain ⟨rest, rfl⟩ := hp
    exact ⟨rest, rfl, by rwa [attempt_literal_append] at h⟩
  · rw [attempt_literal_of_not_leading hp] at h
    cases h

/-- A reading of a literal text fails exactly where the text does not stand, if the continuation
accepts everything. -/
lemma attempt_literal_eq_none_iff {text s : List Char} {captures : List Capture}
    {next : List Char → List Capture → Option β} (hnext : ∀ rest found, next rest found ≠ none) :
    (literal text).attempt s captures next = none ↔ ¬text <+: s := by
  constructor
  · rintro h ⟨rest, rfl⟩
    rw [attempt_literal_append] at h
    exact hnext rest captures h
  · exact fun h => attempt_literal_of_not_leading h captures next

/-! ## The end of a marker -/

/-- An annotation can be read at the start of the text: a comma from which the closing text is
reached within the line. -/
def HasNote (closing text : List Char) : Prop :=
  ∃ n w, text = ',' :: (n ++ w) ∧ (∀ c ∈ n, c ≠ '\n') ∧ closing <+: w

/-- A marker can end at the start of the text: with an annotation or at once. -/
def EndsAt (closing text : List Char) : Prop :=
  HasNote closing text ∨ closing <+: text

/-- A way to read the end of a marker: the annotation, if there is one, and the text after the
closing text.  An annotation is taken if it can be, and is as short as possible. -/
structure EndReading (closing text : List Char) (note : Option (List Char)) (rest : List Char) :
    Prop where
  text_eq : text = note.getD [] ++ (closing ++ rest)
  of_some : ∀ n, note = some n → ∃ w, n = ',' :: w ∧ (∀ c ∈ w, c ≠ '\n') ∧
    ∀ x y, w ++ (closing ++ rest) = x ++ y → x.length < w.length → ¬closing <+: y
  of_none : note = none → ¬HasNote closing text

/-- The captures of a marker end: an annotation is remembered under the index `2`. -/
def noteCapture (text : List Char) (closed : List Char) : Option (List Char) → List Capture
  | some _ => [⟨2, text, closed⟩]
  | none => []

/-- The reading of an annotation goes on with the first place, within the line, where the closing
text stands. -/
lemma attempt_note_cons (closing w : List Char) (captures : List Capture)
    (next : List Char → List Capture → Option β) :
    (cat markerNote (literal closing)).attempt (',' :: w) captures next =
      match CharSet.inLine.lazily (fun v => (literal closing).attempt v
          (⟨2, ',' :: w, v⟩ :: captures) next) w with
      | some answer => some answer
      | none => (literal closing).attempt (',' :: w) captures next := by
  simp only [concat, attempt, markerNote, CharSet.contains, beq_self_eq_true, if_true]
  rfl

/-- There is no annotation without a comma. -/
lemma attempt_note_of_ne_comma {closing text : List Char} (htext : ∀ w, text ≠ ',' :: w)
    (captures : List Capture) (next : List Char → List Capture → Option β) :
    (cat markerNote (literal closing)).attempt text captures next =
      (literal closing).attempt text captures next := by
  cases text with
  | nil => simp [concat, attempt, markerNote]
  | cons c cs =>
    have hc : c ≠ ',' := fun h => htext cs (by rw [h])
    simp [concat, attempt, markerNote, CharSet.contains, hc]

/-- The reading of the end of a marker. -/
lemma endReading_of_attempt {closing text : List Char} {captures : List Capture}
    {next : List Char → List Capture → Option β} {answer : β}
    (hnext : ∀ rest found, next rest found ≠ none)
    (h : (cat markerNote (literal closing)).attempt text captures next = some answer) :
    ∃ note rest, EndReading closing text note rest ∧
      next rest (noteCapture text (closing ++ rest) note ++ captures) = some answer := by
  by_cases hcomma : ∃ w, text = ',' :: w
  · obtain ⟨w, rfl⟩ := hcomma
    rw [attempt_note_cons] at h
    split at h
    · next found hlazy =>
      obtain ⟨n, v, rfl, hn, hv, hleast⟩ := CharSet.lazily_eq_some hlazy
      obtain ⟨rest, rfl, hanswer⟩ := attempt_literal_eq_some hv
      refine ⟨some (',' :: n), rest, ⟨by simp, ?_, by simp⟩, by rwa [h] at hanswer⟩
      rintro _ ⟨⟩
      refine ⟨n, rfl, by simpa [CharSet.contains] using hn, fun x y hxy hlen => ?_⟩
      exact (attempt_literal_eq_none_iff hnext).1 (hleast x y hxy hlen)
    · next hlazy =>
      obtain ⟨rest, htext, hanswer⟩ := attempt_literal_eq_some h
      refine ⟨none, rest, ⟨by simpa using htext, by simp, ?_⟩, hanswer⟩
      rintro - ⟨n, v, hnv, hn, hv⟩
      simp only [List.cons.injEq, true_and] at hnv
      have hnone :=
        CharSet.lazily_eq_none_iff.1 hlazy n v hnv (by simpa [CharSet.contains] using hn)
      exact (attempt_literal_eq_none_iff hnext).1 hnone hv
  · have htext : ∀ w, text ≠ ',' :: w := fun w hw => hcomma ⟨w, hw⟩
    rw [attempt_note_of_ne_comma htext] at h
    obtain ⟨rest, heq, hanswer⟩ := attempt_literal_eq_some h
    refine ⟨none, rest, ⟨by simpa using heq, by simp, ?_⟩, hanswer⟩
    rintro - ⟨n, v, hnv, -, -⟩
    exact htext _ hnv

/-- An annotation that is read can be read. -/
lemma EndReading.hasNote {closing text rest n : List Char}
    (h : EndReading closing text (some n) rest) : HasNote closing text := by
  obtain ⟨w, rfl, hw, -⟩ := h.of_some n rfl
  exact ⟨w, closing ++ rest, by simpa using h.text_eq, hw, List.prefix_append _ _⟩

/-- A marker can end where its end is read. -/
lemma EndReading.endsAt {closing text rest : List Char} {note : Option (List Char)}
    (h : EndReading closing text note rest) : EndsAt closing text := by
  cases note with
  | some n => exact .inl h.hasNote
  | none => exact .inr ⟨rest, by simpa using h.text_eq.symm⟩

/-- The reading of the end of a marker fails exactly where a marker cannot end. -/
lemma attempt_note_eq_none_iff {closing text : List Char} {captures : List Capture}
    {next : List Char → List Capture → Option β} (hnext : ∀ rest found, next rest found ≠ none) :
    (cat markerNote (literal closing)).attempt text captures next = none ↔
      ¬EndsAt closing text := by
  constructor
  · rintro h (⟨n, w, rfl, hn, hw⟩ | hclosing)
    · rw [attempt_note_cons] at h
      split at h
      · cases h
      · next hlazy =>
        have hnone :=
          CharSet.lazily_eq_none_iff.1 hlazy n w rfl (by simpa [CharSet.contains] using hn)
        exact (attempt_literal_eq_none_iff hnext).1 hnone hw
    · by_cases hcomma : ∃ w, text = ',' :: w
      · obtain ⟨w, rfl⟩ := hcomma
        rw [attempt_note_cons] at h
        split at h
        · cases h
        · exact (attempt_literal_eq_none_iff hnext).1 h hclosing
      · rw [attempt_note_of_ne_comma fun w hw => hcomma ⟨w, hw⟩] at h
        exact (attempt_literal_eq_none_iff hnext).1 h hclosing
  · intro h
    by_contra hsome
    obtain ⟨answer, hanswer⟩ := Option.ne_none_iff_exists'.1 hsome
    obtain ⟨note, rest, hread, -⟩ := endReading_of_attempt hnext hanswer
    exact h hread.endsAt

/-! ## Whole markers -/

/-- What was read before a rest of the text. -/
lemma take_length_sub (u rest : List Char) :
    (u ++ rest).take ((u ++ rest).length - rest.length) = u := by
  simp

/-- What a group has read between two suffixes of the text. -/
lemma text_capture_append (index : ℕ) (u rest : List Char) :
    (⟨index, u ++ rest, rest⟩ : Capture).text = u :=
  take_length_sub u rest

/-- A way to read a marker at the start of a text: its name, its annotation if there is one, and the
text after it.  The name is not empty, and it ends at the first place past its first character where
the marker can end. -/
structure MarkerReading (opening : List Char) (set : CharSet) (closing text name : List Char)
    (note : Option (List Char)) (rest : List Char) : Prop where
  text_eq : text = opening ++ (name ++ (note.getD [] ++ (closing ++ rest)))
  name_ne_nil : name ≠ []
  name_set : ∀ c ∈ name, set.contains c = true
  name_least : ∀ x y, name ++ (note.getD [] ++ (closing ++ rest)) = x ++ y → x ≠ [] →
    x.length < name.length → ¬EndsAt closing y
  ending : EndReading closing (note.getD [] ++ (closing ++ rest)) note rest

/-- The name of a marker begins with a character of the set and is read lazily. -/
lemma attempt_name_cons (set : CharSet) (c : Char) (cs : List Char) (captures : List Capture)
    (ending : Regex) (next : List Char → List Capture → Option β) :
    (cat (markerName set) ending).attempt (c :: cs) captures next =
      if set.contains c then
        set.lazily (fun v => ending.attempt v (⟨1, c :: cs, v⟩ :: captures) next) cs
      else none := by
  simp only [concat, attempt, markerName]
  rfl

/-- A marker is read from its opening text to its closing text. -/
lemma attempt_marker (opening closing text : List Char) (set : CharSet) (captures : List Capture)
    (next : List Char → List Capture → Option β) :
    (marker opening set closing).attempt text captures next =
      (literal opening).attempt text captures fun rest found =>
        (cat (markerName set) (cat markerNote (literal closing))).attempt rest found next :=
  attempt_concat_append _ _ text captures next

/-- The search for a marker finds the reading of a marker, with its name under the index `1` and its
annotation under the index `2`. -/
lemma markerReading_of_matchHere? {opening closing text : List Char} {set : CharSet} {m : Match}
    (h : (marker opening set closing).matchHere? text = some m) :
    ∃ name note rest, MarkerReading opening set closing text name note rest ∧
      m.whole = opening ++ (name ++ (note.getD [] ++ closing)) ∧
      m.group? 1 = some name ∧ m.group? 2 = note := by
  unfold matchHere? at h
  have hnext : ∀ (rest : List Char) (captures : List Capture),
      (some ⟨text.take (text.length - rest.length), captures⟩ : Option Match) ≠ none := by simp
  rw [attempt_marker] at h
  obtain ⟨body, rfl, hname⟩ := attempt_literal_eq_some h
  cases body with
  | nil => simp [concat, attempt, markerName] at hname
  | cons c cs =>
    rw [attempt_name_cons] at hname
    split at hname
    · next hc =>
      obtain ⟨u, v, rfl, hu, hv, hleast⟩ := CharSet.lazily_eq_some hname
      obtain ⟨note, rest, hend, hm⟩ := endReading_of_attempt hnext hv
      obtain rfl := hend.text_eq
      have hm' := Option.some.inj hm
      refine ⟨c :: u, note, rest, ⟨by simp, by simp, by simpa [hc] using hu, ?_, hend⟩, ?_, ?_, ?_⟩
      · -- a shorter name was tried first, and the marker could not end after it
        intro x y hxy hx hlen
        cases x with
        | nil => exact absurd rfl hx
        | cons d x =>
          simp only [List.cons_append, List.cons.injEq] at hxy
          exact (attempt_note_eq_none_iff hnext).1 (hleast x y hxy.2 (by simpa using hlen))
      · have hsplit : opening ++ c :: (u ++ (note.getD [] ++ (closing ++ rest))) =
            (opening ++ (c :: u ++ (note.getD [] ++ closing))) ++ rest := by simp
        rw [← hm', hsplit]
        exact take_length_sub _ rest
      · have hcapture := text_capture_append 1 (c :: u) (note.getD [] ++ (closing ++ rest))
        rw [List.cons_append] at hcapture
        rw [← hm']
        cases note <;> simpa [Match.group?, noteCapture] using hcapture
      · have hcapture := text_capture_append 2 (note.getD []) (closing ++ rest)
        rw [← hm']
        cases note with
        | none => simp [Match.group?, noteCapture]
        | some n => simpa [Match.group?, noteCapture] using hcapture
    · cases hname

/-- There is no marker at the start of a text exactly when no name behind the opening text leads to
a place where a marker can end. -/
lemma matchHere?_marker_eq_none_iff {opening closing text : List Char} {set : CharSet} :
    (marker opening set closing).matchHere? text = none ↔
      ∀ name v, text = opening ++ (name ++ v) → name ≠ [] →
        (∀ c ∈ name, set.contains c = true) → ¬EndsAt closing v := by
  constructor
  · rintro h name v rfl hne hname hend
    obtain ⟨c, cs, rfl⟩ := List.exists_cons_of_ne_nil hne
    unfold matchHere? at h
    rw [attempt_marker, attempt_literal_append, List.cons_append, attempt_name_cons,
      if_pos (hname c (by simp))] at h
    have hnone := CharSet.lazily_eq_none_iff.1 h cs v rfl fun d hd => hname d (by simp [hd])
    exact (attempt_note_eq_none_iff (by simp)).1 hnone hend
  · intro h
    by_contra hsome
    obtain ⟨m, hm⟩ := Option.ne_none_iff_exists'.1 hsome
    obtain ⟨name, note, rest, hread, -⟩ := markerReading_of_matchHere? hm
    exact h name _ hread.text_eq hread.name_ne_nil hread.name_set hread.ending.endsAt

/-- Inside what a marker reads between its delimiters, the closing text stands only at the very
start of the name or at the very start of the annotation. -/
lemma MarkerReading.closing_stands {opening closing text name rest : List Char} {set : CharSet}
    {note : Option (List Char)} (h : MarkerReading opening set closing text name note rest)
    (hclosing : closing ≠ []) {x y : List Char}
    (hxy : name ++ note.getD [] = x ++ (closing ++ y)) :
    x = [] ∨ x = name ∧ note = some (closing ++ y) := by
  by_cases hx : x = []
  · exact .inl hx
  right
  rcases Nat.lt_or_ge x.length name.length with hlen | hlen
  · -- inside the name, past its start: the name would have ended there
    refine absurd (.inr (List.prefix_append _ _))
      (h.name_least x (closing ++ (y ++ (closing ++ rest))) ?_ hx hlen)
    rw [← List.append_assoc name, hxy]
    simp
  · obtain ⟨z, rfl⟩ : name <+: x :=
      List.prefix_of_prefix_length_le ⟨note.getD [], hxy⟩ ⟨closing ++ y, rfl⟩ hlen
    rw [List.append_assoc, List.append_cancel_left_eq] at hxy
    cases hnote : note with
    | none =>
      rw [hnote, Option.getD_none, eq_comm, List.append_eq_nil_iff, List.append_eq_nil_iff] at hxy
      exact absurd hxy.2.1 hclosing
    | some n =>
      rw [hnote, Option.getD_some] at hxy
      cases z with
      | nil => exact ⟨List.append_nil _, by rw [hxy, List.nil_append]⟩
      | cons d z =>
        -- inside the annotation: it would have ended there
        obtain ⟨w, rfl, -, hleast⟩ := h.ending.of_some n hnote
        simp only [List.cons_append, List.cons.injEq] at hxy
        have hlt : z.length < w.length := by
          have hpos := List.length_pos_iff.2 hclosing
          rw [hxy.2]
          simp only [List.length_append]
          omega
        refine absurd (List.prefix_append _ _)
          (hleast z (closing ++ (y ++ (closing ++ rest))) ?_ hlt)
        rw [hxy.2]
        simp

/-- The closing text stands nowhere inside what a marker reads between its delimiters, except
perhaps at the very start, unless it begins with a comma. -/
lemma MarkerReading.eq_nil_of_closing {opening closing text name rest : List Char} {set : CharSet}
    {note : Option (List Char)} (h : MarkerReading opening set closing text name note rest)
    (hclosing : closing ≠ []) (hcomma : ',' ∉ closing) {x y : List Char}
    (hxy : name ++ note.getD [] = x ++ (closing ++ y)) : x = [] := by
  rcases h.closing_stands hclosing hxy with hx | ⟨-, hnote⟩
  · exact hx
  · -- an annotation begins with a comma, which the closing text does not hold
    obtain ⟨w, hw, -⟩ := h.ending.of_some _ hnote
    obtain ⟨d, ds, rfl⟩ := List.exists_cons_of_ne_nil hclosing
    rw [List.cons_append, List.cons.injEq] at hw
    exact absurd (List.mem_cons.2 (.inl hw.1.symm)) hcomma

/-! ## Texts without a marker -/

/-- A word of a sequence of expressions is made of words of its parts. -/
lemma accepts_concat_append {es fs : List Regex} {w : List Char}
    (h : Accepts (concat (es ++ fs)) w) :
    ∃ u v, w = u ++ v ∧ Accepts (concat es) u ∧ Accepts (concat fs) v := by
  induction es generalizing w with
  | nil => exact ⟨[], w, rfl, .empty, h⟩
  | cons e es ih =>
    rw [List.cons_append, concat] at h
    cases h with
    | @cat _ _ a b ha hb =>
      obtain ⟨u, v, rfl, hu, hv⟩ := ih hb
      exact ⟨a ++ u, v, by simp, .cat ha hu, hv⟩

/-- The only word of a literal text is the text. -/
lemma eq_of_accepts_literal {text w : List Char} (h : Accepts (literal text) w) :
    w = text := by
  induction text generalizing w with
  | nil =>
    cases h
    rfl
  | cons c cs ih =>
    rw [literal, List.map_cons, concat] at h
    cases h with
    | cat hc hcs =>
      cases hc with
      | one hone =>
        rw [ih hcs, eq_of_beq hone]
        rfl

/-- A name is not empty. -/
lemma ne_nil_of_accepts_markerName {set : CharSet} {w : List Char}
    (h : Accepts (markerName set) w) : w ≠ [] := by
  unfold markerName concat at h
  cases h with
  | group h =>
    cases h with
    | cat h _ =>
      cases h with
      | cat h _ =>
        cases h
        simp

/-- A marker has the closing text at its end and something between it and the opening text. -/
lemma exists_of_accepts_marker {opening closing w : List Char} {set : CharSet}
    (h : Accepts (marker opening set closing) w) :
    ∃ inner, inner ≠ [] ∧ w = opening ++ (inner ++ closing) := by
  obtain ⟨a, b, rfl, ha, hb⟩ := accepts_concat_append h
  obtain rfl := eq_of_accepts_literal ha
  rw [concat, concat] at hb
  cases hb with
  | @cat _ _ name b hname hb =>
    cases hb with
    | @cat _ _ note b _ hb =>
      obtain rfl := eq_of_accepts_literal hb
      refine ⟨name ++ note, ?_, by simp⟩
      simp [ne_nil_of_accepts_markerName hname]

/-- No marker is empty. -/
lemma not_accepts_marker_nil (opening : List Char) (set : CharSet) (closing : List Char) :
    ¬Accepts (marker opening set closing) [] := by
  intro h
  obtain ⟨inner, hinner, hw⟩ := exists_of_accepts_marker h
  simp_all

/-- A text in which the closing text stands only near the start holds no marker: there is no room in
front of it for the opening text and a name. -/
lemma avoids_marker_of_closing {opening closing text : List Char} {set : CharSet}
    (h : ∀ x y, text = x ++ (closing ++ y) → x.length ≤ opening.length) :
    Avoids (marker opening set closing) text := by
  rintro w ⟨a, b, hab⟩ hw
  obtain ⟨inner, hinner, rfl⟩ := exists_of_accepts_marker hw
  have hlen := h (a ++ (opening ++ inner)) b (by rw [← hab]; simp)
  have hpos := List.length_pos_iff.2 hinner
  simp only [List.length_append] at hlen
  omega

/-- A text without some character of the opening text holds no marker. -/
lemma avoids_marker_of_not_mem {opening closing text : List Char} {set : CharSet} {c : Char}
    (hopening : c ∈ opening) (htext : c ∉ text) : Avoids (marker opening set closing) text := by
  rintro w ⟨a, b, hab⟩ hw
  obtain ⟨inner, -, rfl⟩ := exists_of_accepts_marker hw
  refine htext ?_
  rw [← hab]
  simp [hopening]

/-- A text without some stretch of the opening text holds no marker. -/
lemma avoids_marker_of_not_part {opening closing text part : List Char} {set : CharSet}
    (hopening : part <:+: opening) (htext : ¬part <:+: text) :
    Avoids (marker opening set closing) text := by
  rintro w ⟨a, b, hab⟩ hw
  obtain ⟨inner, -, rfl⟩ := exists_of_accepts_marker hw
  have hplace : opening <:+: text := ⟨a, inner ++ (closing ++ b), by rw [← hab]; simp⟩
  exact htext (hopening.trans hplace)

end Regex

end LiterateLinks
