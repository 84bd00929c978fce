import Mathlib.Tactic.Common
import LiterateLinks.Regex.Search

/-!
# What the search finds

The search for matches is tied here to the words that an expression accepts.  There is a match at
the start of a text exactly when some prefix of the text is accepted
(`Regex.matchHere?_eq_none_iff`), and a match covers an accepted word
(`Regex.accepts_of_matchHere?`).

A text avoids an expression when no stretch of it is accepted.  Avoiding is inherited by every
stretch of a text, and it is the same as holding no match (`Regex.scan_hits_eq_nil_iff`).

`Regex.Scanned` describes a whole scan without the counter of the search: the text up to a match
holds no place where a match could start, and the scan goes on after the match.
`Regex.scanned_scan` says that the search finds exactly this, for every expression that does not
accept the empty word.

Of a pattern that may be tied to the ends of the text only the first match is looked for.  It is
found where its word may stand (`Pattern.fitsAt_of_find?`), and one is found wherever there is such
a place (`Pattern.find?_ne_none`).
-/

namespace LiterateLinks

namespace CharSet

variable {β : Type} {set : CharSet} {next : List Char → Option β} {text : List Char}

/-- A lazy repetition takes the shortest reading from which the rest succeeds. -/
lemma lazily_eq_some {answer : β} (h : set.lazily next text = some answer) :
    ∃ u v, text = u ++ v ∧ (∀ c ∈ u, set.contains c = true) ∧ next v = some answer ∧
      ∀ x y, text = x ++ y → x.length < u.length → next y = none := by
  induction text with
  | nil => exact ⟨[], [], rfl, by simp, by simpa [lazily] using h, by simp⟩
  | cons c cs ih =>
    cases hnext : next (c :: cs) with
    | some found =>
      have hfound : found = answer := by simpa [lazily, hnext] using h
      exact ⟨[], c :: cs, rfl, by simp, by rw [hnext, hfound], by simp⟩
    | none =>
      by_cases hc : set.contains c = true
      · have hlater : set.lazily next cs = some answer := by simpa [lazily, hnext, hc] using h
        obtain ⟨u, v, rfl, hu, hv, hleast⟩ := ih hlater
        refine ⟨c :: u, v, rfl, by simpa [hc] using hu, hv, ?_⟩
        intro x y hxy hlen
        cases x with
        | nil => rw [← hnext, hxy, List.nil_append]
        | cons d x =>
          simp only [List.cons_append, List.cons.injEq] at hxy
          exact hleast x y hxy.2 (by simpa using hlen)
      · simp [lazily, hnext, hc] at h

/-- A lazy repetition fails when the rest fails after every reading. -/
lemma lazily_eq_none_iff :
    set.lazily next text = none ↔
      ∀ u v, text = u ++ v → (∀ c ∈ u, set.contains c = true) → next v = none := by
  induction text with
  | nil =>
    constructor
    · intro h u v huv _
      obtain ⟨-, rfl⟩ := List.append_eq_nil_iff.1 huv.symm
      exact h
    · intro h
      exact h [] [] rfl (by simp)
  | cons c cs ih =>
    constructor
    · intro h u v huv hu
      cases hnext : next (c :: cs) with
      | some found => simp [lazily, hnext] at h
      | none =>
        cases u with
        | nil => rw [← hnext, huv, List.nil_append]
        | cons d u =>
          simp only [List.cons_append, List.cons.injEq] at huv
          obtain ⟨rfl, rfl⟩ := huv
          have hc : set.contains c = true := hu c (by simp)
          have hlater : set.lazily next (u ++ v) = none := by simpa [lazily, hnext, hc] using h
          exact ih.1 hlater u v rfl fun d hd => hu d (by simp [hd])
    · intro h
      have hnext : next (c :: cs) = none := h [] (c :: cs) rfl (by simp)
      by_cases hc : set.contains c = true
      · have hlater : set.lazily next cs = none := by
          refine ih.2 fun u v huv hu => h (c :: u) v (by simp [huv]) ?_
          simpa [hc] using hu
        simp [lazily, hnext, hc, hlater]
      · simp [lazily, hnext, hc]

/-- A greedy repetition takes some reading from which the rest succeeds. -/
lemma greedily_eq_some {answer : β} (h : set.greedily next text = some answer) :
    ∃ u v, text = u ++ v ∧ (∀ c ∈ u, set.contains c = true) ∧ next v = some answer := by
  induction text with
  | nil => exact ⟨[], [], rfl, by simp, by simpa [greedily] using h⟩
  | cons c cs ih =>
    by_cases hc : set.contains c = true
    · cases hlater : set.greedily next cs with
      | some found =>
        have hfound : found = answer := by simpa [greedily, hc, hlater] using h
        obtain ⟨u, v, rfl, hu, hv⟩ := ih (by rw [hlater, hfound])
        exact ⟨c :: u, v, rfl, by simpa [hc] using hu, hv⟩
      | none => exact ⟨[], c :: cs, rfl, by simp, by simpa [greedily, hc, hlater] using h⟩
    · exact ⟨[], c :: cs, rfl, by simp, by simpa [greedily, hc] using h⟩

/-- A greedy repetition succeeds when the rest succeeds after some reading. -/
lemma greedily_ne_none {u v : List Char} (hu : ∀ c ∈ u, set.contains c = true)
    (hv : next v ≠ none) :
    set.greedily next (u ++ v) ≠ none := by
  induction u with
  | nil =>
    cases v with
    | nil => simpa [greedily] using hv
    | cons c cs =>
      by_cases hc : set.contains c = true
      · cases hlater : set.greedily next cs with
        | some found => simp [greedily, hc, hlater]
        | none => simpa [greedily, hc, hlater] using hv
      · simpa [greedily, hc] using hv
  | cons c u ih =>
    have hc : set.contains c = true := hu c (by simp)
    have hlater := ih fun d hd => hu d (by simp [hd])
    obtain ⟨found, hfound⟩ := Option.ne_none_iff_exists'.1 hlater
    simp [greedily, hc, hfound]

end CharSet

namespace Regex

variable {β : Type}

/-! ## Accepted words -/

/-- An expression that reads one character accepts the one-character texts of its set. -/
lemma accepts_one_iff {set : CharSet} {word : List Char} :
    Accepts (.one set) word ↔ ∃ c, word = [c] ∧ set.contains c = true := by
  constructor
  · rintro ⟨⟩
    exact ⟨_, rfl, ‹_›⟩
  · rintro ⟨c, rfl, hc⟩
    exact .one hc

/-- A sequence accepts a text of its first expression followed by a text of the others. -/
lemma accepts_concat_cons_iff {e : Regex} {es : List Regex} {word : List Char} :
    Accepts (concat (e :: es)) word ↔
      ∃ u v, word = u ++ v ∧ Accepts e u ∧ Accepts (concat es) v := by
  constructor
  · rintro ⟨⟩
    exact ⟨_, _, rfl, ‹_›, ‹_›⟩
  · rintro ⟨u, v, rfl, hu, hv⟩
    exact .cat hu hv

/-- An empty sequence accepts the empty text. -/
lemma accepts_concat_nil_iff {word : List Char} : Accepts (concat []) word ↔ word = [] := by
  constructor
  · rintro ⟨⟩
    rfl
  · rintro rfl
    exact .empty

/-- A sequence of one expression accepts what the expression accepts. -/
lemma accepts_concat_singleton_iff {e : Regex} {word : List Char} :
    Accepts (concat [e]) word ↔ Accepts e word := by
  simp [accepts_concat_cons_iff, accepts_concat_nil_iff]

/-- An optional expression accepts what the expression accepts, and the empty text. -/
lemma accepts_maybe_iff {body : Regex} {greedy : Bool} {word : List Char} :
    Accepts (.maybe body greedy) word ↔ word = [] ∨ Accepts body word := by
  constructor
  · rintro (_ | _)
    · exact .inl rfl
    · exact .inr ‹_›
  · rintro (rfl | hbody)
    · exact .skip
    · exact .take hbody

/-- A repeated set accepts the texts of its characters. -/
lemma accepts_many_iff {set : CharSet} {greedy : Bool} {word : List Char} :
    Accepts (.many set greedy) word ↔ ∀ c ∈ word, set.contains c = true := by
  constructor
  · rintro ⟨⟩
    assumption
  · exact .many

/-! ## Readings and accepted words -/

/-- What an expression reads is a word it accepts, and the rest is what the continuation was
given. -/
lemma accepts_of_attempt {e : Regex} {text : List Char} {captures : List Capture}
    {next : List Char → List Capture → Option β} {answer : β}
    (h : e.attempt text captures next = some answer) :
    ∃ u v found, text = u ++ v ∧ Accepts e u ∧ next v found = some answer := by
  induction e generalizing text captures next with
  | empty => exact ⟨[], text, captures, rfl, .empty, h⟩
  | one set =>
    cases text with
    | nil => simp [attempt] at h
    | cons c cs =>
      by_cases hc : set.contains c = true
      · exact ⟨[c], cs, captures, rfl, .one hc, by simpa [attempt, hc] using h⟩
      · simp [attempt, hc] at h
  | many set greedy =>
    cases greedy with
    | true =>
      obtain ⟨u, v, rfl, hu, hv⟩ := CharSet.greedily_eq_some (by simpa [attempt] using h)
      exact ⟨u, v, captures, rfl, .many hu, hv⟩
    | false =>
      obtain ⟨u, v, rfl, hu, hv, -⟩ := CharSet.lazily_eq_some (by simpa [attempt] using h)
      exact ⟨u, v, captures, rfl, .many hu, hv⟩
  | cat first second ihf ihs =>
    obtain ⟨u, v, found, rfl, hu, hv⟩ := ihf (by simpa [attempt] using h)
    obtain ⟨u', v', found', rfl, hu', hv'⟩ := ihs hv
    exact ⟨u ++ u', v', found', by simp, .cat hu hu', hv'⟩
  | maybe body greedy ih =>
    have hcases : body.attempt text captures next = some answer ∨
        next text captures = some answer := by
      cases greedy <;> cases hbody : body.attempt text captures next <;>
        cases hnext : next text captures <;> simp_all [attempt]
    rcases hcases with hbody | hnext
    · obtain ⟨u, v, found, rfl, hu, hv⟩ := ih hbody
      exact ⟨u, v, found, rfl, .take hu, hv⟩
    · exact ⟨[], text, captures, rfl, .skip, hnext⟩
  | group index body ih =>
    obtain ⟨u, v, found, rfl, hu, hv⟩ := ih (by simpa [attempt] using h)
    exact ⟨u, v, _, rfl, .group hu, hv⟩

/-- A reading of an accepted word succeeds if the continuation accepts the rest whatever has been
captured. -/
lemma attempt_ne_none {e : Regex} {u v : List Char} {captures : List Capture}
    {next : List Char → List Capture → Option β} (hu : Accepts e u)
    (hnext : ∀ found, next v found ≠ none) : e.attempt (u ++ v) captures next ≠ none := by
  induction hu generalizing v captures next with
  | empty => exact hnext captures
  | one hc => simpa [attempt, hc] using hnext captures
  | @many set greedy word hword =>
    cases greedy with
    | true => simpa [attempt] using CharSet.greedily_ne_none hword (hnext captures)
    | false =>
      intro hnone
      have hlazy : set.lazily (next · captures) (word ++ v) = none := by
        simpa [attempt] using hnone
      exact hnext captures (CharSet.lazily_eq_none_iff.1 hlazy word v rfl hword)
  | cat _ _ ihf ihs =>
    rw [List.append_assoc, attempt]
    exact ihf fun found => ihs hnext
  | @skip body greedy =>
    cases greedy <;> cases hbody : body.attempt ([] ++ v) captures next <;>
      cases hv : next v captures <;> simp_all [attempt]
  | @take body greedy word _ ih =>
    have hbody : body.attempt (word ++ v) captures next ≠ none := ih hnext
    cases greedy <;> cases hb : body.attempt (word ++ v) captures next <;>
      cases hv : next (word ++ v) captures <;> simp_all [attempt]
  | group _ ih =>
    rw [attempt]
    exact ih fun found => hnext _

/-- A match at the start of a text covers an accepted prefix of it. -/
lemma accepts_of_matchHere? {e : Regex} {text : List Char} {m : Match}
    (h : e.matchHere? text = some m) : ∃ rest, text = m.whole ++ rest ∧ Accepts e m.whole := by
  obtain ⟨u, v, found, rfl, hu, hv⟩ := accepts_of_attempt h
  have hwhole : m.whole = u := by
    rw [← Option.some.inj hv]
    simp
  exact ⟨v, by rw [hwhole], by rwa [hwhole]⟩

/-- There is no match at the start of a text exactly when no prefix of it is accepted. -/
lemma matchHere?_eq_none_iff {e : Regex} {text : List Char} :
    e.matchHere? text = none ↔ ∀ u, u <+: text → ¬Accepts e u := by
  constructor
  · rintro h u ⟨v, rfl⟩ hu
    exact attempt_ne_none hu (by simp) h
  · intro h
    cases hm : e.matchHere? text with
    | none => rfl
    | some m =>
      obtain ⟨rest, htext, hwhole⟩ := accepts_of_matchHere? hm
      exact absurd hwhole (h m.whole ⟨rest, htext.symm⟩)

/-! ## Texts without a match -/

/-- No stretch of the text is a word of the expression. -/
def Avoids (e : Regex) (text : List Char) : Prop :=
  ∀ u, u <:+: text → ¬Accepts e u

/-- A stretch of a text avoids what the text avoids. -/
lemma Avoids.of_part {e : Regex} {s text : List Char} (h : Avoids e text) (hs : s <:+: text) :
    Avoids e s :=
  fun u hu => h u (hu.trans hs)

/-- The empty text avoids every expression that does not accept it. -/
lemma avoids_nil {e : Regex} (he : ¬Accepts e []) : Avoids e [] := by
  intro u hu
  rwa [List.infix_nil.1 hu]

/-- A text avoids an expression if there is no match at its start and its tail avoids it. -/
lemma avoids_cons {e : Regex} {c : Char} {cs : List Char}
    (hhere : ∀ u, u <+: c :: cs → ¬Accepts e u) (hrest : Avoids e cs) : Avoids e (c :: cs) := by
  intro u hu
  rcases List.infix_cons_iff.1 hu with hleading | hpart
  · exact hhere u hleading
  · exact hrest u hpart

/-! ## Scans -/

/-- The scan of a text, described by its matches: each is the match at the first place where there
is one, and the scan goes on right after it. -/
inductive Scanned (e : Regex) : List Char → Scan → Prop where
  | done {text : List Char} : Avoids e text → Scanned e text ⟨[], text⟩
  | hit {before rest : List Char} {m : Match} {scan : Scan} :
      (∀ x y, before = x ++ y → y ≠ [] → e.matchHere? (y ++ (m.whole ++ rest)) = none) →
      e.matchHere? (m.whole ++ rest) = some m → Scanned e rest scan →
      Scanned e (before ++ (m.whole ++ rest)) ⟨(before, m) :: scan.hits, scan.tail⟩

/-- A character at which no match starts extends the first stretch of a scan. -/
lemma Scanned.pushFront {e : Regex} {c : Char} {cs : List Char} {scan : Scan}
    (hhere : e.matchHere? (c :: cs) = none) (h : Scanned e cs scan) :
    Scanned e (c :: cs) (scan.pushFront c) := by
  cases h with
  | done havoids => exact .done (avoids_cons (matchHere?_eq_none_iff.1 hhere) havoids)
  | @hit before rest m scan hbefore hm hscan =>
    rw [← List.cons_append]
    refine .hit ?_ hm hscan
    intro x y hxy hy
    cases x with
    | nil =>
      rw [← hxy.trans (List.nil_append y)]
      exact hhere
    | cons d x =>
      simp only [List.cons_append, List.cons.injEq] at hxy
      exact hbefore x y hxy.2 hy

/-- The search skips the characters that belong to the last match. -/
lemma scanFrom_eq_drop (e : Regex) (hidden : ℕ) (text : List Char) :
    e.scanFrom hidden text = e.scanFrom 0 (text.drop hidden) := by
  induction hidden generalizing text with
  | zero => rfl
  | succ hidden ih =>
    cases text with
    | nil => simp [scanFrom]
    | cons c cs => rw [scanFrom, ih, List.drop_succ_cons]

/-- Without a match, the tail of a scan is the whole text. -/
lemma scan_tail_of_hits_eq_nil {e : Regex} {text : List Char} (h : (e.scan text).hits = []) :
    (e.scan text).tail = text := by
  unfold scan at h ⊢
  induction text with
  | nil => rfl
  | cons c cs ih =>
    rw [scanFrom] at h ⊢
    cases hm : e.matchHere? (c :: cs) with
    | some m => simp [hm, Scan.pushHit] at h
    | none =>
      simp only [hm] at h ⊢
      rcases hscan : e.scanFrom 0 cs with ⟨_ | ⟨⟨before, m⟩, hits⟩, tail⟩
      · have htail : tail = cs := by simpa [hscan] using ih (by rw [hscan])
        simp [Scan.pushFront, htail]
      · simp [hscan, Scan.pushFront] at h

/-- The search scans the text. -/
theorem scanned_scan {e : Regex} (he : ¬Accepts e []) (text : List Char) :
    Scanned e text (e.scan text) := by
  unfold scan
  induction hlen : text.length using Nat.strongRecOn generalizing text with
  | ind n ih =>
    subst hlen
    cases text with
    | nil => exact .done (avoids_nil he)
    | cons c cs =>
      rw [scanFrom]
      cases hm : e.matchHere? (c :: cs) with
      | none => exact .pushFront hm (ih cs.length (by simp) cs rfl)
      | some m =>
        obtain ⟨rest, htext, hwhole⟩ := accepts_of_matchHere? hm
        have hne : m.whole ≠ [] := fun h => he (h ▸ hwhole)
        obtain ⟨d, ds, hds⟩ := List.exists_cons_of_ne_nil hne
        have hcs : cs = ds ++ rest := by
          rw [hds, List.cons_append, List.cons.injEq] at htext
          exact htext.2
        have hdrop : cs.drop (m.whole.length - 1) = rest := by simp [hcs, hds]
        have hlength : rest.length < (c :: cs).length := by
          rw [hcs, List.length_cons, List.length_append]
          omega
        have hscan : Scanned e rest (e.scanFrom 0 rest) := ih rest.length hlength rest rfl
        have hhit : Scanned e ([] ++ (m.whole ++ rest)) ⟨([], m) :: _, _⟩ :=
          .hit (by simp) (htext ▸ hm) hscan
        rw [List.nil_append, ← htext] at hhit
        simpa only [scanFrom_eq_drop e (m.whole.length - 1), hdrop, Scan.pushHit] using hhit

/-- A scan has no match exactly when the text avoids the expression. -/
lemma scan_hits_eq_nil_iff {e : Regex} (he : ¬Accepts e []) {text : List Char} :
    (e.scan text).hits = [] ↔ Avoids e text := by
  have h := scanned_scan he text
  constructor
  · intro hnil
    rcases hscan : e.scan text with ⟨hits, tail⟩
    rw [hscan] at h hnil
    obtain rfl : hits = [] := hnil
    cases h with
    | done havoids => exact havoids
  · intro havoids
    generalize e.scan text = scan at h
    cases h with
    | done => rfl
    | @hit before rest m scan _ hm _ =>
      obtain ⟨_, -, hwhole⟩ := accepts_of_matchHere? hm
      exact absurd hwhole (havoids m.whole ⟨before, rest, by simp⟩)

/-- Every match of a scan is the match at some place. -/
lemma Scanned.exists_matchHere? {e : Regex} {text : List Char} {scan : Scan}
    (h : Scanned e text scan) : ∀ hit ∈ scan.hits, ∃ s, e.matchHere? s = some hit.2 := by
  induction h with
  | done => simp
  | hit _ hm _ ih =>
    intro hit hhit
    rcases List.mem_cons.1 hhit with rfl | hlater
    · exact ⟨_, hm⟩
    · exact ih hit hlater

/-- What a scan leaves before a match or after the last one is a stretch of the text without a
match. -/
lemma Scanned.avoids {e : Regex} (he : ¬Accepts e []) {text : List Char} {scan : Scan}
    (h : Scanned e text scan) {s : List Char} (hs : s = scan.tail ∨ ∃ hit ∈ scan.hits, s = hit.1) :
    s <:+: text ∧ Avoids e s := by
  induction h with
  | done havoids =>
    obtain rfl : s = _ := by simpa using hs
    exact ⟨List.infix_rfl, havoids⟩
  | @hit before rest m scan hbefore _ _ ih =>
    have hcases : s = before ∨ s = scan.tail ∨ ∃ hit ∈ scan.hits, s = hit.1 := by
      rcases hs with hs | ⟨hit, hhit, hs⟩
      · exact .inr (.inl hs)
      · rcases List.mem_cons.1 hhit with rfl | hlater
        · exact .inl hs
        · exact .inr (.inr ⟨hit, hlater, hs⟩)
    rcases hcases with rfl | hlater
    · refine ⟨⟨[], m.whole ++ rest, rfl⟩, ?_⟩
      rintro w ⟨a, b, rfl⟩ hw
      have hne : w ++ b ≠ [] := fun h => he ((List.append_eq_nil_iff.1 h).1 ▸ hw)
      have hnone := hbefore a (w ++ b) (by simp) hne
      exact matchHere?_eq_none_iff.1 hnone w ⟨b ++ (m.whole ++ rest), by simp⟩ hw
    · obtain ⟨hpart, havoids⟩ := ih hlater
      exact ⟨hpart.trans ⟨before ++ m.whole, [], by simp⟩, havoids⟩

end Regex

/-! ## Patterns tied to the ends of a text -/

namespace Pattern

open Regex

/-- A match of the pattern may stand here: the word is accepted, and nothing stands outside of it at
an end that the pattern is tied to. -/
structure FitsAt (p : Pattern) (before word after : List Char) : Prop where
  accepts : Accepts p.body word
  start : p.fromStart = true → before = []
  stop : p.toEnd = true → after = []

variable {p : Pattern} {text : List Char}

/-- A match at the start of a text covers a word that may stand there. -/
lemma fitsAt_of_matchHere? {m : Match} (h : p.matchHere? text = some m) :
    ∃ after, text = m.whole ++ after ∧ p.FitsAt [] m.whole after := by
  obtain ⟨u, v, found, rfl, hu, hv⟩ := accepts_of_attempt h
  rw [Option.ite_none_left_eq_some] at hv
  obtain ⟨hend, hm⟩ := hv
  have hwhole : m.whole = u := by
    rw [← Option.some.inj hm]
    simp
  have hstop : p.toEnd = true → v = [] := by simpa using hend
  exact ⟨v, by rw [hwhole], ⟨hwhole ▸ hu, fun _ => rfl, hstop⟩⟩

/-- There is a match at the start of a text where a word may stand there. -/
lemma matchHere?_ne_none {word after : List Char} (h : p.FitsAt [] word after) :
    p.matchHere? (word ++ after) ≠ none := by
  refine attempt_ne_none h.accepts fun found => ?_
  have hend : (p.toEnd && !after.isEmpty) = false := by simpa using h.stop
  rw [hend]
  exact Option.some_ne_none _

/-- The search finds a word that may stand where it is found. -/
lemma fitsAt_of_find? {before : List Char} {m : Match} (h : p.find? text = some (before, m)) :
    ∃ after, text = before ++ (m.whole ++ after) ∧ p.FitsAt before m.whole after := by
  induction text generalizing before with
  | nil =>
    rw [find?, Option.map_eq_some_iff] at h
    obtain ⟨found, hfound, heq⟩ := h
    obtain ⟨rfl, rfl⟩ := Prod.mk.inj heq
    exact fitsAt_of_matchHere? hfound
  | cons c cs ih =>
    rw [find?] at h
    cases hhere : p.matchHere? (c :: cs) with
    | some found =>
      rw [hhere] at h
      obtain ⟨rfl, rfl⟩ := Prod.mk.inj (Option.some.inj h)
      exact fitsAt_of_matchHere? hhere
    | none =>
      simp only [hhere, Option.ite_none_left_eq_some, Option.map_eq_some_iff] at h
      obtain ⟨hfree, ⟨front, found⟩, hlater, heq⟩ := h
      obtain ⟨rfl, rfl⟩ := Prod.mk.inj heq
      obtain ⟨after, rfl, hfits⟩ := ih hlater
      exact ⟨after, rfl, hfits.accepts, fun hstart => absurd hstart hfree, hfits.stop⟩

/-- The search finds something wherever a word may stand. -/
lemma find?_ne_none {before word after : List Char} (h : p.FitsAt before word after) :
    p.find? (before ++ (word ++ after)) ≠ none := by
  induction before with
  | nil =>
    have hhere : p.matchHere? (word ++ after) ≠ none := matchHere?_ne_none h
    rw [List.nil_append]
    cases hsplit : word ++ after with
    | nil =>
      rw [hsplit] at hhere
      simpa [find?] using hhere
    | cons c cs =>
      rw [hsplit] at hhere
      obtain ⟨m, hm⟩ := Option.ne_none_iff_exists'.1 hhere
      simp [find?, hm]
  | cons c before ih =>
    have hfree : p.fromStart = false := by
      rw [← Bool.not_eq_true]
      exact fun hstart => List.cons_ne_nil c before (h.start hstart)
    have hlater : p.find? (before ++ (word ++ after)) ≠ none :=
      ih ⟨h.accepts, fun hstart => absurd hstart (by simp [hfree]), h.stop⟩
    rw [List.cons_append, find?]
    cases p.matchHere? (c :: (before ++ (word ++ after))) with
    | some m => exact Option.some_ne_none _
    | none => simpa [hfree] using hlater

end Pattern

end LiterateLinks
