import LiterateLinks.Proofs.Publish.Again

/-!
# The mark of a published tree

Whether a document carries the mark is decided by all its `meta` elements, while the mark is added
to its first head only.  Linking replaces texts by anchors, spans and divisions, so it neither adds
nor removes a mark and keeps every head.  Marking then appends to the first head what is missing
there: it grows at its end, and its surroundings, as `Node.Spot` describes them, stay the same.  So
the number of marks goes up by one in a document that carries none, and stays the same in every
other.
-/

namespace LiterateLinks

namespace Node

/-! ## The first element of a name -/

variable {name : String}

mutual

/-- At or below a node without an element of the given name none is found. -/
lemma findNamed?_eq_none : ∀ n : Node, tagsNamed name n = [] → findNamed? name n = none
  | .text content, h => by simp [findNamed?]
  | .doctype label, h => by simp [findNamed?]
  | .comment content, h => by simp [findNamed?]
  | .element tag contents children, h => by
    by_cases htag : tag.name = name
    · simp [tagsNamed, htag] at h
    · have hchildren : tagsNamedIn name children = [] := by simpa [tagsNamed, htag] using h
      simp [findNamed?, htag, findNamedIn?_eq_none children hchildren]

/-- In nodes without an element of the given name none is found. -/
lemma findNamedIn?_eq_none :
    ∀ nodes : List Node, tagsNamedIn name nodes = [] → findNamedIn? name nodes = none
  | [], h => by simp [findNamedIn?]
  | n :: ns, h => by
    obtain ⟨hn, hns⟩ : tagsNamed name n = [] ∧ tagsNamedIn name ns = [] := by
      simpa [tagsNamedIn] using h
    simp [findNamedIn?, findNamed?_eq_none n hn, findNamedIn?_eq_none ns hns]

end

/-- The search passes over nodes without an element of the given name. -/
lemma findNamedIn?_append {before : List Node} (hbefore : tagsNamedIn name before = [])
    (nodes : List Node) : findNamedIn? name (before ++ nodes) = findNamedIn? name nodes := by
  induction before with
  | nil => rfl
  | cons b bs ih =>
    obtain ⟨hb, hbs⟩ : tagsNamed name b = [] ∧ tagsNamedIn name bs = [] := by
      simpa [tagsNamedIn] using hbefore
    rw [List.cons_append, findNamedIn?, findNamed?_eq_none b hb, ih hbs]

/-- The element that is found is the one whose surroundings are described, whatever its children
are. -/
lemma Spot.exists_findNamedIn?_eq {around : List Node → List Node} (h : Spot name around) :
    ∃ tag contents, ∀ children,
      findNamedIn? name (around children) = some (.element tag contents children) := by
  induction h with
  | @here tag contents before after hbefore htag =>
    refine ⟨tag, contents, fun children => ?_⟩
    rw [findNamedIn?_append hbefore, findNamedIn?, findNamed?, if_pos htag]
  | @inside outer outerContents before after around hbefore htag _ ih =>
    obtain ⟨tag, contents, hfound⟩ := ih
    refine ⟨tag, contents, fun children => ?_⟩
    rw [findNamedIn?_append hbefore, findNamedIn?, findNamed?, if_neg htag, hfound]

end Node

/-- Linking keeps the tags of all elements other than anchors, spans and divisions. -/
lemma Linker.tagsNamedIn_link {name : String} (hname : "a" ≠ name ∧ "span" ≠ name ∧ "div" ≠ name)
    (linker : Linker) (document : Document) :
    Node.tagsNamedIn name (linker.link document).value.1.children =
      Node.tagsNamedIn name document.children := by
  rw [link_eq_linkedOnce, linkedOnce]
  exact Node.tagsNamedIn_replaceTextsIn (tagsNamedIn_linkedNodes hname linker _) document.children

namespace Document

open Node (Spot tagsNamed tagsNamedIn findNamedIn?)

/-! ## Counting marks -/

/-- The number of marks in the document. -/
def marks (document : Document) : Nat :=
  (tagsNamedIn "meta" document.children).countP isGeneratorMeta

/-- Linking keeps every mark. -/
lemma marks_link (linker : Linker) (document : Document) :
    (linker.link document).value.1.marks = document.marks := by
  rw [marks, marks, linker.tagsNamedIn_link (by decide)]

/-- Linking does not change whether a document carries the mark. -/
lemma isProcessed_link (linker : Linker) (document : Document) :
    (linker.link document).value.1.isProcessed = document.isProcessed := by
  rw [isProcessed, isProcessed, linker.tagsNamedIn_link (by decide)]

/-- An appended node brings in its own tags. -/
lemma tagsNamedIn_appendLine (name : String) (nodes : List Node) (node : Node) :
    tagsNamedIn name (appendLine nodes node) = tagsNamedIn name nodes ++ tagsNamed name node := by
  simp [appendLine, Node.tagsNamedIn_append, tagsNamedIn, tagsNamed]

/-- A stamp adds the mark to a head of a document without one, and no other `meta` element. -/
lemma tagsNamedIn_stampHead (marked : Bool) (stylesheet : Option String) (children : List Node) :
    tagsNamedIn "meta" (stampHead marked stylesheet children) =
      tagsNamedIn "meta" children ++ if marked then [] else tagsNamed "meta" generatorMeta := by
  have hmark : tagsNamedIn "meta" (stampHead marked none children) =
      tagsNamedIn "meta" children ++ if marked then [] else tagsNamed "meta" generatorMeta := by
    rw [stampHead_none]
    cases marked with
    | true => exact (List.append_nil _).symm
    | false => exact tagsNamedIn_appendLine "meta" children generatorMeta
  cases stylesheet with
  | none => exact hmark
  | some href =>
    have hlink : tagsNamed "meta" (stylesheetLink href) = [] := rfl
    rw [stampHead_some]
    split
    · exact hmark
    · rw [tagsNamedIn_appendLine, hlink, List.append_nil, hmark]

/-- A stamped head holds one mark more than before, if the stamp is told that there is none. -/
lemma marks_stampHead {around : List Node → List Node} (h : Spot "head" around) (marked : Bool)
    (stylesheet : Option String) (children : List Node) :
    marks ⟨around (stampHead marked stylesheet children)⟩ =
      marks ⟨around children⟩ + if marked then 0 else 1 := by
  obtain ⟨before, after, htags⟩ := h.exists_tagsNamedIn_eq "meta"
  have hmark : (tagsNamed "meta" generatorMeta).countP isGeneratorMeta = 1 := by decide
  simp only [marks, htags, tagsNamedIn_stampHead, List.countP_append]
  cases marked with
  | true => simp
  | false =>
    simp only [Bool.false_eq_true, if_false, hmark]
    omega

end Document

/-- Linking a document with a head and marking it, under settings with non-empty delimiters.
Linking does not change whether the document carries the mark.  Afterwards it does, with one mark
more than before if there was none and with as many as before otherwise.  The first head keeps its
children and gets more behind them, among them a reference to the stylesheet unless it has one;
nothing around the head is changed.  Marking once more changes nothing. -/
theorem markProcessed_link_adds_missing_mark (r : Resolution) (hleft : r.delimiters.left ≠ "")
    (hright : r.delimiters.right ≠ "") (stylesheet : Option String) (document : Document)
    (hhead : Node.tagsNamedIn "head" document.children ≠ []) :
    let linked := (r.linker.link document).value.1
    let marked := linked.markProcessed stylesheet
    Linker.ofResolution r = .ok r.linker ∧
      linked.isProcessed = document.isProcessed ∧
      marked.isProcessed = true ∧
      marked.marks = document.marks + (if document.isProcessed then 0 else 1) ∧
      (∃ around tag contents children added, Node.Spot "head" around ∧
        linked.children = around children ∧
        marked.children = around (children ++ added) ∧
        Node.findNamedIn? "head" linked.children = some (.element tag contents children) ∧
        Node.findNamedIn? "head" marked.children =
          some (.element tag contents (children ++ added)) ∧
        ∀ href, stylesheet = some href → Document.refersTo (children ++ added) href = true) ∧
      marked.markProcessed stylesheet = marked := by
  intro linked marked
  have hlinked : Node.tagsNamedIn "head" linked.children ≠ [] := by
    rw [r.linker.tagsNamedIn_link (by decide)]
    exact hhead
  obtain ⟨around, children, hspot, hchildren⟩ := Node.exists_spot hlinked
  have hdocument : linked = ⟨around children⟩ := by rw [← hchildren]
  have hprocessed : linked.isProcessed = document.isProcessed :=
    Document.isProcessed_link r.linker document
  have hmarked : marked = ⟨around (Document.stampHead linked.isProcessed stylesheet children)⟩ := by
    unfold marked
    rw [hdocument]
    exact Document.markProcessed_of_spot hspot children stylesheet
  refine ⟨Resolution.ofResolution_eq_ok hleft hright, hprocessed, ?_, ?_, ?_,
    Document.markProcessed_markProcessed linked stylesheet⟩
  · rw [hmarked, hdocument]
    exact Document.isProcessed_stampHead hspot children stylesheet
  · rw [hmarked, Document.marks_stampHead hspot, ← hdocument, hprocessed,
      Document.marks_link r.linker document]
  · obtain ⟨added, hadded, -⟩ := Document.exists_stampHead_eq linked.isProcessed stylesheet children
    obtain ⟨tag, contents, hfound⟩ := hspot.exists_findNamedIn?_eq
    have hchildren' : marked.children = around (children ++ added) := by rw [hmarked, hadded]
    refine ⟨around, tag, contents, children, added, hspot, hchildren, hchildren', ?_, ?_, ?_⟩
    · rw [hchildren, hfound]
    · rw [hchildren', hfound]
    · rintro href rfl
      rw [← hadded]
      exact Document.refersTo_stampHead linked.isProcessed href children

/-- A page with two heads and a paste gets one mark and one reference; a page with a mark in its
body, where it does not belong, gets no other. -/
theorem markProcessed_link_adds_missing_mark_stray :
    let linker := ({} : Resolution).linker
    let unmarked : Document := ⟨[.ofTag "html" [] [.ofTag "head" [] [.ofTag "title" [] [.text "t"]],
      .ofTag "body" [] [.text "<<=a>>", .ofTag "head" [] []]]]⟩
    let stray : Document := ⟨[.ofTag "html" [] [.ofTag "head" [] [],
      .ofTag "body" [] [.text "<<=a>>", Document.generatorMeta]]]⟩
    (({} : Resolution).delimiters.left ≠ "" ∧ ({} : Resolution).delimiters.right ≠ "") ∧
      (Node.tagsNamedIn "head" unmarked.children ≠ [] ∧ unmarked.marks = 0 ∧
        ((linker.link unmarked).value.1.markProcessed (some "page.css")).marks = 1) ∧
      Node.tagsNamedIn "head" stray.children ≠ [] ∧ stray.marks = 1 ∧
        ((linker.link stray).value.1.markProcessed none).marks = 1 := by
  intro linker unmarked stray
  have hunmarked : Node.tagsNamedIn "head" unmarked.children ≠ [] := by decide
  have hstray : Node.tagsNamedIn "head" stray.children ≠ [] := by decide
  obtain ⟨-, -, -, hadded, -⟩ := markProcessed_link_adds_missing_mark {} (by decide) (by decide)
    (some "page.css") unmarked hunmarked
  obtain ⟨-, -, -, hkept, -⟩ := markProcessed_link_adds_missing_mark {} (by decide) (by decide)
    none stray hstray
  have hnone : unmarked.marks = 0 ∧ unmarked.isProcessed = false := by decide
  have hone : stray.marks = 1 ∧ stray.isProcessed = true := by decide
  rw [hnone.1, hnone.2] at hadded
  rw [hone.1, hone.2] at hkept
  exact ⟨⟨by decide, by decide⟩, ⟨hunmarked, hnone.1, hadded⟩, hstray, hone.1, hkept⟩

end LiterateLinks
