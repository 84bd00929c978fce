import Mathlib.Data.Finset.Card
import Mathlib.Tactic.Common
import LiterateLinks.Proofs.Link.Tags

/-!
# What the report of a run tells

A run counts while it walks: markers and texts in each of its two walks, names in the table that the
first walk fills.  This file says what the numbers are in terms of the documents before and after
the run.  The markers are those of the shown texts, of the document for the definitions and of the
tree that the first walk leaves for the pastes (`Linker.report_link`).  The definitions can also be
counted in the linked document, as the spans of labels that it has more than before.

The report shows whether anything happened.  A replacement of a marker brings in an element, so a
document that comes out unchanged is settled (`Linker.link_eq_self_iff`), and a settled document
leaves all counters at zero.
-/

namespace LiterateLinks

/-- The number of definitions that a document shows as linked: its spans that hold a label. -/
def Document.labels (document : Document) : ℕ :=
  (Node.tagsNamedIn "span" document.children).countP Tag.isLabel

namespace Linker

open Node (shownTextsIn replaceTextsIn tagsNamed tagsNamedIn)

/-! ## The counters of a walk -/

/-- Counting texts one after the other adds up their markers and counts the texts that hold some. -/
lemma foldl_count_eq_add {r : String → LinkedText} {found : String → List MarkerText}
    (hr : ∀ text, (r text).substitutions = (found text).length) (texts : List String)
    (tally : Tally) :
    texts.foldl (fun tally text => tally.count (r text)) tally =
      ⟨tally.substitutions + (texts.flatMap found).length,
        tally.nodes + texts.countP fun text => !(found text).isEmpty⟩ := by
  induction texts generalizing tally with
  | nil => rfl
  | cons text texts ih =>
    rw [List.foldl_cons, ih, List.flatMap_cons, List.length_append, List.countP_cons]
    cases hfound : found text with
    | nil =>
      have hcount : tally.count (r text) = tally := by
        simp [Tally.count, LinkedText.isUnchanged, hr, hfound]
      simp [hcount]
    | cons t ts =>
      have hcount : tally.count (r text) =
          ⟨tally.substitutions + (t :: ts).length, tally.nodes + 1⟩ := by
        simp [Tally.count, LinkedText.isUnchanged, hr, hfound]
      simp only [hcount, Tally.mk.injEq, List.isEmpty_cons, Bool.not_false, if_true]
      omega

/-- A text has as many definitions replaced as it holds. -/
lemma substitutions_linkDefinitions (linker : Linker) (symbols : SymbolTable) (text : String) :
    (linker.linkDefinitions symbols text).1.substitutions = (linker.definitionsIn text).length := by
  simp [linkDefinitions_fst, LinkedText.ofScan, definitionsIn, markerTexts]

/-- A text has as many pastes replaced as it holds. -/
lemma substitutions_linkPastes (linker : Linker) (symbols : SymbolTable) (text : String) :
    (linker.linkPastes symbols text).value.substitutions = (linker.pastesIn text).length := by
  simp [linkPastes_value, LinkedText.ofScan, pastesIn, markerTexts]

/-- The report of a run: the markers of the texts that its walks meet, the size of the table, and
the texts that hold markers. -/
lemma report_link (linker : Linker) (document : Document) :
    (linker.link document).value.2 =
      { definitions := ((shownTextsIn document.children).flatMap linker.definitionsIn).length
        pastes := ((shownTextsIn (linker.walkDefinitions document.children).1).flatMap
          linker.pastesIn).length
        chunks := (linker.tableOf document.children).size
        nodesChanged := ((shownTextsIn document.children).countP fun text =>
            !(linker.definitionsIn text).isEmpty) +
          (shownTextsIn (linker.walkDefinitions document.children).1).countP fun text =>
            !(linker.pastesIn text).isEmpty } := by
  simp only [link, walkDefinitions_eq, walkPastes_eq,
    foldl_count_eq_add (substitutions_linkDefinitions linker {}),
    foldl_count_eq_add (substitutions_linkPastes linker _), Nat.zero_add]

/-! ## Names and labels -/

/-- Under a policy that collects names the table has one entry for each of the names defined. -/
lemma size_tableOf {linker : Linker} (hcollects : linker.policy.collects = true)
    (nodes : List Node) :
    (linker.tableOf nodes).size = ((shownTextsIn nodes).flatMap linker.namesIn).toFinset.card := by
  have hlists := listsOnce_eraseDups ((shownTextsIn nodes).flatMap linker.namesIn)
  rw [tableOf, if_pos hcollects, SymbolTable.size, SymbolTable.names_ofNames,
    ← List.toFinset_card_of_nodup hlists.nodup]
  congr 1
  ext name
  rw [List.mem_toFinset, List.mem_toFinset, hlists.mem_iff]

/-- Without a policy that collects names the table is empty. -/
lemma size_tableOf_of_not_collects {linker : Linker} (hcollects : linker.policy.collects = false)
    (nodes : List Node) : (linker.tableOf nodes).size = 0 := by
  simp [tableOf, hcollects, SymbolTable.size]

/-- The table has no more entries than the document has definitions. -/
lemma size_tableOf_le (linker : Linker) (nodes : List Node) :
    (linker.tableOf nodes).size ≤ ((shownTextsIn nodes).flatMap linker.definitionsIn).length := by
  cases hcollects : linker.policy.collects with
  | false =>
    rw [size_tableOf_of_not_collects hcollects]
    exact Nat.zero_le _
  | true =>
    have hnames : (shownTextsIn nodes).flatMap linker.namesIn =
        ((shownTextsIn nodes).flatMap linker.definitionsIn).map (·.name) := by
      rw [List.map_flatMap]
      rfl
    rw [size_tableOf hcollects, hnames]
    exact (List.toFinset_card_le _).trans (List.length_map _).le

/-- A linked document has one label more for every definition. -/
lemma labels_link (linker : Linker) (document : Document) :
    (linker.link document).value.1.labels =
      document.labels + ((shownTextsIn document.children).flatMap linker.definitionsIn).length := by
  have hadded (texts : List String) : (texts.flatMap fun text => tagsNamedIn "span"
      (linker.linkedNodes (linker.tableOf document.children) text)).countP Tag.isLabel =
        (texts.flatMap linker.definitionsIn).length := by
    rw [List.countP_flatMap, List.length_flatMap]
    simp only [Function.comp_def, countP_isLabel_linkedNodes]
  rw [link_eq_linkedOnce, Document.labels, Document.labels, linkedOnce,
    Node.countP_tagsNamedIn_replaceTextsIn, hadded]

/-! ## Unchanged documents -/

/-- A text that is replaced without any anchor or span is settled. -/
lemma settles_of_tagsNamedIn_eq_nil {linker : Linker} {symbols : SymbolTable} {text : String}
    (hanchors : tagsNamedIn "a" (linker.linkedNodes symbols text) = [])
    (hspans : tagsNamedIn "span" (linker.linkedNodes symbols text) = []) : linker.Settles text := by
  have hdefinitions : (linker.markers.definition.scan text.toList).hits = [] := by
    have hcount := countP_isLabel_linkedNodes linker symbols text
    rw [hspans, List.countP_nil, eq_comm, List.length_eq_zero_iff] at hcount
    exact List.map_eq_nil_iff.1 hcount
  -- without definitions the replacement is that of the pastes
  have hnodes : linker.linkedNodes symbols text = linker.pasteNodes symbols text := by
    rw [linkedNodes, linkDefinitions_fst, ofScan_of_hits_eq_nil hdefinitions,
      List.flatMap_singleton]
    rfl
  rw [hnodes] at hanchors hspans
  have hpastes := pastesIn_eq_nil_of_tagsNamedIn_eq_nil hanchors hspans
  exact ⟨hdefinitions, List.map_eq_nil_iff.1 hpastes⟩

/-- A run leaves exactly the settled documents as they are. -/
lemma link_eq_self_iff {linker : Linker} {document : Document} :
    (linker.link document).value.1 = document ↔ linker.IsSettled document.children := by
  constructor
  · intro h text htext
    rw [link_eq_linkedOnce, linkedOnce] at h
    have hnodes := congrArg Document.children h
    exact settles_of_tagsNamedIn_eq_nil (Node.tagsNamedIn_eq_nil_of_replaceTextsIn_eq hnodes htext)
      (Node.tagsNamedIn_eq_nil_of_replaceTextsIn_eq hnodes htext)
  · intro h
    rw [link_of_isSettled h]

/-- A run counts no markers exactly in settled documents. -/
lemma report_eq_zero_iff {linker : Linker} {document : Document} :
    (linker.link document).value.2.definitions + (linker.link document).value.2.pastes = 0 ↔
      linker.IsSettled document.children := by
  constructor
  · intro h
    exact isSettled_of_report (by omega) (by omega)
  · intro h
    rw [link_of_isSettled h]
    rfl

/-- Texts hold no markers exactly when none of them is counted. -/
lemma length_flatMap_eq_zero_iff {found : String → List MarkerText} {texts : List String} :
    (texts.flatMap found).length = 0 ↔ (texts.countP fun text => !(found text).isEmpty) = 0 := by
  rw [List.length_eq_zero_iff, List.flatMap_eq_nil_iff, List.countP_eq_zero]
  simp

/-- A run counts markers exactly when it counts texts. -/
lemma report_eq_zero_iff_nodesChanged {linker : Linker} {document : Document} :
    (linker.link document).value.2.definitions + (linker.link document).value.2.pastes = 0 ↔
      (linker.link document).value.2.nodesChanged = 0 := by
  rw [report_link, Nat.add_eq_zero_iff, Nat.add_eq_zero_iff, length_flatMap_eq_zero_iff,
    length_flatMap_eq_zero_iff]

end Linker

/-- The report of a run, under settings with non-empty delimiters.  It counts the definitions of the
shown texts, which are as many as the labels that the linked document has more than the document,
and the pastes of the shown texts that the first walk leaves.  In-page it counts the distinct names
of the definitions, otherwise no names, and never more names than definitions.  It counts the texts
that hold markers, in both walks.  The document is unchanged exactly when no marker is counted, and
then no text is. -/
theorem link_report_accounts (r : Resolution) (hleft : r.delimiters.left ≠ "")
    (hright : r.delimiters.right ≠ "") :
    ∃ linker, Linker.ofResolution r = .ok linker ∧ ∀ document : Document,
      let texts := Node.shownTextsIn document.children
      let left := Node.shownTextsIn (linker.walkDefinitions document.children).1
      let linked := (linker.link document).value.1
      let report := (linker.link document).value.2
      report.definitions = (texts.flatMap linker.definitionsIn).length ∧
      linked.labels = document.labels + report.definitions ∧
      report.pastes = (left.flatMap linker.pastesIn).length ∧
      (r.policy = .inPage → report.chunks = (texts.flatMap linker.namesIn).toFinset.card) ∧
      (∀ commands, r.policy = .mapped commands → report.chunks = 0) ∧
      report.chunks ≤ report.definitions ∧
      report.nodesChanged = (texts.countP fun text => !(linker.definitionsIn text).isEmpty) +
        (left.countP fun text => !(linker.pastesIn text).isEmpty) ∧
      (linked = document ↔ report.definitions + report.pastes = 0) ∧
      (report.definitions + report.pastes = 0 ↔ report.nodesChanged = 0) := by
  refine ⟨r.linker, Resolution.ofResolution_eq_ok hleft hright, fun document => ?_⟩
  intro texts left linked report
  have hreport : report = _ := Linker.report_link r.linker document
  have hdefinitions : report.definitions = (texts.flatMap r.linker.definitionsIn).length :=
    congrArg LinkReport.definitions hreport
  have hchunks : report.chunks = (r.linker.tableOf document.children).size :=
    congrArg LinkReport.chunks hreport
  refine ⟨hdefinitions, ?_, congrArg LinkReport.pastes hreport, fun hpolicy => ?_,
    fun commands hpolicy => ?_, ?_, congrArg LinkReport.nodesChanged hreport, ?_,
    Linker.report_eq_zero_iff_nodesChanged⟩
  · rw [hdefinitions]
    exact Linker.labels_link r.linker document
  · have hcollects : r.linker.policy.collects = true := by
      simp [Resolution.linker, hpolicy, Policy.collects]
    rw [hchunks, Linker.size_tableOf hcollects]
  · have hcollects : r.linker.policy.collects = false := by
      simp [Resolution.linker, hpolicy, Policy.collects]
    rw [hchunks, Linker.size_tableOf_of_not_collects hcollects]
  · rw [hchunks, hdefinitions]
    exact Linker.size_tableOf_le r.linker document.children
  · exact Linker.link_eq_self_iff.trans Linker.report_eq_zero_iff.symm

/-- A page with a repeated definition, a wildcard paste and a script: two definitions of one name
and one paste are counted, in two of its texts, and the page is changed. -/
theorem link_report_accounts_repeated :
    let r : Resolution := {}
    let document : Document := ⟨[.ofTag "p" [] [.text "<<a.1>> <<a.1>>"], .text "<<=a*>>",
      .ofTag "script" [] [.text "<<b>>"]]⟩
    (r.delimiters.left ≠ "" ∧ r.delimiters.right ≠ "") ∧
      ∃ linker, Linker.ofResolution r = .ok linker ∧
        (linker.link document).value.2 = ⟨2, 1, 1, 2⟩ ∧
        (linker.link document).value.1.labels = 2 ∧ (linker.link document).value.1 ≠ document := by
  intro r document
  have hleft : r.delimiters.left ≠ "" := by decide
  have hright : r.delimiters.right ≠ "" := by decide
  obtain ⟨linker, hlinker, haccounts⟩ := link_report_accounts r hleft hright
  refine ⟨⟨hleft, hright⟩, linker, hlinker, ?_⟩
  rw [Resolution.ofResolution_eq_ok hleft hright] at hlinker
  obtain ⟨⟩ := hlinker
  obtain ⟨-, hlabels, -, -, -, -, -, hunchanged, -⟩ := haccounts document
  have hreport : (r.linker.link document).value.2 = ⟨2, 1, 1, 2⟩ := by decide +kernel
  have hnone : document.labels = 0 := by decide
  rw [hreport, hnone] at hlabels
  rw [hreport] at hunchanged
  exact ⟨hreport, hlabels, fun heq => by simpa using hunchanged.1 heq⟩

end LiterateLinks
