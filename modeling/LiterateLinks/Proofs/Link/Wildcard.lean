import Mathlib.Tactic.Common
import LiterateLinks.Proofs.Chunk.Table
import LiterateLinks.Proofs.Glob.Literal
import LiterateLinks.Proofs.Link.Text

/-!
# The links of wildcard pastes

A wildcard paste lists the known names that its pattern matches, each with a target.  The target is
the one of an exact paste of the same name, found under the full name of the fragment, but at the
anchor of the parent (`Target.withAnchor`).  Names are known from the definitions of the page or
from the command map, and in both tables they are distinct, so that every name is listed once
(`Policy.ListsMatches`).  A name that is chosen from the command map has a location there, so a
wildcard never reports a missing chunk.

A pattern that does not compile lists nothing.  Such a pattern has a set with a range out of order
and is therefore a wildcard: it is replaced by an empty popup, and the pattern is reported.
-/

namespace LiterateLinks

/-! ## Logs -/

namespace Logged

/-- A pure computation has nothing to tell. -/
@[simp] lemma log_pure {α : Type} (a : α) : (pure a : Logged α).log = [] := rfl

/-- The events of two computations in a row are put in order. -/
@[simp] lemma log_bind {α β : Type} (x : Logged α) (f : α → Logged β) :
    (x >>= f).log = x.log ++ (f x.value).log := rfl

/-- Passing a result on to a function tells nothing more. -/
@[simp] lemma log_map {α β : Type} (f : α → β) (x : Logged α) : (f <$> x).log = x.log :=
  List.append_nil x.log

/-- The events of a list of computations are collected one by one. -/
@[simp] lemma log_mapM {α β : Type} (f : α → Logged β) (xs : List α) :
    (xs.mapM f).log = xs.flatMap fun x => (f x).log := by
  induction xs with
  | nil => simp
  | cons x xs ih => simp [List.mapM_cons, ih]

end Logged

/-! ## Targets -/

/-- The target at another anchor.  A file that is linked as a whole has no anchor to be replaced. -/
def Target.withAnchor (anchor : String) : Target → Target
  | .anchor _ => .anchor anchor
  | .external file (some _) => .external file (some anchor)
  | .external file none => .external file none

namespace Policy

/-- The command map of the policy, if there is one, is built by insertions. -/
def WellFormed : Policy → Prop
  | .inPage => True
  | .mapped commands => commands.Reachable

variable {policy : Policy} {symbols : SymbolTable}

/-- The anchor changes nothing else about the target of a chunk. -/
lemma value_locate (policy : Policy) (name anchor : String) :
    (policy.locate name anchor).value = (policy.target name).value.withAnchor anchor := by
  unfold target locate
  cases policy with
  | inPage => rfl
  | mapped commands =>
    cases hlocation : commands.get? name with
    | none => simp [hlocation, Target.withAnchor]
    | some file =>
      by_cases hempty : file = ""
      · simp [hlocation, hempty, Target.withAnchor]
      · by_cases hpage : isPage file = true
        · simp [hlocation, hempty, hpage, Target.withAnchor]
        · simp [hlocation, hempty, hpage, Target.withAnchor]

/-- A name that is known is not reported as missing. -/
lemma log_locate (hpolicy : policy.WellFormed) {name : String}
    (h : name ∈ policy.knownNames symbols) (anchor : String) :
    (policy.locate name anchor).log = [] := by
  cases policy with
  | inPage => rfl
  | mapped commands =>
    obtain ⟨file, hfile⟩ := CommandMap.Reachable.exists_get?_eq_some hpolicy h
    simp only [locate, hfile]
    split
    · rfl
    · split <;> rfl

/-- The names that wildcards choose from are distinct. -/
lemma nodup_knownNames (hpolicy : policy.WellFormed) (hsymbols : symbols.Reachable) :
    (policy.knownNames symbols).Nodup := by
  cases policy with
  | inPage => exact hsymbols.nodup_names
  | mapped commands => exact CommandMap.Reachable.nodup_names hpolicy

/-! ## Patterns that compile -/

/-- The list holds the known names that the pattern matches, each once and in their order, and for
each of them the target of an exact paste of that name, at the anchor of its parent. -/
structure ListsMatches (policy : Policy) (symbols : SymbolTable) (compiled : Pattern)
    (found : List (String × Target)) : Prop where
  sublist : (found.map Prod.fst).Sublist (policy.knownNames symbols)
  nodup : (found.map Prod.fst).Nodup
  mem_iff : ∀ name, name ∈ found.map Prod.fst ↔
    name ∈ policy.knownNames symbols ∧ compiled.isMatch name.toList = true
  target_eq : ∀ name target, (name, target) ∈ found →
    target = (policy.target name).value.withAnchor (Chunk.stripOrdinal name)

variable {pattern : String} {compiled : Pattern}

/-- What fits a pattern that compiles. -/
lemma value_fitting (h : Glob.compile? pattern = some compiled) :
    (policy.fitting symbols pattern).value =
      ((policy.knownNames symbols).filter fun name => compiled.isMatch name.toList).map fun name =>
        (name, (policy.target name).value.withAnchor (Chunk.stripOrdinal name)) := by
  unfold fitting
  simp [h, value_locate]

/-- A pattern that compiles has nothing to report. -/
lemma log_fitting (hpolicy : policy.WellFormed) (h : Glob.compile? pattern = some compiled) :
    (policy.fitting symbols pattern).log = [] := by
  unfold fitting
  simp only [h, Logged.log_mapM, Logged.log_bind, Logged.log_pure, List.append_nil,
    List.flatMap_eq_nil_iff]
  intro name hname
  exact log_locate hpolicy (List.mem_of_mem_filter hname) _

/-- Under the mapped policy the names defined in the page are not consulted. -/
lemma fitting_mapped (commands : CommandMap) (symbols other : SymbolTable) (pattern : String) :
    (mapped commands).fitting symbols pattern = (mapped commands).fitting other pattern := by
  unfold fitting
  simp only [knownNames]

/-- The events of a wildcard paste are those of its pattern. -/
lemma log_resolve {paste : MarkerText} (h : paste.isWildcard = true) :
    (policy.resolve symbols paste).log = (policy.fitting symbols paste.name).log := by
  simp [resolve, h]

/-- What fits a pattern over distinct names is listed once, at the targets of exact pastes. -/
lemma listsMatches_fitting (hpolicy : policy.WellFormed) (hsymbols : symbols.Reachable)
    (h : Glob.compile? pattern = some compiled) :
    policy.ListsMatches symbols compiled (policy.fitting symbols pattern).value := by
  have hnames : (policy.fitting symbols pattern).value.map Prod.fst =
      (policy.knownNames symbols).filter fun name => compiled.isMatch name.toList := by
    simp [value_fitting h, Function.comp_def]
  constructor
  · rw [hnames]
    exact List.filter_sublist
  · rw [hnames]
    exact (nodup_knownNames hpolicy hsymbols).filter _
  · intro name
    rw [hnames, List.mem_filter]
  · intro name target hmem
    rw [value_fitting h] at hmem
    obtain ⟨other, -, hother⟩ := List.mem_map.1 hmem
    obtain ⟨rfl, rfl⟩ := Prod.mk.inj hother
    rfl

end Policy

/-- A wildcard paste whose pattern compiles lists the known names that it matches, each once and in
their order, at the targets of exact pastes with the anchors of the parents.  It reports nothing,
and under the mapped policy the names defined in the page make no difference. -/
theorem fitting_agrees_with_target {policy : Policy} {symbols : SymbolTable} {pattern : String}
    {compiled : Pattern} (hpolicy : policy.WellFormed) (hsymbols : symbols.Reachable)
    (h : Glob.compile? pattern = some compiled) :
    policy.ListsMatches symbols compiled (policy.fitting symbols pattern).value ∧
      (policy.fitting symbols pattern).log = [] ∧
      (∀ paste : MarkerText, paste.name = pattern → paste.isWildcard = true →
        (policy.resolve symbols paste).log = []) ∧
      ∀ commands, policy = .mapped commands → ∀ other : SymbolTable,
        policy.fitting other pattern = policy.fitting symbols pattern := by
  refine ⟨Policy.listsMatches_fitting hpolicy hsymbols h, Policy.log_fitting hpolicy h, ?_, ?_⟩
  · rintro paste rfl hwildcard
    rw [Policy.log_resolve hwildcard, Policy.log_fitting hpolicy h]
  · rintro commands rfl other
    exact Policy.fitting_mapped commands other symbols pattern

/-- A map that is read from a file, in which a name is repeated: the pattern lists the fragments of
one chunk from the map and not the one from the page, a web page at the anchor of the parent and
another file as a whole. -/
theorem fitting_agrees_with_target_fragments :
    let source := "\x7b\"io.0\":\"io.c\",\"cli\":\"\",\"io.1\":\"io.c\",\"io.0\":\"io.html\"\x7d"
    let symbols := ({} : SymbolTable).insert "io.9"
    ∃ commands compiled, CommandMap.parse source = .ok commands ∧
      Glob.compile? "io.?" = some compiled ∧ (Policy.mapped commands).WellFormed ∧
      symbols.Reachable ∧
      (Policy.mapped commands).ListsMatches symbols compiled
        [("io.0", .external "io.html" (some "io")), ("io.1", .external "io.c" none)] ∧
      ((Policy.mapped commands).resolve symbols ⟨"io.?", none⟩).log = [] := by
  intro source symbols
  let read := CommandMap.ofList [("io.0", "io.html"), ("cli", ""), ("io.1", "io.c")]
  have hsource : (CommandMap.parse source).toOption = some read := by decide +kernel
  cases hparse : CommandMap.parse source with
  | error fault => simp [hparse, Except.toOption] at hsource
  | ok commands =>
    have hpolicy : (Policy.mapped commands).WellFormed := CommandMap.reachable_of_parse hparse
    have hsymbols : symbols.Reachable := .insert "io.9" .empty
    obtain ⟨compiled, hcompiled⟩ : ∃ compiled, Glob.compile? "io.?" = some compiled :=
      Option.isSome_iff_exists.1 (by decide +kernel)
    obtain ⟨hlists, -, hlog, -⟩ := fitting_agrees_with_target hpolicy hsymbols hcompiled
    have hfound : ((Policy.mapped commands).fitting symbols "io.?").value =
        [("io.0", .external "io.html" (some "io")), ("io.1", .external "io.c" none)] := by
      obtain rfl : commands = read := by simpa [hparse, Except.toOption] using hsource
      decide +kernel
    rw [hfound] at hlists
    exact ⟨commands, compiled, rfl, hcompiled, hpolicy, hsymbols, hlists,
      hlog ⟨"io.?", none⟩ rfl (by decide)⟩

/-! ## Patterns that do not compile -/

namespace Policy

/-- A pattern that does not compile fits nothing and is reported. -/
lemma fitting_of_compile?_eq_none {pattern : String} (h : Glob.compile? pattern = none)
    (policy : Policy) (symbols : SymbolTable) :
    policy.fitting symbols pattern = ⟨[], [.unusablePattern pattern]⟩ := by
  unfold fitting
  simp only [h]

/-- A paste whose pattern does not compile becomes an empty popup. -/
lemma resolve_of_compile?_eq_none {paste : MarkerText} (h : Glob.compile? paste.name = none)
    (policy : Policy) (symbols : SymbolTable) :
    policy.resolve symbols paste =
      ⟨popup paste.pasteLabel [], [.unusablePattern paste.name]⟩ := by
  have hwildcard : paste.isWildcard = true := Glob.isWildcard_of_compile?_eq_none h
  unfold resolve
  rw [if_pos hwildcard, fitting_of_compile?_eq_none h]
  rfl

/-- An empty popup as it is written out. -/
lemma render_popup_nil (label : String) :
    (popup label []).render = "<span class=\"popup\">" ++ Markup.escapeText label ++
      "<div><span id=\"caption\">Matched:</span></div></span>" := by
  have hpopup : Markup.escapeAttribute "popup" = "popup" := by decide
  have hcaption : Markup.escapeAttribute "caption" = "caption" := by decide
  have hmatched : Markup.escapeText "Matched:" = "Matched:" := by decide
  rw [← String.toList_inj]
  simp [popup, Markup.render, Markup.renderAll, Markup.renderAttributes, hpopup, hcaption, hmatched]

end Policy

/-- A pattern fails to compile exactly when one of its closed sets has a range whose ends are out of
order.  Then nothing fits it, and a paste of it is replaced by a popup without links. -/
theorem compile?_eq_none_iff_reversed (pattern : String) :
    (Glob.compile? pattern = none ↔
      ∃ body, Glob.HasSet pattern.toList body ∧ Glob.HasReversedRange body) ∧
    (Glob.compile? pattern = none → ∀ (policy : Policy) (symbols : SymbolTable),
      policy.fitting symbols pattern = ⟨[], [.unusablePattern pattern]⟩ ∧
      ∀ paste : MarkerText, paste.name = pattern →
        (policy.resolve symbols paste).log = [.unusablePattern pattern] ∧
        (policy.resolve symbols paste).value.render =
          "<span class=\"popup\">" ++ Markup.escapeText paste.pasteLabel ++
            "<div><span id=\"caption\">Matched:</span></div></span>") := by
  refine ⟨Glob.compile?_eq_none_iff pattern, fun h policy symbols => ?_⟩
  refine ⟨Policy.fitting_of_compile?_eq_none h policy symbols, ?_⟩
  rintro paste rfl
  rw [Policy.resolve_of_compile?_eq_none h]
  exact ⟨rfl, Policy.render_popup_nil _⟩

/-- A negated set that holds an opening bracket, which begins no set, and a range from `z` down to
`a`. -/
theorem compile?_eq_none_iff_reversed_negated :
    let pattern := "x[!b[z-a]*"
    let symbols := ({} : SymbolTable).insert "xc"
    Glob.compile? pattern = none ∧
      (∃ body, Glob.HasSet pattern.toList body ∧ Glob.HasReversedRange body) ∧
      (Policy.inPage.fitting symbols pattern).value = [] ∧
      (Policy.inPage.resolve symbols ⟨pattern, some ",n"⟩).value.render =
        "<span class=\"popup\">=x[!b[z-a]*,n<div>" ++
          "<span id=\"caption\">Matched:</span></div></span>" := by
  intro pattern symbols
  have hnone : Glob.compile? pattern = none := by decide +kernel
  obtain ⟨hiff, hpaste⟩ := compile?_eq_none_iff_reversed pattern
  obtain ⟨hfitting, hresolve⟩ := hpaste hnone .inPage symbols
  obtain ⟨-, hrender⟩ := hresolve ⟨pattern, some ",n"⟩ rfl
  refine ⟨hnone, hiff.1 hnone, by rw [hfitting], ?_⟩
  rw [hrender]
  decide

end LiterateLinks
