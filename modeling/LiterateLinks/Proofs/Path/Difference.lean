import LiterateLinks.Proofs.Path.Place

/-!
# The way from one place to another

The difference of two paths is found by comparing their components.  For the paths of two places
this comes down to one question: whether the names of the directory lead the names of the file.  If
they do, the difference is made of the names that follow, and none of its components leaves the
directory (`Place.differ?_append`).  If they do not, the two lists part somewhere, or the file is
above the directory, and the difference goes back at least once (`Place.differ?_of_not_leading`).

The difference is handed on as a path, and its components are read from the spelling again.  Nothing
is lost on the way, because each of them is spelled without a slash (`Place.components_collect`).
-/

namespace LiterateLinks

namespace Place

/-! ## Components of the difference -/

/-- From above a directory one goes back for each of its components. -/
lemma differ?_nil (found base : List Component) :
    differ? found [] base = some (found ++ base.map fun _ => .parentDir) := by
  induction base generalizing found with
  | nil => simp [differ?]
  | cons d base ih =>
    rw [differ?, ih, List.map_cons, List.append_assoc, List.singleton_append]

/-- Components that both paths have in front are left out. -/
lemma differ?_append (dir rest : List Component) : differ? [] (dir ++ rest) dir = some rest := by
  induction dir with
  | nil => cases rest <;> rfl
  | cons d dir ih => simpa [differ?] using ih

/-- Where the names of a directory do not lead the names of a file, the difference goes back and
then on with names of the file. -/
lemma differ?_of_not_leading {dir names : List ByteString} (h : ¬dir <+: names) :
    ∃ ups rest, rest <:+ names ∧ differ? [] (names.map .normal) (dir.map .normal) =
      some (.parentDir :: List.replicate ups .parentDir ++ rest.map .normal) := by
  induction dir generalizing names with
  | nil => exact absurd List.nil_prefix h
  | cons d dir ih =>
    cases names with
    | nil =>
      refine ⟨dir.length, [], List.suffix_refl [], ?_⟩
      rw [List.map_nil, differ?_nil]
      simp [Function.comp_def, List.map_const']
    | cons n names =>
      by_cases hsame : n = d
      · subst hsame
        have hlater : ¬dir <+: names := fun hleads => h (List.cons_prefix_cons.2 ⟨rfl, hleads⟩)
        obtain ⟨ups, rest, hrest, hdiffer⟩ := ih hlater
        refine ⟨ups, rest, hrest.trans (List.suffix_cons n names), ?_⟩
        simpa [differ?] using hdiffer
      · refine ⟨dir.length, n :: names, List.suffix_refl _, ?_⟩
        simp [differ?, hsame, Function.comp_def, List.map_const']

/-! ## The path of the difference -/

/-- How a step is spelled: without a slash, and read as the step. -/
lemma Component.IsStep.text_eq {part : Component} (h : part.IsStep) :
    part.text ≠ "" ∧ isAbsolute part.text = false ∧ start part.text = [] ∧
      steps part.text = [part] := by
  cases part with
  | rootDir => exact h.elim
  | curDir => exact h.elim
  | parentDir => decide
  | normal name =>
    have hname : IsName name := h
    have hrelative : isAbsolute name = false := isAbsolute_of_no_slash hname.no_slash
    have hdot : (pieces name).head? ≠ some (("." : ByteString)) := by
      rw [pieces_of_no_slash hname.no_slash, List.head?_cons]
      exact fun hsome => hname.ne_dot (Option.some.inj hsome)
    refine ⟨hname.ne_empty, hrelative, ?_, hname.steps_eq⟩
    rw [Component.text, start, hrelative, if_neg Bool.false_ne_true, if_neg hdot]

/-- One more component is joined to the path of those before it. -/
lemma collect_concat (parts : List Component) (part : Component) :
    collect (parts ++ [part]) = join (collect parts) part.text := by
  rw [collect, List.foldl_append]
  rfl

/-- Steps that are put together to a path are read as they were. -/
lemma collect_of_isStep {parts : List Component} (h : ∀ part ∈ parts, part.IsStep)
    (hne : parts ≠ []) :
    collect parts ≠ "" ∧ start (collect parts) = [] ∧ steps (collect parts) = parts := by
  induction parts using List.reverseRecOn with
  | nil => exact absurd rfl hne
  | append_singleton parts part ih =>
    obtain ⟨htext, hrelative, hstart, hsteps⟩ := (h part (by simp)).text_eq
    rw [collect_concat]
    by_cases hparts : parts = []
    · subst hparts
      have hjoin : join (collect []) part.text = part.text := if_pos (by simp [collect])
      rw [hjoin]
      exact ⟨htext, hstart, hsteps⟩
    · obtain ⟨hempty, hbefore, hread⟩ := ih (fun other hother => h other (by simp [hother])) hparts
      refine ⟨join_ne_empty hempty hrelative, ?_, ?_⟩
      · rw [start_join hempty hrelative, hbefore]
      · rw [steps_join hempty hrelative, hread, hsteps]

/-- The components of a path that is put together from steps are the steps. -/
lemma components_collect {parts : List Component} (h : ∀ part ∈ parts, part.IsStep) :
    components (collect parts) = parts := by
  by_cases hne : parts = []
  · subst hne
    decide
  · obtain ⟨-, hstart, hsteps⟩ := collect_of_isStep h hne
    rw [components, hstart, hsteps, List.nil_append]

/-! ## From a directory to a file -/

section Places

variable {dir names : List ByteString} (hdir : IsPlace dir)
include hdir

/-- Both paths start at the root, which is left out. -/
lemma difference?_ofNames (hnames : IsPlace names) :
    difference? (ofNames names) (ofNames dir) =
      (differ? [] (names.map .normal) (dir.map .normal)).map collect := by
  rw [difference?, isAbsolute_ofNames, isAbsolute_ofNames, if_pos rfl, components_ofNames hnames,
    components_ofNames hdir]
  rfl

/-- To a file below a directory one takes the names that follow. -/
lemma difference?_append {rest : List ByteString} (hnames : IsPlace (dir ++ rest)) :
    ∃ path, difference? (ofNames (dir ++ rest)) (ofNames dir) = some path ∧
      components path = rest.map .normal := by
  refine ⟨collect (rest.map .normal), ?_, components_collect ?_⟩
  · rw [difference?_ofNames hdir hnames, List.map_append, differ?_append, Option.map_some]
  · rintro part hpart
    obtain ⟨name, hname, rfl⟩ := List.mem_map.1 hpart
    exact hnames.of_append_right name hname

/-- To any other file one goes back. -/
lemma difference?_of_not_leading (hnames : IsPlace names) (h : ¬dir <+: names) :
    ∃ path, difference? (ofNames names) (ofNames dir) = some path ∧
      .parentDir ∈ components path := by
  obtain ⟨ups, rest, hrest, hdiffer⟩ := differ?_of_not_leading h
  refine ⟨_, by rw [difference?_ofNames hdir hnames, hdiffer, Option.map_some], ?_⟩
  rw [components_collect]
  · exact List.mem_append_left _ List.mem_cons_self
  · simp only [List.mem_append, List.mem_cons, List.mem_replicate, List.mem_map]
    rintro part ((rfl | ⟨-, rfl⟩) | ⟨name, hname, rfl⟩)
    · exact trivial
    · exact trivial
    · exact hnames name (hrest.subset hname)

end Places

end Place

end LiterateLinks
