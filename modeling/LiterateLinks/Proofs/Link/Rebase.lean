import LiterateLinks.Link.Source
import LiterateLinks.Proofs.Chunk.Table
import LiterateLinks.Proofs.Failing

/-!
# Command maps with URLs

For a published page the locations of a command map are replaced by URLs, in table order.  The first
location that has none decides the failure, and nothing after it is looked at.  Otherwise every name
keeps its place and is found with the URL of its old location (`CommandMap.Replaces`).

The replaced entries are collected anew by insertion, with a new index.  That they come out as they
went in rests on the names of the map being distinct, which holds of every map that insertions lead
to (`CommandMap.mapLocations_spec`).
-/

namespace LiterateLinks

/-! ## Replaced locations -/

namespace CommandMap

open Failing

variable {ε : Type} {f : String → Except ε String} {map mapped : CommandMap}

/-- The two entries have one name, and the location of the second is what `f` gives for the
first. -/
def Replaces (f : String → Except ε String) (entry replaced : String × String) : Prop :=
  replaced.1 = entry.1 ∧ f entry.2 = .ok replaced.2

/-- Replaced entries have the names of the old ones. -/
lemma map_fst_of_replaces {entries replaced : List (String × String)}
    (h : List.Forall₂ (Replaces f) entries replaced) :
    replaced.map Prod.fst = entries.map Prod.fst := by
  induction h with
  | nil => rfl
  | cons hentry _ ih => rw [List.map_cons, List.map_cons, hentry.1, ih]

/-- What is replaced has something to be replaced by. -/
lemma exists_of_replaces {entries replaced : List (String × String)}
    (h : List.Forall₂ (Replaces f) entries replaced) :
    ∀ entry ∈ entries, ∃ location, f entry.2 = .ok location := by
  induction h with
  | nil => exact fun entry hentry => absurd hentry List.not_mem_nil
  | @cons entry new entries replaced hentry _ ih =>
    exact List.forall_mem_cons.2 ⟨⟨new.2, hentry.2⟩, ih⟩

/-- A name is found with the replaced location. -/
lemma map_lookup_of_replaces {entries replaced : List (String × String)}
    (h : List.Forall₂ (Replaces f) entries replaced) (name : String) :
    (entries.lookup name).map f = (replaced.lookup name).map .ok := by
  induction h with
  | nil => rfl
  | @cons entry new entries replaced hentry _ ih =>
    obtain ⟨key, location⟩ := entry
    obtain ⟨newKey, url⟩ := new
    obtain ⟨rfl, hurl⟩ : newKey = key ∧ f location = .ok url := hentry
    by_cases hname : name = newKey
    · rw [hname, List.lookup_cons_self, List.lookup_cons_self, Option.map_some, Option.map_some,
        hurl]
    · have hkey : (name == newKey) = false := by simpa using hname
      rw [List.lookup_cons, List.lookup_cons, hkey]
      exact ih

/-- The locations of a map are replaced one by one, and the map is collected from the new
entries. -/
lemma mapLocations_eq_ok_iff :
    map.mapLocations f = .ok mapped ↔
      ∃ entries, List.Forall₂ (Replaces f) map.entries entries ∧ ofList entries = mapped := by
  simp only [mapLocations, bind_eq_ok_iff, pure_eq_ok_iff, mapM_eq_ok_iff]
  refine exists_congr fun entries => and_congr_left fun _ => ?_
  constructor
  · refine List.Forall₂.imp fun entry new hnew => ?_
    obtain ⟨url, hurl, rfl⟩ := hnew
    exact ⟨rfl, hurl⟩
  · refine List.Forall₂.imp fun entry new hnew => ?_
    exact ⟨new.2, hnew.2, Prod.ext hnew.1.symm rfl⟩

/-- Where insertions lead, the names stay where they are. -/
lemma mapLocations_spec (h : map.Reachable) (hmapped : map.mapLocations f = .ok mapped) :
    mapped.Reachable ∧ List.Forall₂ (Replaces f) map.entries mapped.entries := by
  obtain ⟨entries, hentries, rfl⟩ := mapLocations_eq_ok_iff.1 hmapped
  have hnodup : (entries.map Prod.fst).Nodup := by
    rw [map_fst_of_replaces hentries]
    exact h.nodup_names
  refine ⟨reachable_ofList entries, ?_⟩
  rwa [entries_ofList_of_nodup hnodup]

/-- The first location that cannot be replaced decides. -/
lemma mapLocations_eq_error_iff {fault : ε} :
    map.mapLocations f = .error fault ↔ ∃ before name location after,
      map.entries = before ++ (name, location) :: after ∧
      (∀ entry ∈ before, ∃ url, f entry.2 = .ok url) ∧ f location = .error fault := by
  simp only [mapLocations, bind_eq_error_iff, pure_ne_error, and_false, exists_false, or_false,
    mapM_eq_error_iff, bind_eq_ok_iff, pure_eq_ok_iff]
  constructor
  · rintro ⟨before, ⟨name, location⟩, after, hentries, hbefore, hfault⟩
    refine ⟨before, name, location, after, hentries, fun entry hentry => ?_, hfault⟩
    obtain ⟨-, url, hurl, -⟩ := hbefore entry hentry
    exact ⟨url, hurl⟩
  · rintro ⟨before, name, location, after, hentries, hbefore, hfault⟩
    refine ⟨before, (name, location), after, hentries, fun entry hentry => ?_, hfault⟩
    obtain ⟨url, hurl⟩ := hbefore entry hentry
    exact ⟨_, url, hurl, rfl⟩

/-- All locations are replaced if each of them can be. -/
lemma exists_mapLocations_eq_ok_iff :
    (∃ mapped, map.mapLocations f = .ok mapped) ↔
      ∀ entry ∈ map.entries, ∃ location, f entry.2 = .ok location := by
  constructor
  · rintro ⟨mapped, hmapped⟩
    obtain ⟨entries, hentries, -⟩ := mapLocations_eq_ok_iff.1 hmapped
    exact exists_of_replaces hentries
  · intro hall
    cases hmapped : map.mapLocations f with
    | ok mapped => exact ⟨mapped, rfl⟩
    | error fault =>
      obtain ⟨before, name, location, after, hentries, -, hfault⟩ :=
        mapLocations_eq_error_iff.1 hmapped
      obtain ⟨url, hurl⟩ := hall (name, location) (by simp [hentries])
      rw [hfault] at hurl
      cases hurl

end CommandMap

/-- The locations of a command map are replaced by URLs if all of them have one.  Then the names and
their order are kept, and every name is found with the URL of its old location.  Otherwise the fault
is the one of the first entry in table order that has no URL. -/
theorem rebase_of_reachable (sources : SourceUrls) (workingDirectory : List ByteString)
    {commands : CommandMap} (h : commands.Reachable) :
    ((∃ rebased, sources.rebase workingDirectory commands = .ok rebased) ↔
      ∀ entry ∈ commands.entries, ∃ url, sources.url workingDirectory entry.2 = .ok url) ∧
    (∀ rebased, sources.rebase workingDirectory commands = .ok rebased →
      rebased.names = commands.names ∧
        ∀ name, (commands.get? name).map (sources.url workingDirectory) =
          (rebased.get? name).map .ok) ∧
    ∀ fault, sources.rebase workingDirectory commands = .error fault ↔
      ∃ before name location after, commands.entries = before ++ (name, location) :: after ∧
        (∀ entry ∈ before, ∃ url, sources.url workingDirectory entry.2 = .ok url) ∧
        sources.url workingDirectory location = .error fault := by
  unfold SourceUrls.rebase
  refine ⟨CommandMap.exists_mapLocations_eq_ok_iff, fun rebased hrebased => ?_,
    fun fault => CommandMap.mapLocations_eq_error_iff⟩
  obtain ⟨hreachable, hreplaced⟩ := CommandMap.mapLocations_spec h hrebased
  refine ⟨CommandMap.map_fst_of_replaces hreplaced, fun name => ?_⟩
  rw [h.wellIndexed.get?_eq, hreachable.wellIndexed.get?_eq]
  exact CommandMap.map_lookup_of_replaces hreplaced name

/-- A map that is read from a file, in which a name is repeated, gets URLs; of a map with two files
outside the output directory the first is reported. -/
theorem rebase_of_reachable_repeated :
    let source := "\x7b\"b\":\"x\",\"a\":\"\",\"b\":\"/site/lib/../b.html\"\x7d"
    let outside := CommandMap.ofList [("c", "/site/c"), ("d", "/x/d"), ("e", "/y/e")]
    let sources : SourceUrls := { outDir := "/site" }
    (∃ commands rebased, CommandMap.parse source = .ok commands ∧ commands.Reachable ∧
      sources.rebase ["usr", "lib"] commands = .ok rebased ∧ rebased.names = ["b", "a"] ∧
      rebased.get? "b" = some "b.html") ∧
    outside.Reachable ∧
      sources.rebase ["usr", "lib"] outside = .error (.unreachable ["x", "d"]) := by
  intro source outside sources
  let read := CommandMap.ofList [("b", "/site/lib/../b.html"), ("a", "")]
  have hsource : (CommandMap.parse source).toOption = some read := by decide +kernel
  have hfile : sources.url ["usr", "lib"] "/site/lib/../b.html" = .ok "b.html" := by decide
  have hown : sources.url ["usr", "lib"] "" = .ok "" := by decide
  refine ⟨?_, CommandMap.reachable_ofList _, ?_⟩
  · cases hparse : CommandMap.parse source with
    | error fault => simp [hparse, Except.toOption] at hsource
    | ok commands =>
      have hreachable : commands.Reachable := CommandMap.reachable_of_parse hparse
      obtain rfl : commands = read := by simpa [hparse, Except.toOption] using hsource
      have hentries : read.entries = [("b", "/site/lib/../b.html"), ("a", "")] := by decide
      obtain ⟨hiff, hkept, -⟩ := rebase_of_reachable sources ["usr", "lib"] hreachable
      obtain ⟨rebased, hrebased⟩ := hiff.2 (by simp [hentries, hfile, hown])
      obtain ⟨hnames, hget⟩ := hkept rebased hrebased
      have hb : (rebased.get? "b").map .ok =
          some (sources.url ["usr", "lib"] "/site/lib/../b.html") := (hget "b").symm
      obtain ⟨url, hurl, hfound⟩ := Option.map_eq_some_iff.1 hb
      obtain rfl : url = "b.html" := Except.ok.inj (hfound.trans hfile)
      exact ⟨_, rebased, rfl, hreachable, hrebased, hnames, hurl⟩
  · obtain ⟨-, -, hfault⟩ :=
      rebase_of_reachable sources ["usr", "lib"] (CommandMap.reachable_ofList
        [("c", "/site/c"), ("d", "/x/d"), ("e", "/y/e")])
    refine (hfault _).2 ⟨[("c", "/site/c")], "d", "/x/d", [("e", "/y/e")], by decide, ?_, by decide⟩
    have hbelow : sources.url ["usr", "lib"] "/site/c" = .ok "c" := by decide
    simp [hbelow]

end LiterateLinks
