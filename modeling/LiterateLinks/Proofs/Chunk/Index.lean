import LiterateLinks.Chunk.Table
import LiterateLinks.Proofs.Ordered

/-!
# Command maps and their indexes

The entries of a command map and the index at their side are changed separately: a new name is added
to both, a known name is replaced among the entries and the index stays.  One invariant ties the two
together: the index gives a position for a name exactly if the name stands there
(`CommandMap.WellIndexed`).  It holds of the empty map and every insertion preserves it, so it holds
after any insertions.

The invariant says all that is needed.  A name that stood at two positions would have both in the
index, so names are distinct, and an insertion at the position that the index gives is an insertion
at the place where a search would have found the name.  The entries of a map that is filled with an
index are therefore those of a table that is filled without one
(`CommandMap.WellIndexed.entries_insert`), and what the index finds a search finds, too
(`CommandMap.WellIndexed.get?_eq`).
-/

namespace LiterateLinks

/-! ## Positions in a table -/

/-- One more element at the end has the next position, and all others keep theirs. -/
lemma getElem?_concat_eq_some_iff {α : Type} {xs : List α} {x y : α} {j : Nat} :
    (xs ++ [x])[j]? = some y ↔ xs[j]? = some y ∨ j = xs.length ∧ x = y := by
  rcases Nat.lt_trichotomy j xs.length with hlt | rfl | hgt
  · have hne : j ≠ xs.length := Nat.ne_of_lt hlt
    simp [List.getElem?_append_left hlt, hne]
  · simp
  · have hne : j ≠ xs.length := Nat.ne_of_gt hgt
    have hpast : (xs ++ [x]).length ≤ j := by
      rw [List.length_append, List.length_singleton]
      omega
    simp [List.getElem?_eq_none hpast, List.getElem?_eq_none (Nat.le_of_lt hgt), hne]

namespace Ordered

variable {α : Type}

/-- A value that is changed under its key leaves the keys as they are. -/
lemma map_fst_modify (table : List (String × α)) (i : Nat) (value : α) :
    (table.modify i fun entry => (entry.1, value)).map Prod.fst = table.map Prod.fst := by
  apply List.ext_getElem?
  intro j
  rw [List.getElem?_map, List.getElem?_map, List.getElem?_modify]
  cases table[j]? with
  | none => rfl
  | some entry => by_cases hij : i = j <;> simp [hij]

/-- Where keys are distinct, a value is put at the position of its key. -/
lemma put_eq_modify {key : String} {table : List (String × α)} {i : Nat}
    (hnodup : (table.map Prod.fst).Nodup) (hi : (table.map Prod.fst)[i]? = some key) (value : α) :
    put key value table = table.modify i fun entry => (entry.1, value) := by
  induction table generalizing i with
  | nil => simp at hi
  | cons entry table ih =>
    obtain ⟨k, v⟩ := entry
    obtain ⟨hk, htable⟩ := List.nodup_cons.1 hnodup
    cases i with
    | zero =>
      obtain rfl : k = key := by simpa using hi
      rw [put, if_pos rfl, List.modify_zero_cons]
    | succ i =>
      have hlater : (table.map Prod.fst)[i]? = some key := by simpa using hi
      have hne : k ≠ key := by
        rintro rfl
        exact hk (List.mem_of_getElem? hlater)
      rw [put, if_neg hne, ih htable hlater, List.modify_succ_cons]

end Ordered

/-! ## The index of a map -/

namespace CommandMap

/-- The index knows the names of the map and no others, each with its own position. -/
def WellIndexed (map : CommandMap) : Prop :=
  ∀ name i, map.index.lookup name = some i ↔ map.names[i]? = some name

variable {map : CommandMap} {name : String} {i : Nat}

/-- What an insertion does to a name of the index. -/
lemma insert_of_lookup_eq_some (h : map.index.lookup name = some i) (location : String) :
    map.insert name location =
      { map with entries := map.entries.modify i fun entry => (entry.1, location) } := by
  rw [insert, h]

/-- What an insertion does to a name that the index does not know. -/
lemma insert_of_lookup_eq_none (h : map.index.lookup name = none) (location : String) :
    map.insert name location =
      { entries := map.entries ++ [(name, location)]
        index := (name, map.entries.length) :: map.index } := by
  rw [insert, h]

/-- A name of the index keeps all names where they are. -/
lemma names_insert_of_lookup_eq_some (h : map.index.lookup name = some i) (location : String) :
    (map.insert name location).names = map.names := by
  rw [insert_of_lookup_eq_some h]
  exact Ordered.map_fst_modify map.entries i location

/-- A position that the index gives is the position of an entry. -/
lemma WellIndexed.lt_length (h : map.WellIndexed) (hi : map.index.lookup name = some i) :
    i < map.entries.length := by
  have hname : map.names[i]? = some name := (h name i).1 hi
  obtain ⟨hlt, -⟩ := List.getElem?_eq_some_iff.1 hname
  simpa [names] using hlt

/-- The entry at the position of a name has that name. -/
lemma WellIndexed.exists_entry (h : map.WellIndexed) (hi : map.index.lookup name = some i) :
    ∃ location, map.entries[i]? = some (name, location) := by
  have hname : map.names[i]? = some name := (h name i).1 hi
  simpa [names] using hname

/-- The index does not know a name exactly if the map does not. -/
lemma WellIndexed.lookup_eq_none_iff (h : map.WellIndexed) :
    map.index.lookup name = none ↔ name ∉ map.names := by
  rw [List.mem_iff_getElem?, Option.eq_none_iff_forall_ne_some, not_exists]
  exact forall_congr' fun i => not_congr (h name i)

/-- The names of a map are distinct, because the index has one position for each. -/
lemma WellIndexed.nodup_names (h : map.WellIndexed) : map.names.Nodup := by
  rw [List.nodup_iff_getElem?_ne_getElem?]
  intro i j hij hj heq
  have hlater : map.names[j]? = some map.names[j] := List.getElem?_eq_getElem hj
  have hi : map.index.lookup map.names[j] = some i := (h _ i).2 (heq.trans hlater)
  have hj : map.index.lookup map.names[j] = some j := (h _ j).2 hlater
  have hsame : i = j := Option.some.inj (hi.symm.trans hj)
  omega

/-- The empty map is well indexed. -/
lemma wellIndexed_empty : ({} : CommandMap).WellIndexed := by
  intro name i
  simp [names]

/-- An insertion keeps a map well indexed. -/
lemma WellIndexed.insert (h : map.WellIndexed) (name location : String) :
    (map.insert name location).WellIndexed := by
  intro other j
  cases hname : map.index.lookup name with
  | some i =>
    rw [names_insert_of_lookup_eq_some hname, insert_of_lookup_eq_some hname]
    exact h other j
  | none =>
    have hnew : name ∉ map.names := h.lookup_eq_none_iff.1 hname
    have hnames : (map.insert name location).names = map.names ++ [name] := by
      rw [insert_of_lookup_eq_none hname]
      simp [names]
    have hlength : map.names.length = map.entries.length := by simp [names]
    rw [hnames, insert_of_lookup_eq_none hname, Ordered.lookup_cons, getElem?_concat_eq_some_iff,
      ← hlength]
    by_cases hother : other = name
    · -- the new name stands behind all others and nowhere else
      subst hother
      have hnowhere : map.names[j]? ≠ some other := fun hj => hnew (List.mem_of_getElem? hj)
      rw [if_pos rfl, Option.some.injEq]
      simp [hnowhere, eq_comm]
    · have hne : name ≠ other := fun heq => hother heq.symm
      rw [if_neg hother, h other j]
      simp [hne]

/-- A map is well indexed after any insertions. -/
lemma wellIndexed_ofList (pairs : List (String × String)) : (ofList pairs).WellIndexed :=
  List.foldlRecOn (motive := WellIndexed) pairs _ wellIndexed_empty
    fun _ h pair _ => h.insert pair.1 pair.2

/-! ## The map without its index -/

/-- An insertion at the position that the index gives is an insertion where a search finds the
name. -/
lemma WellIndexed.entries_insert (h : map.WellIndexed) (name location : String) :
    (map.insert name location).entries = Ordered.put name location map.entries := by
  cases hname : map.index.lookup name with
  | some i =>
    have hi : map.names[i]? = some name := (h name i).1 hname
    rw [insert_of_lookup_eq_some hname, Ordered.put_eq_modify h.nodup_names hi]
  | none =>
    have hnew : name ∉ map.names := h.lookup_eq_none_iff.1 hname
    rw [insert_of_lookup_eq_none hname, Ordered.put_of_not_mem hnew]

/-- The location at the position that the index gives is the one that a search finds. -/
lemma WellIndexed.get?_eq (h : map.WellIndexed) (name : String) :
    map.get? name = map.entries.lookup name := by
  rw [get?]
  cases hname : map.index.lookup name with
  | some i =>
    obtain ⟨location, hentry⟩ := h.exists_entry hname
    have hmem : (name, location) ∈ map.entries := List.mem_of_getElem? hentry
    rw [(Ordered.lookup_eq_some_iff_mem h.nodup_names).2 hmem]
    simp [hentry]
  | none =>
    have hnew : name ∉ map.names := h.lookup_eq_none_iff.1 hname
    symm
    rw [← Ordered.ofList_of_nodup h.nodup_names, Ordered.lookup_ofList_eq_none_iff]
    exact hnew

/-- One more pair is inserted into the map of the others. -/
lemma ofList_concat (pairs : List (String × String)) (pair : String × String) :
    ofList (pairs ++ [pair]) = (ofList pairs).insert pair.1 pair.2 := by
  rw [ofList, List.foldl_append]
  rfl

/-- The entries of a map that is filled with an index are those of a table that is filled
without. -/
lemma entries_ofList (pairs : List (String × String)) :
    (ofList pairs).entries = Ordered.ofList pairs := by
  induction pairs using List.reverseRecOn with
  | nil => rfl
  | append_singleton pairs pair ih =>
    rw [ofList_concat, (wellIndexed_ofList pairs).entries_insert, ih, Ordered.ofList_concat]

/-! ## The record of all insertions -/

/-- The insertion of a known name replaces the entry at its position and leaves all else as it
is. -/
lemma WellIndexed.insert_of_mem (h : map.WellIndexed) (hname : name ∈ map.names)
    (location : String) :
    ∃ i, map.index.lookup name = some i ∧
      map.insert name location = { map with entries := map.entries.set i (name, location) } := by
  obtain ⟨i, hi⟩ : ∃ i, map.index.lookup name = some i := by
    rw [← Option.ne_none_iff_exists', Ne, h.lookup_eq_none_iff, not_not]
    exact hname
  obtain ⟨old, hold⟩ := h.exists_entry hi
  have hset : (map.entries.modify i fun entry => (entry.1, location)) =
      map.entries.set i (name, location) := by
    rw [List.modify_eq_set_getElem?, hold]
    rfl
  refine ⟨i, hi, ?_⟩
  rw [insert_of_lookup_eq_some hi, hset]

/-- What a command map and its index hold after any insertions into an empty map.  The names are
those inserted, each once, in the order of their first insertions.  The index gives a position for a
name exactly if the name stands there, so no position is out of range.  Under a name the location of
its last insertion is found, and nothing under a name that was never inserted.  To insert a known
name replaces one entry at its position and changes no other entry, no name and no position.  And
the entries are those of a table that is filled without an index, by searching it for every name. -/
theorem ofList_records_insertions (pairs : List (String × String)) :
    let map := ofList pairs
    ListsOnce (pairs.map Prod.fst) map.names ∧
      (∀ name i, map.index.lookup name = some i ↔ map.names[i]? = some name) ∧
      (∀ name i, map.index.lookup name = some i → i < map.entries.length) ∧
      (∀ name location, map.get? name = some location ↔ Ordered.LastGiven pairs name location) ∧
      (∀ name, map.get? name = none ↔ name ∉ pairs.map Prod.fst) ∧
      (∀ name location, name ∈ pairs.map Prod.fst → ∃ i, map.index.lookup name = some i ∧
        map.insert name location = { map with entries := map.entries.set i (name, location) } ∧
        (map.insert name location).names = map.names) ∧
      map.entries = pairs.foldl (fun table pair => Ordered.put pair.1 pair.2 table) [] ∧
      ∀ name, map.entries.lookup name = map.get? name := by
  intro map
  have hindexed : map.WellIndexed := wellIndexed_ofList pairs
  have hentries : map.entries = Ordered.ofList pairs := entries_ofList pairs
  have hnames : map.names = (pairs.map Prod.fst).eraseDups := by
    rw [← Ordered.map_fst_ofList, ← hentries]
    rfl
  have hget : ∀ name, map.get? name = (Ordered.ofList pairs).lookup name := by
    intro name
    rw [hindexed.get?_eq, hentries]
  refine ⟨?_, hindexed, fun name i hi => hindexed.lt_length hi, fun name location => ?_,
    fun name => ?_, fun name location hname => ?_, hentries,
    fun name => (hindexed.get?_eq name).symm⟩
  · rw [hnames]
    exact listsOnce_eraseDups _
  · rw [hget, Ordered.lookup_ofList_eq_some_iff]
  · rw [hget, Ordered.lookup_ofList_eq_none_iff]
  · have hknown : name ∈ map.names := by rwa [hnames, List.mem_eraseDups]
    obtain ⟨i, hi, hinsert⟩ := hindexed.insert_of_mem hknown location
    exact ⟨i, hi, hinsert, names_insert_of_lookup_eq_some hi location⟩

/-- Two chunks, one of them inserted again: it keeps its place before the other one, its location is
the last one, and a further insertion replaces its entry and leaves the other. -/
theorem ofList_records_insertions_repeated :
    let pairs := [("io", "a.c"), ("main", ""), ("io", "b.c")]
    let map := ofList pairs
    "io" ∈ pairs.map Prod.fst ∧ map.index.lookup "main" = some 1 ∧ map.get? "io" = some "b.c" ∧
      map.get? "cli" = none ∧ (map.insert "io" "c.c").entries = [("io", "c.c"), ("main", "")] := by
  intro pairs map
  have hmem : "io" ∈ pairs.map Prod.fst := by decide
  have hother : "cli" ∉ pairs.map Prod.fst := by decide
  have hentries : map.entries = [("io", "b.c"), ("main", "")] := by decide
  obtain ⟨-, hindex, -, hget, hnone, hknown, -⟩ := ofList_records_insertions pairs
  have hlast : Ordered.LastGiven pairs "io" "b.c" :=
    ⟨[("io", "a.c"), ("main", "")], [], rfl, by decide⟩
  obtain ⟨i, hi, hinsert, -⟩ := hknown "io" "c.c" hmem
  obtain rfl : i = 0 := by
    have hfirst : map.index.lookup "io" = some 0 := (hindex "io" 0).2 (by decide)
    exact Option.some.inj (hi.symm.trans hfirst)
  refine ⟨hmem, (hindex "main" 1).2 (by decide), (hget "io" "b.c").2 hlast,
    (hnone "cli").2 hother, ?_⟩
  have hset : (map.insert "io" "c.c").entries = map.entries.set 0 ("io", "c.c") :=
    congrArg (fun changed => changed.entries) hinsert
  rw [hset, hentries]
  rfl

end CommandMap

end LiterateLinks
