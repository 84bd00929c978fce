import Mathlib.Data.List.Induction
import Mathlib.Data.List.Nodup
import Mathlib.Tactic.Common
import LiterateLinks.Ordered

/-!
# First places and last values

A table that is filled from left to right remembers two things of every key: where it was first put
and what was last put under it.  The keys of the table are those of the pairs, each once, in the
order of their first occurrences (`ListsOnce`), and what is found under a key is the last value
given to it (`Ordered.LastGiven`).  Both are stated of the list of pairs alone, without a table.
-/

namespace LiterateLinks

/-! ## First occurrences -/

/-- The names are those that occur, each once, in the order of their first occurrences. -/
structure ListsOnce (occurrences names : List String) : Prop where
  nodup : names.Nodup
  mem_iff : ∀ name, name ∈ names ↔ name ∈ occurrences
  ordered : names.Pairwise fun a b => occurrences.idxOf a < occurrences.idxOf b

/-- Without their repetitions, names are in the order of their first occurrences. -/
lemma pairwise_eraseDups (occurrences : List String) :
    occurrences.eraseDups.Pairwise fun a b => occurrences.idxOf a < occurrences.idxOf b := by
  induction occurrences using List.reverseRecOn with
  | nil => simp
  | append_singleton names name ih =>
    have hkeep : ∀ a ∈ names.eraseDups, (names ++ [name]).idxOf a = names.idxOf a :=
      fun a ha => List.idxOf_append_of_mem (List.mem_eraseDups.1 ha)
    have hpairwise : names.eraseDups.Pairwise
        fun a b => (names ++ [name]).idxOf a < (names ++ [name]).idxOf b := by
      refine List.Pairwise.imp_of_mem (fun ha hb hlt => ?_) ih
      rwa [hkeep _ ha, hkeep _ hb]
    rw [List.eraseDups_append]
    by_cases hname : name ∈ names
    · simpa [List.removeAll, hname] using hpairwise
    · -- a new name comes behind all others
      have hlast : (names ++ [name]).idxOf name = names.length := by
        simp [List.idxOf_append_of_notMem hname]
      have hnew : List.removeAll [name] names = [name] := by simp [List.removeAll, hname]
      rw [hnew, List.pairwise_append]
      refine ⟨hpairwise, by simp [List.eraseDups_cons], fun a ha b hb => ?_⟩
      obtain rfl : b = name := by simpa using hb
      rw [hlast, hkeep a ha]
      exact List.idxOf_lt_length_of_mem (List.mem_eraseDups.1 ha)

/-- Names without their repetitions are listed once, in the order of their first occurrences. -/
lemma listsOnce_eraseDups (occurrences : List String) :
    ListsOnce occurrences occurrences.eraseDups := by
  have hordered := pairwise_eraseDups occurrences
  refine ⟨?_, fun name => List.mem_eraseDups, hordered⟩
  refine hordered.imp fun hlt heq => ?_
  rw [heq] at hlt
  exact Nat.lt_irrefl _ hlt

/-- The list is determined by what occurs. -/
lemma ListsOnce.unique {occurrences names others : List String} (h : ListsOnce occurrences names)
    (hothers : ListsOnce occurrences others) : names = others := by
  have hperm : names.Perm others :=
    (List.perm_ext_iff_of_nodup h.nodup hothers.nodup).2 fun name =>
      (h.mem_iff name).trans (hothers.mem_iff name).symm
  refine hperm.eq_of_pairwise (fun a b _ _ hab hba => ?_) h.ordered hothers.ordered
  exact absurd hab (Nat.lt_asymm hba)

/-! ## Tables -/

namespace Ordered

variable {α : Type}

/-! ### Keys -/

/-- A known key keeps its place. -/
lemma map_fst_put_of_mem {key : String} {table : List (String × α)} (h : key ∈ table.map Prod.fst)
    (value : α) : (put key value table).map Prod.fst = table.map Prod.fst := by
  induction table with
  | nil => cases h
  | cons entry table ih =>
    obtain ⟨k, v⟩ := entry
    by_cases hkey : k = key
    · rw [put, if_pos hkey, List.map_cons, List.map_cons]
    · have hlater : key ∈ table.map Prod.fst := List.mem_of_ne_of_mem (fun heq => hkey heq.symm) h
      rw [put, if_neg hkey, List.map_cons, List.map_cons, ih hlater]

/-- A new key comes last. -/
lemma put_of_not_mem {key : String} {table : List (String × α)} (h : key ∉ table.map Prod.fst)
    (value : α) : put key value table = table ++ [(key, value)] := by
  induction table with
  | nil => rfl
  | cons entry table ih =>
    obtain ⟨k, v⟩ := entry
    rw [List.map_cons, List.mem_cons, not_or] at h
    have hne : k ≠ key := fun heq => h.1 heq.symm
    rw [put, if_neg hne, ih h.2, List.cons_append]

/-- Putting a value keeps the keys distinct. -/
lemma nodup_put {table : List (String × α)} (h : (table.map Prod.fst).Nodup) (key : String)
    (value : α) : ((put key value table).map Prod.fst).Nodup := by
  by_cases hkey : key ∈ table.map Prod.fst
  · rwa [map_fst_put_of_mem hkey]
  · rw [put_of_not_mem hkey, List.map_append, List.nodup_append_comm]
    exact List.nodup_cons.2 ⟨hkey, h⟩

/-- The keys of the table of a list of pairs are distinct. -/
lemma nodup_ofList (pairs : List (String × α)) : ((ofList pairs).map Prod.fst).Nodup :=
  List.foldlRecOn (motive := fun table : List (String × α) => (table.map Prod.fst).Nodup) pairs _
    List.nodup_nil fun _ h pair _ => nodup_put h pair.1 pair.2

/-- One more pair is put into the table of the others. -/
lemma ofList_concat (pairs : List (String × α)) (pair : String × α) :
    ofList (pairs ++ [pair]) = put pair.1 pair.2 (ofList pairs) := by
  rw [ofList, List.foldl_append]
  rfl

/-- The keys of a table are those of the pairs without their repetitions. -/
lemma map_fst_ofList (pairs : List (String × α)) :
    (ofList pairs).map Prod.fst = (pairs.map Prod.fst).eraseDups := by
  induction pairs using List.reverseRecOn with
  | nil => rfl
  | append_singleton pairs pair ih =>
    have hmem : pair.1 ∈ (ofList pairs).map Prod.fst ↔ pair.1 ∈ pairs.map Prod.fst := by
      rw [ih, List.mem_eraseDups]
    rw [ofList_concat, List.map_append, List.eraseDups_append]
    by_cases hkey : pair.1 ∈ pairs.map Prod.fst
    · rw [map_fst_put_of_mem (hmem.2 hkey), ih]
      simp [List.removeAll, hkey]
    · rw [put_of_not_mem (mt hmem.1 hkey), List.map_append, ih]
      simp [List.removeAll, hkey, List.eraseDups_cons]

/-- Keys that are distinct are put one after the other. -/
lemma ofList_of_nodup {pairs : List (String × α)} (h : (pairs.map Prod.fst).Nodup) :
    ofList pairs = pairs := by
  induction pairs using List.reverseRecOn with
  | nil => rfl
  | append_singleton pairs pair ih =>
    rw [List.map_append, List.nodup_append_comm] at h
    obtain ⟨hnew, hpairs⟩ := List.nodup_cons.1 h
    rw [ofList_concat, ih hpairs, put_of_not_mem hnew]

/-- A table of changed values is the table of the values, changed. -/
lemma ofList_map {β : Type} (f : α → β) (pairs : List (String × α)) :
    ofList (pairs.map fun pair => (pair.1, f pair.2)) =
      (ofList pairs).map fun pair => (pair.1, f pair.2) := by
  have hput (key : String) (value : α) (table : List (String × α)) :
      put key (f value) (table.map fun pair => (pair.1, f pair.2)) =
        (put key value table).map fun pair => (pair.1, f pair.2) := by
    induction table with
    | nil => rfl
    | cons entry table ih =>
      by_cases hkey : entry.1 = key <;> simp [put, hkey, ih]
  induction pairs using List.reverseRecOn with
  | nil => rfl
  | append_singleton pairs pair ih =>
    rw [List.map_append, List.map_singleton, ofList_concat, ofList_concat, ih, hput]

/-! ### Values -/

/-- The first entry of a table hides later ones under the same key. -/
lemma lookup_cons (key other : String) (value : α) (table : List (String × α)) :
    List.lookup other ((key, value) :: table) =
      if other = key then some value else table.lookup other := by
  by_cases hother : other = key
  · rw [hother, List.lookup_cons_self, if_pos rfl]
  · have hne : (other == key) = false := by simpa using hother
    rw [List.lookup_cons, hne, if_neg hother]

/-- What is put under a key is found there, and nothing else changes. -/
lemma lookup_put (key other : String) (value : α) (table : List (String × α)) :
    (put key value table).lookup other =
      if other = key then some value else table.lookup other := by
  induction table with
  | nil => rw [put, lookup_cons]
  | cons entry table ih =>
    obtain ⟨k, v⟩ := entry
    by_cases hkey : k = key
    · rw [put, if_pos hkey, lookup_cons, lookup_cons, hkey]
      by_cases hother : other = key <;> simp [hother]
    · rw [put, if_neg hkey, lookup_cons, lookup_cons, ih]
      by_cases hother : other = k
      · have hne : other ≠ key := fun heq => hkey (hother.symm.trans heq)
        rw [if_pos hother, if_neg hne, if_pos hother]
      · simp [hother]

/-- The pairs give this value to the key, and no other value after it. -/
def LastGiven (pairs : List (String × α)) (key : String) (value : α) : Prop :=
  ∃ before after, pairs = before ++ (key, value) :: after ∧ key ∉ after.map Prod.fst

/-- The last pair of a key is the first one from behind. -/
lemma lookup_ofList (pairs : List (String × α)) (key : String) :
    (ofList pairs).lookup key = pairs.reverse.lookup key := by
  induction pairs using List.reverseRecOn with
  | nil => rfl
  | append_singleton pairs pair ih =>
    obtain ⟨k, v⟩ := pair
    rw [ofList_concat, lookup_put, ih, List.reverse_append, List.reverse_singleton,
      List.singleton_append, lookup_cons]

/-- What is found under a key is the last value given to it. -/
lemma lookup_ofList_eq_some_iff {pairs : List (String × α)} {key : String} {value : α} :
    (ofList pairs).lookup key = some value ↔ LastGiven pairs key value := by
  rw [lookup_ofList, List.lookup_eq_some_iff]
  constructor
  · rintro ⟨after, before, hpairs, hafter⟩
    refine ⟨before.reverse, after.reverse, by simpa using congrArg List.reverse hpairs, ?_⟩
    rw [List.map_reverse, List.mem_reverse, List.mem_map]
    rintro ⟨pair, hpair, rfl⟩
    simpa using hafter pair hpair
  · rintro ⟨before, after, rfl, hafter⟩
    refine ⟨after.reverse, before.reverse, by simp, fun pair hpair => ?_⟩
    rw [bne_iff_ne]
    rintro rfl
    exact hafter (List.mem_map_of_mem (List.mem_reverse.1 hpair))

/-- Nothing is found under a key that was never given a value. -/
lemma lookup_ofList_eq_none_iff {pairs : List (String × α)} {key : String} :
    (ofList pairs).lookup key = none ↔ key ∉ pairs.map Prod.fst := by
  rw [← List.mem_eraseDups, ← map_fst_ofList, List.lookup_eq_none_iff, List.mem_map]
  constructor
  · rintro h ⟨entry, hentry, rfl⟩
    simpa using h entry hentry
  · intro h entry hentry
    rw [bne_iff_ne]
    rintro rfl
    exact h ⟨entry, hentry, rfl⟩

/-- Where keys are distinct, every entry is found under its key. -/
lemma lookup_eq_some_iff_mem {table : List (String × α)} (h : (table.map Prod.fst).Nodup)
    {key : String} {value : α} : table.lookup key = some value ↔ (key, value) ∈ table := by
  have hlast : table.lookup key = some value ↔ LastGiven table key value := by
    rw [← lookup_ofList_eq_some_iff, ofList_of_nodup h]
  rw [hlast]
  constructor
  · rintro ⟨before, after, rfl, -⟩
    simp
  · intro hmem
    obtain ⟨before, after, rfl⟩ := List.append_of_mem hmem
    rw [List.map_append, List.map_cons] at h
    exact ⟨before, after, rfl, (List.nodup_cons.1 h.of_append_right).1⟩

end Ordered

end LiterateLinks
