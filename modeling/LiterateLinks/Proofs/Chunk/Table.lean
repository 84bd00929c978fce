import Mathlib.Data.List.Induction
import Mathlib.Data.List.Nodup
import Mathlib.Tactic.Common
import LiterateLinks.Chunk.CommandFile
import LiterateLinks.Proofs.Chunk.Index

/-!
# Tables of distinct names

The tables of chunk names grow by insertion only.  A name that is known keeps its place and no name
is ever listed twice: this holds of the empty table, every insertion preserves it, and so it holds
of every table that insertions can lead to (`SymbolTable.Reachable`, `CommandMap.Reachable`).

What stands beside the names is kept in step with them: the set of a symbol table holds the names of
the table and no others (`SymbolTable.InStep`), and a command map is well indexed.

A command map is also collected from a list of pairs or read from a file.  Both ways give reachable
maps: entries with distinct names are those of the map that is collected from them
(`CommandMap.entries_ofList_of_nodup`).
-/

namespace LiterateLinks

/-! ## Symbol tables -/

namespace SymbolTable

/-- The tables that insertions lead to. -/
inductive Reachable : SymbolTable → Prop where
  | empty : Reachable {}
  | insert {table : SymbolTable} (name : String) : Reachable table → Reachable (table.insert name)

/-- The set holds the names of the table. -/
def InStep (table : SymbolTable) : Prop :=
  ∀ name, name ∈ table.known ↔ name ∈ table.names

variable {table : SymbolTable} {name : String}

/-- The set tells whether a name is new. -/
lemma InStep.isNew_iff (h : table.InStep) : table.isNew name = true ↔ name ∉ table.names := by
  rw [isNew, Bool.not_eq_true', ← h name]
  simp

/-- A name of the table changes nothing. -/
lemma InStep.insert_of_mem (h : table.InStep) (hname : name ∈ table.names) :
    table.insert name = table := by
  rw [insert, if_neg (mt h.isNew_iff.1 (not_not.2 hname))]

/-- A new name goes to the end of the names and into the set. -/
lemma InStep.insert_of_not_mem (h : table.InStep) (hname : name ∉ table.names) :
    table.insert name = ⟨table.names ++ [name], name :: table.known⟩ := by
  rw [insert, if_pos (h.isNew_iff.2 hname)]

/-- An insertion keeps the set in step with the names. -/
lemma InStep.insert (h : table.InStep) (name : String) : (table.insert name).InStep := by
  by_cases hname : name ∈ table.names
  · rwa [h.insert_of_mem hname]
  · intro other
    rw [h.insert_of_not_mem hname, List.mem_cons, List.mem_append, List.mem_singleton, h other,
      or_comm]

/-- The set of a reachable table is in step with its names. -/
lemma Reachable.inStep (h : table.Reachable) : table.InStep := by
  induction h with
  | empty => exact fun name => Iff.rfl
  | insert name _ ih => exact ih.insert name

/-- The names of a reachable table are distinct. -/
lemma Reachable.nodup_names (h : table.Reachable) : table.names.Nodup := by
  induction h with
  | empty => exact List.nodup_nil
  | @insert table name hreachable ih =>
    by_cases hname : name ∈ table.names
    · rwa [hreachable.inStep.insert_of_mem hname]
    · rw [hreachable.inStep.insert_of_not_mem hname, List.nodup_append_comm]
      exact List.nodup_cons.2 ⟨hname, ih⟩

end SymbolTable

/-! ## Command maps -/

namespace CommandMap

/-- The maps that insertions lead to. -/
inductive Reachable : CommandMap → Prop where
  | empty : Reachable {}
  | insert {map : CommandMap} (name location : String) :
      Reachable map → Reachable (map.insert name location)

variable {map : CommandMap}

/-- A reachable map is well indexed. -/
lemma Reachable.wellIndexed (h : map.Reachable) : map.WellIndexed := by
  induction h with
  | empty => exact wellIndexed_empty
  | insert name location _ ih => exact ih.insert name location

/-- The names of a reachable map are distinct. -/
lemma Reachable.nodup_names (h : map.Reachable) : map.names.Nodup :=
  h.wellIndexed.nodup_names

/-- The index of a reachable map lists its names with their positions, newest first. -/
lemma Reachable.index_eq (h : map.Reachable) : map.index = map.names.zipIdx.reverse := by
  induction h with
  | empty => rfl
  | @insert map name location _ ih =>
    cases hname : map.index.lookup name with
    | some i =>
      rw [names_insert_of_lookup_eq_some hname, insert_of_lookup_eq_some hname]
      exact ih
    | none =>
      rw [insert_of_lookup_eq_none hname, ih]
      simp [names, List.zipIdx_append]

/-- A reachable map is given by its entries. -/
lemma Reachable.eq_of_entries_eq {other : CommandMap} (h : map.Reachable) (hother : other.Reachable)
    (hentries : map.entries = other.entries) : map = other := by
  have hindex : map.index = other.index := by
    rw [h.index_eq, hother.index_eq, names, names, hentries]
  cases map
  cases other
  exact congrArg₂ CommandMap.mk hentries hindex

/-- The map of a list of pairs is reachable. -/
lemma reachable_ofList (pairs : List (String × String)) : (ofList pairs).Reachable :=
  List.foldlRecOn (motive := Reachable) pairs _ .empty fun _ h pair _ => h.insert pair.1 pair.2

/-- Entries with distinct names are collected as they are. -/
lemma entries_ofList_of_nodup {entries : List (String × String)}
    (h : (entries.map Prod.fst).Nodup) : (ofList entries).entries = entries := by
  rw [entries_ofList, Ordered.ofList_of_nodup h]

/-- A map that is read from a file is reachable. -/
lemma reachable_of_parse {source : String} (h : parse source = .ok map) :
    map.Reachable := by
  unfold parse at h
  split at h
  · cases h
  · split at h
    · obtain rfl := Except.ok.inj h
      exact reachable_ofList _
    · cases h

/-- A name of the map has a location. -/
lemma Reachable.exists_get?_eq_some (h : map.Reachable) {name : String} (hname : name ∈ map.names) :
    ∃ location, map.get? name = some location := by
  refine Option.ne_none_iff_exists'.1 fun hnone => ?_
  rw [h.wellIndexed.get?_eq] at hnone
  obtain ⟨entry, hentry, rfl⟩ := List.mem_map.1 hname
  have hother := List.lookup_eq_none_iff.1 hnone entry hentry
  simp at hother

end CommandMap

end LiterateLinks
