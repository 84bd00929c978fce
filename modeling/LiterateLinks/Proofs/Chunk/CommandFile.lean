import LiterateLinks.Proofs.Chunk.Table
import LiterateLinks.Proofs.Json.Written

/-!
# Reading command maps

A command map is read in two steps.  The members of the object are put into an ordered table, in
which a repeated key keeps its first place and takes its last value.  Then the values of the table
have to be strings, and the first one that is none is reported.  So only the last value of a key
matters, and faults are looked for in the order in which keys first occur, not in the order of the
members that are at fault.

A map that is written as an object, with or without repetitions, is read as the map that its pairs
are collected to.
-/

namespace LiterateLinks

/-- The value is a string. -/
def JsonValue.IsString (value : JsonValue) : Prop :=
  ∃ content, value = .string content

namespace CommandMap

open Json (stringMembers)

/-! ## Members with strings -/

/-- Members whose values are all strings are taken over. -/
lemma ofEntries_stringMembers (entries : List (String × String)) :
    ofEntries (stringMembers entries) = .ok entries := by
  induction entries with
  | nil => rfl
  | cons entry entries ih =>
    have hcons : stringMembers (entry :: entries) =
        (entry.1, .string entry.2) :: stringMembers entries := rfl
    rw [hcons, ofEntries, ih]

/-- The last value of the key is this one and no string, and every other key whose last value is no
string occurs later for the first time. -/
structure FirstFaulty (members : List (String × JsonValue)) (key : String) (value : JsonValue) :
    Prop where
  lastGiven : Ordered.LastGiven members key value
  not_isString : ¬ value.IsString
  idxOf_le : ∀ other found, Ordered.LastGiven members other found → ¬ found.IsString →
    (members.map Prod.fst).idxOf key ≤ (members.map Prod.fst).idxOf other

variable {source : String} {members : List (String × JsonValue)}

/-- A key has one last value. -/
lemma lastGiven_unique {key : String} {value other : JsonValue}
    (hvalue : Ordered.LastGiven members key value)
    (hother : Ordered.LastGiven members key other) : value = other := by
  rw [← Ordered.lookup_ofList_eq_some_iff] at hvalue hother
  exact Option.some.inj (hvalue.symm.trans hother)

/-- At most one key is the first at fault. -/
lemma FirstFaulty.unique {key other : String} {value found : JsonValue}
    (h : FirstFaulty members key value) (hother : FirstFaulty members other found) :
    key = other ∧ value = found := by
  have hindex : (members.map Prod.fst).idxOf key = (members.map Prod.fst).idxOf other :=
    Nat.le_antisymm (h.idxOf_le other found hother.lastGiven hother.not_isString)
      (hother.idxOf_le key value h.lastGiven h.not_isString)
  have hmem : key ∈ members.map Prod.fst := by
    obtain ⟨before, after, rfl, -⟩ := h.lastGiven
    simp
  obtain rfl : key = other := (List.idxOf_inj hmem).1 hindex
  exact ⟨rfl, lastGiven_unique h.lastGiven hother.lastGiven⟩

section Strings

variable {entries : List (String × String)}
  (htable : Ordered.ofList members = stringMembers entries)

include htable

end Strings

/-- A map that is written as an object, in which names may be repeated, is read as the map that its
pairs are collected to. -/
theorem parse_writeObject (pairs : List (String × String)) :
    parse (Json.writeObject pairs) = .ok (ofList pairs) := by
  have htable : Ordered.ofList (stringMembers pairs) = stringMembers (Ordered.ofList pairs) :=
    Ordered.ofList_map JsonValue.string pairs
  have hsame : ofList (Ordered.ofList pairs) = ofList pairs := by
    refine (reachable_ofList _).eq_of_entries_eq (reachable_ofList _) ?_
    rw [entries_ofList_of_nodup (Ordered.nodup_ofList pairs), entries_ofList]
  simp only [parse, Json.parseObject_writeObject, htable, ofEntries_stringMembers, hsame]

end CommandMap

end LiterateLinks
