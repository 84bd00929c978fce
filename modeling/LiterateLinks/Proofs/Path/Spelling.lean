import Mathlib.Logic.Relation
import LiterateLinks.Proofs.Path.Place

/-!
# Spellings of a path

A path can be spelled in many ways.  Its pieces are put together with slashes, and some pieces lead
nowhere: a dot, an empty piece, which makes two slashes meet or puts one at the end, and a name that
is taken back by the dots that follow it (`Place.Idle`).  They may be put in anywhere, as long as
the path still starts where it did.  A path that starts in the working directory may also be spelled
from the root (`Place.Pads`).

Two spellings are spellings of one path if such steps, taken forward or backward, lead from one to
the other (`Place.Respelled`).  No step changes the place that the path leads to.  The empty path is
a spelling of the working directory like any other, but it is the one that is refused, so two
spellings are resolved alike if both of them are empty or none is.
-/

namespace LiterateLinks

namespace Place

/-- Pieces of a path that lead nowhere. -/
inductive Idle : List ByteString → Prop where
  | dot : Idle ["."]
  | slash : Idle [""]
  | detour {name : ByteString} : IsName name → Idle [name, ".."]

/-- The path `long` is `short` with pieces put in that lead nowhere, or with the working directory
in front. -/
inductive Pads (workingDirectory : List ByteString) (short long : ByteString) : Prop where
  | insert (before inserted after : List ByteString) (idle : Idle inserted)
      (short_eq : short = spell (before ++ after))
      (long_eq : long = spell (before ++ inserted ++ after))
      (isAbsolute_eq : isAbsolute long = isAbsolute short)
  | absolute (relative : isAbsolute short = false)
      (long_eq : long = join (ofNames workingDirectory) short)

/-- The two strings are spellings of one path. -/
def Respelled (workingDirectory : List ByteString) : ByteString → ByteString → Prop :=
  Relation.EqvGen (Pads workingDirectory)

/-- Idle pieces end where they begin. -/
lemma Idle.foldl_enter {pieces : List ByteString} (h : Idle pieces) (reversed : List ByteString) :
    (pieces.flatMap steps).foldl enter reversed = reversed := by
  cases h with
  | dot => simp
  | slash => simp
  | detour hname => simp [hname.steps_eq, enter]

variable {workingDirectory : List ByteString}

/-- A longer spelling leads to the same place. -/
lemma Pads.lead_eq (hwd : IsPlace workingDirectory) {short long : ByteString}
    (h : Pads workingDirectory short long) :
    lead workingDirectory short = lead workingDirectory long := by
  cases h with
  | insert before inserted after hidle short_eq long_eq habsolute =>
    have hstart : startOf workingDirectory long = startOf workingDirectory short := by
      rw [startOf, habsolute, startOf]
    have hsteps : ∀ reversed, (steps long).foldl enter reversed =
        (steps short).foldl enter reversed := by
      intro reversed
      simp only [short_eq, long_eq, steps_spell, List.flatMap_append, List.foldl_append,
        hidle.foldl_enter]
    rw [lead, lead, hstart, hsteps]
  | absolute hrelative long_eq =>
    have hroot : ofNames workingDirectory ≠ "" := ne_empty_of_isAbsolute (isAbsolute_ofNames _)
    rw [long_eq, lead_join hroot hrelative, lead_ofNames hwd, lead, startOf, hrelative]
    rfl

/-- All spellings of a path lead to one place. -/
lemma Respelled.lead_eq (hwd : IsPlace workingDirectory) {path other : ByteString}
    (h : Respelled workingDirectory path other) :
    lead workingDirectory path = lead workingDirectory other := by
  induction h with
  | rel short long hpads => exact hpads.lead_eq hwd
  | refl path => rfl
  | symm path other _ ih => exact ih.symm
  | trans path middle other _ _ hfirst hsecond => exact hfirst.trans hsecond

/-- Spellings of a path are resolved alike, unless one of them is empty and the other is not. -/
lemma Respelled.resolve?_eq (hwd : IsPlace workingDirectory) {path other : ByteString}
    (h : Respelled workingDirectory path other) (hempty : path = "" ↔ other = "") :
    resolve? workingDirectory path = resolve? workingDirectory other := by
  rw [Place.resolve?_eq hwd, Place.resolve?_eq hwd, h.lead_eq hwd]
  exact if_congr hempty rfl rfl

end Place

end LiterateLinks
