import Mathlib.Tactic.Common
import LiterateLinks.Document.Serialize
import LiterateLinks.Proofs.Link.Walk

/-!
# Comparing written documents

Two documents that differ only in their shown texts are written alike up to the first text in which
they differ.  So if every replacement can be told from its text by the first characters in which
they differ, whatever comes after them, then a document that is written as before has had no text
replaced at all: `Document.of_writeNodes_replaceTextsIn`.
-/

namespace LiterateLinks

namespace Document

open Node (shownTexts shownTextsIn replaceTexts replaceTextsIn)

/-- Siblings are written one after the other. -/
lemma writeNodes_append (around : Surroundings) (ms ns : List Node) :
    writeNodes around (ms ++ ns) = writeNodes around ms ++ writeNodes around ns := by
  induction ms with
  | nil => simp [writeNodes]
  | cons m ms ih => simp [writeNodes, ih, String.append_assoc]

/-- A single node is written as it is. -/
lemma writeNodes_singleton (around : Surroundings) (n : Node) :
    writeNodes around [n] = writeNode around n := by
  simp [writeNodes]

/-- The characters of a text as they are written. -/
def writeText (around : Surroundings) (text : List Char) : List Char :=
  if around.rawText then text else text.flatMap writeTextChar

/-- Text is written character by character. -/
lemma writeText_append (around : Surroundings) (u v : List Char) :
    writeText around (u ++ v) = writeText around u ++ writeText around v := by
  unfold writeText
  split <;> simp

/-- A text node is written as its text. -/
lemma toList_writeNode_text (around : Surroundings) (content : String) :
    (writeNode around (.text content)).toList = writeText around content.toList := by
  unfold writeText
  rw [writeNode]
  split <;> simp

/-- The replacement keeps the texts with the property `p`, and every other text can be told from its
replacement when both are written, whatever comes after them. -/
structure Distinguishes (f : String → List Node) (p : String → Prop) : Prop where
  keeps : ∀ text, p text → f text = [.text text]
  of_written : ∀ (around : Surroundings) (text : String) (u v : List Char),
    writeText around text.toList ++ u = (writeNodes around (f text)).toList ++ v → p text

variable {f : String → List Node} {p : String → Prop}

mutual

/-- A node that is written like its replacement shows only texts that are kept, and what comes after
it is alike. -/
lemma of_writeNode_replaceTexts (hf : Distinguishes f p) :
    ∀ (n : Node) (around : Surroundings) (u v : List Char),
      (writeNode around n).toList ++ u = (writeNodes around (replaceTexts f n)).toList ++ v →
        (∀ text ∈ shownTexts n, p text) ∧ u = v
  | .text content, around, u, v, h => by
    rw [replaceTexts, toList_writeNode_text] at h
    have hcontent : p content := hf.of_written around content u v h
    rw [hf.keeps content hcontent, writeNodes_singleton, toList_writeNode_text] at h
    exact ⟨by simpa [shownTexts] using hcontent, List.append_cancel_left h⟩
  | .doctype label, around, u, v, h => by
    simp only [replaceTexts, writeNodes_singleton] at h
    exact ⟨by simp [shownTexts], List.append_cancel_left h⟩
  | .comment content, around, u, v, h => by
    simp only [replaceTexts, writeNodes_singleton] at h
    exact ⟨by simp [shownTexts], List.append_cancel_left h⟩
  | .element tag contents children, around, u, v, h => by
    by_cases hskip : tag.name ∈ Linker.skippedElements
    · simp only [replaceTexts, List.contains_iff_mem, hskip, if_true, writeNodes_singleton] at h
      exact ⟨by simp [shownTexts, hskip], List.append_cancel_left h⟩
    · simp only [replaceTexts, List.contains_iff_mem, hskip, if_false, writeNodes_singleton,
        writeNode, String.toList_append, List.append_assoc, List.append_cancel_left_eq] at h
      obtain ⟨hshown, hrest⟩ := of_writeNodes_replaceTextsIn hf children _ _ _ h
      exact ⟨by simpa [shownTexts, hskip] using hshown, List.append_cancel_left hrest⟩

/-- Nodes that are written like their replacements show only texts that are kept, and what comes
after them is alike. -/
lemma of_writeNodes_replaceTextsIn (hf : Distinguishes f p) :
    ∀ (nodes : List Node) (around : Surroundings) (u v : List Char),
      (writeNodes around nodes).toList ++ u =
        (writeNodes around (replaceTextsIn f nodes)).toList ++ v →
        (∀ text ∈ shownTextsIn nodes, p text) ∧ u = v
  | [], around, u, v, h => by simpa [replaceTextsIn, writeNodes, shownTextsIn] using h
  | n :: ns, around, u, v, h => by
    rw [replaceTextsIn, writeNodes_append, writeNodes, String.toList_append, String.toList_append,
      List.append_assoc, List.append_assoc] at h
    obtain ⟨hn, hrest⟩ := of_writeNode_replaceTexts hf n around _ _ h
    obtain ⟨hns, huv⟩ := of_writeNodes_replaceTextsIn hf ns around u v hrest
    refine ⟨fun text htext => ?_, huv⟩
    rw [shownTextsIn, List.mem_append] at htext
    exact htext.elim (hn text) (hns text)

end

end Document

end LiterateLinks
