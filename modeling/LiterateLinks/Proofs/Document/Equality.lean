import Mathlib.Tactic.Common
import LiterateLinks.Document.Node

/-!
# Comparing documents

Whether two documents are the same tree is decided by comparing them node by node, template contents
included.
-/

namespace LiterateLinks

namespace Node

mutual

/-- Whether two nodes are the same. -/
def same : Node → Node → Bool
  | .doctype a, .doctype b => a == b
  | .comment a, .comment b => a == b
  | .text a, .text b => a == b
  | .element s c xs, .element t d ys => s == t && sameContents c d && sameAll xs ys
  | _, _ => false

/-- Whether two template contents are the same. -/
def sameContents : Option (List Node) → Option (List Node) → Bool
  | none, none => true
  | some xs, some ys => sameAll xs ys
  | _, _ => false

/-- Whether two lists of nodes are the same. -/
def sameAll : List Node → List Node → Bool
  | [], [] => true
  | x :: xs, y :: ys => same x y && sameAll xs ys
  | _, _ => false

end

mutual

/-- Nodes are the same when they are equal. -/
lemma same_iff : ∀ {a b : Node}, same a b = true ↔ a = b
  | .doctype a, b => by cases b <;> simp [same]
  | .comment a, b => by cases b <;> simp [same]
  | .text a, b => by cases b <;> simp [same]
  | .element s c xs, b => by
    cases b with
    | element t d ys =>
      simp [same, @sameContents_iff c d, @sameAll_iff xs ys, and_assoc]
    | _ => simp [same]

/-- Template contents are the same when they are equal. -/
lemma sameContents_iff : ∀ {c d : Option (List Node)}, sameContents c d = true ↔ c = d
  | none, d => by cases d <;> simp [sameContents]
  | some xs, d => by
    cases d with
    | none => simp [sameContents]
    | some ys => simp [sameContents, @sameAll_iff xs ys]

/-- Lists of nodes are the same when they are equal. -/
lemma sameAll_iff : ∀ {xs ys : List Node}, sameAll xs ys = true ↔ xs = ys
  | [], ys => by cases ys <;> simp [sameAll]
  | x :: xs, ys => by
    cases ys with
    | nil => simp [sameAll]
    | cons y ys => simp [sameAll, @same_iff x y, @sameAll_iff xs ys]

end

/-- Equality of nodes is decided by comparing them. -/
instance : DecidableEq Node := fun _ _ => decidable_of_iff _ same_iff

end Node

/-- Equality of documents is decided by comparing their nodes. -/
instance : DecidableEq Document := fun a b =>
  decidable_of_iff (a.children = b.children) (by cases a; cases b; simp)

end LiterateLinks
