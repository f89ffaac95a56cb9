import Outliner.Outline.Walk
import Outliner.Proofs.Outline.Entries

/-!
Search: which entry of a tree a search by label finds. The entries still to be visited are trees that wait
one after the other, and the search goes through their preorders. Main statement: a search finds the first
entry with the label in the preorder of the tree, and nothing exactly if no entry of the tree has the label.
-/
set_option autoImplicit false

namespace Outliner.Entry

private theorem preorderAll_append (first second : List Entry) :
    preorderAll (first ++ second) = preorderAll first ++ preorderAll second := by
  induction first with
  | nil => rw [List.nil_append, preorderAll, List.nil_append]
  | cons entry rest ih => rw [List.cons_append, preorderAll, preorderAll, ih, List.append_assoc]

private theorem preorderAll_cons (entry : Entry) (rest : List Entry) :
    preorderAll (entry :: rest) = entry :: preorderAll (entry.children ++ rest) := by
  rw [preorderAll, preorder_eq, preorderAll_append, List.cons_append]

private theorem preorder_eq_preorderAll (entry : Entry) : entry.preorder = preorderAll [entry] := by
  rw [preorderAll, preorderAll, List.append_nil]

private theorem findAmong_eq_find? (label : String) (stack : List Entry) :
    findAmong label stack = (preorderAll stack).find? fun entry => decide (entry.label = label) := by
  fun_induction findAmong label stack with
  | case1 => rw [preorderAll, List.find?_nil]
  | case2 entry rest found =>
    rw [preorderAll_cons, List.find?_cons_of_pos]
    exact decide_eq_true found
  | case3 entry rest different ih =>
    rw [preorderAll_cons, List.find?_cons_of_neg, ih]
    rw [decide_eq_true_eq]
    exact different

/-- A search by label finds the first entry with the label in the preorder of the tree. It finds nothing
exactly if no entry has the label, neither the one at the top nor one below it at any depth. -/
theorem find?_eq_first_in_preorder (tree : Entry) (label : String) :
    (∀ found, tree.find? label = some found ↔
      found.label = label ∧ ∃ before after, tree.preorder = before ++ found :: after ∧
        ∀ entry ∈ before, entry.label ≠ label) ∧
    (tree.find? label = none ↔ ∀ entry, tree.Contains entry → entry.label ≠ label) := by
  have walk : tree.find? label = tree.preorder.find? fun entry => decide (entry.label = label) := by
    rw [find?, findAmong_eq_find?, preorder_eq_preorderAll]
  rw [walk]
  constructor
  · intro found
    rw [List.find?_eq_some_iff_append]
    simp
  · rw [List.find?_eq_none]
    simp [mem_preorder_iff]

end Outliner.Entry
