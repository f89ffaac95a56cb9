import Outliner.Proofs.Outline.Nesting

/-!
Indentation: trees as indented text. Every level is indented by two blanks more, up to a widest indentation.
Main statements: a tree can be written exactly if it is at most 32768 entries deep, and then the text is the
outline that recursion gives, the line of an entry before the lines of what stands below it. A path of 32769
entries cannot be written.
-/
set_option autoImplicit false

namespace Outliner.Entry

private theorem isSome_writeLines?_iff (out : String) (stack : List (Entry × Nat)) :
    (writeLines? out stack).isSome = true ↔
      ∀ pair ∈ stack, 2 * (pair.2 + heightAll pair.1.children) ≤ maxIndent := by
  fun_induction writeLines? out stack with
  | case1 out => simp
  | case2 out entry depth rest far =>
    refine iff_of_false (by simp) fun each => ?_
    have first := each (entry, depth) List.mem_cons_self
    dsimp only at first
    omega
  | case3 out entry depth rest near ih =>
    -- The children are one level further down, so their heights decide on the entry.
    have below : (∀ pair ∈ atDepth (depth + 1) entry.children,
        2 * (pair.2 + heightAll pair.1.children) ≤ maxIndent) ↔
          2 * (depth + heightAll entry.children) ≤ maxIndent := by
      have bound : 2 * (depth + heightAll entry.children) ≤ maxIndent ↔
          heightAll entry.children ≤ maxIndent / 2 - depth := by omega
      rw [bound, heightAll_le_iff]
      simp only [atDepth, List.forall_mem_map, height_eq]
      refine forall₂_congr fun child _ => ?_
      omega
    rw [ih, List.forall_mem_append, below, List.forall_mem_cons]

theorem isSome_text?_iff (entry : Entry) : entry.text?.isSome = true ↔ entry.depth ≤ 32768 := by
  rw [text?, isSome_writeLines?_iff, depth_eq_height, height_eq, List.forall_mem_singleton, maxIndent]
  dsimp only
  omega

/-- The line of an entry at a depth: two blanks for every level above it, its label, and its diagnostic in
brackets. -/
def line (depth : Nat) (entry : Entry) : String :=
  String.ofList (List.replicate (2 * depth) ' ') ++ entry.label
    ++ entry.diagnostic.elim "" (fun diagnostic => "  [" ++ diagnostic ++ "]") ++ "\n"

mutual

/-- The outline of a tree whose root stands at a depth: the line of the root, and then the outlines of the
trees right below it, one level further down. -/
def outline (depth : Nat) : Entry → String
  | ⟨label, category, node, tooltip, diagnostic, children, actions⟩ =>
    line depth ⟨label, category, node, tooltip, diagnostic, children, actions⟩
      ++ outlineAll (depth + 1) children

def outlineAll (depth : Nat) : List Entry → String
  | [] => ""
  | entry :: rest => entry.outline depth ++ outlineAll depth rest

end

private theorem outline_eq (depth : Nat) (entry : Entry) :
    entry.outline depth = entry.line depth ++ outlineAll (depth + 1) entry.children := by
  cases entry
  rw [outline]

private theorem repeat_push (count : Nat) (out : String) :
    count.repeat (fun out => out.push ' ') out = out ++ String.ofList (List.replicate count ' ') := by
  induction count with
  | zero => simp [Nat.repeat]
  | succ count ih =>
    rw [Nat.repeat, ih, ← String.toList_inj]
    simp [List.replicate_succ']

private theorem writeLine_eq (out : String) (depth : Nat) (entry : Entry) :
    writeLine out depth entry = out ++ entry.line depth := by
  have ends : ("]\n" : String) = "]" ++ "\n" := rfl
  unfold writeLine line
  rw [repeat_push]
  cases entry.diagnostic with
  | none => simp [String.append_assoc, String.push_eq_append]
  | some diagnostic => simp only [Option.elim_some, ends, String.append_assoc]

private def outlines : List (Entry × Nat) → String
  | [] => ""
  | (entry, depth) :: rest => entry.outline depth ++ outlines rest

private theorem outlines_append (first second : List (Entry × Nat)) :
    outlines (first ++ second) = outlines first ++ outlines second := by
  induction first with
  | nil => rw [List.nil_append, outlines, String.empty_append]
  | cons pair rest ih => rw [List.cons_append, outlines, outlines, ih, String.append_assoc]

private theorem outlines_atDepth (depth : Nat) (entries : List Entry) :
    outlines (atDepth depth entries) = outlineAll depth entries := by
  induction entries with
  | nil => rw [atDepth, List.map_nil, outlines, outlineAll]
  | cons entry rest ih =>
    rw [atDepth] at ih ⊢
    rw [List.map_cons, outlines, ih, outlineAll]

private theorem eq_of_writeLines? {out text : String} {stack : List (Entry × Nat)}
    (written : writeLines? out stack = some text) : text = out ++ outlines stack := by
  fun_induction writeLines? out stack with
  | case1 out =>
    cases written
    rw [outlines, String.append_empty]
  | case2 => cases written
  | case3 out entry depth rest near ih =>
    -- What stands below the entry is put before the trees that wait already, as in the outline.
    rw [ih written, writeLine_eq, outlines_append, outlines_atDepth, outlines, outline_eq]
    simp only [String.append_assoc]

private theorem eq_outline_of_text? {entry : Entry} {text : String} (written : entry.text? = some text) :
    text = entry.outline 0 := by
  have whole := eq_of_writeLines? written
  rwa [outlines, outlines, String.empty_append, String.append_empty] at whole

/-- A tree of at most 32768 entries on its longest path is written as its outline, and a deeper one cannot be
written. -/
theorem text?_eq_outline_of_depth (entry : Entry) :
    entry.text? = if entry.depth ≤ 32768 then some (entry.outline 0) else none := by
  have exists_iff := entry.isSome_text?_iff
  split
  case isTrue shallow =>
    obtain ⟨text, written⟩ := Option.isSome_iff_exists.mp (exists_iff.mpr shallow)
    rw [written, eq_outline_of_text? written]
  case isFalse deep =>
    rw [← Option.not_isSome_iff_eq_none, exists_iff]
    exact deep

private theorem text?_path {below : Nat} (deep : 32768 ≤ below) : (path below).text? = none := by
  rw [← Option.not_isSome_iff_eq_none, isSome_text?_iff, depth_path]
  omega

/-- One entry more on a path, and it has no text: its outline would have to be indented too far. -/
theorem text?_path_ne_outline :
    (path 32768).depth = 32769 ∧ (path 32768).text? = none ∧
      (path 32768).text? ≠ some ((path 32768).outline 0) := by
  have unwritten : (path 32768).text? = none := text?_path (Nat.le_refl 32768)
  refine ⟨depth_path 32768, unwritten, ?_⟩
  rw [unwritten]
  exact (Option.some_ne_none _).symm

end Outliner.Entry
