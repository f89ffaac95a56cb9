import Mathlib.Data.List.Chain
import Outliner.Proofs.Outline.Entries
import Outliner.Proofs.Outline.Nesting
import Outliner.Proofs.Snapshot.Check
import Outliner.Proofs.Snapshot.Storage

/-!
Descents: what stands along the paths down the trees of an outline.

A tree is made with the nodes above it as its ancestors, so no node comes twice on a path, and each refers
to the next one. Between a function and its parameters stands a grouping, which has no node. Main statement:
the nodes along a path are distinct, so that no tree has more than two entries on a path for every node
that is stored.
-/
set_option autoImplicit false

namespace Outliner

open Projection (parametersEntry)

namespace Entry

/-- The entries lead down from the tree: it is the first of them, and each of the others stands right
below the one before it. -/
def LeadsDown (tree : Entry) (path : List Entry) : Prop :=
  path.head? = some tree ∧ path.IsChain fun parent child => child ∈ parent.children

/-- The ids of the nodes for which the entries stand, in order. -/
def idsAlong (path : List Entry) : List NodeId :=
  path.filterMap Entry.node

private theorem idsAlong_cons_of_some {entry : Entry} {id : NodeId} (same : entry.node = some id)
    (rest : List Entry) : idsAlong (entry :: rest) = id :: idsAlong rest :=
  List.filterMap_cons_some same

private theorem idsAlong_cons_of_none {entry : Entry} (absent : entry.node = none) (rest : List Entry) :
    idsAlong (entry :: rest) = idsAlong rest :=
  List.filterMap_cons_none absent

end Entry

namespace Snapshot

/-- The first node is a module with the second among its sources, or a source file with the second among
its declarations. -/
def Lists (snapshot : Snapshot) (first second : NodeId) : Prop :=
  (∃ decl, snapshot.resolve first = .ok (.moduleDecl decl) ∧ second ∈ decl.sources) ∨
    ∃ decl, snapshot.resolve first = .ok (.translationUnit decl) ∧ second ∈ decl.decls

def HasParameter (snapshot : Snapshot) (first second : NodeId) : Prop :=
  ∃ decl, snapshot.resolve first = .ok (.functionDecl decl) ∧ second ∈ decl.parameters

/-- What stands along a path down an outline: distinct stored nodes, each of which refers to the next one,
as a parameter where a grouping stands between the two entries, and otherwise as a source or a
declaration. -/
structure Descent (snapshot : Snapshot) (path : List Entry) : Prop where
  distinct : (Entry.idsAlong path).Nodup
  stored : ∀ id ∈ Entry.idsAlong path, ∃ node, snapshot.resolve id = .ok node
  refers : (Entry.idsAlong path).IsChain (snapshot.Refers Node.shown)
  direct : ∀ parent child first second, [parent, child] <:+: path → parent.node = some first →
    child.node = some second → snapshot.Lists first second
  grouped : ∀ function grouping child, [function, grouping, child] <:+: path → grouping.node = none →
    ∃ first second, function.node = some first ∧ child.node = some second ∧
      snapshot.HasParameter first second

section

variable {snapshot : Snapshot} {first second : NodeId}

private theorem Lists.refers (lists : snapshot.Lists first second) :
    snapshot.Refers Node.shown first second := by
  rcases lists with ⟨decl, resolved, listed⟩ | ⟨decl, resolved, listed⟩
  · exact ⟨_, resolved, listed⟩
  · exact ⟨_, resolved, listed⟩

private theorem HasParameter.refers (has : snapshot.HasParameter first second) :
    snapshot.Refers Node.shown first second := by
  obtain ⟨decl, resolved, listed⟩ := has
  exact ⟨_, resolved, listed⟩

end

private theorem child_of_tree {snapshot : Snapshot} {ancestors : List NodeId} {id : NodeId}
    {entry child : Entry} (made : snapshot.tree ancestors id = .ok entry) (below : child ∈ entry.children) :
    (∃ next, snapshot.Lists id next ∧ snapshot.tree (id :: ancestors) next = .ok child) ∨
      child.node = none ∧ ∀ grandchild ∈ child.children,
        ∃ next, snapshot.HasParameter id next ∧ snapshot.tree (id :: ancestors) next = .ok grandchild := by
  obtain ⟨node, children, resolved, fresh, trees, rfl⟩ := tree_eq_ok_iff.mp made
  have each : ∀ child ∈ children, ∃ next ∈ node.shown,
      snapshot.tree (id :: ancestors) next = .ok child :=
    fun child => exists_of_mem_right (trees_eq_ok_iff.mp trees)
  cases node with
  | moduleDecl decl =>
    obtain ⟨next, listed, made⟩ := each child below
    exact .inl ⟨next, .inl ⟨decl, resolved, listed⟩, made⟩
  | translationUnit decl =>
    obtain ⟨next, listed, made⟩ := each child below
    exact .inl ⟨next, .inr ⟨decl, resolved, listed⟩, made⟩
  | functionDecl decl =>
    obtain rfl := List.mem_singleton.mp below
    refine .inr ⟨rfl, fun grandchild inside => ?_⟩
    obtain ⟨next, listed, made⟩ := each grandchild inside
    exact ⟨next, ⟨decl, resolved, listed⟩, made⟩
  | productTypeDecl | parameterDecl | missing | unrecognized => cases below

namespace Descent

variable {snapshot : Snapshot} {entry grouping : Entry} {rest : List Entry} {id : NodeId}

private theorem nil : snapshot.Descent [] where
  distinct := List.nodup_nil
  stored _ listed := by cases listed
  refers := List.isChain_nil
  direct _ _ _ _ inside := absurd inside.length_le (by simp)
  grouped _ _ _ inside := absurd inside.length_le (by simp)

private theorem cons_grouping (absent : grouping.node = none) (later : snapshot.Descent rest)
    (begins : ∀ child ∈ rest.head?, child.node ≠ none) : snapshot.Descent (grouping :: rest) where
  distinct := by
    rw [Entry.idsAlong_cons_of_none absent]
    exact later.distinct
  stored := by
    rw [Entry.idsAlong_cons_of_none absent]
    exact later.stored
  refers := by
    rw [Entry.idsAlong_cons_of_none absent]
    exact later.refers
  direct parent child first second inside same := by
    rcases List.infix_cons_iff.mp inside with front | inside
    · rw [(List.cons_prefix_cons.mp front).1, absent] at same
      cases same
    · exact later.direct parent child first second inside same
  grouped function between child inside absent' := by
    rcases List.infix_cons_iff.mp inside with front | inside
    · obtain ⟨tail, rfl⟩ := (List.cons_prefix_cons.mp front).2
      exact absurd absent' (begins between rfl)
    · exact later.grouped function between child inside absent'

private theorem cons_node (same : entry.node = some id) (stored : ∃ node, snapshot.resolve id = .ok node)
    (fresh : id ∉ Entry.idsAlong rest) (later : snapshot.Descent rest)
    (lists : ∀ child ∈ rest.head?, ∀ next, child.node = some next → snapshot.Lists id next)
    (has : ∀ grouping child tail, rest = grouping :: child :: tail → grouping.node = none →
      ∃ next, child.node = some next ∧ snapshot.HasParameter id next) :
    snapshot.Descent (entry :: rest) where
  distinct := by
    rw [Entry.idsAlong_cons_of_some same]
    exact List.nodup_cons.mpr ⟨fresh, later.distinct⟩
  stored := by
    rw [Entry.idsAlong_cons_of_some same]
    exact List.forall_mem_cons.mpr ⟨stored, later.stored⟩
  refers := by
    rw [Entry.idsAlong_cons_of_some same, List.isChain_cons]
    refine ⟨fun next first => ?_, later.refers⟩
    -- The next node is that of the next entry, or of the one after a grouping.
    match rest with
    | [] => cases first
    | child :: tail =>
      cases node : child.node with
      | some x =>
        rw [Entry.idsAlong_cons_of_some node] at first
        obtain rfl := Option.some.inj first
        exact (lists child rfl x node).refers
      | none =>
        rw [Entry.idsAlong_cons_of_none node] at first
        match tail with
        | [] => cases first
        | grandchild :: tail =>
          obtain ⟨x, node', parameter⟩ := has child grandchild tail rfl node
          rw [Entry.idsAlong_cons_of_some node'] at first
          obtain rfl := Option.some.inj first
          exact parameter.refers
  direct parent child first second inside same' same'' := by
    rcases List.infix_cons_iff.mp inside with front | inside
    · obtain ⟨rfl, tail, rfl⟩ := List.cons_prefix_cons.mp front
      rw [same] at same'
      obtain rfl := Option.some.inj same'
      exact lists child rfl second same''
    · exact later.direct parent child first second inside same' same''
  grouped function grouping child inside absent := by
    rcases List.infix_cons_iff.mp inside with front | inside
    · obtain ⟨rfl, tail, rfl⟩ := List.cons_prefix_cons.mp front
      obtain ⟨next, node, parameter⟩ := has grouping child tail rfl absent
      exact ⟨id, next, same, node, parameter⟩
    · exact later.grouped function grouping child inside absent

end Descent

/-- Whatever leads down from the tree of a node is a descent, on which none of its ancestors comes. -/
theorem descent_of_tree {snapshot : Snapshot} {ancestors : List NodeId} {id : NodeId} {entry : Entry}
    (made : snapshot.tree ancestors id = .ok entry) (rest : List Entry)
    (down : (entry :: rest).IsChain fun parent child => child ∈ parent.children) :
    snapshot.Descent (entry :: rest) ∧ ∀ x ∈ Entry.idsAlong (entry :: rest), x ∉ ancestors := by
  have same := node_of_tree made
  obtain ⟨node, _, resolved, fresh, _, _⟩ := tree_eq_ok_iff.mp made
  have stored : ∃ node, snapshot.resolve id = .ok node := ⟨node, resolved⟩
  -- The rest of the path has the node of the entry among its ancestors, so it cannot come again.
  have above : ∀ rest : List Entry, (∀ x ∈ Entry.idsAlong rest, x ∉ id :: ancestors) →
      id ∉ Entry.idsAlong rest ∧ ∀ x ∈ Entry.idsAlong (entry :: rest), x ∉ ancestors := by
    intro rest apart
    refine ⟨fun again => apart id again List.mem_cons_self, ?_⟩
    rw [Entry.idsAlong_cons_of_some same]
    refine List.forall_mem_cons.mpr ⟨fresh, fun x listed onPath => ?_⟩
    exact apart x listed (List.mem_cons_of_mem id onPath)
  match rest with
  | [] =>
    obtain ⟨unmet, apart⟩ := above [] (by simp [Entry.idsAlong])
    exact ⟨.cons_node same stored unmet .nil (by simp) (by simp), apart⟩
  | child :: rest =>
    obtain ⟨below, down⟩ := List.isChain_cons_cons.mp down
    rcases child_of_tree made below with ⟨next, lists, made'⟩ | ⟨absent, each⟩
    · obtain ⟨later, apart⟩ := descent_of_tree made' rest down
      obtain ⟨unmet, apart⟩ := above _ apart
      have same' := node_of_tree made'
      refine ⟨.cons_node same stored unmet later ?_ ?_, apart⟩
      · rintro _ ⟨⟩ x same''
        rw [same'] at same''
        obtain rfl := Option.some.inj same''
        exact lists
      · rintro grouping _ tail ⟨⟩ absent
        rw [same'] at absent
        cases absent
    · match rest with
      | [] =>
        have later : snapshot.Descent [child] := .cons_grouping absent .nil (by simp)
        obtain ⟨unmet, apart⟩ := above [child] (by
          rw [Entry.idsAlong_cons_of_none absent]
          simp [Entry.idsAlong])
        exact ⟨.cons_node same stored unmet later (by simp [absent]) (by simp), apart⟩
      | grandchild :: rest =>
        obtain ⟨below, down⟩ := List.isChain_cons_cons.mp down
        obtain ⟨next, parameter, made'⟩ := each grandchild below
        obtain ⟨later, apart⟩ := descent_of_tree made' rest down
        have same' := node_of_tree made'
        have grouped : snapshot.Descent (child :: grandchild :: rest) :=
          .cons_grouping absent later (by simp [same'])
        obtain ⟨unmet, apart⟩ := above (child :: grandchild :: rest) (by
          rw [Entry.idsAlong_cons_of_none absent]
          exact apart)
        refine ⟨.cons_node same stored unmet grouped (by simp [absent]) ?_, apart⟩
        rintro _ _ tail ⟨⟩ _
        exact ⟨next, same', parameter⟩
termination_by rest.length

private theorem height_entry_le (id : NodeId) (node : Node) (children : List Entry) :
    (node.entry id children).height ≤ Entry.heightAll children + 2 := by
  cases node <;> simp [Node.entry, Entry.height, Entry.heightAll]

/-- A tree is at most twice as high as there are stored nodes that are not among its ancestors. -/
theorem height_le_of_tree {snapshot : Snapshot} {ancestors : List NodeId} {id : NodeId} {entry : Entry}
    (made : snapshot.tree ancestors id = .ok entry) :
    entry.height ≤ 2 * snapshot.room ancestors.contains := by
  refine tree_induction (motive := fun ancestors _ entry =>
    entry.height ≤ 2 * snapshot.room ancestors.contains) ?_ ancestors id entry made
  intro ancestors id node children resolved fresh below
  have each : ∀ child ∈ children, child.height ≤ 2 * snapshot.room (id :: ancestors).contains := by
    intro child member
    obtain ⟨_, _, bound⟩ := exists_of_mem_right below member
    exact bound
  have children_le := Entry.heightAll_le_iff.mpr each
  have entry_le := height_entry_le id node children
  have less := room_cons_lt resolved fresh
  omega

/-- Along every path down the trees of an outline stand distinct stored nodes, each of which refers to the
next one, and no tree is deeper than twice the number of stored nodes. -/
theorem descent_of_project {snapshot : Snapshot} {trees : List Entry}
    (made : snapshot.project.result = .ok trees) :
    (∀ tree ∈ trees, ∀ path, tree.LeadsDown path → snapshot.Descent path) ∧
      ∀ tree ∈ trees, tree.depth ≤ 2 * snapshot.nodeCount := by
  rw [project_eq] at made
  have rooted : ∀ tree ∈ trees, ∃ root, snapshot.tree [] root = .ok tree := by
    intro tree member
    obtain ⟨root, _, made⟩ := exists_of_mem_right (trees_eq_ok_iff.mp made) member
    exact ⟨root, made⟩
  constructor
  · rintro tree member path ⟨first, down⟩
    obtain ⟨root, made⟩ := rooted tree member
    obtain ⟨rest, rfl⟩ := List.head?_eq_some_iff.mp first
    exact (descent_of_tree made rest down).1
  · intro tree member
    obtain ⟨root, made⟩ := rooted tree member
    calc tree.depth
      _ = tree.height := tree.depth_eq_height
      _ ≤ 2 * snapshot.room ([] : List NodeId).contains := height_le_of_tree made
      _ ≤ 2 * snapshot.nodeCount := Nat.mul_le_mul_left 2 (snapshot.room_le_nodeCount _)

def nestedFunctions : Snapshot where
  roots := [⟨0, 0⟩]
  groups := #[#[.functionDecl ⟨default, "f", [⟨0, 1⟩]⟩, .functionDecl ⟨default, "g", []⟩]]

theorem descent_nestedFunctions :
    ∃ tree path, nestedFunctions.project.result = .ok [tree] ∧ tree.LeadsDown path ∧
      Entry.idsAlong path = [⟨0, 0⟩, ⟨0, 1⟩] ∧ nestedFunctions.Descent path ∧
      tree.depth = 4 ∧ tree.depth ≤ 2 * nestedFunctions.nodeCount := by
  let inner := (Node.functionDecl ⟨default, "g", []⟩).entry ⟨0, 1⟩ []
  let outer := (Node.functionDecl ⟨default, "f", [⟨0, 1⟩]⟩).entry ⟨0, 0⟩ [inner]
  let grouping := parametersEntry.withChildren [inner]
  have made : nestedFunctions.project.result = .ok [outer] := by
    rw [project_eq]
    simp [nestedFunctions, outer, inner, trees, tree, resolve, Node.shown, bind, Except.bind, Except.map,
      pure, Except.pure]
  have down : outer.LeadsDown [outer, grouping, inner] := by
    refine ⟨rfl, ?_⟩
    simp [outer, grouping, inner, Node.entry, parametersEntry, Entry.withChildren, Entry.new,
      Entry.parametersLabel]
  obtain ⟨paths, depths⟩ := descent_of_project made
  exact ⟨outer, [outer, grouping, inner], made, down, rfl, paths outer List.mem_cons_self _ down,
    by rw [Entry.depth_eq_height]; rfl, depths outer List.mem_cons_self⟩

end Snapshot

end Outliner
