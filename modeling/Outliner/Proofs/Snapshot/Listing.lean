import Outliner.Proofs.Json.Meaning
import Outliner.Proofs.Snapshot.Storage

/-!
Listing: all stored nodes with their ids.

A list of nodes with ids is the listing of a snapshot exactly if the positions that the ids name are those of
the stored nodes, one after the other. Main statement: if words of 32 bits can number the groups and the
nodes of every group, then the listing can be made, it holds a node under an id exactly if the id resolves to
the node, and its ids ascend.
-/
set_option autoImplicit false

namespace Outliner

namespace NodeId

def position (id : NodeId) : Nat × Nat :=
  (id.group.toNat, id.offset.toNat)

private theorem position_inj {a b : NodeId} : a.position = b.position ↔ a = b := by
  constructor
  · intro same
    obtain ⟨group, offset⟩ := Prod.mk.inj same
    have groups : a.group = b.group := UInt32.toNat_inj.mp group
    have offsets : a.offset = b.offset := UInt32.toNat_inj.mp offset
    cases a
    cases b
    subst groups offsets
    rfl
  · exact congrArg position

private theorem ofPosition?_eq_some_iff {position : Nat × Nat} {id : NodeId} :
    ofPosition? position = some id ↔ position = id.position := by
  obtain ⟨g, o⟩ := position
  obtain ⟨group, offset⟩ := id
  simp only [ofPosition?, NodeId.position, Option.bind_eq_bind, Option.bind_eq_some_iff,
    wordOf?_eq_some_iff, Option.pure_def, Option.some.injEq, Prod.mk.injEq, NodeId.mk.injEq]
  constructor
  · rintro ⟨_, rfl, _, rfl, rfl, rfl⟩
    exact ⟨rfl, rfl⟩
  · rintro ⟨rfl, rfl⟩
    exact ⟨group, rfl, offset, rfl, rfl, rfl⟩

private theorem le_and_ne_iff {a b : NodeId} :
    a.le b = true ∧ a ≠ b ↔ Prod.Lex (· < ·) (· < ·) a.position b.position := by
  have different : a ≠ b ↔ ¬ (a.group.toNat = b.group.toNat ∧ a.offset.toNat = b.offset.toNat) := by
    rw [ne_eq, ← position_inj, position, position, Prod.mk.injEq]
  have before : a.le b = true ↔ a.group.toNat < b.group.toNat ∨
      a.group.toNat = b.group.toNat ∧ a.offset.toNat ≤ b.offset.toNat := by
    simp [le, UInt32.lt_iff_toNat_lt, UInt32.le_iff_toNat_le, ← UInt32.toNat_inj]
  rw [different, before, Prod.lex_iff, position, position]
  omega

end NodeId

namespace Snapshot

variable {snapshot : Snapshot}

private theorem mem_positions {g o : Nat} {node : Node} :
    ((g, o), node) ∈ snapshot.positions ↔
      ∃ group, snapshot.groups[g]? = some group ∧ group[o]? = some node := by
  rw [positions, List.mem_flatMap]
  constructor
  · rintro ⟨⟨group, g'⟩, stored, listed⟩
    obtain ⟨⟨node', o'⟩, inside, same⟩ := List.mem_map.mp listed
    obtain ⟨⟨rfl, rfl⟩, rfl⟩ : (g' = g ∧ o' = o) ∧ node' = node := by simpa using same
    rw [List.mem_zipIdx_iff_getElem?, Array.getElem?_toList] at stored inside
    exact ⟨group, stored, inside⟩
  · rintro ⟨group, stored, inside⟩
    refine ⟨(group, g), ?_, List.mem_map.mpr ⟨(node, o), ?_, rfl⟩⟩
    · rw [List.mem_zipIdx_iff_getElem?, Array.getElem?_toList]
      exact stored
    · rw [List.mem_zipIdx_iff_getElem?, Array.getElem?_toList]
      exact inside

private theorem mem_positions_position_iff {id : NodeId} {node : Node} :
    (id.position, node) ∈ snapshot.positions ↔ snapshot.resolve id = .ok node := by
  rw [NodeId.position, mem_positions]
  unfold resolve
  split
  case h_1 absent => simp [absent]
  case h_2 group stored =>
    split
    case h_1 absent => simp [stored, absent]
    case h_2 other inside => simp [stored, inside]

private theorem pairwise_positions (snapshot : Snapshot) :
    snapshot.positions.Pairwise fun a b => Prod.Lex (· < ·) (· < ·) a.1 b.1 := by
  rw [positions, List.pairwise_flatMap]
  constructor
  · rintro ⟨group, g⟩ -
    refine List.pairwise_map.mpr ((pairwise_zipIdx group.toList).imp ?_)
    intro a b before
    exact Prod.Lex.right g before
  · refine (pairwise_zipIdx snapshot.groups.toList).imp ?_
    rintro ⟨first, g⟩ ⟨second, k⟩ before x inFirst y inSecond
    obtain ⟨⟨_, o⟩, -, rfl⟩ := List.mem_map.mp inFirst
    obtain ⟨⟨_, p⟩, -, rfl⟩ := List.mem_map.mp inSecond
    exact Prod.Lex.left o p before

private theorem map_snd_positions (snapshot : Snapshot) :
    snapshot.positions.map Prod.snd = snapshot.storage := by
  have group (g : Nat) (nodes : Array Node) :
      (nodes.toList.zipIdx.map fun entry => ((g, entry.2), entry.1)).map Prod.snd = nodes.toList := by
    rw [List.map_map]
    exact List.zipIdx_map_fst 0 nodes.toList
  have groups := List.zipIdx_map_fst 0 snapshot.groups.toList
  rw [positions, storage, List.map_flatMap]
  conv_rhs => rw [← groups, List.flatMap_map]
  exact congrArg (List.flatMap · _) (funext fun entry => group entry.2 entry.1)

def placed (entry : NodeId × Node) : (Nat × Nat) × Node :=
  (entry.1.position, entry.2)

/-- The entry of the listing for a node at a position that words can number. -/
private def addressed (place : (Nat × Nat) × Node) : NodeId × Node :=
  (⟨UInt32.ofNat place.1.1, UInt32.ofNat place.1.2⟩, place.2)

private theorem placed_addressed {place : (Nat × Nat) × Node} (group : place.1.1 < UInt32.size)
    (offset : place.1.2 < UInt32.size) : placed (addressed place) = place := by
  simp only [placed, addressed, NodeId.position, UInt32.toNat_ofNat_of_lt' group,
    UInt32.toNat_ofNat_of_lt' offset]

private theorem nodes?_eq_some_iff {listed : List (NodeId × Node)} :
    snapshot.nodes? = some listed ↔ listed.map placed = snapshot.positions := by
  have single (place : (Nat × Nat) × Node) (entry : NodeId × Node) :
      (NodeId.ofPosition? place.1).map (fun id => (id, place.2)) = some entry ↔ place = placed entry := by
    simp only [Option.map_eq_some_iff, NodeId.ofPosition?_eq_some_iff]
    constructor
    · rintro ⟨id, position, rfl⟩
      exact Prod.ext position rfl
    · rintro rfl
      exact ⟨entry.1, rfl, rfl⟩
  rw [nodes?, Json.mapM_eq_some_iff, eq_comm (b := snapshot.positions), ← List.forall₂_eq_eq_eq,
    List.forall₂_map_right_iff]
  constructor
  · exact fun each => each.imp fun place entry => (single place entry).mp
  · exact fun each => each.imp fun place entry => (single place entry).mpr

/-- The listing can be made exactly if words can number the positions of all stored nodes. Groups without
nodes need no number. -/
theorem exists_nodes?_iff :
    (∃ listed, snapshot.nodes? = some listed) ↔
      ∀ place ∈ snapshot.positions, place.1.1 < UInt32.size ∧ place.1.2 < UInt32.size := by
  constructor
  · rintro ⟨listed, made⟩ place stored
    rw [← nodes?_eq_some_iff.mp made] at stored
    obtain ⟨entry, -, rfl⟩ := List.mem_map.mp stored
    exact ⟨entry.1.group.toNat_lt, entry.1.offset.toNat_lt⟩
  · intro small
    have back : ∀ place ∈ snapshot.positions, placed (addressed place) = place := by
      intro place stored
      obtain ⟨group, offset⟩ := small place stored
      exact placed_addressed group offset
    refine ⟨snapshot.positions.map addressed, nodes?_eq_some_iff.mpr ?_⟩
    rw [List.map_map]
    exact (List.map_congr_left (g := fun place => place) back).trans (List.map_id' _)

private theorem mem_iff_of_nodes? {listed : List (NodeId × Node)} (made : snapshot.nodes? = some listed)
    {id : NodeId} {node : Node} : (id, node) ∈ listed ↔ snapshot.resolve id = .ok node := by
  have injective : Function.Injective placed := by
    rintro ⟨a, x⟩ ⟨b, y⟩ same
    obtain ⟨ids, nodes⟩ := Prod.mk.inj same
    exact Prod.ext (NodeId.position_inj.mp ids) nodes
  rw [← mem_positions_position_iff, ← nodes?_eq_some_iff.mp made]
  exact (List.mem_map_of_injective injective (a := (id, node))).symm

private theorem pairwise_of_nodes? {listed : List (NodeId × Node)} (made : snapshot.nodes? = some listed) :
    (listed.map Prod.fst).Pairwise fun a b => a.le b = true ∧ a ≠ b := by
  have ascending := snapshot.pairwise_positions
  rw [← nodes?_eq_some_iff.mp made, List.pairwise_map] at ascending
  exact List.pairwise_map.mpr (ascending.imp NodeId.le_and_ne_iff.mpr)

private theorem length_of_nodes? {listed : List (NodeId × Node)} (made : snapshot.nodes? = some listed) :
    listed.length = snapshot.nodeCount := by
  rw [← length_storage, ← map_snd_positions, List.length_map, ← nodes?_eq_some_iff.mp made,
    List.length_map]

/-- If there are at most as many groups, and at most as many nodes in every group, as words of 32 bits can
number, then all stored nodes are listed, every one once and under the id that resolves to it, and the ids
ascend. -/
theorem exists_nodes?_of_size_le (groups : snapshot.groups.size ≤ 2 ^ 32)
    (lengths : ∀ group ∈ snapshot.groups, group.size ≤ 2 ^ 32) :
    ∃ listed, snapshot.nodes? = some listed ∧
      (∀ id node, (id, node) ∈ listed ↔ snapshot.resolve id = .ok node) ∧
      (listed.map Prod.fst).Pairwise (fun a b => a.le b = true ∧ a ≠ b) ∧
      listed.length = snapshot.nodeCount := by
  have small : ∀ place ∈ snapshot.positions, place.1.1 < UInt32.size ∧ place.1.2 < UInt32.size := by
    rintro ⟨⟨g, o⟩, node⟩ stored
    obtain ⟨group, atGroup, atOffset⟩ := mem_positions.mp stored
    obtain ⟨inGroups, -⟩ := Array.getElem?_eq_some_iff.mp atGroup
    obtain ⟨inGroup, -⟩ := Array.getElem?_eq_some_iff.mp atOffset
    have length := lengths group (Array.mem_of_getElem? atGroup)
    exact ⟨Nat.lt_of_lt_of_le inGroups groups, Nat.lt_of_lt_of_le inGroup length⟩
  obtain ⟨listed, made⟩ := exists_nodes?_iff.mpr small
  exact ⟨listed, made, fun id node => mem_iff_of_nodes? made, pairwise_of_nodes? made,
    length_of_nodes? made⟩

def ragged : Snapshot where
  roots := []
  groups := #[#[], #[.missing, .moduleDecl ⟨"core", []⟩], #[], #[.missing]]

theorem exists_nodes?_ragged :
    (ragged.groups.size ≤ 2 ^ 32 ∧ ∀ group ∈ ragged.groups, group.size ≤ 2 ^ 32) ∧
      ∃ listed, ragged.nodes? = some listed ∧
        (∀ id node, (id, node) ∈ listed ↔ ragged.resolve id = .ok node) ∧
        (listed.map Prod.fst).Pairwise (fun a b => a.le b = true ∧ a ≠ b) ∧ listed.length = 3 := by
  have groups : ragged.groups.size ≤ 2 ^ 32 := by decide
  have lengths : ∀ group ∈ ragged.groups, group.size ≤ 2 ^ 32 := by simp [ragged]
  exact ⟨⟨groups, lengths⟩, exists_nodes?_of_size_le groups lengths⟩

end Snapshot

end Outliner
