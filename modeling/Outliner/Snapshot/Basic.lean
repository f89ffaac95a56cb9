import Outliner.Snapshot.Node

/-!
Snapshots: the nodes of a program in numbered groups, and the ids of its root modules.

Nodes refer to each other by id, so a snapshot is a graph: a node may be shared, and nothing keeps a
reference from pointing outside the snapshot or back to a node that leads to it. Main statements: the
ids of the stored nodes are distinct, and whatever resolves is stored.
-/
set_option autoImplicit false

namespace Outliner

structure Snapshot where
  roots : List NodeId
  groups : Array (Array Node)

/-- What is wrong with the references of a snapshot: an id lies outside, with the length of its group if
there is one, or a node leads back to itself. -/
inductive StructureFault where
  | outOfRange (id : NodeId) (groupCount : Nat) (groupLength : Option Nat)
  | cycle (id : NodeId)
  deriving DecidableEq

def StructureFault.message : StructureFault → String
  | .outOfRange id _ (some length) =>
    s!"node {id.text} is out of range (group holds {length} nodes)"
  | .outOfRange id count none =>
    s!"node {id.text} is out of range (snapshot has {count} groups)"
  | .cycle id => s!"node {id.text} is part of a reference cycle"

namespace Snapshot

def resolve (snapshot : Snapshot) (id : NodeId) : Except StructureFault Node :=
  match snapshot.groups[id.group.toNat]? with
  | none => .error (.outOfRange id snapshot.groups.size none)
  | some group =>
    match group[id.offset.toNat]? with
    | none => .error (.outOfRange id snapshot.groups.size (some group.size))
    | some node => .ok node

/-- The root modules with their ids; the fault is that of the first root that does not resolve. -/
def modules (snapshot : Snapshot) : Except StructureFault (List (NodeId × Node)) :=
  snapshot.roots.mapM fun id => (snapshot.resolve id).map fun node => (id, node)

def nodeCount (snapshot : Snapshot) : Nat :=
  snapshot.groups.foldl (fun total group => total + group.size) 0

/-- The elements of a list that a word of 32 bits can number, each with its number. -/
def numbered {α : Type} (elements : List α) : List (α × Nat) :=
  (elements.take UInt32.size).zipIdx

/-- All nodes that an id can address, with their ids, group by group. -/
def nodes (snapshot : Snapshot) : List (NodeId × Node) :=
  (numbered snapshot.groups.toList).flatMap fun (group, g) =>
    (numbered group.toList).map fun (node, o) => (⟨UInt32.ofNat g, UInt32.ofNat o⟩, node)

def positions (snapshot : Snapshot) : List ((Nat × Nat) × Node) :=
  snapshot.groups.toList.zipIdx.flatMap fun (group, g) =>
    group.toList.zipIdx.map fun (node, o) => ((g, o), node)

/-- All stored nodes with their ids, group by group, if there is an id for every one. -/
def nodes? (snapshot : Snapshot) : Option (List (NodeId × Node)) :=
  snapshot.positions.mapM fun (position, node) => (NodeId.ofPosition? position).map fun id => (id, node)

def ids (snapshot : Snapshot) : List NodeId :=
  snapshot.nodes.map (·.1)

def same (a b : Snapshot) : Bool :=
  a.roots == b.roots && a.groups.size == b.groups.size &&
    (a.groups.zip b.groups).all fun (as, bs) =>
      as.size == bs.size && (as.zip bs).all fun (x, y) => x.same y

private theorem mem_numbered {α : Type} {elements : List α} {x : α} {i : Nat} :
    (x, i) ∈ numbered elements ↔ i < UInt32.size ∧ elements[i]? = some x := by
  rw [numbered, List.mem_zipIdx_iff_getElem?, List.getElem?_take]
  by_cases h : i < UInt32.size <;> simp [h]

theorem pairwise_zipIdx {α : Type} (elements : List α) :
    elements.zipIdx.Pairwise fun a b => a.2 < b.2 := by
  have : (elements.zipIdx.map (·.2)).Pairwise (· < ·) := by
    rw [List.zipIdx_map_snd]
    exact List.pairwise_lt_range'
  exact List.pairwise_map.mp this

private theorem pairwise_numbered {α : Type} (elements : List α) :
    (numbered elements).Pairwise fun a b => a.2 < b.2 :=
  pairwise_zipIdx _

theorem mem_nodes {snapshot : Snapshot} {id : NodeId} {node : Node} :
    (id, node) ∈ snapshot.nodes ↔ snapshot.resolve id = .ok node := by
  constructor
  · intro h
    obtain ⟨⟨group, g⟩, hg, h⟩ := List.mem_flatMap.mp h
    obtain ⟨⟨stored, o⟩, ho, h⟩ := List.mem_map.mp h
    obtain ⟨g_lt, hg⟩ := mem_numbered.mp hg
    obtain ⟨o_lt, ho⟩ := mem_numbered.mp ho
    obtain ⟨rfl, rfl⟩ := Prod.mk.inj h
    rw [Array.getElem?_toList] at hg ho
    simp only [resolve, UInt32.toNat_ofNat_of_lt' g_lt, UInt32.toNat_ofNat_of_lt' o_lt, hg, ho]
  · intro h
    unfold resolve at h
    split at h
    · cases h
    · rename_i group hg
      split at h
      · cases h
      · rename_i stored ho
        cases h
        refine List.mem_flatMap.mpr ⟨(group, id.group.toNat), mem_numbered.mpr ⟨?_, ?_⟩, ?_⟩
        · exact id.group.toNat_lt
        · rw [Array.getElem?_toList, hg]
        · refine List.mem_map.mpr ⟨(node, id.offset.toNat), mem_numbered.mpr ⟨?_, ?_⟩, ?_⟩
          · exact id.offset.toNat_lt
          · rw [Array.getElem?_toList, ho]
          · simp

theorem mem_ids_of_resolve {snapshot : Snapshot} {id : NodeId} {node : Node}
    (h : snapshot.resolve id = .ok node) : id ∈ snapshot.ids :=
  List.mem_map.mpr ⟨(id, node), mem_nodes.mpr h, rfl⟩

theorem nodup_ids (snapshot : Snapshot) : snapshot.ids.Nodup := by
  refine List.pairwise_map.mpr (List.pairwise_flatMap.mpr ⟨?_, ?_⟩)
  · intro ⟨group, g⟩ _
    refine List.pairwise_map.mpr ((pairwise_numbered group.toList).imp_of_mem ?_)
    intro ⟨_, o⟩ ⟨_, p⟩ ho hp lt equal
    have ho := (mem_numbered.mp ho).1
    have hp := (mem_numbered.mp hp).1
    have := congrArg UInt32.toNat (NodeId.mk.inj equal).2
    rw [UInt32.toNat_ofNat_of_lt' ho, UInt32.toNat_ofNat_of_lt' hp] at this
    exact Nat.ne_of_lt lt this
  · refine (pairwise_numbered snapshot.groups.toList).imp_of_mem ?_
    intro ⟨first, g⟩ ⟨second, k⟩ hg hk lt x hx y hy equal
    obtain ⟨⟨_, o⟩, _, rfl⟩ := List.mem_map.mp hx
    obtain ⟨⟨_, p⟩, _, rfl⟩ := List.mem_map.mp hy
    have hg := (mem_numbered.mp hg).1
    have hk := (mem_numbered.mp hk).1
    have := congrArg UInt32.toNat (NodeId.mk.inj equal).1
    rw [UInt32.toNat_ofNat_of_lt' hg, UInt32.toNat_ofNat_of_lt' hk] at this
    exact Nat.ne_of_lt lt this

end Snapshot

end Outliner
