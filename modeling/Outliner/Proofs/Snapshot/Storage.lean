import Mathlib.Data.List.Flatten
import Outliner.Snapshot.Room

/-!
Storage: all nodes of a snapshot, group by group. The nodes that ids can address are listed in the same
order, with those left out that a word of 32 bits cannot number, so there are no more of them.
-/
set_option autoImplicit false

namespace Outliner.Snapshot

/-- All nodes that are stored, also those that no id can address. -/
def storage (snapshot : Snapshot) : List Node :=
  snapshot.groups.toList.flatMap Array.toList

theorem length_storage (snapshot : Snapshot) : snapshot.storage.length = snapshot.nodeCount := by
  have counted : ∀ (groups : List (Array Node)) (total : Nat),
      groups.foldl (fun total group => total + group.size) total =
        total + (groups.flatMap Array.toList).length := by
    intro groups
    induction groups with
    | nil => exact fun total => rfl
    | cons group rest ih =>
      intro total
      have first : group.toList.length = group.size := Array.length_toList
      rw [List.foldl_cons, ih, List.flatMap_cons, List.length_append, first, Nat.add_assoc]
  rw [nodeCount, ← Array.foldl_toList, counted, Nat.zero_add]
  rfl

private theorem map_fst_numbered {α : Type} (elements : List α) :
    (numbered elements).map Prod.fst = elements.take UInt32.size :=
  List.zipIdx_map_fst 0 _

private theorem map_snd_nodes (snapshot : Snapshot) :
    snapshot.nodes.map Prod.snd =
      (snapshot.groups.toList.take UInt32.size).flatMap fun group => group.toList.take UInt32.size := by
  rw [nodes, List.map_flatMap, ← map_fst_numbered, List.flatMap_map]
  refine congrArg (List.flatMap · _) (funext fun group => ?_)
  rw [List.map_map, ← map_fst_numbered]
  rfl

theorem map_snd_nodes_sublist (snapshot : Snapshot) :
    (snapshot.nodes.map Prod.snd).Sublist snapshot.storage := by
  rw [map_snd_nodes]
  exact (List.Sublist.flatMap_right _ fun group _ => List.take_sublist _ _).trans
    ((List.take_sublist _ _).flatMap Array.toList)

theorem length_ids_le_nodeCount (snapshot : Snapshot) : snapshot.ids.length ≤ snapshot.nodeCount := by
  have fewer := snapshot.map_snd_nodes_sublist.length_le
  rw [List.length_map, length_storage] at fewer
  rw [ids, List.length_map]
  exact fewer

theorem room_le_nodeCount (snapshot : Snapshot) (taken : NodeId → Bool) :
    snapshot.room taken ≤ snapshot.nodeCount :=
  Nat.le_trans List.countP_le_length snapshot.length_ids_le_nodeCount

end Outliner.Snapshot
