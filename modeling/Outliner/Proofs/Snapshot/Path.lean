import Outliner.Snapshot.Room
import Std.Data.HashSet

/-!
Paths: the nodes on the way down to a node, the last one first.

A walk keeps the nodes of its path in a set. Main statements: the set follows the path when a node is
put on it and taken off again, and a path that grows by a stored node leaves less room.
-/
set_option autoImplicit false

namespace Outliner.Snapshot

def Tracks (set : Std.HashSet NodeId) (path : List NodeId) : Prop :=
  ∀ id, id ∈ set ↔ id ∈ path

theorem tracks_empty : Tracks ∅ [] := by
  intro id
  simp

theorem Tracks.insert {set : Std.HashSet NodeId} {path : List NodeId} (tracked : Tracks set path)
    (id : NodeId) : Tracks (set.insert id) (id :: path) := by
  intro x
  rw [Std.HashSet.mem_insert, List.mem_cons, tracked x, beq_iff_eq, eq_comm]

theorem Tracks.erase {set : Std.HashSet NodeId} {path : List NodeId} {id : NodeId}
    (tracked : Tracks set (id :: path)) (fresh : id ∉ path) : Tracks (set.erase id) path := by
  intro x
  rw [Std.HashSet.mem_erase, tracked x, List.mem_cons, beq_eq_false_iff_ne]
  constructor
  · rintro ⟨differs, rfl | onPath⟩
    · exact absurd rfl differs
    · exact onPath
  · intro onPath
    refine ⟨?_, .inr onPath⟩
    rintro rfl
    exact fresh onPath

theorem room_cons_lt {snapshot : Snapshot} {path : List NodeId} {id : NodeId} {node : Node}
    (resolved : snapshot.resolve id = .ok node) (fresh : id ∉ path) :
    snapshot.room (id :: path).contains < snapshot.room path.contains := by
  refine room_lt (fun x taken => ?_) (mem_ids_of_resolve resolved) ?_ ?_
  · rw [List.contains_cons, taken, Bool.or_true]
  · simpa using fresh
  · simp

end Outliner.Snapshot
