import Outliner.Proofs.Snapshot.Check
import Outliner.Snapshot.Validate

/-!
Validation agrees with the recursive check, although it looks at a finished node only once.

While the walk is at the end of a path, every finished node resolves, refers to finished nodes only,
does not lead back to itself and is not on the path. So a second look at it could find no fault.
-/
set_option autoImplicit false

namespace Outliner.Snapshot

open Relation (ReflTransGen TransGen)

/-- What is known of the finished nodes while the walk is at the end of a path. -/
structure Settled (snapshot : Snapshot) (finished : Std.HashSet NodeId) (path : List NodeId) :
    Prop where
  resolves : ∀ id ∈ finished, ∃ node, snapshot.resolve id = .ok node
  closed : ∀ id ∈ finished, ∀ x, snapshot.Refers Node.children id x → x ∈ finished
  acyclic : ∀ id ∈ finished, ¬ TransGen (snapshot.Refers Node.children) id id
  offPath : ∀ id ∈ finished, id ∉ path

namespace Settled

variable {snapshot : Snapshot} {finished : Std.HashSet NodeId} {path : List NodeId} {id : NodeId}

private theorem empty (snapshot : Snapshot) (path : List NodeId) : Settled snapshot ∅ path := by
  constructor <;> intro id member <;> simp at member

private theorem leads (settled : Settled snapshot finished path) (member : id ∈ finished) {x : NodeId}
    (leads : ReflTransGen (snapshot.Refers Node.children) id x) : x ∈ finished := by
  induction leads with
  | refl => exact member
  | tail _ refers ih => exact settled.closed _ ih _ refers

private theorem check (settled : Settled snapshot finished path) (member : id ∈ finished) :
    snapshot.check Node.children path id = .ok () := by
  refine check_eq_ok_iff.mpr fun x leads => ?_
  have met := settled.leads member leads
  exact ⟨settled.resolves x met, settled.offPath x met, settled.acyclic x met⟩

private theorem push (settled : Settled snapshot finished path) (unfinished : id ∉ finished) :
    Settled snapshot finished (id :: path) where
  resolves := settled.resolves
  closed := settled.closed
  acyclic := settled.acyclic
  offPath x member := by
    rw [List.mem_cons, not_or]
    refine ⟨?_, settled.offPath x member⟩
    rintro rfl
    exact unfinished member

private theorem pop {node : Node} (settled : Settled snapshot finished (id :: path)) (fresh : id ∉ path)
    (resolved : snapshot.resolve id = .ok node) (children : ∀ x ∈ node.children, x ∈ finished)
    (passed : snapshot.check Node.children path id = .ok ()) :
    Settled snapshot (finished.insert id) path := by
  have either : ∀ x ∈ finished.insert id, x = id ∨ x ∈ finished := by
    intro x member
    rcases Std.HashSet.mem_insert.mp member with equal | member
    · exact .inl (beq_iff_eq.mp equal).symm
    · exact .inr member
  constructor
  · intro x member
    rcases either x member with rfl | member
    · exact ⟨node, resolved⟩
    · exact settled.resolves x member
  · intro x member y refers
    refine Std.HashSet.mem_insert.mpr (.inr ?_)
    rcases either x member with rfl | member
    · obtain ⟨other, again, member⟩ := refers
      rw [resolved] at again
      cases again
      exact children y member
    · exact settled.closed x member y refers
  · intro x member
    rcases either x member with rfl | member
    · exact not_cyclic_of_check passed
    · exact settled.acyclic x member
  · intro x member
    rcases either x member with rfl | member
    · exact fresh
    · exact fun onPath => settled.offPath x member (List.mem_cons_of_mem id onPath)

end Settled

namespace Walk

def Progress.finish (snapshot : Snapshot) : Progress → Except StructureFault Unit
  | .more walk => walk.run snapshot
  | .done verdict => verdict

theorem run_eq_finish (snapshot : Snapshot) (walk : Walk) :
    walk.run snapshot = (walk.step snapshot).finish snapshot := by
  rw [run]
  split <;> simp_all [Progress.finish]

/-- A walk with some nodes to look at has come to a verdict on them: either it goes on with the rest of
the stack, on the same path and with the nodes finished, or it has ended with the fault. -/
def Passes (snapshot : Snapshot) (path : List NodeId) (stack : List Visit)
    (finished : Std.HashSet NodeId) (ids : List NodeId) (verdict outcome : Except StructureFault Unit) :
    Prop :=
  match verdict with
  | .ok _ => ∃ onPath finished', Tracks onPath path ∧ Settled snapshot finished' path ∧
      (∀ id ∈ finished, id ∈ finished') ∧ (∀ id ∈ ids, id ∈ finished') ∧
        outcome = Walk.run snapshot ⟨stack, onPath, finished'⟩
  | .error fault => outcome = .error fault

private theorem enter_passes_of_children {snapshot : Snapshot} {path : List NodeId} {id : NodeId}
    {stack : List Visit} {onPath finished : Std.HashSet NodeId} (tracked : Tracks onPath path)
    (settled : Settled snapshot finished path)
    (children : ∀ node, snapshot.resolve id = .ok node → id ∉ path → ∀ (stack : List Visit) onPath,
      Tracks onPath (id :: path) → Settled snapshot finished (id :: path) →
      Passes snapshot (id :: path) stack finished node.children
        (snapshot.checkAll Node.children (id :: path) node.children)
        (Walk.run snapshot ⟨node.children.map .enter ++ stack, onPath, finished⟩)) :
    Passes snapshot path stack finished [id] (snapshot.check Node.children path id)
      ((enter snapshot id ⟨stack, onPath, finished⟩).finish snapshot) := by
  unfold enter
  split
  · rename_i done
    -- The walk passes over a finished node; the check goes through it again and finds nothing.
    have member : id ∈ finished := Std.HashSet.contains_iff_mem.mp done
    rw [settled.check member]
    exact ⟨onPath, finished, tracked, settled, fun _ kept => kept, by simpa using member, rfl⟩
  · rename_i undone
    have unfinished : id ∉ finished := fun member => undone (Std.HashSet.contains_iff_mem.mpr member)
    split
    · rename_i met
      have closed : id ∈ path := (tracked id).mp (Std.HashSet.contains_iff_mem.mp met)
      rw [check_of_mem closed]
      rfl
    · rename_i unmet
      have fresh : id ∉ path := fun member =>
        unmet (Std.HashSet.contains_iff_mem.mpr ((tracked id).mpr member))
      split
      · rename_i fault unresolved
        rw [check_of_error fresh unresolved]
        rfl
      · rename_i node resolved
        -- The mark below the children takes the node off the path once they are finished.
        have below := children node resolved fresh (.leave id :: stack) (onPath.insert id)
          (tracked.insert id) (settled.push unfinished)
        have same : snapshot.check Node.children path id =
            snapshot.checkAll Node.children (id :: path) node.children :=
          check_of_fresh fresh resolved
        rw [← same] at below
        cases verdict : snapshot.check Node.children path id with
        | error fault =>
          rw [verdict] at below
          exact below
        | ok passed =>
          rw [verdict] at below
          obtain ⟨onPath', finished', tracked', settled', kept, all, ended⟩ := below
          refine ⟨onPath'.erase id, finished'.insert id, tracked'.erase fresh,
            settled'.pop fresh resolved all verdict, ?_, ?_, ?_⟩
          · intro x member
            exact Std.HashSet.mem_insert.mpr (.inr (kept x member))
          · simp
          · refine ended.trans ?_
            rw [run_eq_finish]
            rfl

mutual

private theorem enter_passes (snapshot : Snapshot) (path : List NodeId) (id : NodeId) (stack : List Visit)
    (onPath finished : Std.HashSet NodeId) (tracked : Tracks onPath path)
    (settled : Settled snapshot finished path) :
    Passes snapshot path stack finished [id] (snapshot.check Node.children path id)
      ((enter snapshot id ⟨stack, onPath, finished⟩).finish snapshot) := by
  refine enter_passes_of_children tracked settled
    fun node resolved fresh stack onPath tracked settled => ?_
  exact run_passes snapshot (id :: path) node.children stack onPath finished tracked settled
termination_by (snapshot.room path.contains, 0)
decreasing_by exact Prod.Lex.left _ _ (room_cons_lt resolved fresh)

private theorem run_passes (snapshot : Snapshot) (path ids : List NodeId) (stack : List Visit)
    (onPath finished : Std.HashSet NodeId) (tracked : Tracks onPath path)
    (settled : Settled snapshot finished path) :
    Passes snapshot path stack finished ids (snapshot.checkAll Node.children path ids)
      (Walk.run snapshot ⟨ids.map .enter ++ stack, onPath, finished⟩) := by
  match ids with
  | [] =>
    rw [checkAll]
    exact ⟨onPath, finished, tracked, settled, fun _ kept => kept, by simp, rfl⟩
  | id :: rest =>
    have first := enter_passes snapshot path id (rest.map .enter ++ stack) onPath finished tracked
      settled
    rw [run_eq_finish]
    cases verdict : snapshot.check Node.children path id with
    | error fault =>
      rw [verdict] at first
      rw [checkAll_cons_of_error verdict]
      exact first
    | ok passed =>
      rw [verdict] at first
      obtain ⟨onPath', finished', tracked', settled', kept, member, ended⟩ := first
      have others := run_passes snapshot path rest stack onPath' finished' tracked' settled'
      rw [checkAll_cons_of_ok verdict]
      cases verdicts : snapshot.checkAll Node.children path rest with
      | error fault =>
        rw [verdicts] at others
        exact ended.trans others
      | ok passed =>
        rw [verdicts] at others
        obtain ⟨onPath'', finished'', tracked'', settled'', keptAgain, members, endedAgain⟩ := others
        refine ⟨onPath'', finished'', tracked'', settled'', fun x old => keptAgain x (kept x old), ?_,
          ended.trans endedAgain⟩
        rw [List.forall_mem_cons]
        exact ⟨keptAgain id (member id List.mem_cons_self), members⟩
termination_by (snapshot.room path.contains, ids.length)
decreasing_by
  · exact Prod.Lex.right _ (Nat.succ_pos _)
  · exact Prod.Lex.right _ (Nat.lt_succ_self _)

end

end Walk

/-- Validation gives the verdict of the check on the roots. -/
theorem validate_eq_checkAll (snapshot : Snapshot) :
    snapshot.validate = snapshot.checkAll Node.children [] snapshot.roots := by
  have passes := Walk.run_passes snapshot [] snapshot.roots [] ∅ ∅ tracks_empty (.empty snapshot [])
  rw [List.append_nil] at passes
  unfold validate
  cases verdict : snapshot.checkAll Node.children [] snapshot.roots with
  | error fault =>
    rw [verdict] at passes
    exact passes
  | ok passed =>
    rw [verdict] at passes
    obtain ⟨onPath, finished, _, _, _, _, ended⟩ := passes
    refine ended.trans ?_
    rw [Walk.run_eq_finish]
    rfl

/-- A snapshot is valid exactly if every node that the roots lead to resolves, and none of them leads
back to itself. -/
theorem validate_eq_ok_iff (snapshot : Snapshot) :
    snapshot.validate = .ok () ↔
      (∀ id, snapshot.Reachable Node.children id → ∃ node, snapshot.resolve id = .ok node) ∧
      (∀ id, snapshot.Reachable Node.children id →
        ¬ TransGen (snapshot.Refers Node.children) id id) := by
  rw [validate_eq_checkAll, checkAll_eq_ok_iff]
  constructor
  · intro passed
    constructor
    · rintro id ⟨root, member, leads⟩
      exact (check_eq_ok_iff.mp (passed root member) id leads).1
    · rintro id ⟨root, member, leads⟩
      exact (check_eq_ok_iff.mp (passed root member) id leads).2.2
  · rintro ⟨resolves, acyclic⟩ root member
    refine check_eq_ok_iff.mpr fun id leads => ?_
    exact ⟨resolves id ⟨root, member, leads⟩, List.not_mem_nil, acyclic id ⟨root, member, leads⟩⟩

end Outliner.Snapshot
