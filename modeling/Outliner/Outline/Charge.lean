import Outliner.Outline.Projector
import Outliner.Snapshot.Room

/-!
Why projection ends: every pending node is charged for the steps that it can cause at most, given the
room that is left for nodes below it. Main statement: every step of the projector lowers the charge.
-/
set_option autoImplicit false

namespace Outliner.Projection.Projector

def below (snapshot : Snapshot) (id : NodeId) : List NodeId :=
  match snapshot.resolve id with
  | .ok node => node.children
  | .error _ => []

def charge (snapshot : Snapshot) : Nat → List NodeId → Nat
  | 0, ids => ids.length
  | room + 1, ids =>
    ids.foldr (fun id total => 4 + charge snapshot room (below snapshot id) + total) 0

def chargeFrames (snapshot : Snapshot) (roots : List NodeId) : Nat → List Frame → Nat
  | room, [] => charge snapshot room roots
  | room, frame :: frames =>
    1 + charge snapshot room frame.pending +
      chargeFrames snapshot roots (room + if frame.id?.isSome then 1 else 0) frames

def room (snapshot : Snapshot) (projector : Projector) : Nat :=
  snapshot.room projector.ancestors.contains

def remaining (snapshot : Snapshot) (projector : Projector) : Nat :=
  chargeFrames snapshot projector.roots (projector.room snapshot) projector.frames

private theorem charge_cons (snapshot : Snapshot) (room : Nat) (id : NodeId) (ids : List NodeId) :
    charge snapshot room ids < charge snapshot room (id :: ids) := by
  cases room with
  | zero => exact Nat.lt_succ_self ids.length
  | succ room =>
    simp only [charge, List.foldr_cons]
    omega

private theorem length_le_charge (snapshot : Snapshot) (room : Nat) (ids : List NodeId) :
    ids.length ≤ charge snapshot room ids := by
  induction ids with
  | nil => exact Nat.zero_le _
  | cons id ids ih => exact Nat.lt_of_le_of_lt ih (charge_cons snapshot room id ids)

private theorem foldr_add_le {α : Type} {f g : α → Nat} (l : List α) (h : ∀ x, f x ≤ g x) :
    l.foldr (fun x total => f x + total) 0 ≤ l.foldr (fun x total => g x + total) 0 := by
  induction l with
  | nil => exact Nat.le_refl _
  | cons x l ih => exact Nat.add_le_add (h x) ih

private theorem charge_le_succ (snapshot : Snapshot) (room : Nat) (ids : List NodeId) :
    charge snapshot room ids ≤ charge snapshot (room + 1) ids := by
  induction room generalizing ids with
  | zero => exact length_le_charge snapshot 1 ids
  | succ room ih => exact foldr_add_le ids fun id => Nat.add_le_add_left (ih _) 4

private theorem charge_mono (snapshot : Snapshot) {room room' : Nat} (h : room ≤ room')
    (ids : List NodeId) : charge snapshot room ids ≤ charge snapshot room' ids := by
  induction h with
  | refl => exact Nat.le_refl _
  | step _ ih => exact Nat.le_trans ih (charge_le_succ snapshot _ ids)

private theorem chargeFrames_mono (snapshot : Snapshot) (roots : List NodeId) {room room' : Nat}
    (h : room ≤ room') (frames : List Frame) :
    chargeFrames snapshot roots room frames ≤ chargeFrames snapshot roots room' frames := by
  induction frames generalizing room room' with
  | nil => exact charge_mono snapshot h roots
  | cons frame frames ih =>
    simp only [chargeFrames]
    have := charge_mono snapshot h frame.pending
    have := ih (Nat.add_le_add_right h (if frame.id?.isSome then 1 else 0))
    omega

private theorem remaining_deliver (snapshot : Snapshot) (projector : Projector) (entry : Entry) :
    (projector.deliver entry).remaining snapshot = projector.remaining snapshot := by
  obtain ⟨frames, ancestors, roots, trees, unshown⟩ := projector
  cases frames <;> rfl

private theorem remaining_leave (snapshot : Snapshot) (projector : Projector) (frame : Frame) :
    (projector.leave frame).remaining snapshot <
      { projector with frames := frame :: projector.frames }.remaining snapshot := by
  unfold leave
  split
  · rename_i none
    rw [remaining_deliver]
    simp only [remaining, room, chargeFrames, none, Option.isSome_none, Bool.false_eq_true,
      if_false, Nat.add_zero]
    omega
  · rename_i id some
    rw [remaining_deliver]
    simp only [remaining, room, chargeFrames, some, Option.isSome_some, if_true]
    have back : snapshot.room (projector.ancestors.erase id).contains ≤
        snapshot.room projector.ancestors.contains + 1 := by
      refine Snapshot.room_le_succ id fun x differs taken => ?_
      rw [Std.HashSet.contains_erase, taken]
      simpa using Ne.symm differs
    have := chargeFrames_mono snapshot projector.roots back projector.frames
    omega

/-- The measure with one node more to go into, in the innermost frame or among the roots. -/
def remainingWith (snapshot : Snapshot) (id : NodeId) (projector : Projector) : Nat :=
  match projector.frames with
  | [] => { projector with roots := id :: projector.roots }.remaining snapshot
  | frame :: frames =>
    { projector with frames := { frame with pending := id :: frame.pending } :: frames }.remaining
      snapshot

private theorem remaining_lt_remainingWith (snapshot : Snapshot) (id : NodeId) (projector : Projector) :
    projector.remaining snapshot < projector.remainingWith snapshot id := by
  obtain ⟨frames, ancestors, roots, trees, unshown⟩ := projector
  cases frames with
  | nil => exact charge_cons snapshot _ id roots
  | cons frame frames =>
    have := charge_cons snapshot (snapshot.room ancestors.contains) id frame.pending
    simp only [remainingWith, remaining, room, chargeFrames]
    omega

private theorem remaining_push_lt {snapshot : Snapshot} {id : NodeId} {node : Node} {projector : Projector}
    (resolved : snapshot.resolve id = .ok node) (fresh : projector.ancestors.contains id = false)
    {frames : List Frame}
    (cost : ∀ room, chargeFrames snapshot projector.roots room (frames ++ projector.frames) ≤
      3 + charge snapshot room node.children +
        chargeFrames snapshot projector.roots (room + 1) projector.frames) :
    (projector.push id frames).remaining snapshot < projector.remainingWith snapshot id := by
  have less : snapshot.room (projector.ancestors.insert id).contains <
      snapshot.room projector.ancestors.contains := by
    refine Snapshot.room_lt (fun x taken => ?_) (Snapshot.mem_ids_of_resolve resolved) fresh ?_
    · rw [Std.HashSet.contains_insert, taken, Bool.or_true]
    · simp
  obtain ⟨room, larger⟩ := Nat.exists_eq_add_of_lt less
  have spent := cost (snapshot.room (projector.ancestors.insert id).contains)
  have children : below snapshot id = node.children := by simp [below, resolved]
  have mono := charge_mono snapshot (Nat.le_add_right
    (snapshot.room (projector.ancestors.insert id).contains) room) node.children
  have up : snapshot.room (projector.ancestors.insert id).contains + 1 ≤
    snapshot.room (projector.ancestors.insert id).contains + room + 1 := by omega
  have above := chargeFrames_mono snapshot projector.roots up projector.frames
  obtain ⟨outer, ancestors, roots, trees, unshown⟩ := projector
  dsimp only at larger mono
  cases outer with
  | nil =>
    simp only [remainingWith, remaining, Projector.room, push, larger]
    simp only [chargeFrames, charge, List.foldr_cons, children] at spent above ⊢
    omega
  | cons frame outer =>
    simp only [remainingWith, remaining, Projector.room, push, larger]
    simp only [chargeFrames, charge, List.foldr_cons, children] at spent above ⊢
    omega

theorem enter_cases {snapshot : Snapshot} {id : NodeId} {projector projector' : Projector}
    (h : projector.enter snapshot id = .more projector') :
    ∃ node, snapshot.resolve id = .ok node ∧ projector.ancestors.contains id = false ∧
      projector' = projector.showNode id node := by
  unfold enter at h
  split at h
  · cases h
  · rename_i node resolved
    split at h
    · cases h
    · rename_i fresh
      exact ⟨node, resolved, Bool.eq_false_iff.mpr fresh, (Progress.more.inj h).symm⟩

private theorem remaining_enter {snapshot : Snapshot} {id : NodeId} {projector projector' : Projector}
    (h : projector.enter snapshot id = .more projector') :
    projector'.remaining snapshot < projector.remainingWith snapshot id := by
  obtain ⟨node, resolved, fresh, rfl⟩ := enter_cases h
  have leaf : ∀ entry, (projector.deliver entry).remaining snapshot <
      projector.remainingWith snapshot id := fun entry => by
    rw [remaining_deliver]
    exact remaining_lt_remainingWith snapshot id projector
  cases node with
  | moduleDecl decl =>
    refine remaining_push_lt resolved fresh fun room => ?_
    simp [chargeFrames, Node.children]
  | translationUnit decl =>
    refine remaining_push_lt resolved fresh fun room => ?_
    simp [chargeFrames, Node.children]
  | functionDecl decl =>
    refine remaining_push_lt resolved fresh fun room => ?_
    have nothing : charge snapshot room [] = 0 := by cases room <;> rfl
    simp [functionFrames, chargeFrames, Node.children, nothing]
    omega
  | productTypeDecl decl => exact leaf _
  | parameterDecl decl => exact leaf _
  | missing =>
    simp only [showNode, deliverUnknown]
    rw [remaining_deliver]
    exact remaining_lt_remainingWith snapshot id projector
  | unrecognized kind payload =>
    simp only [showNode, deliverUnknown]
    rw [remaining_deliver]
    exact remaining_lt_remainingWith snapshot id projector

/-- Every step lowers the charge. -/
theorem remaining_step {snapshot : Snapshot} {projector projector' : Projector}
    (h : projector.step snapshot = .more projector') :
    projector'.remaining snapshot < projector.remaining snapshot := by
  unfold step at h
  split at h
  · cases h
  · exact remaining_enter h
  · exact remaining_enter h
  · rw [← Progress.more.inj h]
    exact remaining_leave snapshot _ _

end Outliner.Projection.Projector
