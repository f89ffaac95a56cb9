import Outliner.Snapshot.Basic

/-!
Room: how many stored nodes a walk through a snapshot has not yet taken.

A walk that takes a stored node has less room afterwards, and one that gives a node back has room for
at most one more. This bounds how deep and how long a walk can be.
-/
set_option autoImplicit false

namespace Outliner.Snapshot

/-- The number of stored nodes that are not taken. -/
def room (snapshot : Snapshot) (taken : NodeId → Bool) : Nat :=
  snapshot.ids.countP fun id => !taken id

private theorem countP_lt {α : Type} {p q : α → Bool} {l : List α} {a : α}
    (imp : ∀ x, p x = true → q x = true) (mem : a ∈ l) (hp : p a = false) (hq : q a = true) :
    l.countP p < l.countP q := by
  induction l with
  | nil => cases mem
  | cons x rest ih =>
    rw [List.countP_cons, List.countP_cons]
    have le : rest.countP p ≤ rest.countP q := List.countP_mono_left fun y _ => imp y
    rcases List.mem_cons.mp mem with rfl | mem
    · simp only [hp, hq, if_true, Bool.false_eq_true, if_false]
      omega
    · have step : (if p x = true then 1 else 0) ≤ if q x = true then 1 else 0 := by
        split
        · rename_i holds
          exact Nat.le_of_eq (if_pos (imp x holds)).symm
        · exact Nat.zero_le _
      exact Nat.add_lt_add_of_lt_of_le (ih mem) step

private theorem countP_le_add_count {α : Type} [BEq α] [LawfulBEq α] {p q : α → Bool} (a : α) (l : List α)
    (imp : ∀ x, x ≠ a → p x = true → q x = true) : l.countP p ≤ l.countP q + l.count a := by
  induction l with
  | nil => simp
  | cons x rest ih =>
    rw [List.countP_cons, List.countP_cons, List.count_cons]
    have := imp x
    by_cases equal : x = a
    · subst equal
      cases p x <;> cases q x <;> simp <;> omega
    · cases hx : p x <;> cases hy : q x <;> simp_all <;> omega

theorem room_le {snapshot : Snapshot} {taken taken' : NodeId → Bool}
    (more : ∀ id, taken id = true → taken' id = true) :
    snapshot.room taken' ≤ snapshot.room taken := by
  refine List.countP_mono_left fun id _ free => ?_
  cases h : taken id with
  | false => rfl
  | true => simp [more id h] at free

theorem room_lt {snapshot : Snapshot} {taken taken' : NodeId → Bool} {id : NodeId}
    (more : ∀ id, taken id = true → taken' id = true) (stored : id ∈ snapshot.ids)
    (before : taken id = false) (after : taken' id = true) :
    snapshot.room taken' < snapshot.room taken := by
  refine countP_lt (a := id) (fun x free => ?_) stored (by simp [after]) (by simp [before])
  cases h : taken x with
  | false => rfl
  | true => simp [more x h] at free

theorem room_le_succ {snapshot : Snapshot} {taken taken' : NodeId → Bool} (id : NodeId)
    (kept : ∀ x, x ≠ id → taken x = true → taken' x = true) :
    snapshot.room taken' ≤ snapshot.room taken + 1 := by
  have once : snapshot.ids.count id ≤ 1 := List.nodup_iff_count.mp snapshot.nodup_ids id
  refine Nat.le_trans (countP_le_add_count id snapshot.ids fun x differs free => ?_)
    (Nat.add_le_add_left once _)
  cases h : taken x with
  | false => rfl
  | true => simp [kept x differs h] at free

end Outliner.Snapshot
