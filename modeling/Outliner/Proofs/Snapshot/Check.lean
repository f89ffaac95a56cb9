import Mathlib.Logic.Relation
import Outliner.Proofs.Snapshot.Path

/-!
Checks: the structure of a snapshot by plain recursion, with nothing remembered but the path.

Which ids a node refers to is a parameter, since an outline follows fewer references than a validation.
Main statement: the check of a node passes exactly if everything that the node leads to resolves, does
not lead back to itself, and is not on the path.
-/
set_option autoImplicit false

namespace Outliner.Snapshot

open Relation (ReflTransGen TransGen)

variable (snapshot : Snapshot) (below : Node → List NodeId)

def Refers (first second : NodeId) : Prop :=
  ∃ node, snapshot.resolve first = .ok node ∧ second ∈ below node

/-- A root leads to the node, maybe over other nodes. -/
def Reachable (id : NodeId) : Prop :=
  ∃ root ∈ snapshot.roots, ReflTransGen (snapshot.Refers below) root id

set_option linter.unusedVariables false in
mutual

/-- The verdict on a node at the end of a path: the first fault met depth first. -/
def check (path : List NodeId) (id : NodeId) : Except StructureFault Unit :=
  if fresh : id ∈ path then .error (.cycle id)
  else
    match resolved : snapshot.resolve id with
    | .error fault => .error fault
    | .ok node => checkAll (id :: path) (below node)
termination_by (snapshot.room path.contains, 0)
decreasing_by exact Prod.Lex.left _ _ (room_cons_lt resolved fresh)

def checkAll (path : List NodeId) : List NodeId → Except StructureFault Unit
  | [] => .ok ()
  | id :: rest => do
    check path id
    checkAll path rest
termination_by ids => (snapshot.room path.contains, ids.length)
decreasing_by
  · exact Prod.Lex.right _ (Nat.succ_pos _)
  · exact Prod.Lex.right _ (Nat.lt_succ_self _)

end

variable {snapshot below}

section

variable {path : List NodeId} {id : NodeId} {node : Node}

theorem check_of_mem (closed : id ∈ path) :
    snapshot.check below path id = .error (.cycle id) := by
  rw [check, dif_pos closed]

theorem check_of_error {fault : StructureFault} (fresh : id ∉ path)
    (unresolved : snapshot.resolve id = .error fault) :
    snapshot.check below path id = .error fault := by
  rw [check, dif_neg fresh]
  split <;> simp_all

theorem check_of_fresh (fresh : id ∉ path) (resolved : snapshot.resolve id = .ok node) :
    snapshot.check below path id = snapshot.checkAll below (id :: path) (below node) := by
  rw [check, dif_neg fresh]
  split <;> simp_all

theorem checkAll_cons_of_error {fault : StructureFault}
    (failed : snapshot.check below path id = .error fault) (rest : List NodeId) :
    snapshot.checkAll below path (id :: rest) = .error fault := by
  rw [checkAll, failed]
  rfl

theorem checkAll_cons_of_ok (passed : snapshot.check below path id = .ok ())
    (rest : List NodeId) :
    snapshot.checkAll below path (id :: rest) = snapshot.checkAll below path rest := by
  rw [checkAll, passed]
  rfl

theorem checkAll_eq_ok_iff {ids : List NodeId} :
    snapshot.checkAll below path ids = .ok () ↔
      ∀ id ∈ ids, snapshot.check below path id = .ok () := by
  induction ids with
  | nil => simp [checkAll]
  | cons id rest ih =>
    rw [List.forall_mem_cons, ← ih]
    cases verdict : snapshot.check below path id with
    | error fault => simp [checkAll_cons_of_error verdict]
    | ok _ => simp [checkAll_cons_of_ok verdict]

end

section

variable {path : List NodeId} {id x : NodeId}

private theorem not_mem_of_check (passed : snapshot.check below path id = .ok ()) : id ∉ path := by
  intro closed
  rw [check_of_mem closed] at passed
  cases passed

private theorem resolve_of_check (passed : snapshot.check below path id = .ok ()) :
    ∃ node, snapshot.resolve id = .ok node := by
  cases resolved : snapshot.resolve id with
  | error fault =>
    rw [check_of_error (not_mem_of_check passed) resolved] at passed
    cases passed
  | ok node => exact ⟨node, rfl⟩

private theorem check_of_refers (passed : snapshot.check below path id = .ok ())
    (refers : snapshot.Refers below id x) : snapshot.check below (id :: path) x = .ok () := by
  obtain ⟨node, resolved, member⟩ := refers
  rw [check_of_fresh (not_mem_of_check passed) resolved] at passed
  exact checkAll_eq_ok_iff.mp passed x member

private theorem check_of_leads (passed : snapshot.check below path id = .ok ())
    (leads : ReflTransGen (snapshot.Refers below) id x) :
    ∃ longer, path ⊆ longer ∧ snapshot.check below longer x = .ok () := by
  induction leads with
  | refl => exact ⟨path, List.Subset.refl path, passed⟩
  | @tail y z _ refers ih =>
    obtain ⟨longer, more, passed⟩ := ih
    have more' : path ⊆ y :: longer := List.Subset.trans more (List.subset_cons_self y longer)
    exact ⟨y :: longer, more', check_of_refers passed refers⟩

theorem not_cyclic_of_check (passed : snapshot.check below path id = .ok ()) :
    ¬ TransGen (snapshot.Refers below) id id := by
  intro cyclic
  obtain ⟨y, refers, leads⟩ := Relation.TransGen.head'_iff.mp cyclic
  obtain ⟨longer, more, again⟩ := check_of_leads (check_of_refers passed refers) leads
  exact not_mem_of_check again (more List.mem_cons_self)

end

private theorem check_of_sound (path : List NodeId) (id : NodeId)
    (resolves : ∀ x, ReflTransGen (snapshot.Refers below) id x → ∃ node, snapshot.resolve x = .ok node)
    (offPath : ∀ x, ReflTransGen (snapshot.Refers below) id x → x ∉ path)
    (acyclic : ∀ x, ReflTransGen (snapshot.Refers below) id x →
      ¬ TransGen (snapshot.Refers below) x x) :
    snapshot.check below path id = .ok () := by
  have fresh := offPath id .refl
  obtain ⟨node, resolved⟩ := resolves id .refl
  rw [check_of_fresh fresh resolved, checkAll_eq_ok_iff]
  intro child member
  have refers : snapshot.Refers below id child := ⟨node, resolved, member⟩
  refine check_of_sound (id :: path) child (fun x leads => resolves x (leads.head refers))
    (fun x leads => ?_) fun x leads => acyclic x (leads.head refers)
  rw [List.mem_cons, not_or]
  refine ⟨?_, offPath x (leads.head refers)⟩
  -- A child that leads to the node again would close a cycle through it.
  rintro rfl
  exact acyclic x .refl (Relation.TransGen.head' refers leads)
termination_by snapshot.room path.contains
decreasing_by exact room_cons_lt resolved fresh

/-- A node passes exactly if everything that it leads to resolves, is not on the path, and does not
lead back to itself. -/
theorem check_eq_ok_iff {path : List NodeId} {id : NodeId} :
    snapshot.check below path id = .ok () ↔
      ∀ x, ReflTransGen (snapshot.Refers below) id x →
        (∃ node, snapshot.resolve x = .ok node) ∧ x ∉ path ∧
          ¬ TransGen (snapshot.Refers below) x x := by
  constructor
  · intro passed x leads
    obtain ⟨longer, more, passed⟩ := check_of_leads passed leads
    exact ⟨resolve_of_check passed, fun onPath => not_mem_of_check passed (more onPath),
      not_cyclic_of_check passed⟩
  · intro sound
    exact check_of_sound path id (fun x leads => (sound x leads).1)
      (fun x leads => (sound x leads).2.1) fun x leads => (sound x leads).2.2

theorem mem_of_reachable {ids : List NodeId} (roots : ∀ root ∈ snapshot.roots, root ∈ ids)
    (closed : ∀ x ∈ ids, ∀ y, snapshot.Refers below x y → y ∈ ids) {id : NodeId}
    (reachable : snapshot.Reachable below id) : id ∈ ids := by
  obtain ⟨root, listed, leads⟩ := reachable
  induction leads with
  | refl => exact roots root listed
  | tail _ refers ih => exact closed _ ih _ refers

section

variable {fewer : Node → List NodeId} (subset : ∀ node, fewer node ⊆ below node)

include subset

private theorem refers_of_fewer (x y : NodeId) (refers : snapshot.Refers fewer x y) :
    snapshot.Refers below x y := by
  obtain ⟨node, resolved, member⟩ := refers
  exact ⟨node, resolved, subset node member⟩

theorem reachable_of_fewer {id : NodeId} (reachable : snapshot.Reachable fewer id) :
    snapshot.Reachable below id := by
  obtain ⟨root, listed, leads⟩ := reachable
  exact ⟨root, listed, ReflTransGen.mono (refers_of_fewer subset) _ _ leads⟩

theorem check_of_fewer {path : List NodeId} {id : NodeId}
    (passed : snapshot.check below path id = .ok ()) : snapshot.check fewer path id = .ok () := by
  rw [check_eq_ok_iff] at passed ⊢
  intro x leads
  obtain ⟨resolves, offPath, acyclic⟩ := passed x (ReflTransGen.mono (refers_of_fewer subset) _ _ leads)
  refine ⟨resolves, offPath, ?_⟩
  intro cyclic
  exact acyclic (TransGen.mono (refers_of_fewer subset) _ _ cyclic)

end

section

variable {other : Snapshot} {below' : Node → List NodeId}

theorem checkAll_congr {path ids : List NodeId}
    (same : ∀ id ∈ ids, snapshot.check below path id = other.check below' path id) :
    snapshot.checkAll below path ids = other.checkAll below' path ids := by
  induction ids with
  | nil => rw [checkAll, checkAll]
  | cons id rest ih =>
    obtain ⟨first, others⟩ := List.forall_mem_cons.mp same
    rw [checkAll, checkAll, first, ih others]

/-- The check of a node depends on nothing but what resolves and what is referred to, as far as the
node leads. -/
theorem check_congr (path : List NodeId) (id : NodeId)
    (agree : ∀ x, ReflTransGen (snapshot.Refers below) id x →
      (snapshot.resolve x).map below = (other.resolve x).map below') :
    snapshot.check below path id = other.check below' path id := by
  by_cases closed : id ∈ path
  · rw [check_of_mem closed, check_of_mem closed]
  have here := agree id .refl
  cases resolved : snapshot.resolve id with
  | error fault =>
    cases resolved' : other.resolve id with
    | error fault' =>
      rw [resolved, resolved'] at here
      rw [check_of_error closed resolved, check_of_error closed resolved', Except.error.inj here]
    | ok node' =>
      rw [resolved, resolved'] at here
      cases here
  | ok node =>
    cases resolved' : other.resolve id with
    | error fault' =>
      rw [resolved, resolved'] at here
      cases here
    | ok node' =>
      rw [resolved, resolved'] at here
      -- Both checks go on with the same ids, on the same path.
      have children : below node = below' node' := Except.ok.inj here
      rw [check_of_fresh closed resolved, check_of_fresh closed resolved', ← children]
      refine checkAll_congr fun child member => ?_
      have refers : snapshot.Refers below id child := ⟨node, resolved, member⟩
      exact check_congr (id :: path) child fun x leads => agree x (leads.head refers)
termination_by snapshot.room path.contains
decreasing_by exact room_cons_lt resolved closed

end

end Outliner.Snapshot
