import Outliner.Proofs.Snapshot.Validation

/-!
Looks: the order in which a check comes to the nodes of a snapshot.

A walk that remembers nothing but its path looks at a node again whenever it comes to it. Its looks are
listed depth first, the references of a node from left to right, as if no fault ever ended the walk. Main
statements: validation reports what the first look finds at which something is wrong, and whatever a look
finds is really wrong with the snapshot.
-/
set_option autoImplicit false

namespace Outliner.Snapshot

open Relation (ReflTransGen TransGen)

structure Look where
  path : List NodeId
  id : NodeId

variable (snapshot : Snapshot) (below : Node → List NodeId)

/-- What a look finds wrong: the node is on the path already, or it does not resolve. -/
def faultAt? (look : Look) : Option StructureFault :=
  if look.id ∈ look.path then some (.cycle look.id)
  else
    match snapshot.resolve look.id with
    | .error fault => some fault
    | .ok _ => none

def firstFault (looks : List Look) : Except StructureFault Unit :=
  match looks.findSome? snapshot.faultAt? with
  | some fault => .error fault
  | none => .ok ()

set_option linter.unusedVariables false in
mutual

/-- The looks at a node and at everything below it. There is nothing below a look that finds a fault. -/
def looks (path : List NodeId) (id : NodeId) : List Look :=
  ⟨path, id⟩ ::
    if fresh : id ∈ path then []
    else
      match resolved : snapshot.resolve id with
      | .error _ => []
      | .ok node => looksAll (id :: path) (below node)
termination_by (snapshot.room path.contains, 0)
decreasing_by exact Prod.Lex.left _ _ (room_cons_lt resolved fresh)

def looksAll (path : List NodeId) : List NodeId → List Look
  | [] => []
  | id :: rest => looks path id ++ looksAll path rest
termination_by ids => (snapshot.room path.contains, ids.length)
decreasing_by
  · exact Prod.Lex.right _ (Nat.succ_pos _)
  · exact Prod.Lex.right _ (Nat.lt_succ_self _)

end

variable {snapshot below}

section

variable {path : List NodeId} {id : NodeId} {node : Node}

theorem looks_of_mem (closed : id ∈ path) : snapshot.looks below path id = [⟨path, id⟩] := by
  rw [looks, dif_pos closed]

theorem looks_of_error {fault : StructureFault} (fresh : id ∉ path)
    (unresolved : snapshot.resolve id = .error fault) :
    snapshot.looks below path id = [⟨path, id⟩] := by
  rw [looks, dif_neg fresh]
  split <;> simp_all

theorem looks_of_fresh (fresh : id ∉ path) (resolved : snapshot.resolve id = .ok node) :
    snapshot.looks below path id =
      ⟨path, id⟩ :: snapshot.looksAll below (id :: path) (below node) := by
  rw [looks, dif_neg fresh]
  split <;> simp_all

private theorem mem_looksAll {look : Look} {ids : List NodeId} :
    look ∈ snapshot.looksAll below path ids ↔ ∃ id ∈ ids, look ∈ snapshot.looks below path id := by
  induction ids with
  | nil => simp [looksAll]
  | cons id rest ih => simp [looksAll, ih]

theorem faultAt?_of_fresh (fresh : id ∉ path) (resolved : snapshot.resolve id = .ok node) :
    snapshot.faultAt? ⟨path, id⟩ = none := by
  simp only [faultAt?, if_neg fresh, resolved]

end

private theorem firstFault_append (first second : List Look) :
    snapshot.firstFault (first ++ second) =
      (snapshot.firstFault first >>= fun _ => snapshot.firstFault second) := by
  simp only [firstFault, List.findSome?_append]
  cases first.findSome? snapshot.faultAt? <;> rfl

private theorem checkAll_eq_firstFault_of_each {path ids : List NodeId}
    (each : ∀ id ∈ ids,
      snapshot.check below path id = snapshot.firstFault (snapshot.looks below path id)) :
    snapshot.checkAll below path ids = snapshot.firstFault (snapshot.looksAll below path ids) := by
  induction ids with
  | nil =>
    rw [checkAll, looksAll]
    rfl
  | cons id rest ih =>
    obtain ⟨first, others⟩ := List.forall_mem_cons.mp each
    rw [checkAll, looksAll, firstFault_append, first, ih others]

/-- The verdict on a node is what the first of its looks finds at which something is wrong. -/
theorem check_eq_firstFault (path : List NodeId) (id : NodeId) :
    snapshot.check below path id = snapshot.firstFault (snapshot.looks below path id) := by
  by_cases closed : id ∈ path
  · rw [check_of_mem closed, looks_of_mem closed]
    simp [firstFault, faultAt?, closed]
  · cases resolved : snapshot.resolve id with
    | error fault =>
      rw [check_of_error closed resolved, looks_of_error closed resolved]
      simp [firstFault, faultAt?, closed, resolved]
    | ok node =>
      -- The path grows by a node of the snapshot, so the induction is on the nodes that are not on it.
      have children := checkAll_eq_firstFault_of_each fun child (_ : child ∈ below node) =>
        check_eq_firstFault (id :: path) child
      rw [check_of_fresh closed resolved, looks_of_fresh closed resolved, children, firstFault,
        firstFault, List.findSome?_cons, faultAt?_of_fresh closed resolved]
termination_by snapshot.room path.contains
decreasing_by exact room_cons_lt resolved closed

theorem checkAll_eq_firstFault (path ids : List NodeId) :
    snapshot.checkAll below path ids = snapshot.firstFault (snapshot.looksAll below path ids) :=
  checkAll_eq_firstFault_of_each fun id _ => check_eq_firstFault path id

private theorem leads_of_mem_looks {look : Look} (path : List NodeId) (id : NodeId)
    (member : look ∈ snapshot.looks below path id) :
    ReflTransGen (snapshot.Refers below) id look.id ∧
      ∀ x ∈ look.path, x ∈ path ∨ TransGen (snapshot.Refers below) x look.id := by
  have here : look = ⟨path, id⟩ → ReflTransGen (snapshot.Refers below) id look.id ∧
      ∀ x ∈ look.path, x ∈ path ∨ TransGen (snapshot.Refers below) x look.id := by
    rintro rfl
    exact ⟨.refl, fun x onPath => .inl onPath⟩
  by_cases closed : id ∈ path
  · rw [looks_of_mem closed, List.mem_singleton] at member
    exact here member
  cases resolved : snapshot.resolve id with
  | error fault =>
    rw [looks_of_error closed resolved, List.mem_singleton] at member
    exact here member
  | ok node =>
    rw [looks_of_fresh closed resolved, List.mem_cons] at member
    rcases member with same | member
    · exact here same
    · obtain ⟨child, listed, member⟩ := mem_looksAll.mp member
      have refers : snapshot.Refers below id child := ⟨node, resolved, listed⟩
      obtain ⟨leads, path_leads⟩ := leads_of_mem_looks (id :: path) child member
      refine ⟨leads.head refers, fun x onPath => ?_⟩
      rcases path_leads x onPath with known | leads_back
      · rcases List.mem_cons.mp known with rfl | onPath
        · exact .inr (TransGen.head' refers leads)
        · exact .inl onPath
      · exact .inr leads_back
termination_by snapshot.room path.contains
decreasing_by exact room_cons_lt resolved closed

private theorem resolve_eq_error {id : NodeId} {fault : StructureFault}
    (unresolved : snapshot.resolve id = .error fault) :
    ∃ length, fault = .outOfRange id snapshot.groups.size length ∧
      (length = none ↔ snapshot.groups.size ≤ id.group.toNat) ∧
      ∀ held, length = some held → ∃ group, snapshot.groups[id.group.toNat]? = some group ∧
        held = group.size ∧ held ≤ id.offset.toNat := by
  unfold resolve at unresolved
  split at unresolved
  · rename_i outside
    refine ⟨none, (Except.error.inj unresolved).symm, ?_, fun held present => by cases present⟩
    exact iff_of_true rfl (Array.getElem?_eq_none_iff.mp outside)
  · rename_i group inside
    split at unresolved
    · rename_i beyond
      refine ⟨some group.size, (Except.error.inj unresolved).symm, ?_, ?_⟩
      · refine iff_of_false (Option.some_ne_none _) ?_
        obtain ⟨bound, _⟩ := Array.getElem?_eq_some_iff.mp inside
        exact Nat.not_le.mpr bound
      · rintro held present
        obtain rfl := Option.some.inj present
        exact ⟨group, inside, rfl, Array.getElem?_eq_none_iff.mp beyond⟩
    · cases unresolved

variable (snapshot below) in
/-- The fault is there: the roots lead to the node that it names, which leads back to itself or lies
outside the snapshot in just the way that the fault says. -/
def Bears : StructureFault → Prop
  | .cycle id => snapshot.Reachable below id ∧ TransGen (snapshot.Refers below) id id
  | .outOfRange id count length =>
    snapshot.Reachable below id ∧ snapshot.resolve id = .error (.outOfRange id count length) ∧
      count = snapshot.groups.size ∧ (length = none ↔ count ≤ id.group.toNat) ∧
      ∀ held, length = some held → ∃ group, snapshot.groups[id.group.toNat]? = some group ∧
        held = group.size ∧ held ≤ id.offset.toNat

theorem bears_of_checkAll {fault : StructureFault}
    (failed : snapshot.checkAll below [] snapshot.roots = .error fault) :
    snapshot.Bears below fault := by
  rw [checkAll_eq_firstFault, firstFault] at failed
  cases first : (snapshot.looksAll below [] snapshot.roots).findSome? snapshot.faultAt? with
  | none =>
    rw [first] at failed
    cases failed
  | some found =>
    rw [first] at failed
    obtain rfl := Except.error.inj failed
    obtain ⟨look, member, finds⟩ := List.exists_of_findSome?_eq_some first
    obtain ⟨root, listed, member⟩ := mem_looksAll.mp member
    obtain ⟨leads, path_leads⟩ := leads_of_mem_looks [] root member
    have reachable : snapshot.Reachable below look.id := ⟨root, listed, leads⟩
    unfold faultAt? at finds
    split at finds
    · rename_i closed
      obtain rfl := Option.some.inj finds
      -- No node was on the path before the root, so the walk itself came from the node to this look.
      exact ⟨reachable, (path_leads look.id closed).resolve_left List.not_mem_nil⟩
    · split at finds
      · rename_i fault unresolved
        obtain rfl := Option.some.inj finds
        obtain ⟨length, rfl, outside, inside⟩ := resolve_eq_error unresolved
        exact ⟨reachable, unresolved, rfl, outside, inside⟩
      · cases finds

private theorem checkAll_eq_forM (path ids : List NodeId) :
    snapshot.checkAll below path ids = ids.forM (snapshot.check below path) := by
  induction ids with
  | nil => rw [checkAll]; rfl
  | cons id rest ih => rw [checkAll, ih]; rfl

private theorem check_eq (path : List NodeId) (id : NodeId) :
    snapshot.check below path id =
      if id ∈ path then .error (.cycle id)
      else snapshot.resolve id >>= fun node =>
        (below node).forM (snapshot.check below (id :: path)) := by
  by_cases closed : id ∈ path
  · rw [check_of_mem closed, if_pos closed]
  · rw [if_neg closed]
    cases resolved : snapshot.resolve id with
    | error fault => exact check_of_error closed resolved
    | ok node =>
      rw [check_of_fresh closed resolved, checkAll_eq_forM]
      rfl

/-- Validation gives the verdict of the walk that remembers nothing but its path: at each node it looks
for the node on the path, resolves it, and goes on with what the node refers to. So the fault is that of
the first look, depth first and from left to right, at which something is wrong. -/
theorem validate_eq_forM_check (snapshot : Snapshot) :
    (snapshot.validate = snapshot.roots.forM (snapshot.check Node.children []) ∧
      ∀ path id, snapshot.check Node.children path id =
        if id ∈ path then .error (.cycle id)
        else do
          let node ← snapshot.resolve id
          node.children.forM (snapshot.check Node.children (id :: path))) ∧
    snapshot.validate = snapshot.firstFault (snapshot.looksAll Node.children [] snapshot.roots) := by
  refine ⟨⟨?_, check_eq⟩, ?_⟩
  · rw [validate_eq_checkAll, checkAll_eq_forM]
  · rw [validate_eq_checkAll, checkAll_eq_firstFault]

end Outliner.Snapshot
