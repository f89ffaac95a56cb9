import Outliner.Snapshot.Room
import Std.Data.HashSet

/-!
Validation: everything that the roots lead to resolves, and no node leads back to itself.

The snapshot is walked depth first with a stack of visits. A node is entered once, is on the path
until everything below it is finished, and is finished for good then.
-/
set_option autoImplicit false

namespace Outliner.Snapshot

/-- A step of the walk: into a node, or out of one. -/
inductive Visit where
  | enter (id : NodeId)
  | leave (id : NodeId)
  deriving DecidableEq

structure Walk where
  stack : List Visit
  onPath : Std.HashSet NodeId
  finished : Std.HashSet NodeId

inductive Walk.Progress where
  | more (walk : Walk)
  | done (verdict : Except StructureFault Unit)

namespace Walk

def entered (walk : Walk) (id : NodeId) : Bool :=
  walk.onPath.contains id || walk.finished.contains id

/-- Enters a node: a finished node needs no second look, and a node on the path closes a cycle. -/
def enter (snapshot : Snapshot) (id : NodeId) (walk : Walk) : Progress :=
  if walk.finished.contains id then .more walk
  else if walk.onPath.contains id then .done (.error (.cycle id))
  else
    match snapshot.resolve id with
    | .error fault => .done (.error fault)
    | .ok node =>
      .more { walk with
        stack := node.children.map .enter ++ .leave id :: walk.stack
        onPath := walk.onPath.insert id }

def leave (id : NodeId) (walk : Walk) : Walk :=
  { walk with onPath := walk.onPath.erase id, finished := walk.finished.insert id }

def step (snapshot : Snapshot) (walk : Walk) : Progress :=
  match walk with
  | ⟨[], _, _⟩ => .done (.ok ())
  | ⟨.leave id :: stack, onPath, finished⟩ => .more (leave id ⟨stack, onPath, finished⟩)
  | ⟨.enter id :: stack, onPath, finished⟩ => enter snapshot id ⟨stack, onPath, finished⟩

private theorem enter_cases {snapshot : Snapshot} {id : NodeId} {walk walk' : Walk}
    (h : walk.enter snapshot id = .more walk') :
    walk' = walk ∨ ∃ node, snapshot.resolve id = .ok node ∧ walk.entered id = false ∧
      walk' = { walk with
        stack := node.children.map .enter ++ .leave id :: walk.stack
        onPath := walk.onPath.insert id } := by
  unfold enter at h
  split at h
  · exact .inl (Progress.more.inj h).symm
  · rename_i unfinished
    split at h
    · cases h
    · rename_i offPath
      split at h
      · cases h
      · rename_i node resolved
        refine .inr ⟨node, resolved, ?_, (Progress.more.inj h).symm⟩
        simp [entered, unfinished, offPath]

private theorem entered_push {walk : Walk} (stack : List Visit) (id : NodeId) {x : NodeId}
    (entered : walk.entered x = true) :
    { walk with stack, onPath := walk.onPath.insert id }.entered x = true := by
  simp only [Walk.entered, Std.HashSet.contains_insert, Bool.or_eq_true] at entered ⊢
  exact entered.imp_left .inr

private theorem entered_leave {walk : Walk} (id : NodeId) {x : NodeId} (entered : walk.entered x = true) :
    (walk.leave id).entered x = true := by
  simp only [leave, Walk.entered, Std.HashSet.contains_insert, Std.HashSet.contains_erase,
    Bool.or_eq_true, Bool.and_eq_true] at entered ⊢
  by_cases equal : id = x
  · exact .inr (.inl (beq_iff_eq.mpr equal))
  · exact entered.imp (fun onPath => ⟨by simpa using equal, onPath⟩) .inr

/-- A step leaves a node, passes over one, or expands one that has not been entered. -/
theorem step_cases {snapshot : Snapshot} {walk next : Walk} (taken : walk.step snapshot = .more next) :
    (∃ id rest, walk.stack = .leave id :: rest ∧ next = leave id { walk with stack := rest }) ∨
    (∃ id rest, walk.stack = .enter id :: rest ∧ next = { walk with stack := rest }) ∨
    ∃ id rest node, walk.stack = .enter id :: rest ∧ snapshot.resolve id = .ok node ∧
      walk.entered id = false ∧
      next = { walk with
        stack := node.children.map .enter ++ .leave id :: rest
        onPath := walk.onPath.insert id } := by
  unfold step at taken
  split at taken
  · cases taken
  · rename_i id rest onPath finished
    exact .inl ⟨id, rest, rfl, (Progress.more.inj taken).symm⟩
  · rename_i id rest onPath finished
    rcases enter_cases taken with same | ⟨node, resolved, fresh, same⟩
    · exact .inr (.inl ⟨id, rest, rfl, same⟩)
    · exact .inr (.inr ⟨id, rest, node, rfl, resolved, fresh, same⟩)

theorem entered_step {snapshot : Snapshot} {walk next : Walk} (taken : walk.step snapshot = .more next)
    {id : NodeId} (entered : walk.entered id = true) : next.entered id = true := by
  rcases step_cases taken with ⟨x, rest, _, rfl⟩ | ⟨x, rest, _, rfl⟩ | ⟨x, rest, node, _, _, _, rfl⟩
  · exact entered_leave x entered
  · exact entered
  · exact entered_push _ x entered

def room (snapshot : Snapshot) (walk : Walk) : Nat :=
  snapshot.room walk.entered

private theorem step_lt {snapshot : Snapshot} {walk walk' : Walk} (h : walk.step snapshot = .more walk') :
    Prod.Lex (· < ·) (· < ·) (walk'.room snapshot, walk'.stack.length)
      (walk.room snapshot, walk.stack.length) := by
  have kept : ∀ x, walk.entered x = true → walk'.entered x = true := fun _ => entered_step h
  have fewer : walk'.room snapshot ≤ walk.room snapshot := room_le kept
  rcases step_cases h with ⟨id, rest, top, same⟩ | ⟨id, rest, top, same⟩ |
    ⟨id, rest, node, top, resolved, fresh, same⟩
  · refine Prod.Lex.right' _ fewer ?_
    rw [top, same]
    exact Nat.lt_succ_self _
  · refine Prod.Lex.right' _ fewer ?_
    rw [top, same]
    exact Nat.lt_succ_self _
  · refine Prod.Lex.left _ _ (room_lt kept (mem_ids_of_resolve resolved) fresh ?_)
    simp [same, entered]

set_option linter.unusedVariables false in
def run (snapshot : Snapshot) (walk : Walk) : Except StructureFault Unit :=
  match h : walk.step snapshot with
  | .done verdict => verdict
  | .more walk => run snapshot walk
termination_by (walk.room snapshot, walk.stack.length)
decreasing_by exact step_lt h

end Walk

/-- Checks that everything the roots lead to resolves and that no node leads back to itself; the
fault is the first one met depth first. -/
def validate (snapshot : Snapshot) : Except StructureFault Unit :=
  Walk.run snapshot ⟨snapshot.roots.map .enter, ∅, ∅⟩

end Outliner.Snapshot
