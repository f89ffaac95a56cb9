import Mathlib.Data.List.Basic
import Outliner.Proofs.Snapshot.Storage
import Outliner.Proofs.Snapshot.Validation

/-!
Visits: how long a validation takes.

A node is expanded only if it has not been entered, and it stays entered from then on. So every stored node
puts visits on the stack at most once: one out of it, and one into each of its children. Main statement: the
walk comes to the verdict after taking at most as many visits off its stack as there are roots and as the
stored nodes can put there, and expands no node twice on its way.
-/
set_option autoImplicit false

namespace Outliner.Snapshot

/-- The number of visits that the nodes can put on the stack: one out of each of them, and one into each of
its children. -/
def visits (nodes : List Node) : Nat :=
  nodes.foldr (fun node total => 1 + node.children.length + total) 0

/-- The number of visits that the nodes which are not taken can still put on the stack. -/
def owed (snapshot : Snapshot) (taken : NodeId → Bool) : Nat :=
  visits ((snapshot.nodes.filter fun entry => !taken entry.1).map Prod.snd)

private theorem visits_cons (node : Node) (nodes : List Node) :
    visits (node :: nodes) = 1 + node.children.length + visits nodes := rfl

private theorem visits_le_of_sublist {first second : List Node} (fewer : first.Sublist second) :
    visits first ≤ visits second := by
  induction fewer with
  | slnil => exact Nat.le_refl _
  | cons node _ ih =>
    rw [visits_cons]
    omega
  | cons_cons node _ ih =>
    rw [visits_cons, visits_cons]
    omega

private theorem free_of_free {taken taken' : NodeId → Bool} (more : ∀ id, taken id = true → taken' id = true)
    (entry : NodeId × Node) (free : (!taken' entry.1) = true) : (!taken entry.1) = true := by
  cases before : taken entry.1 with
  | false => rfl
  | true => simp [more entry.1 before] at free

private theorem owed_le (snapshot : Snapshot) {taken taken' : NodeId → Bool}
    (more : ∀ id, taken id = true → taken' id = true) : snapshot.owed taken' ≤ snapshot.owed taken := by
  have fewer := List.monotone_filter_right snapshot.nodes (free_of_free more)
  exact visits_le_of_sublist (fewer.map Prod.snd)

private theorem owed_le_visits (snapshot : Snapshot) (taken : NodeId → Bool) :
    snapshot.owed taken ≤ visits snapshot.storage := by
  refine visits_le_of_sublist (List.Sublist.trans ?_ snapshot.map_snd_nodes_sublist)
  exact List.filter_sublist.map Prod.snd

private theorem visits_filter_add_le {p q : NodeId × Node → Bool} {entry : NodeId × Node}
    {entries : List (NodeId × Node)} (fewer : ∀ x, p x = true → q x = true) (stored : entry ∈ entries)
    (out : p entry = false) (inside : q entry = true) :
    visits ((entries.filter p).map Prod.snd) + (1 + entry.2.children.length) ≤
      visits ((entries.filter q).map Prod.snd) := by
  induction entries with
  | nil => cases stored
  | cons first rest ih =>
    rcases List.mem_cons.mp stored with rfl | stored
    · have others := visits_le_of_sublist ((List.monotone_filter_right rest fewer).map Prod.snd)
      rw [List.filter_cons_of_neg (by simp [out]), List.filter_cons_of_pos inside, List.map_cons,
        visits_cons]
      omega
    · have others := ih stored
      cases kept : p first with
      | true =>
        rw [List.filter_cons_of_pos kept, List.filter_cons_of_pos (fewer first kept), List.map_cons,
          List.map_cons, visits_cons, visits_cons]
        omega
      | false =>
        have more : visits ((rest.filter q).map Prod.snd) ≤
            visits (((first :: rest).filter q).map Prod.snd) :=
          visits_le_of_sublist (((List.sublist_cons_self first rest).filter q).map Prod.snd)
        rw [List.filter_cons_of_neg (by simp [kept])]
        omega

/-- A stored node that is taken does not put its visits on the stack again. -/
theorem owed_add_le {snapshot : Snapshot} {taken taken' : NodeId → Bool} {id : NodeId} {node : Node}
    (more : ∀ x, taken x = true → taken' x = true) (resolved : snapshot.resolve id = .ok node)
    (before : taken id = false) (after : taken' id = true) :
    snapshot.owed taken' + (1 + node.children.length) ≤ snapshot.owed taken := by
  have stored : (id, node) ∈ snapshot.nodes := mem_nodes.mpr resolved
  refine visits_filter_add_le (free_of_free more) stored ?_ ?_
  · simp [after]
  · simp [before]

namespace Walk

variable {snapshot : Snapshot}

/-- The states of a walk one after the other, up to the one that comes to the verdict. -/
inductive Runs (snapshot : Snapshot) : Walk → List Walk → Except StructureFault Unit → Prop
  | done {walk : Walk} {verdict : Except StructureFault Unit} (last : walk.step snapshot = .done verdict) :
      Runs snapshot walk [walk] verdict
  | more {walk next : Walk} {states : List Walk} {verdict : Except StructureFault Unit}
      (first : walk.step snapshot = .more next) (later : Runs snapshot next states verdict) :
      Runs snapshot walk (walk :: states) verdict

def pops (walk : Walk) : Bool :=
  !walk.stack.isEmpty

/-- In this state the node is expanded: the visit into it is taken off the stack, and visits into its
children and out of it are put there instead. -/
def Expands (snapshot : Snapshot) (walk : Walk) (id : NodeId) : Prop :=
  ∃ node rest next, walk.stack = .enter id :: rest ∧ snapshot.resolve id = .ok node ∧
    walk.step snapshot = .more next ∧ next.stack = node.children.map .enter ++ .leave id :: rest

private theorem entered_of_expands {walk next : Walk} {id : NodeId} (expands : walk.Expands snapshot id)
    (taken : walk.step snapshot = .more next) : walk.entered id = false ∧ next.entered id = true := by
  obtain ⟨node, rest, next', top, _, taken', pushed⟩ := expands
  rw [taken] at taken'
  obtain rfl := Progress.more.inj taken'
  rcases step_cases taken with ⟨x, _, top', _⟩ | ⟨x, rest', top', same⟩ |
    ⟨x, _, _, top', _, fresh, same⟩
  · rw [top] at top'
    cases top'
  · -- Passing over a node puts nothing on the stack.
    rw [top] at top'
    obtain ⟨-, rfl⟩ := List.cons.inj top'
    have lengths := congrArg List.length pushed
    rw [same] at lengths
    simp only [List.length_append, List.length_map, List.length_cons] at lengths
    omega
  · rw [top] at top'
    obtain ⟨head, -⟩ := List.cons.inj top'
    obtain rfl := Visit.enter.inj head
    refine ⟨fresh, ?_⟩
    rw [same]
    simp [entered]

/-- The number of visits on the stack and of those that can still be put there. -/
def potential (snapshot : Snapshot) (walk : Walk) : Nat :=
  walk.stack.length + snapshot.owed walk.entered

private theorem potential_step {walk next : Walk} (taken : walk.step snapshot = .more next) :
    next.potential snapshot < walk.potential snapshot := by
  have kept : ∀ x, walk.entered x = true → next.entered x = true := fun _ => entered_step taken
  unfold potential
  rcases step_cases taken with ⟨id, rest, top, same⟩ | ⟨id, rest, top, same⟩ |
    ⟨id, rest, node, top, resolved, fresh, same⟩
  · have still := snapshot.owed_le kept
    have shorter : next.stack = rest := by rw [same, leave]
    rw [top, shorter, List.length_cons]
    omega
  · have still := snapshot.owed_le kept
    have shorter : next.stack = rest := by rw [same]
    rw [top, shorter, List.length_cons]
    omega
  · have entered : next.entered id = true := by
      rw [same]
      simp [Walk.entered]
    have less := owed_add_le kept resolved fresh entered
    have pushed : next.stack = node.children.map .enter ++ .leave id :: rest := by rw [same]
    rw [top, pushed, List.length_append, List.length_map, List.length_cons, List.length_cons]
    omega

private theorem exists_runs (snapshot : Snapshot) (walk : Walk) :
    ∃ states, Runs snapshot walk states (walk.run snapshot) := by
  rw [run_eq_finish]
  cases taken : walk.step snapshot with
  | done verdict => exact ⟨[walk], .done taken⟩
  | more next =>
    have less := potential_step taken
    obtain ⟨states, later⟩ := exists_runs snapshot next
    exact ⟨walk :: states, .more taken later⟩
termination_by walk.potential snapshot

private theorem entered_of_runs {walk : Walk} {states : List Walk} {verdict : Except StructureFault Unit}
    (runs : Runs snapshot walk states verdict) {id : NodeId} (entered : walk.entered id = true) :
    ∀ later ∈ states, later.entered id = true := by
  induction runs with
  | done last =>
    intro later member
    rw [List.mem_singleton.mp member]
    exact entered
  | more first _ ih => exact List.forall_mem_cons.mpr ⟨entered, ih (entered_step first entered)⟩

private theorem not_expands_of_entered {walk : Walk} {id : NodeId} (entered : walk.entered id = true) :
    ¬ walk.Expands snapshot id := by
  intro expands
  have ⟨_, _, next, _, _, taken, _⟩ := expands
  have fresh := (entered_of_expands expands taken).1
  rw [entered] at fresh
  cases fresh

private theorem pairwise_expands_of_runs {walk : Walk} {states : List Walk}
    {verdict : Except StructureFault Unit} (runs : Runs snapshot walk states verdict) :
    states.Pairwise fun earlier later =>
      ∀ id, earlier.Expands snapshot id → ¬ later.Expands snapshot id := by
  induction runs with
  | done last => exact List.pairwise_singleton _ _
  | more first later ih =>
    refine List.pairwise_cons.mpr ⟨?_, ih⟩
    intro state member id expands
    have entered := (entered_of_expands expands first).2
    exact not_expands_of_entered (entered_of_runs later entered state member)

private theorem length_pops_le_potential {walk : Walk} {states : List Walk}
    {verdict : Except StructureFault Unit} (runs : Runs snapshot walk states verdict) :
    (states.filter pops).length ≤ walk.potential snapshot := by
  induction runs with
  | @done walk verdict last =>
    cases empty : walk.stack with
    | nil => simp [pops, empty]
    | cons visit rest =>
      have one : ([walk].filter pops).length ≤ 1 := List.length_filter_le _ _
      rw [potential, empty, List.length_cons]
      omega
  | @more walk next states verdict first later ih =>
    have less := potential_step first
    have step : ((walk :: states).filter pops).length ≤ (states.filter pops).length + 1 := by
      rw [List.filter_cons]
      split
      · exact Nat.le_refl _
      · exact Nat.le_succ _
    omega

end Walk

/-- A validation ends, whatever the references of the snapshot are. Its walk expands no node twice, and it
takes at most as many visits off the stack as there are roots, stored nodes, and children of stored nodes. -/
theorem validate_ends (snapshot : Snapshot) :
    ∃ states, Walk.Runs snapshot ⟨snapshot.roots.map .enter, ∅, ∅⟩ states snapshot.validate ∧
      states.Pairwise (fun earlier later =>
        ∀ id, earlier.Expands snapshot id → ¬ later.Expands snapshot id) ∧
      (states.filter Walk.pops).length ≤ snapshot.roots.length + visits snapshot.storage := by
  obtain ⟨states, runs⟩ := Walk.exists_runs snapshot ⟨snapshot.roots.map .enter, ∅, ∅⟩
  have popped := Walk.length_pops_le_potential runs
  have owed := snapshot.owed_le_visits (Walk.entered ⟨snapshot.roots.map .enter, ∅, ∅⟩)
  refine ⟨states, runs, Walk.pairwise_expands_of_runs runs, ?_⟩
  rw [Walk.potential, List.length_map] at popped
  omega

end Outliner.Snapshot
