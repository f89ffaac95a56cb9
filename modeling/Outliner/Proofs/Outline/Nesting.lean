import Outliner.Outline.Walk
import Outliner.Outline.Wire
import Outliner.Proofs.Json.Limit
import Outliner.Proofs.Snapshot.Recovery

/-!
Nesting: how deep a tree of entries may be so that it can be read from its text. The walk that finds the
depth of a tree finds its height. As a value, a tree nests two lists or objects for every entry on its
longest path, or one less. Main statement: whatever the layout of its text, a tree is read back if at most
127 lists and objects are nested in it, and otherwise the text is refused for that reason.
-/
set_option autoImplicit false

namespace Outliner

open Json (Shape Fields Draft Layout)

theorem Category.recovers_shape : shape.Recovers toJson 0 := by
  have listed : ∀ category, names.lookup category.name = some category := by
    intro category
    cases category <;> rfl
  intro δ view levels category
  exact Shape.recovers_choice listed view levels category

theorem Action.recovers_shape : shape.Recovers toJson 0 := by
  have listed : ∀ action, names.lookup action.name = some action := by
    intro action
    cases action <;> rfl
  intro δ view levels action
  exact Shape.recovers_choice listed view levels action

namespace Entry

mutual

/-- The number of entries on the longest path downward. -/
def height : Entry → Nat
  | ⟨_, _, _, _, _, children, _⟩ => heightAll children + 1

def heightAll : List Entry → Nat
  | [] => 0
  | entry :: rest => max entry.height (heightAll rest)

end

theorem height_eq (entry : Entry) : entry.height = heightAll entry.children + 1 := by
  cases entry
  rw [height]

theorem heightAll_le_iff {entries : List Entry} {bound : Nat} :
    heightAll entries ≤ bound ↔ ∀ entry ∈ entries, entry.height ≤ bound := by
  induction entries with
  | nil => simp [heightAll]
  | cons entry rest ih => rw [heightAll, Nat.max_le, ih, List.forall_mem_cons]

/-- The greatest depth at which an entry stands in trees whose roots stand at the given depths. -/
def reach : List (Entry × Nat) → Nat
  | [] => 0
  | (entry, depth) :: rest => max (depth + heightAll entry.children) (reach rest)

private theorem reach_append (first second : List (Entry × Nat)) :
    reach (first ++ second) = max (reach first) (reach second) := by
  induction first with
  | nil => simp [reach]
  | cons pair rest ih => rw [List.cons_append, reach, reach, ih, Nat.max_assoc]

private theorem max_reach_atDepth (depth : Nat) (entries : List Entry) :
    max depth (reach (atDepth (depth + 1) entries)) = depth + heightAll entries := by
  induction entries with
  | nil => simp [atDepth, reach, heightAll]
  | cons entry rest ih =>
    have unfolded : reach (atDepth (depth + 1) (entry :: rest)) =
        max (depth + 1 + heightAll entry.children) (reach (atDepth (depth + 1) rest)) := rfl
    rw [unfolded, heightAll, height_eq]
    omega

theorem max_reach_visit (met depth : Nat) (entry : Entry) (rest : List (Entry × Nat)) :
    max (max met depth) (reach (atDepth (depth + 1) entry.children ++ rest)) =
      max met (reach ((entry, depth) :: rest)) := by
  have below := max_reach_atDepth depth entry.children
  rw [reach_append, reach, ← below]
  omega

private theorem deepest_eq_max (met : Nat) (stack : List (Entry × Nat)) :
    deepest met stack = max met (reach stack) := by
  fun_induction deepest met stack with
  | case1 met => simp [reach]
  | case2 met entry depth rest ih => rw [ih, max_reach_visit]

theorem depth_eq_height (entry : Entry) : entry.depth = entry.height := by
  rw [depth, deepest_eq_max, height_eq, reach, reach]
  omega

def members (entry : Entry) : List (String × Json) :=
  [("label", .str entry.label), ("category", entry.category.toJson)]
    ++ memberIf "node" NodeId.toJson entry.node
    ++ memberIf "tooltip" Json.str entry.tooltip
    ++ memberIf "diagnostic" Json.str entry.diagnostic
    ++ memberUnlessEmpty "children" (entry.children.map toJson)
    ++ memberUnlessEmpty "actions" (entry.actions.map Action.toJson)

private theorem allToJson_eq_map (entries : List Entry) : allToJson entries = entries.map toJson := by
  induction entries with
  | nil => rfl
  | cons entry rest ih => rw [allToJson, ih, List.map_cons]

private theorem toJson_eq (entry : Entry) : entry.toJson = .obj entry.members := by
  cases entry
  rw [toJson, allToJson_eq_map, members]

private theorem lookup_memberIf {α : Type} (key : String) (toJson : α → Json) (value : Option α)
    (name : String) :
    (memberIf key toJson value).lookup name = if name == key then value.map toJson else none := by
  cases value with
  | none => simp [memberIf]
  | some value =>
    rw [memberIf, List.lookup_cons]
    cases name == key <;> rfl

private def unlessEmpty (items : List Json) : Option Json :=
  if items = [] then none else some (.arr items)

private theorem lookup_memberUnlessEmpty (key : String) (items : List Json) (name : String) :
    (memberUnlessEmpty key items).lookup name = if name == key then unlessEmpty items else none := by
  cases items with
  | nil => simp [memberUnlessEmpty, unlessEmpty]
  | cons item rest =>
    rw [memberUnlessEmpty, List.lookup_cons]
    · cases name == key <;> rfl
    · simp

private theorem keys_memberIf_sublist {α : Type} (key : String) (toJson : α → Json) (value : Option α) :
    ((memberIf key toJson value).map (·.1)).Sublist [key] := by
  cases value <;> simp [memberIf]

private theorem keys_memberUnlessEmpty_sublist (key : String) (items : List Json) :
    ((memberUnlessEmpty key items).map (·.1)).Sublist [key] := by
  cases items <;> simp [memberUnlessEmpty]

private theorem keys_sublist (entry : Entry) : (entry.members.map (·.1)).Sublist
    ["label", "category", "node", "tooltip", "diagnostic", "children", "actions"] := by
  simp only [members, List.map_append]
  exact (((((List.Sublist.refl ["label", "category"]).append
    (keys_memberIf_sublist "node" _ _)).append (keys_memberIf_sublist "tooltip" _ _)).append
    (keys_memberIf_sublist "diagnostic" _ _)).append (keys_memberUnlessEmpty_sublist "children" _)).append
    (keys_memberUnlessEmpty_sublist "actions" _)

section Within

variable {levels : Nat}

private theorem readsWithin_node (id : NodeId) : NodeId.shape.ReadsWithin levels id.toJson id := by
  have known : ∀ member ∈ [("group", Json.ofUInt32 id.group), ("offset", .ofUInt32 id.offset)],
      member.1 ∈ ["offset", "group"] := by simp
  refine Shape.readsWithin_record (by decide) (by simp) known fun below _ => ?_
  exact ⟨_, _, ⟨_, _, rfl, Shape.recovers_word.readsWithin rfl below, rfl⟩,
    Shape.recovers_word.readsWithin rfl below, rfl⟩

private theorem heldWithin_optional {α : Type} {shape : Shape α} {encode : α → Json}
    (reads : ∀ value, shape.ReadsWithin levels (encode value) value)
    (present : ∀ value, encode value ≠ .null) (value : Option α) :
    shape.optional.HeldWithin (some none) levels value (value.map encode) := by
  cases value with
  | none => rfl
  | some value => exact Shape.readsWithin_optional (reads value) (present value)

private theorem heldWithin_list {α : Type} {shape : Shape α} {encode : α → Json} {values : List α}
    (reads : ∀ below, levels = below + 1 → ∀ value ∈ values, shape.ReadsWithin below (encode value) value) :
    shape.list.HeldWithin (some []) levels values (unlessEmpty (values.map encode)) := by
  cases values with
  | nil => rfl
  | cons first rest =>
    refine Shape.readsWithin_list fun below same => ?_
    rw [List.forall₂_map_left_iff, List.forall₂_same]
    exact reads below same

private theorem readsWithin_entry {depth : Nat} (entry : Entry)
    (children : ∀ below, levels = below + 2 → ∀ child ∈ entry.children,
      (shapeTo depth).ReadsWithin below child.toJson child) :
    (shapeTo (depth + 1)).ReadsWithin levels entry.toJson entry := by
  rw [toJson_eq]
  have known : ∀ member ∈ entry.members, member.1 ∈
      ["actions", "children", "diagnostic", "tooltip", "node", "category", "label"] := by
    intro member inside
    exact List.mem_reverse.mpr (entry.keys_sublist.subset (List.mem_map_of_mem inside))
  have distinct :
      ["actions", "children", "diagnostic", "tooltip", "node", "category", "label"].Nodup := by decide
  refine Shape.readsWithin_record distinct (entry.keys_sublist.nodup (by decide)) known fun below same => ?_
  have label : entry.members.lookup "label" = some (.str entry.label) := by simp [members]
  have category : entry.members.lookup "category" = some entry.category.toJson := by
    simp [members, List.lookup_cons]
  have node : entry.members.lookup "node" = entry.node.map NodeId.toJson := by
    simp [members, List.lookup_append, List.lookup_cons, lookup_memberIf, lookup_memberUnlessEmpty]
  have tooltip : entry.members.lookup "tooltip" = entry.tooltip.map Json.str := by
    simp [members, List.lookup_append, List.lookup_cons, lookup_memberIf, lookup_memberUnlessEmpty]
  have diagnostic : entry.members.lookup "diagnostic" = entry.diagnostic.map Json.str := by
    simp [members, List.lookup_append, List.lookup_cons, lookup_memberIf, lookup_memberUnlessEmpty]
  have inner : entry.members.lookup "children" = unlessEmpty (entry.children.map toJson) := by
    simp [members, List.lookup_append, List.lookup_cons, lookup_memberIf, lookup_memberUnlessEmpty]
  have actions : entry.members.lookup "actions" = unlessEmpty (entry.actions.map Action.toJson) := by
    simp [members, List.lookup_append, List.lookup_cons, lookup_memberIf, lookup_memberUnlessEmpty]
  have reads_text : ∀ text : String, Shape.text.ReadsWithin below (.str text) text :=
    fun text => Shape.recovers_text.readsWithin rfl below
  refine ⟨_, entry.actions, ⟨_, entry.children, ⟨_, entry.diagnostic, ⟨_, entry.tooltip,
    ⟨_, entry.node, ⟨_, entry.category, ⟨_, entry.label, rfl, ?_, rfl⟩, ?_, rfl⟩, ?_, rfl⟩, ?_, rfl⟩,
    ?_, rfl⟩, ?_, rfl⟩, ?_, by cases entry; rfl⟩
  · rw [label]
    exact reads_text entry.label
  · rw [category]
    exact Category.recovers_shape.readsWithin rfl below
  · rw [node]
    exact heldWithin_optional readsWithin_node (fun _ => Json.noConfusion) entry.node
  · rw [tooltip]
    exact heldWithin_optional reads_text (fun _ => Json.noConfusion) entry.tooltip
  · rw [diagnostic]
    exact heldWithin_optional reads_text (fun _ => Json.noConfusion) entry.diagnostic
  · rw [inner]
    exact heldWithin_list fun lower next => children lower (by omega)
  · rw [actions]
    exact heldWithin_list fun lower _ action _ => Action.recovers_shape.readsWithin rfl lower

end Within

/-- As long as there are fewer than twice as many levels as the shape is deep, nothing but the levels keeps
an entry from being read. -/
theorem readsWithin_shapeTo {depth levels : Nat} (room : levels < 2 * depth) (entry : Entry) :
    (shapeTo depth).ReadsWithin levels entry.toJson entry := by
  induction depth generalizing levels entry with
  | zero => omega
  | succ depth ih => exact readsWithin_entry entry fun below same child _ => ih (by omega) child

private theorem ofText_text_toJson (layout : Layout) (entry : Entry) :
    shape.ofText (layout.text entry.toJson) =
      Draft.within entry.toJson.depth Draft.maxLevels entry := by
  rw [Shape.ofText_text]
  exact readsWithin_shapeTo (by decide) entry

private theorem depthMembers_append (first second : List (String × Json)) :
    Json.depthMembers (first ++ second) = max (Json.depthMembers first) (Json.depthMembers second) := by
  induction first with
  | nil => simp [Json.depthMembers]
  | cons member rest ih => rw [List.cons_append, Json.depthMembers, Json.depthMembers, ih, Nat.max_assoc]

private theorem depth_memberIf_le {α : Type} (key : String) {toJson : α → Json} {bound : Nat}
    (shallow : ∀ value, (toJson value).depth ≤ bound) (value : Option α) :
    Json.depthMembers (memberIf key toJson value) ≤ bound := by
  cases value with
  | none => exact Nat.zero_le bound
  | some value => exact Nat.max_le.mpr ⟨shallow value, Nat.zero_le bound⟩

private theorem depth_memberUnlessEmpty (key : String) (items : List Json) :
    Json.depthMembers (memberUnlessEmpty key items) =
      if items = [] then 0 else Json.depthItems items + 1 := by
  cases items with
  | nil => rfl
  | cons item rest => simp [memberUnlessEmpty, Json.depthMembers, Json.depth]

private theorem depthItems_actions (actions : List Action) :
    Json.depthItems (actions.map Action.toJson) = 0 := by
  refine Nat.le_zero.mp (Json.depthItems_le_iff.mpr fun item inside => ?_)
  obtain ⟨action, _, rfl⟩ := List.mem_map.mp inside
  exact Nat.le_refl 0

private theorem depth_toJson_eq (entry : Entry) : ∃ rest ≤ 1, entry.toJson.depth =
    max rest (Json.depthMembers (memberUnlessEmpty "children" (entry.children.map toJson))) + 1 := by
  have id_depth : ∀ id : NodeId, id.toJson.depth ≤ 1 := fun _ => Nat.le_refl 1
  have text_depth : ∀ text, (Json.str text).depth ≤ 1 := fun _ => Nat.zero_le 1
  have node := depth_memberIf_le "node" id_depth entry.node
  have tooltip := depth_memberIf_le "tooltip" text_depth entry.tooltip
  have diagnostic := depth_memberIf_le "diagnostic" text_depth entry.diagnostic
  have actions : Json.depthMembers
      (memberUnlessEmpty "actions" (entry.actions.map Action.toJson)) ≤ 1 := by
    rw [depth_memberUnlessEmpty, depthItems_actions]
    split <;> omega
  have texts : Json.depthMembers [("label", .str entry.label), ("category", entry.category.toJson)] = 0 :=
    rfl
  rw [toJson_eq, Json.depth, members]
  simp only [depthMembers_append, texts]
  exact ⟨max (max (max (Json.depthMembers (memberIf "node" NodeId.toJson entry.node))
    (Json.depthMembers (memberIf "tooltip" Json.str entry.tooltip)))
    (Json.depthMembers (memberIf "diagnostic" Json.str entry.diagnostic)))
    (Json.depthMembers (memberUnlessEmpty "actions" (entry.actions.map Action.toJson))),
    by omega, by omega⟩

private theorem bounds_of_children (entry : Entry)
    (lower : 2 * heightAll entry.children ≤ Json.depthItems (entry.children.map toJson) + 1)
    (upper : Json.depthItems (entry.children.map toJson) ≤ 2 * heightAll entry.children) :
    2 * entry.height ≤ entry.toJson.depth + 1 ∧ entry.toJson.depth ≤ 2 * entry.height := by
  obtain ⟨rest, small, depth⟩ := entry.depth_toJson_eq
  rw [depth, height_eq, depth_memberUnlessEmpty]
  split
  · rename_i childless
    rw [List.map_eq_nil_iff.mp childless, heightAll]
    omega
  · omega

mutual

/-- A tree nests two levels for every entry on its longest path, or one less. -/
theorem depth_toJson_bounds : (entry : Entry) →
    2 * entry.height ≤ entry.toJson.depth + 1 ∧ entry.toJson.depth ≤ 2 * entry.height
  | ⟨label, category, node, tooltip, diagnostic, children, actions⟩ =>
    have bounds := depthItems_bounds children
    bounds_of_children ⟨label, category, node, tooltip, diagnostic, children, actions⟩ bounds.1 bounds.2

private theorem depthItems_bounds : (entries : List Entry) →
    2 * heightAll entries ≤ Json.depthItems (entries.map toJson) + 1 ∧
      Json.depthItems (entries.map toJson) ≤ 2 * heightAll entries
  | [] => by simp [heightAll, Json.depthItems]
  | entry :: rest => by
    have first := depth_toJson_bounds entry
    have others := depthItems_bounds rest
    rw [List.map_cons, heightAll, Json.depthItems]
    omega

end

/-- A tree with at most 63 entries on its longest path is read back from its text, in one line or with one
member to a line, and a tree with at least 65 entries on it is refused as nested too deeply. -/
theorem ofText_toJson_of_depth (entry : Entry) :
    (entry.depth ≤ 63 → shape.ofText entry.toJson.compact = .ok entry ∧
      shape.ofText entry.toJson.pretty = .ok entry) ∧
    (65 ≤ entry.depth →
      (shape.ofText entry.toJson.compact).mapError Json.Fault.message = .error "recursion limit exceeded" ∧
      (shape.ofText entry.toJson.pretty).mapError Json.Fault.message =
        .error "recursion limit exceeded") := by
  obtain ⟨lower, upper⟩ := entry.depth_toJson_bounds
  rw [Layout.compact_eq_text, Layout.pretty_eq_text, ofText_text_toJson, ofText_text_toJson,
    depth_eq_height]
  have limit : Draft.maxLevels = 127 := rfl
  constructor
  · intro shallow
    rw [Draft.within_of_le (by omega)]
    exact ⟨rfl, rfl⟩
  · intro deep
    rw [Draft.within_of_lt (by omega)]
    exact ⟨rfl, rfl⟩

/-- A path of entries, each with an action and all but the last with one child. -/
def path : Nat → Entry
  | 0 => { label := "leaf", category := .parameter, node := some ⟨0, 1⟩, actions := [.openSourceFile] }
  | below + 1 => { label := "inner", category := .module, tooltip := some "core", children := [path below] }

theorem depth_path (below : Nat) : (path below).depth = below + 1 := by
  rw [depth_eq_height]
  induction below with
  | zero => rfl
  | succ below ih => rw [height_eq, path, heightAll, heightAll, ih, Nat.max_zero]

theorem ofText_toJson_path :
    ((path 62).depth ≤ 63 ∧ shape.ofText (path 62).toJson.compact = .ok (path 62)) ∧
      65 ≤ (path 64).depth ∧ (shape.ofText (path 64).toJson.pretty).mapError Json.Fault.message =
        .error "recursion limit exceeded" := by
  have shallow : (path 62).depth ≤ 63 := Nat.le_of_eq (depth_path 62)
  have deep : 65 ≤ (path 64).depth := Nat.le_of_eq (depth_path 64).symm
  exact ⟨⟨shallow, ((ofText_toJson_of_depth (path 62)).1 shallow).1⟩, deep,
    ((ofText_toJson_of_depth (path 64)).2 deep).2⟩

end Entry

end Outliner
