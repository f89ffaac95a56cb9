import Outliner.Proofs.Snapshot.Recovery

/-!
Round trips of snapshots through their texts. What is known by its kind always comes back. A node of an
unknown kind comes back unless its kind is the name of a known one, or its description is nested too
deeply for the levels that the snapshot around it leaves.
-/
set_option autoImplicit false

namespace Outliner

open Json (Shape Fields View)

/-- The names that stand for a kind with a form of its own. -/
def NodeKind.spellings : List String :=
  ["missing", "Missing", "FunctionDecl", "ModuleDecl", "TranslationUnit", "ProductTypeDecl",
    "ParameterDecl"]

theorem NodeKind.ofTag_eq_unrecognized_iff {name : String} :
    ofTag name = .unrecognized ↔ name ∉ spellings := by
  unfold ofTag
  split <;> simp_all [spellings]

namespace Node

private theorem depth_payload_le {node : Node} (known : node.kind.isKnown = true) :
    node.payload.depth ≤ 3 := by
  cases node with
  | missing => decide
  | functionDecl decl =>
    have ids := NodeId.depth_listToJson_le decl.parameters
    show max 2 (max 0 (max (NodeId.listToJson decl.parameters).depth 0)) + 1 ≤ 3
    omega
  | moduleDecl decl =>
    have ids := NodeId.depth_listToJson_le decl.sources
    show max 0 (max (NodeId.listToJson decl.sources).depth 0) + 1 ≤ 3
    omega
  | translationUnit decl =>
    have ids := NodeId.depth_listToJson_le decl.decls
    show max 2 (max (NodeId.listToJson decl.decls).depth 0) + 1 ≤ 3
    omega
  | productTypeDecl decl =>
    have ids := NodeId.depth_listToJson_le decl.members
    show max 2 (max 0 (max (NodeId.listToJson decl.members).depth 0)) + 1 ≤ 3
    omega
  | parameterDecl decl =>
    obtain ⟨site, identifier, label⟩ := decl
    cases label <;> exact Nat.le_refl 3
  | unrecognized kind payload => cases known

private theorem ofTagged_of_known {node : Node} (known : node.kind.isKnown = true) :
    ofTagged node.rawKind node.payload.canonical = .ok node := by
  cases node with
  | missing => rfl
  | functionDecl decl =>
    exact congrArg (Except.map functionDecl) (Shape.ofValue_canonical FunctionDecl.recovers_shape decl)
  | moduleDecl decl =>
    exact congrArg (Except.map moduleDecl) (Shape.ofValue_canonical ModuleDecl.recovers_shape decl)
  | translationUnit decl =>
    exact congrArg (Except.map translationUnit)
      (Shape.ofValue_canonical TranslationUnit.recovers_shape decl)
  | productTypeDecl decl =>
    exact congrArg (Except.map productTypeDecl)
      (Shape.ofValue_canonical ProductTypeDecl.recovers_shape decl)
  | parameterDecl decl =>
    exact congrArg (Except.map parameterDecl)
      (Shape.ofValue_canonical ParameterDecl.recovers_shape decl)
  | unrecognized kind payload => cases known

theorem kind_of_ofTagged {name : String} {value : Json} {node : Node}
    (tagged : ofTagged name value = .ok node) : node.kind = NodeKind.ofTag name := by
  unfold ofTagged at tagged
  split at tagged
  -- Every other branch maps what it has read into the constructor of its kind.
  case h_7 unknown =>
    obtain rfl := Except.ok.inj tagged
    exact unknown.symm
  all_goals
    rename_i known
    obtain ⟨_, _, rfl⟩ := Json.map_eq_ok_iff.mp tagged
    exact known.symm

private theorem payload_ofJson_canonical (payload : Payload) :
    Payload.ofJson payload.value.canonical = payload := by
  obtain ⟨value, canonical⟩ := payload
  simp only [Payload.ofJson, Payload.mk.injEq]
  rw [Json.canonical_of_canonical value canonical, Json.canonical_of_canonical value canonical]

private theorem ofTagged_unrecognized_eq_ok_iff {kind : String} {payload : Payload} :
    ofTagged kind payload.value.canonical = .ok (.unrecognized kind payload) ↔
      kind ∉ NodeKind.spellings := by
  rw [← NodeKind.ofTag_eq_unrecognized_iff]
  constructor
  · intro tagged
    exact (kind_of_ofTagged tagged).symm
  · intro unknown
    simp only [ofTagged, unknown, payload_ofJson_canonical]

private theorem read_draft_eq_ok_iff {node result : Node} (free : node.payload.FloatFree) (levels : Nat) :
    shape.read Json.Draft.source ⟨levels + 1, node.toJson.draft⟩ = .ok result ↔
      node.payload.depth ≤ levels ∧ ofTagged node.rawKind node.payload.canonical = .ok result := by
  have members := Json.Draft.readMembers_draftMembers levels [] [(node.rawKind, node.payload)]
    ⟨free, trivial⟩
  have run : shape.read Json.Draft.source ⟨levels + 1, node.toJson.draft⟩ =
      Json.Draft.within node.payload.depth levels [(node.rawKind, node.payload)] >>= fun members =>
        ofMembers (Json.sortMembers (Json.canonicalMembers members)) := by
    have alone : Json.depthMembers [(node.rawKind, node.payload)] = node.payload.depth :=
      Nat.max_zero _
    rw [alone] at members
    show (Json.Draft.readMembers levels .closed [] (Json.draftMembers _) >>= fun members =>
      pure (Json.sortMembers (Json.canonicalMembers members))) >>= ofMembers = _
    rw [members, bind_assoc]
    rfl
  rw [run]
  unfold Json.Draft.within
  by_cases fits : node.payload.depth ≤ levels
  · rw [if_pos fits]
    exact (and_iff_right fits).symm
  · rw [if_neg fits]
    constructor
    · intro failed
      cases failed
    · intro both
      exact absurd both.1 fits

theorem floatFree_payload {node : Node}
    (free : ∀ kind payload, node = .unrecognized kind payload → payload.value.FloatFree) :
    node.payload.FloatFree := by
  cases node with
  | missing => trivial
  | functionDecl decl => exact decl.floatFree_toJson
  | moduleDecl decl => exact decl.floatFree_toJson
  | translationUnit decl => exact decl.floatFree_toJson
  | productTypeDecl decl => exact decl.floatFree_toJson
  | parameterDecl decl => exact decl.floatFree_toJson
  | unrecognized kind payload => exact free kind payload rfl

/-- A node is read back exactly if, being of an unknown kind, it has the name of none that is known
and a description that is not nested too deeply. -/
theorem read_draft_self_iff {node : Node} (free : node.payload.FloatFree) {levels : Nat}
    (room : 3 ≤ levels) :
    shape.read Json.Draft.source ⟨levels + 1, node.toJson.draft⟩ = .ok node ↔
      ∀ kind payload, node = .unrecognized kind payload →
        kind ∉ NodeKind.spellings ∧ payload.value.depth ≤ levels := by
  rw [read_draft_eq_ok_iff free]
  by_cases known : node.kind.isKnown = true
  · have shallow := depth_payload_le known
    constructor
    · rintro _ kind payload rfl
      cases known
    · intro _
      exact ⟨Nat.le_trans shallow room, ofTagged_of_known known⟩
  · cases node with
    | unrecognized kind payload =>
      constructor
      · rintro ⟨shallow, tagged⟩ _ _ equal
        obtain ⟨rfl, rfl⟩ := Node.unrecognized.inj equal
        exact ⟨ofTagged_unrecognized_eq_ok_iff.mp tagged, shallow⟩
      · intro all
        obtain ⟨unknown, shallow⟩ := all kind payload rfl
        exact ⟨shallow, ofTagged_unrecognized_eq_ok_iff.mpr unknown⟩
    | _ => exact absurd rfl known

end Node

namespace Snapshot

private theorem eq_ofLists_iff {snapshot : Snapshot} {roots : List NodeId} {groups : List (List Node)} :
    snapshot = ofLists roots groups ↔
      snapshot.roots = roots ∧ snapshot.groups.toList.map Array.toList = groups := by
  obtain ⟨ids, nodes⟩ := snapshot
  constructor
  · intro equal
    obtain ⟨rfl, rfl⟩ := Snapshot.mk.inj equal
    simp [Function.comp_def]
  · rintro ⟨rfl, rfl⟩
    simp [ofLists, Function.comp_def]

theorem ofText_compact_eq_ok_iff_groups {snapshot : Snapshot} :
    ofText snapshot.toJson.compact = .ok snapshot ↔
      (Shape.list (.list Node.shape)).read View.ofDraft.source
        (View.ofDraft.data 126 (.arr (snapshot.groups.toList.map fun group =>
          .arr (group.toList.map Node.toJson)))) =
        .ok (snapshot.groups.toList.map Array.toList) := by
  rw [ofText, Shape.ofText_compact]
  refine (View.ofDraft.read_record_eq_ok_iff (by decide) (by simp)).trans ?_
  refine (Fields.gives_field_iff (by rfl)).trans ?_
  constructor
  · rintro ⟨make, groups, given, read, equal⟩
    obtain ⟨_, roots, rfl, _, rfl⟩ := (Fields.gives_field_iff (by rfl)).mp given
    rw [(eq_ofLists_iff.mp equal).2]
    exact read
  · intro read
    refine ⟨ofLists snapshot.roots, _, ?_, read, eq_ofLists_iff.mpr ⟨rfl, rfl⟩⟩
    refine Fields.gives_field (Fields.gives_make _) rfl ?_
    exact NodeId.recovers_list View.ofDraft 124 snapshot.roots

theorem read_groups_eq_ok_iff {δ : Type} (view : View δ) (levels : Nat) (snapshot : Snapshot) :
    (Shape.list (.list Node.shape)).read view.source
        (view.data (levels + 2) (.arr (snapshot.groups.toList.map fun group =>
          .arr (group.toList.map Node.toJson)))) =
        .ok (snapshot.groups.toList.map Array.toList) ↔
      ∀ group ∈ snapshot.groups, ∀ node ∈ group,
        Node.shape.read view.source (view.data levels node.toJson) = .ok node := by
  rw [View.read_list_eq_ok_iff, List.forall₂_map_left_iff, List.forall₂_map_right_iff,
    List.forall₂_same]
  have group_iff : ∀ group : Array Node, (Shape.list Node.shape).read view.source
      (view.data (levels + 1) (.arr (group.toList.map Node.toJson))) = .ok group.toList ↔
        ∀ node ∈ group, Node.shape.read view.source (view.data levels node.toJson) = .ok node := by
    intro group
    rw [View.read_list_eq_ok_iff, List.forall₂_map_left_iff, List.forall₂_same]
    simp only [Array.mem_toList_iff]
  simp only [group_iff, Array.mem_toList_iff]

/-- Without doubles in it, a snapshot is read back from its text exactly if every node of an unknown
kind has the name of none that is known, and a description of at most 123 nested lists and objects. -/
theorem ofText_compact_eq_ok_iff (snapshot : Snapshot)
    (free : ∀ group ∈ snapshot.groups, ∀ kind payload,
      Node.unrecognized kind payload ∈ group → payload.value.FloatFree) :
    ofText snapshot.toJson.compact = .ok snapshot ↔
      ∀ group ∈ snapshot.groups, ∀ kind payload, Node.unrecognized kind payload ∈ group →
        kind ∉ NodeKind.spellings ∧ payload.value.depth ≤ 123 := by
  have node_free : ∀ group ∈ snapshot.groups, ∀ node ∈ group, node.payload.FloatFree := by
    intro group listed node stored
    refine Node.floatFree_payload ?_
    rintro kind payload rfl
    exact free group listed kind payload stored
  rw [ofText_compact_eq_ok_iff_groups, read_groups_eq_ok_iff]
  -- Of the 127 levels, the snapshot, the list of groups and the group leave 124 to a node.
  constructor
  · intro read group listed kind payload stored
    have back := read group listed _ stored
    exact (Node.read_draft_self_iff (node_free group listed _ stored) (by decide)).mp back
      kind payload rfl
  · intro all group listed node stored
    refine (Node.read_draft_self_iff (node_free group listed node stored) (by decide)).mpr ?_
    rintro kind payload rfl
    exact all group listed kind payload stored

def withEnum : Snapshot where
  roots := [⟨0, 0⟩]
  groups := #[#[.moduleDecl ⟨"core", [⟨0, 1⟩]⟩, .unrecognized "EnumDecl"
    ⟨.obj [("cases", .arr [.str "\"é\"\n", .null]),
      ("raw", .num (.int (-0x8000000000000000) (by decide)))],
      by
        refine ⟨List.pairwise_pair.mpr ?_, ⟨trivial, trivial, trivial⟩, trivial, trivial⟩
        show "cases" < "raw"
        decide⟩]]

theorem ofText_compact_withEnum :
    (∀ group ∈ withEnum.groups, ∀ kind payload,
      Node.unrecognized kind payload ∈ group → payload.value.FloatFree) ∧
      ofText withEnum.toJson.compact = .ok withEnum := by
  have free : ∀ group ∈ withEnum.groups, ∀ kind payload,
      Node.unrecognized kind payload ∈ group → payload.value.FloatFree := by
    simp [withEnum, Json.FloatFree, Json.FloatFreeItems, Json.FloatFreeMembers]
  refine ⟨free, (ofText_compact_eq_ok_iff withEnum free).mpr ?_⟩
  simp [withEnum, NodeKind.spellings, Json.depth, Json.depthItems, Json.depthMembers]

end Snapshot

end Outliner
