import Outliner.Proofs.Json.Provenance
import Outliner.Proofs.Snapshot.RoundTrip

/-!
Accepted texts. Many texts stand for one snapshot: blanks, escapes, the order of members, unknown or
repeated members, records as lists and other names for a kind make no difference. Main statement: whatever
text a snapshot was read from, the text as which it is written is accepted too, and gives the same snapshot.
-/
set_option autoImplicit false

namespace Outliner

open Json (Shape Draft)

namespace Node

private theorem unrecognized_of_ofTagged {name kind : String} {value : Json} {payload : Payload}
    (tagged : ofTagged name value = .ok (.unrecognized kind payload)) :
    kind = name ∧ name ∉ NodeKind.spellings ∧ payload = .ofJson value := by
  have unknown : NodeKind.ofTag name = .unrecognized := (kind_of_ofTagged tagged).symm
  simp only [ofTagged, unknown, Except.ok.injEq, Node.unrecognized.injEq] at tagged
  exact ⟨tagged.1.symm, NodeKind.ofTag_eq_unrecognized_iff.mp unknown, tagged.2.symm⟩

private theorem kept_of_read {data : Draft.Limited} {kind : String} {payload : Payload}
    (read : shape.read Draft.source data = .ok (.unrecognized kind payload)) :
    kind ∉ NodeKind.spellings ∧ payload.value.depth < data.levels := by
  rw [shape, Shape.read] at read
  obtain ⟨members, shown, made⟩ := Json.bind_eq_ok_iff.mp read
  have shallow := Draft.depth_object_lt shown
  unfold ofMembers at made
  split at made
  · rename_i name value
    obtain ⟨rfl, unknown, rfl⟩ := unrecognized_of_ofTagged made
    refine ⟨unknown, Nat.lt_of_le_of_lt (Json.depth_canonical_le value) ?_⟩
    exact shallow (kind, value) List.mem_cons_self
  · cases made

end Node

namespace Snapshot

private theorem exists_groups_of_read {levels : Nat} {draft : Draft} {snapshot : Snapshot}
    (read : shape.read Draft.source ⟨levels + 1, draft⟩ = .ok snapshot) :
    ∃ roots groups data, snapshot = ofLists roots groups ∧ data.levels = levels ∧
      (Shape.list (.list Node.shape)).read Draft.source data = .ok groups := by
  have drawn := Shape.drawn_of_read_record
    (fun parts shown x inside => Nat.succ.inj (Draft.levels_of_parts shown x inside)) read
  obtain ⟨_, groups, ⟨_, roots, rfl, _, rfl⟩, none | ⟨data, below, found⟩, rfl⟩ := drawn
  · cases none
  · exact ⟨roots, groups, data, rfl, below, found⟩

private theorem exists_node_of_read {levels : Nat} {draft : Draft} {snapshot : Snapshot}
    (read : shape.read Draft.source ⟨levels + 3, draft⟩ = .ok snapshot) {group : Array Node}
    (listed : group ∈ snapshot.groups) {node : Node} (stored : node ∈ group) :
    ∃ data : Draft.Limited, data.levels = levels ∧ Node.shape.read Draft.source data = .ok node := by
  obtain ⟨roots, groups, data, rfl, below, read⟩ := exists_groups_of_read read
  have listed : group.toList ∈ groups := by
    simp only [ofLists, List.mem_toArray, List.mem_map] at listed
    obtain ⟨nodes, listed, rfl⟩ := listed
    exact listed
  obtain ⟨items, shown, list, inside, read⟩ := Shape.exists_of_read_list read listed
  have list_below := Draft.levels_of_items shown list inside
  obtain ⟨items, shown, data, inside, read⟩ :=
    Shape.exists_of_read_list read (Array.mem_toList_iff.mpr stored)
  have node_below := Draft.levels_of_items shown data inside
  exact ⟨data, by omega, read⟩

/-- Whatever text a snapshot was read from, its nodes of unknown kinds have the names of no known kinds
and descriptions of at most 123 nested lists and objects. -/
theorem kept_of_ofText {text : String} {snapshot : Snapshot} (accepted : ofText text = .ok snapshot) :
    ∀ group ∈ snapshot.groups, ∀ kind payload, Node.unrecognized kind payload ∈ group →
      kind ∉ NodeKind.spellings ∧ payload.value.depth ≤ 123 := by
  intro group listed kind payload stored
  obtain ⟨draft, read⟩ := Shape.exists_of_ofText accepted
  obtain ⟨data, levels, read⟩ := exists_node_of_read read listed stored
  obtain ⟨unknown, shallow⟩ := Node.kept_of_read read
  exact ⟨unknown, by omega⟩

/-- Without doubles in it, a snapshot that was read from any text is read again from the text as which
it is written, and that text is then written once more. -/
theorem ofText_compact_of_ofText {text : String} {snapshot : Snapshot}
    (accepted : ofText text = .ok snapshot)
    (free : ∀ group ∈ snapshot.groups, ∀ kind payload,
      Node.unrecognized kind payload ∈ group → payload.value.FloatFree) :
    ofText snapshot.toJson.compact = .ok snapshot ∧
      (ofText snapshot.toJson.compact).map (fun again => again.toJson.compact) =
        .ok snapshot.toJson.compact := by
  have node_free : ∀ group ∈ snapshot.groups, ∀ node ∈ group, node.payload.FloatFree := by
    intro group listed node stored
    refine Node.floatFree_payload ?_
    rintro kind payload rfl
    exact free group listed kind payload stored
  have again : ofText snapshot.toJson.compact = .ok snapshot := by
    rw [ofText_compact_eq_ok_iff_groups, read_groups_eq_ok_iff]
    intro group listed node stored
    refine (Node.read_draft_self_iff (node_free group listed node stored) (by decide)).mpr ?_
    rintro kind payload rfl
    exact kept_of_ofText accepted group listed kind payload stored
  exact ⟨again, by rw [again]; rfl⟩

/-- A text with an unknown member that is repeated and holds half a surrogate pair, with members out of
order, an id as a list, another name and no description for a missing node, and a kind that is named
twice. -/
def looseText : String :=
  "\x7b\"x\":\"\\ud800\", \"groups\":[[\x7b\"Missing\":null\x7d," ++
    "\x7b\"E\":0,\"E\":\x7b\"b\":[],\"a\":-7,\"b\":\"\\u00e9\"\x7d\x7d]],\"x\":1," ++
    "\"moduleIds\":[[0,1]]\x7d"

def looseDraft : Draft :=
  .object [(.ofText "x", .text ⟨[.codeUnit 0xd800], .closed⟩),
    (.ofText "groups", .list [.list [
      .object [(.ofText "Missing", .null)] .closed,
      .object [(.ofText "E", .number (.ofInt 0)),
        (.ofText "E", .object [(.ofText "b", .list [] .closed), (.ofText "a", .number (.ofInt (-7))),
          (.ofText "b", .text ⟨[.codeUnit 0xe9], .closed⟩)] .closed)] .closed] .closed] .closed),
    (.ofText "x", .number (.ofInt 1)),
    (.ofText "moduleIds",
      .list [.list [.number (.ofInt 0), .number (.ofInt 1)] .closed] .closed)] .closed

def looseSnapshot : Snapshot where
  roots := [⟨0, 1⟩]
  groups := #[#[.missing, .unrecognized "E"
    ⟨.obj [("a", .num (.int (-7) (by decide))), ("b", .str "é")],
      ⟨List.pairwise_pair.mpr (show "a" < "b" by decide), trivial, trivial, trivial⟩⟩]]

theorem ofText_compact_looseSnapshot :
    ofText looseText = .ok looseSnapshot ∧
      ofText looseSnapshot.toJson.compact = .ok looseSnapshot := by
  have scanned : Draft.ofText looseText = (looseDraft, false) := by cbv
  have accepted : ofText looseText = .ok looseSnapshot := by
    rw [ofText, Shape.ofText, Json.readText, scanned]
    rfl
  have free : ∀ group ∈ looseSnapshot.groups, ∀ kind payload,
      Node.unrecognized kind payload ∈ group → payload.value.FloatFree := by
    simp [looseSnapshot, Json.FloatFree, Json.FloatFreeMembers]
  exact ⟨accepted, (ofText_compact_of_ofText accepted free).1⟩

end Snapshot

end Outliner
