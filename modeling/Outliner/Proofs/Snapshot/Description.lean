import Outliner.Proofs.Snapshot.Meaning

/-!
Descriptions: what stands beside the name of a known kind, read on its own.

On its own, a description is read off the text as it comes. Within a node it is first read whole as a value,
whose members are then met in the order of their keys, and a list that is too long is refused by its length.
Main statement: both ways accept the same descriptions and make the same of them, for every known kind and
every value but `null`.
-/
set_option autoImplicit false

namespace Outliner

open Json (Shape Layout Readable)

private theorem Json.Shape.Means.ofText_text_eq_ok_iff {α : Type} {shape : Shape α}
    {meaning : Json → Option α}
    (means : shape.Means meaning) {value : Json} (readable : Readable Draft.maxLevels value)
    (layout : Layout) (result : α) :
    shape.ofText (layout.text value) = .ok result ↔ meaning value = some result := by
  rw [Shape.ofText_text]
  exact means View.ofDraft View.exact_ofDraft readable result

namespace Node

/-- The value is read alike on its own and beside the name of its kind, in texts of any layout, and beside
that name nothing is read but a node of its kind. -/
structure ReadAlike {α : Type} (tag : String) (shape : Shape α) (make : α → Node) (value : Json) :
    Prop where
  same : ∀ (alone within : Layout) (result : α),
    shape.ofText (alone.text value) = .ok result ↔
      Node.shape.ofText (within.text (.obj [(tag, value)])) = .ok (make result)
  kind : ∀ (within : Layout) (node : Node),
    Node.shape.ofText (within.text (.obj [(tag, value)])) = .ok node → ∃ result, node = make result

private theorem readable_obj_singleton {levels : Nat} {value : Json} (readable : Readable levels value)
    (tag : String) : Readable (levels + 1) (.obj [(tag, value)]) where
  free := ⟨readable.free, trivial⟩
  distinct := ⟨List.nodup_singleton tag, readable.distinct, trivial⟩
  shallow := by
    have shallow := readable.shallow
    simp only [Json.depth, Json.depthMembers]
    omega

private theorem readAlike_of_means {α : Type} {tag : String} {shape : Shape α} {make : α → Node}
    {meaning : Json → Option α} (means : shape.Means meaning) (injective : Function.Injective make)
    (tagged : ∀ value, ofTagged? tag value = (meaning (described value)).map make) {value : Json}
    (present : value ≠ .null) (readable : Readable 126 value) : ReadAlike tag shape make value := by
  have deeper : Readable 127 value :=
    ⟨readable.free, readable.distinct, Nat.le_succ_of_le readable.shallow⟩
  have unchanged : described value = value := by
    cases value with
    | null => exact absurd rfl present
    | _ => rfl
  have alone_iff := means.ofText_text_eq_ok_iff deeper
  have within_iff : ∀ (within : Layout) (node : Node),
      Node.shape.ofText (within.text (.obj [(tag, value)])) = .ok node ↔
        (meaning value).map make = some node := by
    intro within node
    rw [means_shape.ofText_text_eq_ok_iff (readable_obj_singleton readable tag), ofJson?, tagged,
      unchanged]
  constructor
  · intro alone within result
    rw [alone_iff alone, within_iff within, Option.map_eq_some_iff]
    constructor
    · intro meant
      exact ⟨result, meant, rfl⟩
    · rintro ⟨other, meant, same⟩
      rw [← injective same]
      exact meant
  · intro within node read
    obtain ⟨result, _, rfl⟩ := Option.map_eq_some_iff.mp ((within_iff within node).mp read)
    exact ⟨result, rfl⟩

/-- A value other than `null`, with integers only, distinct keys and at most 126 nested lists and objects, is
read on its own as a description of a known kind exactly if it is read so beside the name of the kind. -/
theorem readAlike_of_known (value : Json) (present : value ≠ .null) (free : value.FloatFree)
    (distinct : value.DistinctKeys) (shallow : value.depth ≤ 126) :
    ReadAlike NodeKind.missing.tag missingShape (fun _ => .missing) value ∧
      ReadAlike NodeKind.moduleDecl.tag ModuleDecl.shape .moduleDecl value ∧
      ReadAlike NodeKind.translationUnit.tag TranslationUnit.shape .translationUnit value ∧
      ReadAlike NodeKind.functionDecl.tag FunctionDecl.shape .functionDecl value ∧
      ReadAlike NodeKind.productTypeDecl.tag ProductTypeDecl.shape .productTypeDecl value ∧
      ReadAlike NodeKind.parameterDecl.tag ParameterDecl.shape .parameterDecl value := by
  have readable : Readable 126 value := ⟨free, distinct, shallow⟩
  refine ⟨?_, ?_, ?_, ?_, ?_, ?_⟩
  · exact readAlike_of_means means_missingShape (fun _ _ _ => rfl) (fun _ => rfl) present readable
  · exact readAlike_of_means ModuleDecl.means_shape (fun _ _ => moduleDecl.inj) (fun _ => rfl) present
      readable
  · exact readAlike_of_means TranslationUnit.means_shape (fun _ _ => translationUnit.inj) (fun _ => rfl)
      present readable
  · exact readAlike_of_means FunctionDecl.means_shape (fun _ _ => functionDecl.inj) (fun _ => rfl) present
      readable
  · exact readAlike_of_means ProductTypeDecl.means_shape (fun _ _ => productTypeDecl.inj) (fun _ => rfl)
      present readable
  · exact readAlike_of_means ParameterDecl.means_shape (fun _ _ => parameterDecl.inj) (fun _ => rfl)
      present readable

/-- A parameter as a list without its label, with a site as an object in another order and with a member
that no site has. -/
def looseParameter : Json :=
  .arr [.obj [("fileUrl", .str "a.src"), ("end", .arr [.ofUInt32 1, .ofUInt32 9]), ("note", .arr [.null]),
    ("start", .obj [("line", .ofUInt32 1), ("column", .ofUInt32 1)])], .str "x"]

theorem readAlike_looseParameter :
    (looseParameter ≠ .null ∧ looseParameter.FloatFree ∧ looseParameter.DistinctKeys ∧
      looseParameter.depth ≤ 126) ∧
    ParameterDecl.shape.ofText looseParameter.pretty =
      .ok ⟨⟨⟨1, 1⟩, ⟨1, 9⟩, "a.src"⟩, "x", none⟩ ∧
    Node.shape.ofText (Json.obj [("ParameterDecl", looseParameter)]).compact =
      .ok (.parameterDecl ⟨⟨⟨1, 1⟩, ⟨1, 9⟩, "a.src"⟩, "x", none⟩) := by
  have present : looseParameter ≠ .null := by simp [looseParameter]
  have free : looseParameter.FloatFree := by
    simp [looseParameter, Json.FloatFree, Json.FloatFreeItems, Json.FloatFreeMembers, Json.ofUInt32,
      Json.Number.ofUInt32]
  have distinct : looseParameter.DistinctKeys := by
    simp [looseParameter, Json.DistinctKeys, Json.DistinctKeysItems, Json.DistinctKeysMembers,
      Json.ofUInt32]
  have shallow : looseParameter.depth ≤ 126 := by
    simp [looseParameter, Json.depth, Json.depthItems, Json.depthMembers, Json.ofUInt32]
  obtain ⟨_, _, _, _, _, alike⟩ := readAlike_of_known looseParameter present free distinct shallow
  have alone : ParameterDecl.shape.ofText looseParameter.pretty =
      .ok ⟨⟨⟨1, 1⟩, ⟨1, 9⟩, "a.src"⟩, "x", none⟩ := by
    rw [Layout.pretty_eq_text]
    exact (ParameterDecl.means_shape.ofText_text_eq_ok_iff
      ⟨free, distinct, Nat.le_succ_of_le shallow⟩ _ _).mpr rfl
  refine ⟨⟨present, free, distinct, shallow⟩, alone, ?_⟩
  rw [Layout.pretty_eq_text] at alone
  rw [Layout.compact_eq_text]
  exact (alike.same _ _ _).mp alone

end Node

end Outliner
