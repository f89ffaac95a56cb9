import Outliner.Proofs.Json.Meaning
import Outliner.Proofs.Snapshot.Acceptance

/-!
Snapshots as values: which values stand for a snapshot, and for which one.

Ids, places, declarations and snapshots are records, written as objects or as lists. A node is an object
whose only key names its kind; the value beside a known name has to fit that kind, and the value beside
any other name is kept as it is. Main statement: the text of a value is read as the snapshot that the value
stands for, and refused if it stands for none.
-/
set_option autoImplicit false

namespace Outliner

open Json (Shape Fields word? text? listOf? nullOr? required? orElse?)

def NodeId.ofJson? (value : Json) : Option NodeId := do
  let held ← value.fields? ["group", "offset"]
  NodeId.mk <$> required? word? (held "group") <*> required? word? (held "offset")

def SourcePosition.ofJson? (value : Json) : Option SourcePosition := do
  let held ← value.fields? ["line", "column"]
  SourcePosition.mk <$> required? word? (held "line") <*> required? word? (held "column")

def SourceRange.ofJson? (value : Json) : Option SourceRange := do
  let held ← value.fields? ["start", "end", "fileUrl"]
  SourceRange.mk <$> required? SourcePosition.ofJson? (held "start")
    <*> required? SourcePosition.ofJson? (held "end") <*> required? text? (held "fileUrl")

theorem NodeId.means_shape : shape.Means ofJson? :=
  Shape.means_record (by decide)
    (Fields.means_field (Fields.means_field (Fields.means_make _) Shape.means_word) Shape.means_word)

private theorem NodeId.means_list : (Shape.list shape).Means (listOf? ofJson?) :=
  Shape.means_list means_shape

theorem SourcePosition.means_shape : shape.Means ofJson? :=
  Shape.means_record (by decide)
    (Fields.means_field (Fields.means_field (Fields.means_make _) Shape.means_word) Shape.means_word)

theorem SourceRange.means_shape : shape.Means ofJson? :=
  Shape.means_record (by decide)
    (Fields.means_field (Fields.means_field (Fields.means_field (Fields.means_make _)
      SourcePosition.means_shape) SourcePosition.means_shape) Shape.means_text)

def ModuleDecl.ofJson? (value : Json) : Option ModuleDecl := do
  let held ← value.fields? ["baseName", "sources"]
  ModuleDecl.mk <$> required? text? (held "baseName")
    <*> orElse? [] (listOf? NodeId.ofJson?) (held "sources")

def TranslationUnit.ofJson? (value : Json) : Option TranslationUnit := do
  let held ← value.fields? ["site", "decls"]
  TranslationUnit.mk <$> required? SourceRange.ofJson? (held "site")
    <*> orElse? [] (listOf? NodeId.ofJson?) (held "decls")

def FunctionDecl.ofJson? (value : Json) : Option FunctionDecl := do
  let held ← value.fields? ["site", "identifier", "parameters"]
  FunctionDecl.mk <$> required? SourceRange.ofJson? (held "site")
    <*> required? text? (held "identifier")
    <*> orElse? [] (listOf? NodeId.ofJson?) (held "parameters")

def ProductTypeDecl.ofJson? (value : Json) : Option ProductTypeDecl := do
  let held ← value.fields? ["site", "identifier", "members"]
  ProductTypeDecl.mk <$> required? SourceRange.ofJson? (held "site")
    <*> required? text? (held "identifier")
    <*> orElse? [] (listOf? NodeId.ofJson?) (held "members")

/-- The parameter that a value stands for; its label may be absent or `null`. -/
def ParameterDecl.ofJson? (value : Json) : Option ParameterDecl := do
  let held ← value.fields? ["site", "identifier", "label"]
  ParameterDecl.mk <$> required? SourceRange.ofJson? (held "site")
    <*> required? text? (held "identifier")
    <*> orElse? none (nullOr? text?) (held "label")

theorem ModuleDecl.means_shape : shape.Means ofJson? :=
  Shape.means_record (by decide)
    (Fields.means_field (Fields.means_field (Fields.means_make _) Shape.means_text) NodeId.means_list)

theorem TranslationUnit.means_shape : shape.Means ofJson? :=
  Shape.means_record (by decide)
    (Fields.means_field (Fields.means_field (Fields.means_make _) SourceRange.means_shape)
      NodeId.means_list)

private theorem means_declaration {α β : Type} (make : SourceRange → String → β → α) {name : String}
    {shape : Shape β} {absent : Option β} {meaning : Json → Option β} (means : shape.Means meaning) :
    (Fields.field (Fields.make make |>.required "site" SourceRange.shape
      |>.required "identifier" .text) name shape absent).Means fun held =>
        make <$> required? SourceRange.ofJson? (held "site") <*> required? text? (held "identifier")
          <*> (held name).elim absent meaning :=
  Fields.means_field (Fields.means_field (Fields.means_field (Fields.means_make _)
    SourceRange.means_shape) Shape.means_text) means

theorem FunctionDecl.means_shape : shape.Means ofJson? :=
  Shape.means_record (by decide) (means_declaration FunctionDecl.mk NodeId.means_list)

theorem ProductTypeDecl.means_shape : shape.Means ofJson? :=
  Shape.means_record (by decide) (means_declaration ProductTypeDecl.mk NodeId.means_list)

theorem ParameterDecl.means_shape : shape.Means ofJson? :=
  Shape.means_record (by decide)
    (means_declaration ParameterDecl.mk (Shape.means_optional Shape.means_text))

namespace Node

def missingOfJson? (value : Json) : Option Unit := do
  let _ ← value.fields? []
  return ()

/-- The node that the name of a kind and the value beside it stand for. A known name takes nothing but
its own kind, and `null` beside it is as good as an empty object. -/
def ofTagged? (tag : String) (value : Json) : Option Node :=
  match tag with
  | "missing" | "Missing" => (missingOfJson? (described value)).map fun _ => .missing
  | "FunctionDecl" => (FunctionDecl.ofJson? (described value)).map .functionDecl
  | "ModuleDecl" => (ModuleDecl.ofJson? (described value)).map .moduleDecl
  | "TranslationUnit" => (TranslationUnit.ofJson? (described value)).map .translationUnit
  | "ProductTypeDecl" => (ProductTypeDecl.ofJson? (described value)).map .productTypeDecl
  | "ParameterDecl" => (ParameterDecl.ofJson? (described value)).map .parameterDecl
  | tag => some (.unrecognized tag (.ofJson value))

def ofJson? : Json → Option Node
  | .obj [(tag, value)] => ofTagged? tag value
  | _ => none

private theorem ofTagged?_of_not_mem {tag : String} (unknown : tag ∉ NodeKind.spellings) (value : Json) :
    ofTagged? tag value = some (.unrecognized tag (.ofJson value)) := by
  unfold ofTagged?
  split <;> simp_all [NodeKind.spellings]

theorem means_missingShape : missingShape.Means missingOfJson? :=
  Shape.means_record (by decide) (Fields.means_make ())

private theorem readable_described {levels : Nat} {value : Json} (readable : value.Readable levels) :
    (described value).Readable (levels + 1) := by
  cases value with
  | null => exact ⟨trivial, ⟨List.nodup_nil, trivial⟩, Nat.succ_le_succ (Nat.zero_le levels)⟩
  | _ => exact ⟨readable.free, readable.distinct, Nat.le_succ_of_le readable.shallow⟩

private theorem map_ofValue_eq_ok_iff {α : Type} {shape : Shape α} {meaning : Json → Option α}
    (means : shape.Means meaning) {levels : Nat} {value : Json} (readable : value.Readable levels)
    {make : α → Node} {result : Node} :
    (shape.ofValue (described value.canonical)).map make = .ok result ↔
      (meaning (described value)).map make = some result := by
  have commutes : described value.canonical = (described value).canonical := by
    cases value <;> rfl
  rw [Json.map_eq_ok_iff, Option.map_eq_some_iff, commutes]
  refine exists_congr fun made => and_congr_left fun _ => ?_
  exact means _ (Json.View.exact_ofCanonical _) (readable_described readable) made

private theorem payload_ofJson_of_canonical (value : Json) :
    Payload.ofJson value.canonical = Payload.ofJson value := by
  simp only [Payload.ofJson, Payload.mk.injEq]
  exact Json.canonical_of_canonical _ value.canonical_canonical

private theorem ofTagged_canonical_eq_ok_iff {levels : Nat} {tag : String} {value : Json}
    (readable : value.Readable levels) {result : Node} :
    ofTagged tag value.canonical = .ok result ↔ ofTagged? tag value = some result := by
  unfold ofTagged?
  split
  · exact map_ofValue_eq_ok_iff means_missingShape readable
  · exact map_ofValue_eq_ok_iff means_missingShape readable
  · exact map_ofValue_eq_ok_iff FunctionDecl.means_shape readable
  · exact map_ofValue_eq_ok_iff ModuleDecl.means_shape readable
  · exact map_ofValue_eq_ok_iff TranslationUnit.means_shape readable
  · exact map_ofValue_eq_ok_iff ProductTypeDecl.means_shape readable
  · exact map_ofValue_eq_ok_iff ParameterDecl.means_shape readable
  · have unknown : NodeKind.ofTag tag = .unrecognized := by
      rw [NodeKind.ofTag_eq_unrecognized_iff]
      simp_all [NodeKind.spellings]
    simp only [ofTagged, unknown, payload_ofJson_of_canonical, Except.ok.injEq, Option.some.injEq]

private theorem ofMembers_of_length_ne {members : List (String × Json)} (several : members.length ≠ 1) :
    ∃ fault, ofMembers members = .error fault := by
  unfold ofMembers
  split
  · exact absurd rfl several
  · exact ⟨_, rfl⟩

private theorem ofJson?_of_length_ne {members : List (String × Json)} (several : members.length ≠ 1) :
    ofJson? (.obj members) = none := by
  unfold ofJson?
  split
  · rename_i equal
    obtain rfl := Json.obj.inj equal
    exact absurd rfl several
  · rfl

private theorem ofMembers_sortMembers_eq_ok_iff {levels : Nat} {members : List (String × Json)}
    (readable : Json.Readable levels (.obj members)) (result : Node) :
    ofMembers (Json.sortMembers (Json.canonicalMembers members)) = .ok result ↔
      ofJson? (.obj members) = some result := by
  by_cases single : members.length = 1
  · obtain ⟨⟨tag, value⟩, rfl⟩ := List.length_eq_one_iff.mp single
    obtain ⟨below, rfl, each⟩ := readable.members
    exact ofTagged_canonical_eq_ok_iff (each _ List.mem_cons_self)
  · -- Distinct keys are only reordered, so there are as many members as before.
    have nodup : ((Json.canonicalMembers members).map (·.1)).Nodup := by
      rw [Json.canonicalMembers_eq_map, List.map_map]
      exact readable.distinct.1
    have length : (Json.sortMembers (Json.canonicalMembers members)).length = members.length := by
      rw [(Json.perm_sortMembers nodup).length_eq, Json.canonicalMembers_eq_map, List.length_map]
    obtain ⟨fault, refused⟩ := ofMembers_of_length_ne (length ▸ single)
    rw [refused, ofJson?_of_length_ne single]
    exact iff_of_false (by rintro ⟨⟩) (by rintro ⟨⟩)

theorem means_shape : shape.Means ofJson? := by
  refine Shape.means_object (fun levels members readable result => ?_) fun value other => ?_
  · exact ofMembers_sortMembers_eq_ok_iff readable result
  · cases value with
    | obj members => exact absurd rfl (other members)
    | _ => rfl

end Node

namespace Snapshot

def ofJson? (value : Json) : Option Snapshot := do
  let held ← value.fields? ["moduleIds", "groups"]
  ofLists <$> required? (listOf? NodeId.ofJson?) (held "moduleIds")
    <*> required? (listOf? (listOf? Node.ofJson?)) (held "groups")

theorem means_shape : shape.Means ofJson? :=
  Shape.means_record (by decide)
    (Fields.means_field (Fields.means_field (Fields.means_make _) NodeId.means_list)
      (Shape.means_list (Shape.means_list Node.means_shape)))

/-- A value with integers only, distinct keys and at most 127 nested lists and objects is read from its
text as the snapshot that it stands for, and its text is refused if it stands for none. Beside an unknown
name every value is kept, but for the order of members, and a known name never gives a node of an unknown
kind. -/
theorem toOption_ofText_compact (value : Json) (free : value.FloatFree)
    (distinct : value.DistinctKeys) (shallow : value.depth ≤ 127) :
    (ofText value.compact).toOption = ofJson? value ∧
      (∀ tag description, tag ∉ NodeKind.spellings → description.DistinctKeys →
        ∃ kept, Node.ofJson? (.obj [(tag, description)]) = some (.unrecognized tag kept) ∧
          description.Reordered kept.value) ∧
      ∀ snapshot, ofText value.compact = .ok snapshot → ∀ group ∈ snapshot.groups,
        ∀ kind payload, Node.unrecognized kind payload ∈ group → kind ∉ NodeKind.spellings := by
  refine ⟨?_, ?_, ?_⟩
  · exact means_shape.toOption_ofText ⟨free, distinct, shallow⟩
  · intro tag description unknown distinct
    exact ⟨.ofJson description, Node.ofTagged?_of_not_mem unknown description,
      Json.reordered_canonical description distinct⟩
  · intro snapshot accepted group listed kind payload stored
    exact (kept_of_ofText accepted group listed kind payload stored).1

/-- A value with a member that no snapshot has, ids as lists and as an object, a parameter as a list
without its label, a missing node under its other name, and a node of an unknown kind. -/
def mixedForms : Json :=
  .obj [("version", .arr [.null]),
    ("groups", .arr [.arr [
      .obj [("ModuleDecl", .obj [("sources", .arr [.arr [.ofUInt32 0, .ofUInt32 1],
        .obj [("offset", .ofUInt32 4294967295), ("note", .null), ("group", .ofUInt32 0)]]),
        ("baseName", .str "core")])],
      .obj [("ParameterDecl", .arr [.arr [.arr [.ofUInt32 1, .ofUInt32 1],
        .obj [("column", .ofUInt32 9), ("line", .ofUInt32 1)], .str "a.src"], .str "x"])],
      .obj [("Missing", .null)],
      .obj [("EnumDecl", .obj [("raw", .null), ("cases", .arr [])])]]]),
    ("moduleIds", .arr [.obj [("group", .ofUInt32 0), ("offset", .ofUInt32 0)]])]

theorem toOption_ofText_mixedForms :
    (mixedForms.FloatFree ∧ mixedForms.DistinctKeys ∧ mixedForms.depth ≤ 127) ∧
      (ofText mixedForms.compact).toOption = some
        { roots := [⟨0, 0⟩]
          groups := #[#[.moduleDecl ⟨"core", [⟨0, 1⟩, ⟨0, 4294967295⟩]⟩,
            .parameterDecl ⟨⟨⟨1, 1⟩, ⟨1, 9⟩, "a.src"⟩, "x", none⟩,
            .missing,
            .unrecognized "EnumDecl" (.ofJson (.obj [("raw", .null), ("cases", .arr [])]))]] } := by
  have free : mixedForms.FloatFree := by
    simp [mixedForms, Json.FloatFree, Json.FloatFreeItems, Json.FloatFreeMembers, Json.ofUInt32,
      Json.Number.ofUInt32]
  have distinct : mixedForms.DistinctKeys := by
    simp [mixedForms, Json.DistinctKeys, Json.DistinctKeysItems, Json.DistinctKeysMembers,
      Json.ofUInt32]
  have shallow : mixedForms.depth ≤ 127 := by
    simp [mixedForms, Json.depth, Json.depthItems, Json.depthMembers, Json.ofUInt32]
  refine ⟨⟨free, distinct, shallow⟩, ?_⟩
  rw [(toOption_ofText_compact mixedForms free distinct shallow).1]
  rfl

end Snapshot

end Outliner
