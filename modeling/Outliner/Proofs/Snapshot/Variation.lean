import Outliner.Proofs.Json.Variation
import Outliner.Proofs.Snapshot.Meaning

/-!
Other writings of a snapshot. Ids, positions, ranges, declarations and the snapshot itself are records: their
members may stand in another order, and members of other names may be inserted. The roots are read as they
stand in the text, and nodes are read as values first, with their members sorted. Main statement: either way,
another writing is read as the same snapshot.
-/
set_option autoImplicit false

namespace Outliner

open Json (Shape Fields Layout View Variation)

def NodeId.variation : Variation :=
  .record [("group", Eq), ("offset", Eq)]

def SourcePosition.variation : Variation :=
  .record [("line", Eq), ("column", Eq)]

def SourceRange.variation : Variation :=
  .record [("start", SourcePosition.variation), ("end", SourcePosition.variation), ("fileUrl", Eq)]

section

variable {δ : Type} (view : View δ)

private theorem NodeId.ignores_shape : shape.Ignores view variation :=
  Shape.ignores_record (by decide) rfl
    ⟨⟨trivial, _, rfl, Shape.ignores_eq⟩, _, rfl, Shape.ignores_eq⟩

private theorem SourcePosition.ignores_shape : shape.Ignores view variation :=
  Shape.ignores_record (by decide) rfl
    ⟨⟨trivial, _, rfl, Shape.ignores_eq⟩, _, rfl, Shape.ignores_eq⟩

private theorem SourceRange.ignores_shape : shape.Ignores view variation :=
  Shape.ignores_record (by decide) rfl
    ⟨⟨⟨trivial, _, rfl, SourcePosition.ignores_shape view⟩, _, rfl, SourcePosition.ignores_shape view⟩,
      _, rfl, Shape.ignores_eq⟩

end

def ModuleDecl.variation : Variation :=
  .record [("baseName", Eq), ("sources", .list NodeId.variation)]

def TranslationUnit.variation : Variation :=
  .record [("site", SourceRange.variation), ("decls", .list NodeId.variation)]

def FunctionDecl.variation : Variation :=
  .record [("site", SourceRange.variation), ("identifier", Eq), ("parameters", .list NodeId.variation)]

def ProductTypeDecl.variation : Variation :=
  .record [("site", SourceRange.variation), ("identifier", Eq), ("members", .list NodeId.variation)]

def ParameterDecl.variation : Variation :=
  .record [("site", SourceRange.variation), ("identifier", Eq), ("label", Eq)]

section

variable {δ : Type} (view : View δ)

private theorem ModuleDecl.ignores_shape : shape.Ignores view variation :=
  Shape.ignores_record (by decide) rfl
    ⟨⟨trivial, _, rfl, Shape.ignores_eq⟩, _, rfl, Shape.ignores_list (NodeId.ignores_shape view)⟩

private theorem TranslationUnit.ignores_shape : shape.Ignores view variation :=
  Shape.ignores_record (by decide) rfl
    ⟨⟨trivial, _, rfl, SourceRange.ignores_shape view⟩, _, rfl, Shape.ignores_list (NodeId.ignores_shape view)⟩

private theorem FunctionDecl.ignores_shape : shape.Ignores view variation :=
  Shape.ignores_record (by decide) rfl
    ⟨⟨⟨trivial, _, rfl, SourceRange.ignores_shape view⟩, _, rfl, Shape.ignores_eq⟩,
      _, rfl, Shape.ignores_list (NodeId.ignores_shape view)⟩

private theorem ProductTypeDecl.ignores_shape : shape.Ignores view variation :=
  Shape.ignores_record (by decide) rfl
    ⟨⟨⟨trivial, _, rfl, SourceRange.ignores_shape view⟩, _, rfl, Shape.ignores_eq⟩,
      _, rfl, Shape.ignores_list (NodeId.ignores_shape view)⟩

private theorem ParameterDecl.ignores_shape : shape.Ignores view variation :=
  Shape.ignores_record (by decide) rfl
    ⟨⟨⟨trivial, _, rfl, SourceRange.ignores_shape view⟩, _, rfl, Shape.ignores_eq⟩,
      _, rfl, Shape.ignores_eq⟩

end

namespace Node

def missingVariation : Variation :=
  .record []

private theorem ignores_missingShape {δ : Type} (view : View δ) :
    missingShape.Ignores view missingVariation :=
  Shape.ignores_record (by decide) rfl trivial

/-- How the value beside the name of a kind may be written: beside an unknown name, as it is. -/
def payloadVariation : NodeKind → Variation
  | .missing => missingVariation
  | .functionDecl => FunctionDecl.variation
  | .moduleDecl => ModuleDecl.variation
  | .translationUnit => TranslationUnit.variation
  | .productTypeDecl => ProductTypeDecl.variation
  | .parameterDecl => ParameterDecl.variation
  | .unrecognized => Eq

def variation : Variation :=
  .object fun tag => payloadVariation (.ofTag tag)

private theorem legible_of_payload {kind : NodeKind} {value other : Json}
    (varied : payloadVariation kind value other) (legible : value.Legible) : other.Legible := by
  cases kind with
  | missing => exact (ignores_missingShape View.ofDraft).legible varied legible
  | functionDecl => exact (FunctionDecl.ignores_shape View.ofDraft).legible varied legible
  | moduleDecl => exact (ModuleDecl.ignores_shape View.ofDraft).legible varied legible
  | translationUnit => exact (TranslationUnit.ignores_shape View.ofDraft).legible varied legible
  | productTypeDecl => exact (ProductTypeDecl.ignores_shape View.ofDraft).legible varied legible
  | parameterDecl => exact (ParameterDecl.ignores_shape View.ofDraft).legible varied legible
  | unrecognized => exact varied ▸ legible

private theorem described_of_ne_null {value : Json} (given : value ≠ .null) :
    described value.readBack.canonical = value.readBack.canonical := by
  cases value with
  | null => exact absurd rfl given
  | _ => rfl

private theorem map_ofValue_of_ignores {α : Type} {shape : Shape α} {table : List (String × Variation)}
    (ignores : ∀ {δ : Type} (view : View δ), shape.Ignores view (.record table)) {value other : Json}
    (varied : Variation.record table value other) {make : α → Node} {node : Node}
    (read : (shape.ofValue (described value.readBack.canonical)).map make = .ok node) :
    (shape.ofValue (described other.readBack.canonical)).map make = .ok node := by
  by_cases absent : value = .null
  · subst absent
    obtain rfl : Json.null = other := varied
    exact read
  · have given : other ≠ .null := by
      rintro rfl
      cases value with
      | null => exact absent rfl
      | _ => cases varied
    rw [described_of_ne_null absent, Json.map_eq_ok_iff] at read
    rw [described_of_ne_null given, Json.map_eq_ok_iff]
    obtain ⟨made, read, rfl⟩ := read
    exact ⟨made, (ignores (View.ofCanonical _).ofReadBack).read varied (Nat.le_refl other.depth) read, rfl⟩

private theorem ofTagged_of_payload {tag : String} {value other : Json}
    (varied : payloadVariation (.ofTag tag) value other) {node : Node}
    (read : ofTagged tag value.readBack.canonical = .ok node) :
    ofTagged tag other.readBack.canonical = .ok node := by
  unfold ofTagged at read ⊢
  generalize NodeKind.ofTag tag = kind at varied read ⊢
  cases kind with
  | missing => exact map_ofValue_of_ignores ignores_missingShape varied read
  | functionDecl => exact map_ofValue_of_ignores FunctionDecl.ignores_shape varied read
  | moduleDecl => exact map_ofValue_of_ignores ModuleDecl.ignores_shape varied read
  | translationUnit => exact map_ofValue_of_ignores TranslationUnit.ignores_shape varied read
  | productTypeDecl => exact map_ofValue_of_ignores ProductTypeDecl.ignores_shape varied read
  | parameterDecl => exact map_ofValue_of_ignores ParameterDecl.ignores_shape varied read
  | unrecognized =>
    obtain rfl : value = other := varied
    exact read

private theorem ofMembers_of_memberwise {members others : List (String × Json)}
    (each : Variation.Memberwise
      (fun tag value other => ∀ node, ofTagged tag value = .ok node → ofTagged tag other = .ok node)
      members others) {node : Node} (read : ofMembers members = .ok node) :
    ofMembers others = .ok node := by
  unfold ofMembers at read
  split at read
  · rename_i tag value
    obtain ⟨⟨_, other⟩, _, ⟨rfl, kept⟩, none, rfl⟩ := List.forall₂_cons_left_iff.mp each
    obtain rfl := List.forall₂_nil_left_iff.mp none
    exact kept node read
  · cases read

private theorem ignores_shape : shape.Ignores View.ofDraft variation := by
  refine Shape.ignores_object legible_of_payload fun {members others node} varied read => ?_
  -- Members are sorted by their names alone, so the ones that are left still correspond.
  refine ofMembers_of_memberwise (Variation.Memberwise.sortMembers ?_) read
  rw [Json.canonicalMembers_eq_map, Json.readBackMembers_eq_map, Json.canonicalMembers_eq_map,
    Json.readBackMembers_eq_map, List.map_map, List.map_map]
  refine List.forall₂_map_left_iff.mpr (List.forall₂_map_right_iff.mpr ?_)
  exact varied.imp fun member other vary =>
    ⟨vary.1, fun node => vary.1 ▸ ofTagged_of_payload vary.2⟩

end Node

namespace Snapshot

def variation : Variation :=
  .record [("moduleIds", .list NodeId.variation), ("groups", .list (.list Node.variation))]

private theorem ignores_shape : shape.Ignores View.ofDraft variation :=
  Shape.ignores_record (by decide) rfl
    ⟨⟨trivial, _, rfl, Shape.ignores_list (NodeId.ignores_shape _)⟩,
      _, rfl, Shape.ignores_list (Shape.ignores_list Node.ignores_shape)⟩

end Snapshot

end Outliner
