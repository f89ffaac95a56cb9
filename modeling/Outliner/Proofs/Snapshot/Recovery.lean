import Outliner.Proofs.Json.View
import Outliner.Snapshot.Wire

/-!
Ids, places and declarations as values. They hold no doubles, they are nested at most three levels
deep, and their shapes read them back in every view.
-/
set_option autoImplicit false

namespace Outliner

open Json (Shape Fields View)

namespace NodeId

theorem floatFree_toJson (id : NodeId) : id.toJson.FloatFree :=
  ⟨trivial, trivial, trivial⟩

private theorem floatFree_listToJson (ids : List NodeId) : (listToJson ids).FloatFree := by
  refine Json.floatFreeItems_iff.mpr ?_
  intro item inside
  obtain ⟨id, _, rfl⟩ := List.mem_map.mp inside
  exact id.floatFree_toJson

theorem depth_listToJson_le (ids : List NodeId) : (listToJson ids).depth ≤ 2 := by
  have items : Json.depthItems (ids.map toJson) ≤ 1 := by
    induction ids with
    | nil => exact Nat.zero_le 1
    | cons id rest ih => exact Nat.max_le.mpr ⟨Nat.le_refl 1, ih⟩
  exact Nat.succ_le_succ items

theorem recovers_shape : shape.Recovers toJson 1 := by
  refine Shape.recovers_record (by decide) (fun _ => by simp) ?_
  rintro δ view levels ⟨group, offset⟩
  refine Fields.gives_field (Fields.gives_field (Fields.gives_make _) rfl ?_) rfl ?_
  · exact Shape.recovers_word view levels group
  · exact Shape.recovers_word view levels offset

theorem recovers_list : (Shape.list shape).Recovers listToJson 2 :=
  Shape.recovers_list recovers_shape

end NodeId

theorem SourcePosition.floatFree_toJson (position : SourcePosition) : position.toJson.FloatFree :=
  ⟨trivial, trivial, trivial⟩

theorem SourcePosition.recovers_shape : shape.Recovers toJson 1 := by
  refine Shape.recovers_record (by decide) (fun _ => by simp) ?_
  rintro δ view levels ⟨line, column⟩
  refine Fields.gives_field (Fields.gives_field (Fields.gives_make _) rfl ?_) rfl ?_
  · exact Shape.recovers_word view levels line
  · exact Shape.recovers_word view levels column

theorem SourceRange.floatFree_toJson (range : SourceRange) : range.toJson.FloatFree :=
  ⟨range.start.floatFree_toJson, range.stop.floatFree_toJson, trivial, trivial⟩

theorem SourceRange.recovers_shape : shape.Recovers toJson 2 := by
  refine Shape.recovers_record (by decide) (fun _ => by simp) ?_
  rintro δ view levels ⟨start, stop, fileUrl⟩
  refine Fields.gives_field (Fields.gives_field (Fields.gives_field (Fields.gives_make _) rfl ?_)
    rfl ?_) rfl ?_
  · exact SourcePosition.recovers_shape view levels start
  · exact SourcePosition.recovers_shape view levels stop
  · exact Shape.recovers_text view levels fileUrl

private theorem gives_declaration {δ α β : Type} (view : View δ) (levels : Nat)
    {make : SourceRange → String → β → α} {name : String} {shape : Shape β} {absent : Option β}
    {encode : β → Json} (recovers : shape.Recovers encode 2) (site : SourceRange)
    (identifier : String) (value : β) (others : name ≠ "site" ∧ name ≠ "identifier") :
    (Fields.field (Fields.make make |>.required "site" SourceRange.shape
      |>.required "identifier" .text) name shape absent).Gives view.source
        (fun key => ([("site", site.toJson), ("identifier", .str identifier),
          (name, encode value)].lookup key).map (view.data (levels + 2)))
        (make site identifier value) := by
  have found : [("site", site.toJson), ("identifier", .str identifier),
      (name, encode value)].lookup name = some (encode value) := by
    simp [List.lookup_cons, beq_eq_false_iff_ne.mpr others.1, beq_eq_false_iff_ne.mpr others.2]
  refine Fields.gives_field (Fields.gives_field (Fields.gives_field (Fields.gives_make _) rfl ?_)
    rfl ?_) (congrArg _ found) ?_
  · exact SourceRange.recovers_shape view levels site
  · exact Shape.recovers_text view levels identifier
  · exact recovers view levels value

theorem ModuleDecl.floatFree_toJson (decl : ModuleDecl) : decl.toJson.FloatFree :=
  ⟨trivial, NodeId.floatFree_listToJson decl.sources, trivial⟩

theorem ModuleDecl.recovers_shape : shape.Recovers toJson 3 := by
  refine Shape.recovers_record (by decide) (fun _ => by simp) ?_
  rintro δ view levels ⟨baseName, sources⟩
  refine Fields.gives_field (Fields.gives_field (Fields.gives_make _) rfl ?_) rfl ?_
  · exact Shape.recovers_text view levels baseName
  · exact NodeId.recovers_list view levels sources

theorem TranslationUnit.floatFree_toJson (decl : TranslationUnit) : decl.toJson.FloatFree :=
  ⟨decl.site.floatFree_toJson, NodeId.floatFree_listToJson decl.decls, trivial⟩

theorem TranslationUnit.recovers_shape : shape.Recovers toJson 3 := by
  refine Shape.recovers_record (by decide) (fun _ => by simp) ?_
  rintro δ view levels ⟨site, decls⟩
  refine Fields.gives_field (Fields.gives_field (Fields.gives_make _) rfl ?_) rfl ?_
  · exact SourceRange.recovers_shape view levels site
  · exact NodeId.recovers_list view levels decls

theorem FunctionDecl.floatFree_toJson (decl : FunctionDecl) : decl.toJson.FloatFree :=
  ⟨decl.site.floatFree_toJson, trivial, NodeId.floatFree_listToJson decl.parameters, trivial⟩

theorem FunctionDecl.recovers_shape : shape.Recovers toJson 3 := by
  refine Shape.recovers_record (by decide) (fun _ => by simp) ?_
  rintro δ view levels ⟨site, identifier, parameters⟩
  exact gives_declaration view levels NodeId.recovers_list site identifier parameters (by decide)

theorem ProductTypeDecl.floatFree_toJson (decl : ProductTypeDecl) : decl.toJson.FloatFree :=
  ⟨decl.site.floatFree_toJson, trivial, NodeId.floatFree_listToJson decl.members, trivial⟩

theorem ProductTypeDecl.recovers_shape : shape.Recovers toJson 3 := by
  refine Shape.recovers_record (by decide) (fun _ => by simp) ?_
  rintro δ view levels ⟨site, identifier, members⟩
  exact gives_declaration view levels NodeId.recovers_list site identifier members (by decide)

theorem ParameterDecl.floatFree_toJson (decl : ParameterDecl) : decl.toJson.FloatFree := by
  refine ⟨decl.site.floatFree_toJson, trivial, ?_, trivial⟩
  cases decl.label <;> trivial

theorem ParameterDecl.recovers_shape : shape.Recovers toJson 3 := by
  refine Shape.recovers_record (by decide) (fun _ => by simp) ?_
  rintro δ view levels ⟨site, identifier, label⟩
  have recovers_label : (Shape.optional .text).Recovers
      (fun label => (label.map Json.str).getD .null) 2 :=
    Shape.recovers_optional Shape.recovers_text fun _ => Json.noConfusion
  exact gives_declaration view levels recovers_label site identifier label (by decide)

end Outliner
