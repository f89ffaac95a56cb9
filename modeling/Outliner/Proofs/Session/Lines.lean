import Outliner.Proofs.Json.Tagged
import Outliner.Proofs.Outline.Nesting
import Outliner.Session.Gesture

/-!
Gestures and navigations as lines of text. Each of them is written in one line and is read from it, and it is
read from every object that has its members in any order, the tag anywhere among them, with or without
members of other names.
-/
set_option autoImplicit false

namespace Outliner

open Json (Shape Fields View Layout)

private theorem carries_gesture : (gesture : Gesture) →
    ∃ own, gesture.toJson = .obj own ∧ Gesture.tagged.Carries own gesture
  | .selected node => by
    refine ⟨_, rfl, Gesture.tagged.carries_of_record rfl (by decide) rfl
      ⟨node.floatFree_toJson, trivial⟩ (show max 1 0 ≤ 126 by decide) fun tooLong => ?_⟩
    refine Fields.gives_field (Fields.gives_make _) rfl ?_
    exact NodeId.recovers_shape (View.ofBuffer tooLong) 0 node
  | .invoked node action => by
    refine ⟨_, rfl, Gesture.tagged.carries_of_record rfl (by decide) rfl
      ⟨node.floatFree_toJson, trivial, trivial⟩ (show max 1 (max 0 0) ≤ 126 by decide) fun tooLong => ?_⟩
    refine Fields.gives_field (Fields.gives_field (Fields.gives_make _) rfl ?_) rfl ?_
    · exact NodeId.recovers_shape (View.ofBuffer tooLong) 0 node
    · exact Action.recovers_shape (View.ofBuffer tooLong) 0 action

private theorem carries_navigation : (navigation : Navigation) →
    ∃ own, navigation.toJson = .obj own ∧ Navigation.tagged.Carries own navigation
  | .openSourceFile fileUrl => by
    refine ⟨_, rfl, Navigation.tagged.carries_of_record rfl (by decide) rfl ⟨trivial, trivial⟩
      (show max 0 0 ≤ 126 by decide) fun tooLong => ?_⟩
    refine Fields.gives_field (Fields.gives_make _) rfl ?_
    exact (View.ofBuffer tooLong).text_data 0 fileUrl
  | .highlightFullDeclaration range => by
    refine ⟨_, rfl, Navigation.tagged.carries_of_record rfl (by decide) rfl
      ⟨range.floatFree_toJson, trivial⟩ (show max 2 0 ≤ 126 by decide) fun tooLong => ?_⟩
    refine Fields.gives_field (Fields.gives_make _) rfl ?_
    exact SourceRange.recovers_shape (View.ofBuffer tooLong) 0 range

/-- Every gesture and every navigation is carried by the members as which it is written. -/
theorem carries_messages :
    (∀ gesture : Gesture, ∃ own, gesture.toJson = .obj own ∧ Gesture.tagged.Carries own gesture) ∧
      ∀ navigation : Navigation, ∃ own, navigation.toJson = .obj own ∧
        Navigation.tagged.Carries own navigation :=
  ⟨carries_gesture, carries_navigation⟩

/-- A selection with an action, which selections do not have, and with its tag at the end. -/
def lateTag : List (String × Json) :=
  [("action", .arr [.null]), ("node", NodeId.toJson ⟨0, 1⟩), ("event", .str "Selected")]

/-- A navigation with its tag after a member that is repeated and that no navigation has. -/
def repeatedMember : List (String × Json) :=
  [("note", .null), ("fileUrl", .str "a\nb"), ("note", .str ""), ("kind", .str "OpenSourceFile")]

theorem carries_lateTag :
    Gesture.tagged.ofText (Layout.indented.text (.obj lateTag)) = .ok (.selected ⟨0, 1⟩) ∧
      Navigation.tagged.ofText (Layout.line.text (.obj repeatedMember)) = .ok (.openSourceFile "a\nb") := by
  constructor
  · obtain ⟨own, written, carries⟩ := carries_messages.1 (.selected ⟨0, 1⟩)
    obtain rfl := Json.obj.inj written
    refine carries.anyOrder _ lateTag [("action", .arr [.null])] (List.reverse_perm [_, _, _]) ?_ (by decide)
    simp [Json.FloatFree, Json.FloatFreeItems]
  · obtain ⟨own, written, carries⟩ := carries_messages.2 (.openSourceFile "a\nb")
    obtain rfl := Json.obj.inj written
    refine carries.anyOrder _ repeatedMember [("note", .str ""), ("note", .null)] ?_ ?_ (by decide)
    · exact (List.reverse_perm _).symm.trans ((List.Perm.swap _ _ _).cons _)
    · simp [Json.FloatFree]

end Outliner
