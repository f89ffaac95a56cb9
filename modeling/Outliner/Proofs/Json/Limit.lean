import Outliner.Proofs.Json.View

/-!
The limit: how a value that was written is read where only so many lists and objects may be nested. A shape
that keeps to the limit reads the value back if the value is nested no more deeply, and otherwise fails for
no other reason. Lists and records of such shapes are such shapes.
-/
set_option autoImplicit false

namespace Outliner.Json

namespace Draft

theorem within_of_le {α : Type} {depth levels : Nat} (fits : depth ≤ levels) (value : α) :
    within depth levels value = .ok value :=
  if_pos fits

theorem within_of_lt {α : Type} {depth levels : Nat} (deep : levels < depth) (value : α) :
    within depth levels value = .error .tooDeep :=
  if_neg (Nat.not_le.mpr deep)

private theorem le_of_within_eq_ok {α : Type} {depth levels : Nat} {value result : α}
    (done : within depth levels value = .ok result) : depth ≤ levels := by
  by_contra deep
  rw [within_of_lt (Nat.not_le.mp deep)] at done
  cases done

private theorem eq_tooDeep_of_within {α : Type} {depth levels : Nat} {value : α} {fault : Fault}
    (failed : within depth levels value = .error fault) : fault = .tooDeep := by
  by_cases fits : depth ≤ levels
  · rw [within_of_le fits] at failed
    cases failed
  · rw [within_of_lt (Nat.not_le.mp fits)] at failed
    exact (Except.error.inj failed).symm

end Draft

open Draft (within)

/-- Within so many levels, the shape reads the value back, or fails because the value is nested too
deeply. -/
def Shape.ReadsWithin {α : Type} (shape : Shape α) (levels : Nat) (value : Json) (result : α) : Prop :=
  shape.read Draft.source ⟨levels, value.draft⟩ = within value.depth levels result

namespace Shape

theorem Recovers.readsWithin {α : Type} {shape : Shape α} {encode : α → Json}
    (recovers : shape.Recovers encode 0) {result : α} (flat : (encode result).depth = 0)
    (levels : Nat) : shape.ReadsWithin levels (encode result) result := by
  rw [ReadsWithin, flat, Draft.within_of_le (Nat.zero_le levels)]
  exact recovers View.ofDraft levels result

theorem readsWithin_optional {α : Type} {shape : Shape α} {levels : Nat} {value : Json} {result : α}
    (reads : shape.ReadsWithin levels value result) (present : value ≠ .null) :
    shape.optional.ReadsWithin levels value (some result) := by
  have shown : ¬ Draft.source.isNull ⟨levels, value.draft⟩ = true :=
    fun null => present ((View.ofDraft.isNull_data levels value).mp null)
  rw [ReadsWithin, Shape.read, if_neg shown, reads]
  unfold within
  split <;> rfl

private theorem mapM_readsWithin {α : Type} {shape : Shape α} {levels : Nat} {items : List Json}
    {values : List α} (reads : List.Forall₂ (shape.ReadsWithin levels) items values) :
    (items.map (View.ofDraft.data levels)).mapM (shape.read Draft.source) =
      within (depthItems items) levels values := by
  induction reads with
  | nil => rfl
  | @cons item value items values first rest ih =>
    have first : shape.read Draft.source (View.ofDraft.data levels item) =
        within item.depth levels value := first
    rw [List.map_cons, List.mapM_cons, first, ih, depthItems]
    by_cases fits : item.depth ≤ levels
    · rw [Draft.within_of_le fits]
      by_cases rest_fits : depthItems items ≤ levels
      · rw [Draft.within_of_le rest_fits, Draft.within_of_le (Nat.max_le.mpr ⟨fits, rest_fits⟩)]
        rfl
      · rw [Draft.within_of_lt (by omega), Draft.within_of_lt (by omega)]
        rfl
    · have deep : levels < item.depth := Nat.not_le.mp fits
      rw [Draft.within_of_lt deep, Draft.within_of_lt (Nat.lt_of_lt_of_le deep (Nat.le_max_left _ _))]
      rfl

theorem readsWithin_list {α : Type} {shape : Shape α} {levels : Nat} {items : List Json}
    {values : List α}
    (reads : ∀ below, levels = below + 1 → List.Forall₂ (shape.ReadsWithin below) items values) :
    shape.list.ReadsWithin levels (.arr items) values := by
  cases levels with
  | zero => rfl
  | succ below =>
    obtain ⟨shown, read, elements, more⟩ := View.ofDraft.items_data below items
    have run : shape.list.read Draft.source ⟨below + 1, (Json.arr items).draft⟩ =
        (items.map (View.ofDraft.data below)).mapM (shape.read Draft.source) := by
      rw [← elements]
      show (Draft.source.items (View.ofDraft.data (below + 1) (.arr items)) >>= fun items =>
        items.elements.mapM (shape.read Draft.source) >>= fun values =>
          items.more >>= fun _ => pure values) = _
      rw [show Draft.source.items (View.ofDraft.data (below + 1) (.arr items)) = _ from read]
      show (shown.elements.mapM (shape.read Draft.source) >>= fun values =>
        shown.more >>= fun _ => pure values) = _
      rw [more]
      exact bind_pure _
    rw [ReadsWithin, run, mapM_readsWithin (reads below rfl), depth]
    unfold within
    simp only [Nat.add_le_add_iff_right]

/-- What a field holds within so many levels, with what stands for it if it is absent. -/
def HeldWithin {α : Type} (shape : Shape α) (absent : Option α) (levels : Nat) (result : α) :
    Option Json → Prop
  | none => absent = some result
  | some value => shape.ReadsWithin levels value result

end Shape

namespace Fields

def HoldWithin (levels : Nat) (members : List (String × Json)) : {α : Type} → Fields α → α → Prop
  | _, .make value, result => result = value
  | _, .field before name shape absent, result =>
    ∃ make value, before.HoldWithin levels members make ∧
      shape.HeldWithin absent levels value (members.lookup name) ∧ result = make value

variable {levels : Nat} {members : List (String × Json)}

private def drafts (levels : Nat) (members : List (String × Json)) (name : String) :
    Option Draft.Limited :=
  (members.lookup name).map (View.ofDraft.data levels)

private theorem drafts_of_lookup {name : String} {found : Option Json}
    (lookup : members.lookup name = found) :
    drafts levels members name = found.map (View.ofDraft.data levels) := by
  rw [drafts, lookup]

private theorem gives_of_holdWithin (fits : depthMembers members ≤ levels) : {α : Type} →
    {fields : Fields α} → {result : α} → fields.HoldWithin levels members result →
      fields.Gives Draft.source (drafts levels members) result
  | _, .make _, _, holds => holds
  | _, .field before name shape absent, result, holds => by
    obtain ⟨make, value, earlier, held, rfl⟩ := holds
    have given := gives_of_holdWithin fits earlier
    cases found : members.lookup name with
    | none =>
      rw [found] at held
      exact (gives_field_of_absent_iff (drafts_of_lookup found)).mpr ⟨make, value, given, held, rfl⟩
    | some data =>
      rw [found] at held
      have shallow : data.depth ≤ levels :=
        depthMembers_le_iff.mp fits (name, data) (mem_of_lookup found)
      exact gives_field given (drafts_of_lookup found) (held.trans (Draft.within_of_le shallow value))

private theorem depth_le_of_gives : {α : Type} → {fields : Fields α} → {result other : α} →
    fields.HoldWithin levels members result →
      fields.Gives Draft.source (drafts levels members) other →
      ∀ name ∈ fields.names, ∀ value, members.lookup name = some value → value.depth ≤ levels
  | _, .make _, _, _, _, _ => by simp [names]
  | _, .field before name shape absent, _, _, holds, gives => by
    obtain ⟨_, _, earlier, held, _⟩ := holds
    refine List.forall_mem_cons.mpr ⟨fun value found => ?_, ?_⟩
    · obtain ⟨_, _, _, read, _⟩ := (gives_field_iff (drafts_of_lookup found)).mp gives
      rw [found] at held
      exact Draft.le_of_within_eq_ok (held.symm.trans read)
    · obtain ⟨_, _, given, _⟩ := gives
      exact depth_le_of_gives earlier given

private theorem eq_tooDeep_of_faults {fault : Fault} : {α : Type} → {fields : Fields α} → {result : α} →
    fields.HoldWithin levels members result →
      fields.Faults Draft.source (drafts levels members) fault → fault = .tooDeep
  | _, .make _, _, _, faults => faults.elim
  | _, .field before name shape absent, _, holds, faults => by
    obtain ⟨_, _, earlier, held, _⟩ := holds
    rcases faults with faults | ⟨data, shown, failed⟩ | ⟨missing, required, _⟩
    · exact eq_tooDeep_of_faults earlier faults
    · obtain ⟨value, found, rfl⟩ := Option.map_eq_some_iff.mp shown
      rw [found] at held
      exact Draft.eq_tooDeep_of_within (held.symm.trans failed)
    · have absent_value := held
      rw [Option.map_eq_none_iff.mp missing] at absent_value
      cases required.symm.trans absent_value

end Fields

theorem Shape.readsWithin_record {α : Type} {title : String} {fields : Fields α} {levels : Nat}
    {members : List (String × Json)} {result : α} (distinct : fields.names.Nodup)
    (nodup : (members.map (·.1)).Nodup) (known : ∀ member ∈ members, member.1 ∈ fields.names)
    (holds : ∀ below, levels = below + 1 → fields.HoldWithin below members result) :
    (Shape.record title fields).ReadsWithin levels (.obj members) result := by
  cases levels with
  | zero => rfl
  | succ below =>
    have holds := holds below rfl
    have read_iff : ∀ other, (Shape.record title fields).read Draft.source
        ⟨below + 1, (Json.obj members).draft⟩ = .ok other ↔ _ :=
      fun other => View.ofDraft.read_record_eq_ok_iff distinct nodup
    rw [ReadsWithin, depth]
    by_cases fits : depthMembers members ≤ below
    · rw [Draft.within_of_le (Nat.succ_le_succ fits), read_iff]
      exact Fields.gives_of_holdWithin fits holds
    · rw [Draft.within_of_lt (by omega)]
      cases outcome : (Shape.record title fields).read Draft.source
          ⟨below + 1, (Json.obj members).draft⟩ with
      | ok other =>
        have shallow := Fields.depth_le_of_gives holds ((read_iff other).mp outcome)
        refine absurd (depthMembers_le_iff.mpr fun member inside => ?_) fits
        exact shallow member.1 (known member inside) member.2
          ((lookup_eq_some_iff_mem nodup).mpr inside)
      | error fault =>
        rw [Fields.eq_tooDeep_of_faults holds (View.ofDraft.faults_of_read_record distinct nodup outcome)]

end Outliner.Json
