import Outliner.Proofs.Json.ReadBack

/-!
Variations: other ways of writing the same data. The members of an object that is read as a record may stand
in another order, and members of other names may be inserted, wherever a record is read. Main statement: a
shape that ignores the variations of its parts ignores those of a list or a record of them, so what was read
from a value is read from its variation.
-/
set_option autoImplicit false

namespace Outliner.Json

/-- How one value may be written as another one. -/
abbrev Variation := Json → Json → Prop

namespace Variation

def list (vary : Variation) : Variation
  | .arr items, .arr others => List.Forall₂ vary items others
  | value, other => value = other

/-- How the value under a name may be written: as the field says, or as it is if no field has the name. -/
def ofField (table : List (String × Variation)) (name : String) : Variation :=
  (table.lookup name).getD Eq

/-- Member by member, by how the value under each key may be written. -/
abbrev Memberwise (vary : String → Variation) (members others : List (String × Json)) : Prop :=
  List.Forall₂ (fun member other => member.1 = other.1 ∧ vary member.1 member.2 other.2) members others

/-- The members of a record, changed each for itself, in another order and with members of other names
among them. Of the members that repeat the name of a field, the last one stays last. -/
structure Moved (table : List (String × Variation)) (members others changed inserted : List (String × Json)) :
    Prop where
  changes : Memberwise (ofField table) members changed
  perm : others.Perm (changed ++ inserted)
  foreign : ∀ member ∈ inserted, member.1 ∉ table.map (·.1) ∧ member.2.FloatFree
  lastStays : ∀ name ∈ table.map (·.1), (under others name).getLast? = (under changed name).getLast?

/-- Field by field, in an object or in a list, by how each field may be written. -/
def record (table : List (String × Variation)) : Variation
  | .obj members, .obj others => ∃ changed inserted, Moved table members others changed inserted
  | .arr items, .arr others => items.length ≤ table.length ∧
      List.Forall₂ (fun place other => ofField table place.1 place.2 other)
        ((table.map (·.1)).zip items) others
  | value, other => value = other

/-- Member by member, in an object whose members keep their places. -/
def object (vary : String → Variation) : Variation
  | .obj members, .obj others => Memberwise vary members others
  | value, other => value = other

variable {table : List (String × Variation)} {members others changed inserted : List (String × Json)}

private theorem perm_under_of_listed (perm : others.Perm (changed ++ inserted))
    (foreign : ∀ member ∈ inserted, member.1 ∉ table.map (·.1) ∧ member.2.FloatFree) {name : String}
    (listed : name ∈ table.map (·.1)) : (under others name).Perm (under changed name) := by
  refine under_perm_of_foreign perm fun member inside => ?_
  rintro rfl
  exact (foreign member inside).1 listed

theorem ofField_of_lookup {name : String} {vary : Variation} (listed : table.lookup name = some vary) :
    ofField table name = vary := by
  rw [ofField, listed]
  rfl

private theorem ofField_of_not_mem {name : String} (unlisted : name ∉ table.map (·.1)) :
    ofField table name = Eq := by
  have missing : table.lookup name = none := by
    rw [lookup_eq_head?_under, under_eq_nil_iff.mpr unlisted]
    rfl
  rw [ofField, missing]
  rfl

private theorem Memberwise.under {vary : String → Variation} {members changed : List (String × Json)}
    (changes : Memberwise vary members changed) (name : String) :
    List.Forall₂ (vary name) (under members name) (under changed name) := by
  induction changes with
  | nil => exact .nil
  | @cons member other members changed first rest ih =>
    obtain ⟨key, value⟩ := member
    obtain ⟨_, varied⟩ := other
    obtain ⟨rfl, vary⟩ := first
    by_cases same : key = name
    · subst same
      rw [under_cons_self, under_cons_self]
      exact .cons vary ih
    · rw [under_cons_of_ne same, under_cons_of_ne same]
      exact ih

private theorem rel_lookup_zip {order : List String} {items others : List Json}
    (changes : List.Forall₂ (fun place other => ofField table place.1 place.2 other)
      (order.zip items) others) (name : String) :
    Option.Rel (ofField table name) ((order.zip items).lookup name) ((order.zip others).lookup name) := by
  induction order generalizing items others with
  | nil => exact .none
  | cons first order ih =>
    cases items with
    | nil =>
      obtain rfl := List.forall₂_nil_left_iff.mp changes
      exact .none
    | cons item items =>
      obtain ⟨other, others, vary, rest, rfl⟩ := List.forall₂_cons_left_iff.mp changes
      rw [List.zip_cons_cons, List.zip_cons_cons, List.lookup_cons, List.lookup_cons]
      by_cases same : name = first
      · subst same
        simpa using Option.Rel.some vary
      · rw [beq_eq_false_iff_ne.mpr same]
        exact ih rest

private theorem memberwise_insertMember {vary : String → Variation} {key : String} {value other : Json}
    {members others : List (String × Json)} (first : vary key value other)
    (changes : Memberwise vary members others) :
    Memberwise vary (insertMember key value members) (insertMember key other others) := by
  induction changes with
  | nil => exact .cons ⟨rfl, first⟩ .nil
  | @cons member changed members others here rest ih =>
    obtain ⟨name, held⟩ := member
    obtain ⟨_, written⟩ := changed
    obtain ⟨rfl, varied⟩ := here
    unfold insertMember
    split
    · exact .cons ⟨rfl, first⟩ (.cons ⟨rfl, varied⟩ rest)
    · split
      · exact .cons ⟨rfl, first⟩ rest
      · exact .cons ⟨rfl, varied⟩ ih

theorem Memberwise.sortMembers {vary : String → Variation} {members others : List (String × Json)}
    (changes : Memberwise vary members others) :
    Memberwise vary (sortMembers members) (sortMembers others) := by
  have run : ∀ {sorted written : List (String × Json)}, Memberwise vary sorted written →
      Memberwise vary (members.foldl (fun sorted member => insertMember member.1 member.2 sorted) sorted)
        (others.foldl (fun sorted member => insertMember member.1 member.2 sorted) written) := by
    induction changes with
    | nil => exact id
    | @cons member changed members others here rest ih =>
      obtain ⟨name, held⟩ := member
      obtain ⟨_, value⟩ := changed
      obtain ⟨rfl, varied⟩ := here
      intro sorted written earlier
      exact ih (memberwise_insertMember varied earlier)
  exact run .nil

end Variation

open Variation (ofField Memberwise Moved)

/-! ### Shapes that ignore variations -/

/-- The shape reads the same from a variation of a value, and the variation is in range if the value is. -/
structure Shape.Ignores {δ α : Type} (view : View δ) (shape : Shape α) (vary : Variation) : Prop where
  legible : ∀ {value other : Json}, vary value other → value.Legible → other.Legible
  read : ∀ {levels : Nat} {value other : Json} {result : α}, vary value other → other.depth ≤ levels →
    shape.read view.source (view.data levels value) = .ok result →
      shape.read view.source (view.data levels other) = .ok result

def Fields.Ignore {δ : Type} (view : View δ) (table : List (String × Variation)) :
    {α : Type} → Fields α → Prop
  | _, .make _ => True
  | _, .field before name shape _ => before.Ignore view table ∧
      ∃ vary, table.lookup name = some vary ∧ shape.Ignores view vary

variable {δ : Type} {view : View δ}

namespace Shape

theorem ignores_eq {α : Type} {shape : Shape α} : shape.Ignores view Eq where
  legible same legible := same ▸ legible
  read same _ read := same ▸ read

private theorem forall_mem_of_forall₂ {α β : Type} {R : α → β → Prop} {P : α → Prop} {Q : β → Prop}
    {as : List α} {bs : List β} (related : List.Forall₂ R as bs)
    (keeps : ∀ {a b}, R a b → P a → Q b) (all : ∀ a ∈ as, P a) : ∀ b ∈ bs, Q b := by
  induction related with
  | nil => simp
  | cons first _ ih =>
    rw [List.forall_mem_cons] at all ⊢
    exact ⟨keeps first all.1, ih all.2⟩

private theorem forall₂_read_of_ignores {α : Type} {shape : Shape α} {vary : Variation}
    (ignores : shape.Ignores view vary) {levels : Nat} {items others : List Json} {values : List α}
    (changes : List.Forall₂ vary items others) (shallow : depthItems others ≤ levels)
    (reads : List.Forall₂ (fun item value => shape.read view.source (view.data levels item) = .ok value)
      items values) :
    List.Forall₂ (fun item value => shape.read view.source (view.data levels item) = .ok value)
      others values := by
  induction changes generalizing values with
  | nil => exact reads
  | cons vary _ ih =>
    obtain ⟨value, values, read, later, rfl⟩ := List.forall₂_cons_left_iff.mp reads
    obtain ⟨first, rest⟩ := Nat.max_le.mp shallow
    exact .cons (ignores.read vary first read) (ih rest later)

theorem ignores_list {α : Type} {shape : Shape α} {vary : Variation} (ignores : shape.Ignores view vary) :
    shape.list.Ignores view (.list vary) where
  legible := by
    intro value other varied legible
    unfold Variation.list at varied
    split at varied
    · rw [Legible, legibleItems_iff] at legible ⊢
      exact forall_mem_of_forall₂ varied ignores.legible legible
    · exact varied ▸ legible
  read := by
    intro levels value other result varied shallow read
    unfold Variation.list at varied
    split at varied
    · cases levels with
      | zero => exact absurd shallow (Nat.not_succ_le_zero _)
      | succ below =>
        rw [view.read_list_eq_ok_iff] at read ⊢
        exact forall₂_read_of_ignores ignores varied (Nat.le_of_succ_le_succ shallow) read
    · exact varied ▸ read

theorem read_object_eq_ok_iff {α : Type} {make : List (String × Json) → Except Fault α}
    {levels : Nat} {members : List (String × Json)} {result : α} :
    (Shape.object make).read View.ofDraft.source (View.ofDraft.data levels (.obj members)) = .ok result ↔
      (Json.obj members).depth ≤ levels ∧ LegibleMembers members ∧
        make (sortMembers (canonicalMembers (readBackMembers members))) = .ok result := by
  rw [Shape.read, bind_eq_ok_iff]
  cases levels with
  | zero =>
    refine iff_of_false ?_ fun read => absurd read.1 (Nat.not_succ_le_zero _)
    rintro ⟨values, refused, _⟩
    cases refused
  | succ below =>
    have reads := Draft.readMembers_draftMembers_eq_ok_iff below [] members
    have run : View.ofDraft.source.object (View.ofDraft.data (below + 1) (.obj members)) =
        (Draft.readMembers below .closed [] (draftMembers members) >>= fun values =>
          pure (sortMembers (canonicalMembers values))) := rfl
    rw [run, depth, Nat.add_le_add_iff_right]
    simp only [bind_eq_ok_iff, reads]
    constructor
    · rintro ⟨_, ⟨_, ⟨shallow, legible, rfl⟩, sorted⟩, made⟩
      cases sorted
      exact ⟨shallow, legible, made⟩
    · rintro ⟨shallow, legible, made⟩
      exact ⟨_, ⟨_, ⟨shallow, legible, rfl⟩, rfl⟩, made⟩

theorem ignores_object {α : Type} {make : List (String × Json) → Except Fault α}
    {vary : String → Variation}
    (legible : ∀ {key : String} {value other : Json}, vary key value other → value.Legible → other.Legible)
    (made : ∀ {members others : List (String × Json)} {result : α}, Memberwise vary members others →
      make (sortMembers (canonicalMembers (readBackMembers members))) = .ok result →
        make (sortMembers (canonicalMembers (readBackMembers others))) = .ok result) :
    (Shape.object make).Ignores View.ofDraft (.object vary) where
  legible := by
    intro value other varied earlier
    unfold Variation.object at varied
    split at varied
    · rw [Legible, legibleMembers_iff] at earlier ⊢
      exact forall_mem_of_forall₂ varied (fun vary => legible vary.2) earlier
    · exact varied ▸ earlier
  read := by
    intro levels value other result varied shallow read
    unfold Variation.object at varied
    split at varied
    · rw [read_object_eq_ok_iff] at read ⊢
      rw [legibleMembers_iff] at read ⊢
      obtain ⟨_, inRange, read⟩ := read
      exact ⟨shallow, forall_mem_of_forall₂ varied (fun vary => legible vary.2) inRange, made varied read⟩
    · exact varied ▸ read

end Shape

/-! ### Records -/

namespace Fields

variable {table : List (String × Variation)}

private theorem gives_of_ignore {levels : Nat} {held others : String → Option Json}
    (shallow : ∀ name other, others name = some other → other.depth ≤ levels) : {α : Type} →
      {fields : Fields α} → {result : α} → fields.Ignore view table →
      (∀ name ∈ fields.names, Option.Rel (ofField table name) (held name) (others name)) →
      fields.Gives view.source (fun name => (held name).map (view.data levels)) result →
      fields.Gives view.source (fun name => (others name).map (view.data levels)) result
  | _, .make _, _, _, _, gives => gives
  | _, .field before name shape absent, result, ignore, varied, gives => by
    obtain ⟨earlier, vary, listed, ignores⟩ := ignore
    obtain ⟨here, varied⟩ := List.forall_mem_cons.mp varied
    rw [Variation.ofField_of_lookup listed] at here
    cases found : held name with
    | none =>
      cases other : others name with
      | some value => rw [found, other] at here; cases here
      | none =>
        rw [gives_field_of_absent_iff (by rw [found]; rfl)] at gives
        rw [gives_field_of_absent_iff (by rw [other]; rfl)]
        obtain ⟨make, value, given, chosen, rfl⟩ := gives
        exact ⟨make, value, gives_of_ignore shallow earlier varied given, chosen, rfl⟩
    | some value =>
      cases other : others name with
      | none => rw [found, other] at here; cases here
      | some written =>
        rw [gives_field_iff (by rw [found]; rfl)] at gives
        rw [gives_field_iff (by rw [other]; rfl)]
        obtain ⟨make, made, given, read, rfl⟩ := gives
        rw [found, other] at here
        obtain ⟨vary⟩ := here
        exact ⟨make, made, gives_of_ignore shallow earlier varied given,
          ignores.read vary (shallow name written other) read, rfl⟩

private theorem legible_ofField : {α : Type} → {fields : Fields α} → fields.Ignore view table →
    {name : String} → name ∈ fields.names →
      ∀ {value other : Json}, ofField table name value other → value.Legible → other.Legible
  | _, .make _, _, _, listed => by cases listed
  | _, .field before first shape absent, ignore, name, listed => by
    obtain ⟨earlier, vary, found, ignores⟩ := ignore
    rcases List.mem_cons.mp listed with rfl | listed
    · rw [Variation.ofField_of_lookup found]
      exact ignores.legible
    · exact legible_ofField earlier listed

end Fields

namespace View

private theorem forall₂_shown {R : Json → Json → Prop} {values others : List Json}
    (changes : List.Forall₂ R values others) : List.Forall₂ R (view.shown values) (view.shown others) := by
  unfold shown
  split
  · rw [List.getLast?_eq_head?_reverse, List.getLast?_eq_head?_reverse]
    have turned := List.rel_reverse changes
    generalize values.reverse = values, others.reverse = others at turned
    cases turned with
    | nil => exact .nil
    | cons last _ => exact .cons last .nil
  · exact changes

/-- Nothing but the last value is shown, or there is one value at most: either way the order of the others
does not matter. -/
private theorem shown_of_perm {values others : List Json} (perm : others.Perm values)
    (last : others.getLast? = values.getLast?) (once : (view.shown values).length ≤ 1) :
    view.shown others = view.shown values := by
  unfold shown at once ⊢
  split at once
  case isTrue lastOnly => rw [if_pos lastOnly, if_pos lastOnly, last]
  case isFalse each =>
    rw [if_neg each, if_neg each]
    exact eq_of_perm_of_length_le_one perm once

private theorem mem_of_mem_shown {values : List Json} {value : Json} (inside : value ∈ view.shown values) :
    value ∈ values := by
  unfold shown at inside
  split at inside
  · exact List.mem_of_getLast? (Option.mem_toList.mp inside)
  · exact inside

end View

private theorem rel_head?_of_forall₂ {R : Json → Json → Prop} {values others : List Json}
    (changes : List.Forall₂ R values others) : Option.Rel R values.head? others.head? := by
  cases changes with
  | nil => exact .none
  | cons first _ => exact .some first

namespace Shape

variable {α : Type} {title : String} {fields : Fields α} {table : List (String × Variation)}

private theorem legible_of_record (order : fields.order = table.map (·.1))
    (ignore : fields.Ignore view table) {value other : Json}
    (varied : Variation.record table value other) (legible : value.Legible) : other.Legible := by
  have keeps : ∀ {name : String} {value other : Json}, ofField table name value other →
      value.Legible → other.Legible := by
    intro name value other vary legible
    by_cases listed : name ∈ table.map (·.1)
    · rw [← order, Fields.order, List.mem_reverse] at listed
      exact Fields.legible_ofField ignore listed vary legible
    · rw [Variation.ofField_of_not_mem listed] at vary
      exact vary ▸ legible
  unfold Variation.record at varied
  split at varied
  · obtain ⟨changed, inserted, moved⟩ := varied
    rw [Legible, legibleMembers_iff] at legible ⊢
    intro member inside
    rcases List.mem_append.mp (moved.perm.mem_iff.mp inside) with inside | inside
    · exact forall_mem_of_forall₂ moved.changes (fun vary => keeps vary.2) legible member inside
    · exact legible_of_floatFree _ (moved.foreign member inside).2
  · rw [Legible, legibleItems_iff] at legible ⊢
    refine forall_mem_of_forall₂ (P := fun place => place.2.Legible) varied.2 keeps fun place inside => ?_
    exact legible _ (List.of_mem_zip inside).2
  · exact varied ▸ legible

private theorem read_of_moved {levels : Nat} {members others changed inserted : List (String × Json)}
    {result : α} (distinct : fields.names.Nodup) (order : fields.order = table.map (·.1))
    (ignore : fields.Ignore view table) (moved : Moved table members others changed inserted)
    (shallow : depthMembers others ≤ levels)
    (read : (Shape.record title fields).read view.source (view.data (levels + 1) (.obj members)) =
      .ok result) :
    (Shape.record title fields).read view.source (view.data (levels + 1) (.obj others)) =
      .ok result := by
  rw [view.read_record_eq_ok_iff_shown distinct] at read ⊢
  obtain ⟨once, gives⟩ := read
  have changes : ∀ name ∈ fields.names, List.Forall₂ (ofField table name)
      (view.shown (under members name)) (view.shown (under others name)) := by
    intro name listed
    have inTable : name ∈ table.map (·.1) := by
      rwa [← order, Fields.order, List.mem_reverse]
    have varied : List.Forall₂ (ofField table name) (view.shown (under members name))
        (view.shown (under changed name)) := View.forall₂_shown (moved.changes.under name)
    have single := once name listed
    rw [varied.length_eq] at single
    have same := Variation.perm_under_of_listed moved.perm moved.foreign inTable
    rw [View.shown_of_perm same (moved.lastStays name inTable) single]
    exact varied
  refine ⟨fun name listed => ?_, ?_⟩
  · rw [← (changes name listed).length_eq]
    exact once name listed
  · refine Fields.gives_of_ignore (fun name other found => ?_) ignore
      (fun name listed => rel_head?_of_forall₂ (changes name listed)) gives
    have inside := View.mem_of_mem_shown (List.mem_of_head? found)
    exact depthMembers_le_iff.mp shallow (name, other) (mem_under_iff.mp inside)

private theorem read_of_places {levels : Nat} {items others : List Json} {result : α}
    (distinct : fields.names.Nodup) (order : fields.order = table.map (·.1))
    (ignore : fields.Ignore view table) (short : items.length ≤ table.length)
    (changes : List.Forall₂ (fun place other => ofField table place.1 place.2 other)
      ((table.map (·.1)).zip items) others)
    (shallow : depthItems others ≤ levels)
    (read : (Shape.record title fields).read view.source (view.data (levels + 1) (.arr items)) =
      .ok result) :
    (Shape.record title fields).read view.source (view.data (levels + 1) (.arr others)) =
      .ok result := by
  rw [view.read_record_list_eq_ok_iff distinct] at read ⊢
  obtain ⟨few, gives⟩ := read
  have length : others.length = items.length := by
    rw [← changes.length_eq, List.length_zip, List.length_map, Nat.min_eq_right short]
  rw [order] at gives ⊢
  refine ⟨length ▸ few, Fields.gives_of_ignore (fun name other found => ?_) ignore
    (fun name _ => Variation.rel_lookup_zip changes name) gives⟩
  exact depthItems_le_iff.mp shallow other (List.of_mem_zip (mem_of_lookup found)).2

/-- A record is read the same from a variation, if each field ignores how the value under its name may be
written. -/
theorem ignores_record (distinct : fields.names.Nodup) (order : fields.order = table.map (·.1))
    (ignore : fields.Ignore view table) :
    (Shape.record title fields).Ignores view (.record table) where
  legible := legible_of_record order ignore
  read := by
    intro levels value other result varied shallow read
    unfold Variation.record at varied
    split at varied
    · obtain ⟨changed, inserted, moved⟩ := varied
      cases levels with
      | zero => exact absurd shallow (Nat.not_succ_le_zero _)
      | succ below =>
        exact read_of_moved distinct order ignore moved (Nat.le_of_succ_le_succ shallow) read
    · cases levels with
      | zero => exact absurd shallow (Nat.not_succ_le_zero _)
      | succ below =>
        exact read_of_places distinct order ignore varied.1 varied.2 (Nat.le_of_succ_le_succ shallow) read
    · exact varied ▸ read

end Shape

end Outliner.Json
