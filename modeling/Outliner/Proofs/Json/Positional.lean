import Mathlib.Data.List.Nodup
import Outliner.Proofs.Json.Record

/-!
Records in lists. The items are taken one after the other, in the order in which the fields are declared.
Main statement: what comes of them is what would come of an object in which the items stand under the
names of the fields, as long as there are no more items than fields.
-/
set_option autoImplicit false

namespace Outliner.Json

variable {δ : Type}

private theorem lookup_zip {names : List String} (nodup : names.Nodup) {place : Nat} {name : String}
    (listed : names[place]? = some name) (items : List δ) :
    (names.zip items).lookup name = items[place]? := by
  induction names generalizing place items with
  | nil => cases listed
  | cons first rest ih =>
    obtain ⟨unrepeated, nodup⟩ := List.nodup_cons.mp nodup
    cases items with
    | nil => simp
    | cons item items =>
      rw [List.zip_cons_cons, List.lookup_cons]
      cases place with
      | zero =>
        obtain rfl := Option.some.inj listed
        simp
      | succ place =>
        rw [List.getElem?_cons_succ] at listed ⊢
        have differs : name ≠ first := by
          rintro rfl
          exact unrepeated (List.mem_of_getElem? listed)
        rw [beq_eq_false_iff_ne.mpr differs]
        exact ih nodup listed items

namespace Fields

private theorem length_names : {α : Type} → (fields : Fields α) → fields.names.length = fields.count
  | _, .make _ => rfl
  | _, .field before .. => congrArg Nat.succ before.length_names

/-- The names of the fields, in the order in which they are declared. -/
def order {α : Type} (fields : Fields α) : List String :=
  fields.names.reverse

theorem length_order {α : Type} (fields : Fields α) : fields.order.length = fields.count := by
  rw [order, List.length_reverse, length_names]

/-- Under the name of every field stands the item at its place. -/
def Placed (items : List δ) (held : String → Option δ) : {α : Type} → Fields α → Prop
  | _, .make _ => True
  | _, .field before name .. => before.Placed items held ∧ held name = items[before.count]?

private theorem placed_of_order {keys : List String} (nodup : keys.Nodup) (items : List δ) :
    {α : Type} → (fields : Fields α) → {more : List String} → keys = fields.order ++ more →
      fields.Placed items fun name => (keys.zip items).lookup name
  | _, .make _, _, _ => trivial
  | _, .field before name _ _, more, split => by
    have keys_eq : keys = before.order ++ name :: more := by
      rw [split, order, names, List.reverse_cons, List.append_assoc]
      rfl
    refine ⟨placed_of_order nodup items before keys_eq, lookup_zip nodup ?_ items⟩
    rw [keys_eq, ← before.length_order, List.getElem?_append_right (Nat.le_refl _), Nat.sub_self]
    rfl

private theorem placed_zip {α : Type} {fields : Fields α} (distinct : fields.names.Nodup) (items : List δ) :
    fields.Placed items fun name => (fields.order.zip items).lookup name :=
  placed_of_order (List.nodup_reverse.mpr distinct) items fields (List.append_nil _).symm

variable {source : Source δ} {held : String → Option δ}

theorem gives_field_of_absent_iff {α β : Type} {before : Fields (β → α)} {name : String}
    {shape : Shape β} {absent : Option β} {result : α} (missing : held name = none) :
    (Fields.field before name shape absent).Gives source held result ↔
      ∃ make value, before.Gives source held make ∧ absent = some value ∧ result = make value := by
  have absent_iff : ∀ value, (∃ found : Option β, (held name).mapM (shape.read source) = .ok found ∧
      found.or absent = some value) ↔ absent = some value := by
    intro value
    rw [missing]
    constructor
    · rintro ⟨_, found, chosen⟩
      obtain rfl := Except.ok.inj found
      exact chosen
    · intro chosen
      exact ⟨none, rfl, chosen⟩
  simp only [Gives, absent_iff]

private theorem readItems_field {α β : Type} {before : Fields (β → α)} {name : String}
    {shape : Shape β} {absent : Option β} {title : String} {total : Nat} {items : Items δ} {result : α}
    {taken : Nat} (more : items.more = .ok ()) :
    (Fields.field before name shape absent).readItems source title total items = .ok (result, taken) ↔
      ∃ make used, before.readItems source title total items = .ok (make, used) ∧
        ((∃ data value, items.elements[used]? = some data ∧ shape.read source data = .ok value ∧
            result = make value ∧ taken = used + 1) ∨
          items.elements[used]? = none ∧ ∃ value, absent = some value ∧ result = make value ∧
            taken = used) := by
  rw [readItems, bind_eq_ok_iff]
  constructor
  · rintro ⟨⟨make, used⟩, read, next⟩
    refine ⟨make, used, read, ?_⟩
    dsimp only at next
    cases element : items.elements[used]? with
    | some data =>
      rw [element] at next
      obtain ⟨value, read, equal⟩ := bind_eq_ok_iff.mp next
      obtain ⟨rfl, rfl⟩ := Prod.mk.inj (Except.ok.inj equal)
      exact .inl ⟨data, value, rfl, read, rfl, rfl⟩
    | none =>
      rw [element, more] at next
      cases absent with
      | some value =>
        obtain ⟨rfl, rfl⟩ := Prod.mk.inj (Except.ok.inj next)
        exact .inr ⟨rfl, value, rfl, rfl, rfl⟩
      | none => cases next
  · rintro ⟨make, used, read, next⟩
    refine ⟨(make, used), read, ?_⟩
    dsimp only
    rcases next with ⟨data, value, element, read, rfl, rfl⟩ | ⟨element, value, rfl, rfl, rfl⟩
    · rw [element]
      exact bind_eq_ok_iff.mpr ⟨value, read, rfl⟩
    · rw [element, more]
      rfl

private theorem readItems_eq_ok_iff {title : String} {total : Nat} {items : Items δ}
    (more : items.more = .ok ()) : {α : Type} → {fields : Fields α} →
      fields.Placed items.elements held → {result : α} → {taken : Nat} →
      (fields.readItems source title total items = .ok (result, taken) ↔
        fields.Gives source held result ∧ taken = min items.elements.length fields.count)
  | _, .make value, _, result, taken => by
    rw [readItems, count, Nat.min_zero]
    constructor
    · intro equal
      obtain ⟨rfl, rfl⟩ := Prod.mk.inj (Except.ok.inj equal)
      exact ⟨rfl, rfl⟩
    · rintro ⟨rfl, rfl⟩
      rfl
  | _, .field before name shape absent, placed, result, taken => by
    obtain ⟨placed, here⟩ := placed
    simp only [readItems_field more, readItems_eq_ok_iff more placed, count]
    cases element : items.elements[before.count]? with
    | some data =>
      -- There is an item for this field, so there was one for every field before it.
      have bound : before.count < items.elements.length := (List.getElem?_eq_some_iff.mp element).1
      have used_eq : min items.elements.length before.count = before.count := by omega
      have taken_eq : min items.elements.length (before.count + 1) = before.count + 1 := by omega
      rw [gives_field_iff (here.trans element), used_eq, taken_eq]
      constructor
      · rintro ⟨make, _, ⟨given, rfl⟩, ⟨data', value, element', read, rfl, rfl⟩ | ⟨missing, _⟩⟩
        · obtain rfl := Option.some.inj (element.symm.trans element')
          exact ⟨⟨make, value, given, read, rfl⟩, rfl⟩
        · rw [element] at missing
          cases missing
      · rintro ⟨⟨make, value, given, read, rfl⟩, rfl⟩
        exact ⟨make, _, ⟨given, rfl⟩, .inl ⟨data, value, element, read, rfl, rfl⟩⟩
    | none =>
      have bound : items.elements.length ≤ before.count := List.getElem?_eq_none_iff.mp element
      have used_eq : min items.elements.length before.count = items.elements.length := by omega
      have taken_eq : min items.elements.length (before.count + 1) = items.elements.length := by omega
      have beyond : items.elements[items.elements.length]? = none :=
        List.getElem?_eq_none_iff.mpr (Nat.le_refl _)
      rw [gives_field_of_absent_iff (here.trans element), used_eq, taken_eq]
      constructor
      · rintro ⟨make, _, ⟨given, rfl⟩, ⟨data, _, present, _⟩ | ⟨_, value, rfl, rfl, rfl⟩⟩
        · rw [beyond] at present
          cases present
        · exact ⟨⟨make, value, given, rfl, rfl⟩, rfl⟩
      · rintro ⟨⟨make, value, given, rfl, rfl⟩, rfl⟩
        exact ⟨make, _, ⟨given, rfl⟩, .inr ⟨beyond, value, rfl, rfl, rfl⟩⟩

end Fields

theorem Shape.read_record_list_eq_ok_iff {source : Source δ} {α : Type} {title : String}
    {fields : Fields α} {data : δ} {items : Items δ} {result : α}
    (parts : source.parts title data = .ok (.items items)) (distinct : fields.names.Nodup)
    (more : items.more = .ok ())
    (close : ∀ taken, items.close taken = .ok () ↔ items.elements.length ≤ taken) :
    (Shape.record title fields).read source data = .ok result ↔
      items.elements.length ≤ fields.count ∧
        fields.Gives source (fun name => (fields.order.zip items.elements).lookup name) result := by
  have run : (Shape.record title fields).read source data =
      (fields.readItems source title fields.count items >>= fun read =>
        items.close read.2 >>= fun _ => pure read.1) := by
    rw [Shape.read, parts]
    rfl
  rw [run, bind_eq_ok_iff]
  constructor
  · rintro ⟨⟨value, taken⟩, read, closed⟩
    obtain ⟨given, taken_eq⟩ :=
      (Fields.readItems_eq_ok_iff more (Fields.placed_zip distinct items.elements)).mp read
    obtain ⟨_, ended, equal⟩ := bind_eq_ok_iff.mp closed
    obtain rfl := Except.ok.inj equal
    have enough := (close taken).mp ended
    exact ⟨by omega, given⟩
  · rintro ⟨enough, given⟩
    have read : fields.readItems source title fields.count items = .ok (result, _) :=
      (Fields.readItems_eq_ok_iff more (Fields.placed_zip distinct items.elements)).mpr ⟨given, rfl⟩
    refine ⟨_, read, bind_eq_ok_iff.mpr ⟨(), (close _).mpr ?_, rfl⟩⟩
    show items.elements.length ≤ min items.elements.length fields.count
    omega

end Outliner.Json
