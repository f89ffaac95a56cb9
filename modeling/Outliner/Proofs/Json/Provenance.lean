import Outliner.Proofs.Json.View

/-!
Provenance: where the values of fields and items come from. However often the members of an object are
repeated, and whatever else stands among them, a field that has a value was read from one of the parts
of the record or may be absent.
-/
set_option autoImplicit false

namespace Outliner.Json

variable {δ : Type}

def Parts.elements : Parts δ → List δ
  | .items list => list.elements
  | .members object => object.entries.map (·.2)

namespace Fields

/-- Every field was read from data with the property, or it is absent and another value stands for it. -/
def Drawn (source : Source δ) (part : δ → Prop) : {α : Type} → Fields α → α → Prop
  | _, .make value, result => result = value
  | _, .field before _ shape absent, result =>
    ∃ make value, before.Drawn source part make ∧
      (absent = some value ∨ ∃ data, part data ∧ shape.read source data = .ok value) ∧
      result = make value

def SlotsDrawn (source : Source δ) (part : δ → Prop) :
    {α : Type} → (fields : Fields α) → fields.Slots → Prop
  | _, .make _, _ => True
  | _, @Fields.field _ β before _ shape _, slots =>
    let slots : before.Slots × Option β := slots
    before.SlotsDrawn source part slots.1 ∧
      ∀ value, slots.2 = some value → ∃ data, part data ∧ shape.read source data = .ok value

variable {source : Source δ} {part : δ → Prop}

private theorem slotsDrawn_blank : {α : Type} → (fields : Fields α) →
    fields.SlotsDrawn source part fields.blank
  | _, .make _ => trivial
  | _, .field before .. => ⟨before.slotsDrawn_blank, fun _ filled => nomatch filled⟩

private theorem readMember_of_filled {α β : Type} {before : Fields (β → α)} {name : String}
    {shape : Shape β} {absent : Option β} {data : δ} (earlier : before.Slots) (value : β) :
    (Fields.field before name shape absent).readMember source name data (earlier, some value) =
      some (.error (.duplicateField name)) :=
  if_pos rfl

private theorem slotsDrawn_readMember {key : String} {data : δ} (held : part data) :
    {α : Type} → {fields : Fields α} → {slots next : fields.Slots} →
      fields.readMember source key data slots = some (.ok next) →
      fields.SlotsDrawn source part slots → fields.SlotsDrawn source part next
  | _, .make _, _, _, read, _ => nomatch read
  | _, .field before name shape absent, slots, next, read, drawn => by
    obtain ⟨earlier, last⟩ := slots
    by_cases same : key = name
    · subst same
      cases last with
      | some value =>
        rw [readMember_of_filled] at read
        cases Option.some.inj read
      | none =>
        rw [readMember_of_eq] at read
        obtain ⟨value, found, rfl⟩ := map_eq_ok_iff.mp (Option.some.inj read)
        refine ⟨drawn.1, fun other filled => ?_⟩
        obtain rfl := Option.some.inj filled
        exact ⟨data, held, found⟩
    · rw [readMember_of_ne same] at read
      obtain ⟨outcome, earlierRead, mapped⟩ := Option.map_eq_some_iff.mp read
      obtain ⟨filled, rfl, rfl⟩ := map_eq_ok_iff.mp mapped
      exact ⟨slotsDrawn_readMember held earlierRead drawn.1, drawn.2⟩

private theorem slotsDrawn_readEntry {α : Type} {fields : Fields α} {slots next : fields.Slots}
    {entry : Except Fault String × δ} (held : part entry.2)
    (read : fields.readEntry source slots entry = .ok next)
    (drawn : fields.SlotsDrawn source part slots) : fields.SlotsDrawn source part next := by
  obtain ⟨key, _, read⟩ := bind_eq_ok_iff.mp read
  cases met : fields.readMember source key entry.2 slots with
  | some outcome =>
    rw [met] at read
    subst read
    exact slotsDrawn_readMember held met drawn
  | none =>
    rw [met] at read
    obtain ⟨_, _, unchanged⟩ := bind_eq_ok_iff.mp read
    obtain rfl := Except.ok.inj unchanged
    exact drawn

private theorem slotsDrawn_foldlM {α : Type} {fields : Fields α}
    {entries : List (Except Fault String × δ)} (each : ∀ entry ∈ entries, part entry.2)
    {slots next : fields.Slots} (read : entries.foldlM (fields.readEntry source) slots = .ok next)
    (drawn : fields.SlotsDrawn source part slots) : fields.SlotsDrawn source part next := by
  induction entries generalizing slots with
  | nil =>
    obtain rfl := Except.ok.inj read
    exact drawn
  | cons entry rest ih =>
    obtain ⟨held, each⟩ := List.forall_mem_cons.mp each
    rw [List.foldlM_cons] at read
    obtain ⟨filled, first, read⟩ := bind_eq_ok_iff.mp read
    exact ih each read (slotsDrawn_readEntry held first drawn)

private theorem drawn_finish : {α : Type} → {fields : Fields α} → {slots : fields.Slots} →
    {result : α} → fields.finish slots = .ok result → fields.SlotsDrawn source part slots →
      fields.Drawn source part result
  | _, .make _, _, _, finished, _ => (Except.ok.inj finished).symm
  | _, .field .., slots, _, finished, drawn => by
    obtain ⟨earlier, found⟩ := slots
    obtain ⟨make, value, made, chosen, rfl⟩ := finish_field_eq_ok_iff.mp finished
    refine ⟨make, value, drawn_finish made drawn.1, ?_, rfl⟩
    cases found with
    | some filled =>
      obtain rfl := Option.some.inj chosen
      exact .inr (drawn.2 filled rfl)
    | none => exact .inl chosen

private theorem drawn_readItems {title : String} {total : Nat} {items : Items δ}
    (each : ∀ data ∈ items.elements, part data) : {α : Type} → {fields : Fields α} → {result : α} →
      {taken : Nat} → fields.readItems source title total items = .ok (result, taken) →
      fields.Drawn source part result
  | _, .make _, _, _, read => (congrArg Prod.fst (Except.ok.inj read)).symm
  | _, .field before name shape absent, result, taken, read => by
    rw [readItems] at read
    obtain ⟨⟨make, used⟩, earlier, read⟩ := bind_eq_ok_iff.mp read
    refine ⟨make, ?_⟩
    dsimp only at read
    -- The place of the item is what was taken so far, of which nothing is known here; any item will do.
    cases element : items.elements[used]? with
    | some data =>
      rw [element] at read
      obtain ⟨value, found, equal⟩ := bind_eq_ok_iff.mp read
      refine ⟨value, drawn_readItems each earlier, .inr ⟨data, ?_, found⟩, ?_⟩
      · exact each data (List.mem_of_getElem? element)
      · exact (congrArg Prod.fst (Except.ok.inj equal)).symm
    | none =>
      rw [element] at read
      obtain ⟨_, _, read⟩ := bind_eq_ok_iff.mp read
      cases absent with
      | some value =>
        exact ⟨value, drawn_readItems each earlier, .inl rfl,
          (congrArg Prod.fst (Except.ok.inj read)).symm⟩
      | none => cases read

end Fields

namespace Shape

variable {source : Source δ} {part : δ → Prop} {α : Type} {data : δ}

theorem drawn_of_read_record {title : String} {fields : Fields α} {result : α}
    (each : ∀ parts, source.parts title data = .ok parts → ∀ x ∈ parts.elements, part x)
    (read : (Shape.record title fields).read source data = .ok result) :
    fields.Drawn source part result := by
  rw [Shape.read] at read
  obtain ⟨parts, shown, read⟩ := bind_eq_ok_iff.mp read
  have each := each parts shown
  cases parts with
  | items items =>
    obtain ⟨⟨value, taken⟩, taken_read, closed⟩ := bind_eq_ok_iff.mp read
    obtain ⟨_, _, equal⟩ := bind_eq_ok_iff.mp closed
    obtain rfl := Except.ok.inj equal
    exact Fields.drawn_readItems each taken_read
  | members members =>
    obtain ⟨slots, filled, closed⟩ := bind_eq_ok_iff.mp read
    obtain ⟨_, _, finished⟩ := bind_eq_ok_iff.mp closed
    have each_entry : ∀ entry ∈ members.entries, part entry.2 :=
      fun entry listed => each entry.2 (List.mem_map_of_mem listed)
    refine Fields.drawn_finish finished ?_
    exact Fields.slotsDrawn_foldlM each_entry filled fields.slotsDrawn_blank

theorem exists_of_read_list {shape : Shape α} {values : List α}
    (read : (Shape.list shape).read source data = .ok values) {value : α} (listed : value ∈ values) :
    ∃ items, source.items data = .ok items ∧ ∃ x ∈ items.elements, shape.read source x = .ok value := by
  rw [Shape.read] at read
  obtain ⟨items, shown, read⟩ := bind_eq_ok_iff.mp read
  obtain ⟨found, reads, rest⟩ := bind_eq_ok_iff.mp read
  obtain ⟨_, _, equal⟩ := bind_eq_ok_iff.mp rest
  obtain rfl := Except.ok.inj equal
  have each := mapM_eq_ok_iff.mp reads
  obtain ⟨place, bound, rfl⟩ := List.mem_iff_getElem.mp listed
  have inside : place < items.elements.length := each.length_eq ▸ bound
  exact ⟨items, shown, _, List.getElem_mem inside, each.get inside bound⟩

end Shape

namespace Draft

private theorem descend_eq_ok_iff {levels below : Nat} : descend levels = .ok below ↔ levels = below + 1 := by
  cases levels <;> simp [descend]

private theorem levels_itemsOf {levels : Nat} {drafts : List Draft} {ending : ListEnd}
    {items : Items Limited} (shown : itemsOf levels drafts ending = .ok items) :
    ∀ x ∈ items.elements, x.levels + 1 = levels := by
  obtain ⟨below, descended, equal⟩ := bind_eq_ok_iff.mp shown
  obtain rfl := Except.ok.inj equal
  intro x inside
  obtain ⟨draft, _, rfl⟩ := List.mem_map.mp inside
  exact (descend_eq_ok_iff.mp descended).symm

private theorem levels_membersOf {levels : Nat} {drafts : List (Literal × Draft)} {ending : ObjectEnd}
    {members : Members Limited} (shown : membersOf levels drafts ending = .ok members) :
    ∀ entry ∈ members.entries, entry.2.levels + 1 = levels := by
  obtain ⟨below, descended, equal⟩ := bind_eq_ok_iff.mp shown
  obtain rfl := Except.ok.inj equal
  intro entry inside
  obtain ⟨draft, _, rfl⟩ := List.mem_map.mp inside
  exact (descend_eq_ok_iff.mp descended).symm

theorem levels_of_items {data : Limited} {items : Items Limited}
    (shown : source.items data = .ok items) : ∀ x ∈ items.elements, x.levels + 1 = data.levels := by
  obtain ⟨levels, draft⟩ := data
  cases draft with
  | list drafts ending => exact levels_itemsOf shown
  | _ => cases shown

theorem levels_of_parts {title : String} {data : Limited} {parts : Parts Limited}
    (shown : source.parts title data = .ok parts) : ∀ x ∈ parts.elements, x.levels + 1 = data.levels := by
  obtain ⟨levels, draft⟩ := data
  cases draft with
  | list drafts ending =>
    obtain ⟨items, listed, rfl⟩ := map_eq_ok_iff.mp shown
    exact levels_itemsOf listed
  | object drafts ending =>
    obtain ⟨members, listed, rfl⟩ := map_eq_ok_iff.mp shown
    intro x inside
    obtain ⟨entry, met, rfl⟩ := List.mem_map.mp inside
    exact levels_membersOf listed entry met
  | _ => cases shown

theorem depth_object_lt {data : Limited} {members : List (String × Json)}
    (shown : source.object data = .ok members) : ∀ member ∈ members, member.2.depth < data.levels := by
  obtain ⟨levels, draft⟩ := data
  cases draft with
  | object drafts ending =>
    obtain ⟨below, descended, shown⟩ := bind_eq_ok_iff.mp shown
    obtain ⟨found, reads, equal⟩ := bind_eq_ok_iff.mp shown
    obtain rfl := Except.ok.inj equal
    obtain rfl := descend_eq_ok_iff.mp descended
    intro member inside
    have inside := mem_of_mem_sortMembers inside
    rw [canonicalMembers_eq_map] at inside
    obtain ⟨original, listed, rfl⟩ := List.mem_map.mp inside
    have shallow := depth_readMembers_le reads (by simp) original listed
    exact Nat.lt_succ_of_le (Nat.le_trans (depth_canonical_le original.2) shallow)
  | _ => cases shown

end Draft

theorem Shape.exists_of_ofText {α : Type} {shape : Shape α} {text : String} {value : α}
    (read : shape.ofText text = .ok value) :
    ∃ draft, shape.read Draft.source ⟨Draft.maxLevels, draft⟩ = .ok value := by
  obtain ⟨found, made, ended⟩ := bind_eq_ok_iff.mp read
  refine ⟨(Draft.ofText text).1, ?_⟩
  split at ended
  · cases ended
  · obtain rfl := Except.ok.inj ended
    exact made

end Outliner.Json
