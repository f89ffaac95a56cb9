import Outliner.Proofs.Json.View

/-!
Values read back: what a value with doubles in it is read as from its own text. Everything else comes back as
it was, so a view shows the value that is read back as it shows the value.
-/
set_option autoImplicit false

namespace Outliner.Json

/-- What a number is read as from its text, if its text is in range. -/
def Number.readBack : Number → Number
  | .int value inRange => .int value inRange
  | .float value => (Numeral.ofFloat value).value?.getD (.float value)

def Number.Legible : Number → Prop
  | .int _ _ => True
  | .float value => (Numeral.ofFloat value).value?.isSome

mutual

/-- What a value is read as from its text, if its numbers are in range. -/
def readBack : Json → Json
  | .num number => .num number.readBack
  | .arr items => .arr (readBackItems items)
  | .obj members => .obj (readBackMembers members)
  | value => value

def readBackItems : List Json → List Json
  | [] => []
  | item :: rest => item.readBack :: readBackItems rest

def readBackMembers : List (String × Json) → List (String × Json)
  | [] => []
  | (key, value) :: rest => (key, value.readBack) :: readBackMembers rest

end

mutual

/-- The texts of all numbers within the value are in range. -/
def Legible : Json → Prop
  | .num number => number.Legible
  | .arr items => LegibleItems items
  | .obj members => LegibleMembers members
  | _ => True

def LegibleItems : List Json → Prop
  | [] => True
  | item :: rest => item.Legible ∧ LegibleItems rest

def LegibleMembers : List (String × Json) → Prop
  | [] => True
  | (_, value) :: rest => value.Legible ∧ LegibleMembers rest

end

private theorem readBackItems_eq_map (items : List Json) : readBackItems items = items.map readBack := by
  induction items with
  | nil => rfl
  | cons item rest ih => rw [readBackItems, ih, List.map_cons]

theorem readBackMembers_eq_map (members : List (String × Json)) :
    readBackMembers members = members.map fun member => (member.1, member.2.readBack) := by
  induction members with
  | nil => rfl
  | cons member rest ih => rw [readBackMembers, ih, List.map_cons]

theorem legibleItems_iff {items : List Json} : LegibleItems items ↔ ∀ item ∈ items, item.Legible := by
  induction items with
  | nil => simp [LegibleItems]
  | cons item rest ih => simp [LegibleItems, ih]

theorem legibleMembers_iff {members : List (String × Json)} :
    LegibleMembers members ↔ ∀ member ∈ members, member.2.Legible := by
  induction members with
  | nil => simp [LegibleMembers]
  | cons member rest ih => simp [LegibleMembers, ih]

mutual

theorem legible_of_floatFree : (value : Json) → value.FloatFree → value.Legible
  | .null, _ | .bool _, _ | .num (.int _ _), _ | .str _, _ => trivial
  | .num (.float _), free => by cases free
  | .arr items, free => legibleItems_of_floatFree items free
  | .obj members, free => legibleMembers_of_floatFree members free

private theorem legibleItems_of_floatFree : (items : List Json) → FloatFreeItems items → LegibleItems items
  | [], _ => trivial
  | item :: rest, free => ⟨legible_of_floatFree item free.1, legibleItems_of_floatFree rest free.2⟩

private theorem legibleMembers_of_floatFree : (members : List (String × Json)) → FloatFreeMembers members →
    LegibleMembers members
  | [], _ => trivial
  | (_, value) :: rest, free =>
    ⟨legible_of_floatFree value free.1, legibleMembers_of_floatFree rest free.2⟩

end

namespace Draft

private theorem readNumber_eq_ok_iff (number : Number) (result : Json) :
    read 0 (Json.num number).draft = .ok result ↔ number.Legible ∧ result = .num number.readBack := by
  cases number with
  | int value inRange =>
    rw [draft, read, readNumber, Numeral.value?_ofInt value inRange]
    simp [Except.map, Number.Legible, Number.readBack, eq_comm]
  | float value =>
    rw [draft, read, readNumber, Number.Legible, Number.readBack]
    cases (Numeral.ofFloat value).value? <;> simp [Except.map, eq_comm]

private theorem readItems_cons_eq_ok_iff {levels : Nat} {done result : List Json} {item : Draft}
    {rest : List Draft} : readItems levels .closed done (item :: rest) = .ok result ↔
      ∃ value, item.read levels = .ok value ∧
        readItems levels .closed (value :: done) rest = .ok result := by
  rw [readItems]
  cases item.read levels <;> simp

private theorem readMembers_cons_eq_ok_iff {levels : Nat} {done result : List (String × Json)}
    {key : String} {draft : Draft} {rest : List (Literal × Draft)} :
    readMembers levels .closed done ((.ofText key, draft) :: rest) = .ok result ↔
      ∃ value, draft.read levels = .ok value ∧
        readMembers levels .closed ((key, value) :: done) rest = .ok result := by
  rw [readMembers, Literal.value_ofText]
  cases draft.read levels <;> simp

mutual

/-- The draft of a value is read exactly if the value is not nested too deeply and its numbers are in
range. -/
theorem read_draft_eq_ok_iff (levels : Nat) : (value result : Json) →
    (read levels value.draft = .ok result ↔
      value.depth ≤ levels ∧ value.Legible ∧ result = value.readBack)
  | .null, result | .bool _, result => by
    simp [draft, read, depth, Legible, readBack, eq_comm]
  | .num value, result => by
    simp only [depth, Nat.zero_le, true_and, Legible, readBack, ← readNumber_eq_ok_iff]
    cases value <;> rfl
  | .str value, result => by
    simp [draft, read, depth, Legible, readBack, Literal.value_ofText, Except.map, eq_comm]
  | .arr items, result => by
    rw [draft, depth, Legible, readBack]
    cases levels with
    | zero => simp [read]
    | succ levels =>
      have reads := readItems_draftItems_eq_ok_iff levels [] items
      rw [read, map_eq_ok_iff, Nat.add_le_add_iff_right]
      constructor
      · rintro ⟨found, read, rfl⟩
        obtain ⟨shallow, legible, rfl⟩ := (reads found).mp read
        exact ⟨shallow, legible, rfl⟩
      · rintro ⟨shallow, legible, rfl⟩
        exact ⟨_, (reads _).mpr ⟨shallow, legible, rfl⟩, rfl⟩
  | .obj members, result => by
    rw [draft, depth, Legible, readBack]
    cases levels with
    | zero => simp [read]
    | succ levels =>
      have reads := readMembers_draftMembers_eq_ok_iff levels [] members
      rw [read, map_eq_ok_iff, Nat.add_le_add_iff_right]
      constructor
      · rintro ⟨found, read, rfl⟩
        obtain ⟨shallow, legible, rfl⟩ := (reads found).mp read
        exact ⟨shallow, legible, rfl⟩
      · rintro ⟨shallow, legible, rfl⟩
        exact ⟨_, (reads _).mpr ⟨shallow, legible, rfl⟩, rfl⟩

private theorem readItems_draftItems_eq_ok_iff (levels : Nat) (done : List Json) :
    (items result : List Json) → (readItems levels .closed done (draftItems items) = .ok result ↔
      depthItems items ≤ levels ∧ LegibleItems items ∧ result = done.reverse ++ readBackItems items)
  | [], result => by
    simp [draftItems, readItems, ListEnd.more, Except.map, depthItems, LegibleItems, readBackItems, eq_comm]
  | item :: rest, result => by
    rw [draftItems, readItems_cons_eq_ok_iff, depthItems, LegibleItems, readBackItems, Nat.max_le]
    simp only [read_draft_eq_ok_iff levels item, readItems_draftItems_eq_ok_iff levels _ rest]
    constructor
    · rintro ⟨_, ⟨first, legible, rfl⟩, others, rest_legible, rfl⟩
      exact ⟨⟨first, others⟩, ⟨legible, rest_legible⟩, by simp⟩
    · rintro ⟨⟨first, others⟩, ⟨legible, rest_legible⟩, rfl⟩
      exact ⟨_, ⟨first, legible, rfl⟩, others, rest_legible, by simp⟩

theorem readMembers_draftMembers_eq_ok_iff (levels : Nat) (done : List (String × Json)) :
    (members result : List (String × Json)) →
      (readMembers levels .closed done (draftMembers members) = .ok result ↔
        depthMembers members ≤ levels ∧ LegibleMembers members ∧
          result = done.reverse ++ readBackMembers members)
  | [], result => by
    simp [draftMembers, readMembers, ObjectEnd.close, Except.map, depthMembers, LegibleMembers,
      readBackMembers, eq_comm]
  | (key, value) :: rest, result => by
    rw [draftMembers, readMembers_cons_eq_ok_iff, depthMembers, LegibleMembers, readBackMembers,
      Nat.max_le]
    simp only [read_draft_eq_ok_iff levels value, readMembers_draftMembers_eq_ok_iff levels _ rest]
    constructor
    · rintro ⟨_, ⟨first, legible, rfl⟩, others, rest_legible, rfl⟩
      exact ⟨⟨first, others⟩, ⟨legible, rest_legible⟩, by simp⟩
    · rintro ⟨⟨first, others⟩, ⟨legible, rest_legible⟩, rfl⟩
      exact ⟨_, ⟨first, legible, rfl⟩, others, rest_legible, by simp⟩

end

end Draft

private theorem readBack_eq_null_iff {value : Json} : value.readBack = .null ↔ value = .null := by
  cases value <;> simp [readBack]

private theorem under_readBackMembers (members : List (String × Json)) (key : String) :
    under (readBackMembers members) key = (under members key).map readBack := by
  rw [readBackMembers_eq_map, under_map]

def View.ofReadBack {δ : Type} (view : View δ) : View δ where
  source := view.source
  data levels value := view.data levels value.readBack
  lastOnly := view.lastOnly
  word_data := view.word_data
  text_data := view.text_data
  isNull_data levels value := (view.isNull_data levels value.readBack).trans readBack_eq_null_iff
  name_data := view.name_data
  items_data levels items := by
    obtain ⟨shown, read, elements, more⟩ := view.items_data levels (readBackItems items)
    refine ⟨shown, read, elements.trans ?_, more⟩
    rw [readBackItems_eq_map, List.map_map]
    rfl
  parts_list title levels items := by
    obtain ⟨shown, read, elements, more, close⟩ := view.parts_list title levels (readBackItems items)
    rw [readBackItems_eq_map, List.map_map] at elements
    rw [readBackItems_eq_map, List.length_map] at close
    exact ⟨shown, read, elements, more, close⟩
  parts_obj title levels members := by
    obtain ⟨entries, parts, held⟩ := view.parts_obj title levels (readBackMembers members)
    refine ⟨entries, parts, fun key => (held key).trans ?_⟩
    rw [under_readBackMembers]
    cases view.lastOnly with
    | false => exact List.map_map
    | true =>
      rw [List.getLast?_map]
      cases (under members key).getLast? <;> rfl
  skip_data levels value := view.skip_data levels value.readBack

end Outliner.Json
