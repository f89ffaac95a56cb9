import Outliner.Proofs.Json.View

/-!
Meanings: what a value stands for where data of a shape is asked for, said of the value alone.

A record may be written as an object or as a list, and either way the meaning looks only at what stands
under the name of each field. Main statement: in the draft of its text and in its canonical form, a value
is read exactly as what it means, provided that its keys are distinct, its numbers are integers and it is
not nested too deeply.
-/
set_option autoImplicit false

namespace Outliner.Json

/-! ### Values that can be read whole -/

/-- All numbers within the value are integers, the keys of every object are distinct, and at most
`levels` lists and objects are nested. -/
structure Readable (levels : Nat) (value : Json) : Prop where
  free : value.FloatFree
  distinct : value.DistinctKeys
  shallow : value.depth ≤ levels

namespace Readable

variable {levels : Nat}

private theorem items {items : List Json} (readable : Readable levels (.arr items)) :
    ∃ below, levels = below + 1 ∧ ∀ item ∈ items, Readable below item := by
  obtain ⟨free, distinct, shallow⟩ := readable
  have shallow : depthItems items + 1 ≤ levels := shallow
  cases levels with
  | zero => exact absurd shallow (Nat.not_succ_le_zero _)
  | succ below =>
    refine ⟨below, rfl, fun item inside => ⟨?_, ?_, ?_⟩⟩
    · exact floatFreeItems_iff.mp free item inside
    · exact distinctKeysItems_iff.mp distinct item inside
    · exact depthItems_le_iff.mp (Nat.le_of_succ_le_succ shallow) item inside

theorem members {members : List (String × Json)} (readable : Readable levels (.obj members)) :
    ∃ below, levels = below + 1 ∧ ∀ member ∈ members, Readable below member.2 := by
  obtain ⟨free, distinct, shallow⟩ := readable
  have shallow : depthMembers members + 1 ≤ levels := shallow
  cases levels with
  | zero => exact absurd shallow (Nat.not_succ_le_zero _)
  | succ below =>
    refine ⟨below, rfl, fun member inside => ⟨?_, ?_, ?_⟩⟩
    · exact floatFreeMembers_iff.mp free member inside
    · exact distinctKeysMembers_iff.mp distinct.2 member inside
    · exact depthMembers_le_iff.mp (Nat.le_of_succ_le_succ shallow) member inside

end Readable

/-! ### What a value stands for -/

/-- The word of 32 bits that a value is: a whole number from 0 to 2³² - 1. -/
def word? : Json → Option UInt32
  | .num (.int value _) =>
    if 0 ≤ value ∧ value < 2 ^ 32 then some (UInt32.ofNat value.toNat) else none
  | _ => none

def text? : Json → Option String
  | .str text => some text
  | _ => none

def nullOr? {α : Type} (read? : Json → Option α) : Json → Option (Option α)
  | .null => some none
  | value => (read? value).map some

def listOf? {α : Type} (read? : Json → Option α) : Json → Option (List α)
  | .arr items => items.mapM read?
  | _ => none

/-- What stands under each name in a record with these fields: in an object the member with that key,
and in a list the item at the place of the field. -/
def fields? (order : List String) : Json → Option (String → Option Json)
  | .obj members => some fun name => members.lookup name
  | .arr items =>
    if items.length ≤ order.length then some fun name => (order.zip items).lookup name else none
  | _ => none

def required? {α : Type} (read? : Json → Option α) (found : Option Json) : Option α :=
  found.elim none read?

def orElse? {α : Type} (absent : α) (read? : Json → Option α) (found : Option Json) : Option α :=
  found.elim (some absent) read?

/-! ### Views that show nothing else -/

/-- The view refuses everything that is not of the form asked for. -/
structure View.Exact {δ : Type} (view : View δ) : Prop where
  word_iff : ∀ levels value word,
    view.source.word (view.data levels value) = .ok word ↔ value.word? = some word
  text_iff : ∀ levels value text,
    view.source.text (view.data levels value) = .ok text ↔ value.text? = some text
  items_other : ∀ levels value, (∀ items, value ≠ .arr items) →
    ∃ fault, view.source.items (view.data levels value) = .error fault
  parts_other : ∀ title levels value, (∀ items, value ≠ .arr items) →
    (∀ members, value ≠ .obj members) →
      ∃ fault, view.source.parts title (view.data levels value) = .error fault
  object_obj : ∀ levels members, Readable levels (.obj members) →
    view.source.object (view.data levels (.obj members)) =
      .ok (sortMembers (canonicalMembers members))
  object_other : ∀ levels value, (∀ members, value ≠ .obj members) →
    ∃ fault, view.source.object (view.data levels value) = .error fault

private theorem Number.word_int_eq_ok_iff {value : Int} {inRange : Number.InRange value} {word : UInt32} :
    (Number.int value inRange).word = .ok word ↔ (Json.num (.int value inRange)).word? = some word := by
  simp only [Number.word, word?]
  have bounds : (0 ≤ value ∧ value < UInt32.size) ↔ (0 ≤ value ∧ value < 2 ^ 32) := Iff.rfl
  by_cases fits : 0 ≤ value ∧ value < 2 ^ 32
  · rw [if_pos (bounds.mpr fits), if_pos fits]
    simp
  · rw [if_neg (fun held => fits (bounds.mp held)), if_neg fits]
    simp

private theorem Draft.readNumber_ofFloat_ne_int (value : Float) (whole : Int)
    (inRange : Number.InRange whole) : readNumber (.ofFloat value) ≠ .ok (.int whole inRange) := by
  intro read
  rw [readNumber] at read
  split at read
  · rename_i number found
    obtain rfl := Except.ok.inj read
    exact Numeral.value?_ofFloat_ne_int value whole inRange found
  · cases read

namespace View

theorem exact_ofDraft : ofDraft.Exact where
  word_iff levels value word := by
    cases value with
    | num number =>
      cases number with
      | int value inRange =>
        rw [← Number.word_int_eq_ok_iff]
        have read : Draft.readNumber (.ofInt value) = .ok (.int value inRange) := by
          rw [Draft.readNumber, Numeral.value?_ofInt value inRange]
        show (Draft.readNumber (.ofInt value) >>= Number.word) = .ok word ↔ _
        rw [read]
        rfl
      | float value =>
        refine iff_of_false (fun read => ?_) (by simp [word?])
        obtain ⟨number, found, made⟩ := bind_eq_ok_iff.mp read
        cases number with
        | int whole inRange => exact Draft.readNumber_ofFloat_ne_int value whole inRange found
        | float _ => cases made
    | _ => simp [ofDraft, Draft.source, draft, Draft.word, word?]
  text_iff levels value text := by
    cases value with
    | num number => cases number <;> simp [ofDraft, Draft.source, draft, Draft.textValue, text?]
    | str value =>
      have read : ofDraft.source.text (ofDraft.data levels (.str value)) = .ok value :=
        Literal.value_ofText value
      simp [read, text?]
    | _ => simp [ofDraft, Draft.source, draft, Draft.textValue, text?]
  items_other levels value other := by
    cases value with
    | num number => cases number <;> exact ⟨_, rfl⟩
    | arr items => exact absurd rfl (other items)
    | _ => exact ⟨_, rfl⟩
  parts_other title levels value notList notObject := by
    cases value with
    | num number => cases number <;> exact ⟨_, rfl⟩
    | arr items => exact absurd rfl (notList items)
    | obj members => exact absurd rfl (notObject members)
    | _ => exact ⟨_, rfl⟩
  object_obj levels members readable := by
    obtain ⟨below, rfl, each⟩ := readable.members
    have shallow : depthMembers members ≤ below :=
      depthMembers_le_iff.mpr fun member inside => (each member inside).shallow
    have read := Draft.readMembers_draftMembers below [] members readable.free
    rw [Draft.within, if_pos shallow] at read
    show (Draft.readMembers below .closed [] (draftMembers members) >>= fun members =>
      pure (sortMembers (canonicalMembers members))) = _
    rw [read]
    rfl
  object_other levels value other := by
    cases value with
    | num number => cases number <;> exact ⟨_, rfl⟩
    | obj members => exact absurd rfl (other members)
    | _ => exact ⟨_, rfl⟩

theorem exact_ofCanonical (tooLong : Nat → Nat → Fault) : (ofCanonical tooLong).Exact where
  word_iff levels value word := by
    cases value with
    | num number =>
      cases number with
      | int value inRange => exact Number.word_int_eq_ok_iff
      | float value => simp [ofCanonical, Json.source, canonical, Number.word, word?]
    | _ => simp [ofCanonical, Json.source, canonical, word?]
  text_iff levels value text := by
    cases value <;> simp [ofCanonical, Json.source, canonical, text?]
  items_other levels value other := by
    cases value with
    | arr items => exact absurd rfl (other items)
    | _ => exact ⟨_, rfl⟩
  parts_other title levels value notList notObject := by
    cases value with
    | arr items => exact absurd rfl (notList items)
    | obj members => exact absurd rfl (notObject members)
    | _ => exact ⟨_, rfl⟩
  object_obj levels members readable := by
    have again := canonical_of_canonical _ (canonical_canonical (.obj members))
    simp only [canonical, Json.obj.injEq] at again
    exact congrArg Except.ok again
  object_other levels value other := by
    cases value with
    | obj members => exact absurd rfl (other members)
    | _ => exact ⟨_, rfl⟩

end View

/-! ### Shapes and their meanings -/

/-- In every view that shows nothing else, the shape reads from a value what the value means. -/
def Shape.Means {α : Type} (shape : Shape α) (meaning : Json → Option α) : Prop :=
  ∀ {δ : Type} (view : View δ), view.Exact → ∀ {levels : Nat} {value : Json}, Readable levels value →
    ∀ result, shape.read view.source (view.data levels value) = .ok result ↔
      meaning value = some result

def Fields.Means {α : Type} (fields : Fields α) (meaning : (String → Option Json) → Option α) : Prop :=
  ∀ {δ : Type} (view : View δ), view.Exact → ∀ {levels : Nat} {held : String → Option Json},
    (∀ name value, held name = some value → Readable levels value) →
      ∀ result, fields.Gives view.source (fun name => (held name).map (view.data levels)) result ↔
        meaning held = some result

theorem mapM_eq_some_iff {α β : Type} {read? : α → Option β} {items : List α} {values : List β} :
    items.mapM read? = some values ↔
      List.Forall₂ (fun item value => read? item = some value) items values := by
  induction items generalizing values with
  | nil => simp [eq_comm]
  | cons item rest ih =>
    simp only [List.mapM_cons, Option.bind_eq_bind, Option.bind_eq_some_iff, Option.pure_def,
      Option.some.injEq, ih, List.forall₂_cons_left_iff]
    constructor
    · rintro ⟨value, read, others, reads, rfl⟩
      exact ⟨value, others, read, reads, rfl⟩
    · rintro ⟨value, others, read, reads, rfl⟩
      exact ⟨value, read, others, reads, rfl⟩

private theorem seq_eq_some_iff {α β : Type} {make? : Option (α → β)} {value? : Option α} {result : β} :
    make? <*> value? = some result ↔
      ∃ make value, make? = some make ∧ value? = some value ∧ result = make value := by
  cases make? <;> cases value? <;> simp [Seq.seq, eq_comm]

namespace Fields

theorem means_make {α : Type} (value : α) : (Fields.make value).Means fun _ => some value := by
  intro δ view exactly levels held readable result
  simp [Gives, eq_comm]

theorem means_field {α β : Type} {before : Fields (β → α)} {name : String} {shape : Shape β}
    {absent : Option β} {meaning : (String → Option Json) → Option (β → α)}
    {part : Json → Option β} (earlier : before.Means meaning) (means : shape.Means part) :
    (Fields.field before name shape absent).Means fun held =>
      meaning held <*> (held name).elim absent part := by
  intro δ view exactly levels held readable result
  rw [seq_eq_some_iff]
  cases found : held name with
  | none =>
    rw [gives_field_of_absent_iff (by rw [found]; rfl)]
    simp only [earlier view exactly readable, Option.elim_none]
  | some value =>
    rw [gives_field_iff (by rw [found]; rfl)]
    simp only [earlier view exactly readable, means view exactly (readable name value found),
      Option.elim_some]

end Fields

namespace Shape

private theorem bind_eq_ok_iff_of_refused {α β : Type} {shown : Except Fault β} {next : β → Except Fault α}
    {fault : Fault} {meant : Option α} (refused : shown = .error fault) (none : meant = none)
    (result : α) : (shown >>= next) = .ok result ↔ meant = some result := by
  subst refused none
  exact iff_of_false (by rintro ⟨⟩) (by rintro ⟨⟩)

theorem means_word : Shape.word.Means word? := by
  intro δ view exactly levels value readable result
  rw [Shape.read]
  exact exactly.word_iff levels value result

theorem means_text : Shape.text.Means text? := by
  intro δ view exactly levels value readable result
  rw [Shape.read]
  exact exactly.text_iff levels value result

theorem means_optional {α : Type} {shape : Shape α} {meaning : Json → Option α}
    (means : shape.Means meaning) : shape.optional.Means (nullOr? meaning) := by
  intro δ view exactly levels value readable result
  rw [Shape.read]
  by_cases null : value = .null
  · subst null
    rw [if_pos ((view.isNull_data levels .null).mpr rfl)]
    simp [nullOr?]
  · have meant : nullOr? meaning value = (meaning value).map some := by
      cases value <;> first | rfl | exact absurd rfl null
    rw [if_neg (fun shown => null ((view.isNull_data levels value).mp shown)), map_eq_ok_iff, meant,
      Option.map_eq_some_iff]
    simp only [means view exactly readable]

theorem means_list {α : Type} {shape : Shape α} {meaning : Json → Option α}
    (means : shape.Means meaning) : shape.list.Means (listOf? meaning) := by
  intro δ view exactly levels value readable result
  by_cases list : ∃ items, value = .arr items
  · obtain ⟨items, rfl⟩ := list
    obtain ⟨below, rfl, each⟩ := readable.items
    rw [view.read_list_eq_ok_iff, listOf?, mapM_eq_some_iff]
    constructor
    · intro reads
      exact ((List.forall₂_and_left _ _).mpr ⟨each, reads⟩).imp fun item value both =>
        (means view exactly both.1 value).mp both.2
    · intro reads
      exact ((List.forall₂_and_left _ _).mpr ⟨each, reads⟩).imp fun item value both =>
        (means view exactly both.1 value).mpr both.2
  · have other : ∀ items, value ≠ .arr items := fun items equal => list ⟨items, equal⟩
    obtain ⟨fault, refused⟩ := exactly.items_other levels value other
    have meant : listOf? meaning value = none := by
      cases value <;> first | rfl | exact absurd rfl (other _)
    rw [Shape.read]
    exact bind_eq_ok_iff_of_refused refused meant result

theorem means_record {α : Type} {title : String} {fields : Fields α}
    {meaning : (String → Option Json) → Option α} (distinct : fields.names.Nodup)
    (means : fields.Means meaning) :
    (Shape.record title fields).Means fun value => value.fields? fields.order >>= meaning := by
  intro δ view exactly levels value readable result
  dsimp only
  by_cases object : ∃ members, value = .obj members
  · obtain ⟨members, rfl⟩ := object
    obtain ⟨below, rfl, each⟩ := readable.members
    rw [view.read_record_eq_ok_iff distinct readable.distinct.1]
    refine means view exactly (fun name value found => ?_) result
    exact each _ ((lookup_eq_some_iff_mem readable.distinct.1).mp found)
  by_cases list : ∃ items, value = .arr items
  · obtain ⟨items, rfl⟩ := list
    obtain ⟨below, rfl, each⟩ := readable.items
    -- Whatever stands under a name is one of the items.
    have each_named : ∀ name value, (fields.order.zip items).lookup name = some value →
        Readable below value := by
      intro name value found
      obtain ⟨before, after, split, _⟩ := List.lookup_eq_some_iff.mp found
      have inside : (name, value) ∈ fields.order.zip items := by simp [split]
      exact each value (List.of_mem_zip inside).2
    rw [view.read_record_list_eq_ok_iff distinct, means view exactly each_named, fields?,
      Fields.length_order]
    by_cases fits : items.length ≤ fields.count <;> simp [fits]
  · have notObject : ∀ members, value ≠ .obj members := fun members equal => object ⟨members, equal⟩
    have notList : ∀ items, value ≠ .arr items := fun items equal => list ⟨items, equal⟩
    obtain ⟨fault, refused⟩ := exactly.parts_other title levels value notList notObject
    have meant : (value.fields? fields.order >>= meaning) = none := by
      cases value <;> first | rfl | exact absurd rfl (notList _) | exact absurd rfl (notObject _)
    rw [Shape.read]
    exact bind_eq_ok_iff_of_refused refused meant result

theorem means_object {α : Type} {make : List (String × Json) → Except Fault α}
    {meaning : Json → Option α}
    (made : ∀ levels members, Readable levels (.obj members) → ∀ result,
      make (sortMembers (canonicalMembers members)) = .ok result ↔
        meaning (.obj members) = some result)
    (other : ∀ value, (∀ members, value ≠ .obj members) → meaning value = none) :
    (Shape.object make).Means meaning := by
  intro δ view exactly levels value readable result
  by_cases object : ∃ members, value = .obj members
  · obtain ⟨members, rfl⟩ := object
    rw [Shape.read, exactly.object_obj levels members readable]
    exact made levels members readable result
  · have notObject : ∀ members, value ≠ .obj members := fun members equal => object ⟨members, equal⟩
    obtain ⟨fault, refused⟩ := exactly.object_other levels value notObject
    rw [Shape.read]
    exact bind_eq_ok_iff_of_refused refused (other value notObject) result

/-- The text of a value is read as what the value means, and refused if it means nothing. -/
theorem Means.toOption_ofText {α : Type} {shape : Shape α} {meaning : Json → Option α}
    (means : shape.Means meaning) {value : Json} (readable : Readable Draft.maxLevels value) :
    (shape.ofText value.compact).toOption = meaning value := by
  have read_iff := means View.ofDraft View.exact_ofDraft readable
  rw [ofText_compact]
  apply Option.ext
  intro result
  rw [← read_iff result]
  cases shape.read View.ofDraft.source (View.ofDraft.data Draft.maxLevels value) <;>
    simp [Except.toOption]

end Shape

end Outliner.Json
