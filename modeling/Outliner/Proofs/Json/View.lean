import Mathlib.Data.List.Forall2
import Outliner.Proofs.Json.Canonical
import Outliner.Proofs.Json.Depth
import Outliner.Proofs.Json.Positional

/-!
Views: the ways in which a value can come before a shape, as the draft of its text, in its canonical form
or as it is. All show words, texts, lists and objects alike, so that a shape which recovers what was written
is proved to do so once, for every view.
-/
set_option autoImplicit false

namespace Outliner.Json

theorem mapM_eq_ok_iff {α β : Type} {read : α → Except Fault β} {items : List α} {values : List β} :
    items.mapM read = .ok values ↔
      List.Forall₂ (fun item value => read item = .ok value) items values := by
  induction items generalizing values with
  | nil =>
    rw [List.mapM_nil, List.forall₂_nil_left_iff]
    constructor
    · intro equal
      exact (Except.ok.inj equal).symm
    · rintro rfl
      rfl
  | cons item rest ih =>
    rw [List.mapM_cons, bind_eq_ok_iff, List.forall₂_cons_left_iff]
    constructor
    · rintro ⟨value, read, others⟩
      obtain ⟨found, reads, equal⟩ := bind_eq_ok_iff.mp others
      exact ⟨value, found, read, ih.mp reads, (Except.ok.inj equal).symm⟩
    · rintro ⟨value, found, read, reads, rfl⟩
      exact ⟨value, read, bind_eq_ok_iff.mpr ⟨found, ih.mpr reads, rfl⟩⟩

/-- A way of showing values to shapes, by how many more levels may be nested in them. Of several members
with the same key, the last one only may be shown. -/
structure View (δ : Type) where
  source : Source δ
  data : Nat → Json → δ
  lastOnly : Bool
  word_data : ∀ levels word, source.word (data levels (.ofUInt32 word)) = .ok word
  text_data : ∀ levels text, source.text (data levels (.str text)) = .ok text
  isNull_data : ∀ levels value, source.isNull (data levels value) = true ↔ value = .null
  name_data : ∀ levels name, source.name (data levels (.str name)) = .ok (name, .ok ())
  items_data : ∀ levels items, ∃ shown, source.items (data (levels + 1) (.arr items)) = .ok shown ∧
    shown.elements = items.map (data levels) ∧ shown.more = .ok ()
  parts_list : ∀ title levels items, ∃ shown,
    source.parts title (data (levels + 1) (.arr items)) = .ok (.items shown) ∧
      shown.elements = items.map (data levels) ∧ shown.more = .ok () ∧
      ∀ taken, shown.close taken = .ok () ↔ items.length ≤ taken
  parts_obj : ∀ title levels members, ∃ entries : List (String × δ),
    source.parts title (data (levels + 1) (.obj members)) =
      .ok (.members ⟨entries.map fun entry => (.ok entry.1, entry.2), .ok ()⟩) ∧
    ∀ key, under entries key = (if lastOnly then (under members key).getLast?.toList
      else under members key).map (data levels)
  skip_data : ∀ levels value, source.skip (data levels value) = .ok ()

private theorem Number.word_ofUInt32 (word : UInt32) : (Number.ofUInt32 word).word = .ok word := by
  have bound := word.toNat_lt
  have fits : (0 : Int) ≤ word.toNat ∧ (word.toNat : Int) < UInt32.size := by
    constructor
    · omega
    · exact_mod_cast bound
  simp only [ofUInt32, Number.word]
  rw [if_pos fits]
  simp

private theorem Draft.word_draft (word : UInt32) : (Json.ofUInt32 word).draft.word = .ok word := by
  have bound := word.toNat_lt
  have inRange : Number.InRange word.toNat := by
    constructor <;> omega
  have read : readNumber (.ofInt word.toNat) = .ok (.ofUInt32 word) := by
    rw [readNumber, Numeral.value?_ofInt _ inRange]
    rfl
  have written : (Json.ofUInt32 word).draft = .number (.ofInt word.toNat) := rfl
  rw [written, Draft.word]
  exact bind_eq_ok_iff.mpr ⟨_, read, Number.word_ofUInt32 word⟩

private theorem close_eq_ok_iff {length taken : Nat} {fault : Fault} :
    (if taken < length then Except.error fault else .ok ()) = .ok () ↔ length ≤ taken := by
  by_cases longer : taken < length
  · simp [longer]
  · simp [longer, Nat.not_lt.mp longer]

namespace View

def ofDraft : View Draft.Limited where
  source := Draft.source
  data levels value := ⟨levels, value.draft⟩
  lastOnly := false
  word_data levels word := Draft.word_draft word
  text_data levels text := Literal.value_ofText text
  isNull_data levels value := by
    cases value with
    | num number => cases number <;> simp [Draft.source, draft, Draft.isNull]
    | _ => simp [Draft.source, draft, Draft.isNull]
  name_data levels name := by
    have read : Draft.source.name ⟨levels, (Json.str name).draft⟩ =
        (Literal.ofText name).value.map fun name => (name, .ok ()) := rfl
    rw [read, Literal.value_ofText]
    rfl
  items_data levels items := by
    refine ⟨_, rfl, ?_, rfl⟩
    simp only [draftItems_eq_map, List.map_map]
    rfl
  parts_list title levels items := by
    refine ⟨_, rfl, ?_, rfl, fun taken => ?_⟩
    · simp only [draftItems_eq_map, List.map_map]
      rfl
    · have length : (draftItems items).length = items.length := by
        rw [draftItems_eq_map, List.length_map]
      show (if taken < (draftItems items).length then Except.error Fault.trailingText else .ok ()) =
        .ok () ↔ _
      rw [length, close_eq_ok_iff]
  parts_obj title levels members := by
    refine ⟨members.map fun member => (member.1, ⟨levels, member.2.draft⟩), ?_, fun key => ?_⟩
    · have keys : ∀ member : String × Json, (Literal.ofText member.1).value = .ok member.1 :=
        fun member => Literal.value_ofText member.1
      simp only [Draft.source, draft, Draft.membersOf, draftMembers_eq_map, List.map_map,
        Function.comp_def, keys]
      rfl
    · rw [if_neg Bool.false_ne_true]
      exact under_map (fun value => (⟨levels, value.draft⟩ : Draft.Limited)) members key
  skip_data levels value := Draft.skip_draft value

def ofCanonical (tooLong : Nat → Nat → Fault) : View Json where
  source := Json.source tooLong
  data _ value := value.canonical
  lastOnly := true
  word_data levels word := by
    simp only [Json.source, ofUInt32, canonical, Number.word_ofUInt32]
  text_data levels text := rfl
  isNull_data levels value := by
    cases value <;> simp [Json.source, canonical]
  name_data levels name := rfl
  items_data levels items := ⟨_, rfl, canonicalItems_eq_map items, rfl⟩
  parts_list title levels items := by
    refine ⟨_, rfl, canonicalItems_eq_map items, rfl, fun taken => ?_⟩
    have length : (canonicalItems items).length = items.length := by
      rw [canonicalItems_eq_map, List.length_map]
    show (if taken < (canonicalItems items).length then Except.error _ else .ok ()) = .ok () ↔ _
    rw [length, close_eq_ok_iff]
  parts_obj title levels members := by
    refine ⟨sortMembers (canonicalMembers members), rfl, fun key => ?_⟩
    rw [under_sortMembers, canonicalMembers_eq_map, under_map, List.getLast?_map, if_pos rfl]
    cases (under members key).getLast? <;> rfl
  skip_data levels value := rfl

def ofBuffer (tooLong : Nat → Nat → Fault) : View Json where
  source := Json.source tooLong
  data _ value := value
  lastOnly := false
  word_data levels word := by
    simp only [Json.source, ofUInt32, Number.word_ofUInt32]
  text_data levels text := rfl
  isNull_data levels value := by
    cases value <;> simp [Json.source]
  name_data levels name := rfl
  items_data levels items := ⟨_, rfl, (List.map_id items).symm, rfl⟩
  parts_list title levels items := ⟨_, rfl, (List.map_id items).symm, rfl, fun _ => close_eq_ok_iff⟩
  parts_obj title levels members := by
    refine ⟨members, rfl, fun key => ?_⟩
    rw [if_neg Bool.false_ne_true]
    exact (List.map_id (under members key)).symm
  skip_data levels value := rfl

variable {δ : Type} (view : View δ)

theorem read_list_eq_ok_iff {α : Type} {shape : Shape α} {levels : Nat} {items : List Json}
    {values : List α} :
    (Shape.list shape).read view.source (view.data (levels + 1) (.arr items)) = .ok values ↔
      List.Forall₂ (fun item value => shape.read view.source (view.data levels item) = .ok value)
        items values := by
  obtain ⟨shown, read, elements, more⟩ := view.items_data levels items
  have run : (Shape.list shape).read view.source (view.data (levels + 1) (.arr items)) =
      (items.map (view.data levels)).mapM (shape.read view.source) := by
    rw [Shape.read, read, ← elements]
    show (shown.elements.mapM (shape.read view.source) >>= fun values =>
      shown.more >>= fun _ => pure values) = _
    rw [more]
    exact bind_pure _
  rw [run, mapM_eq_ok_iff, List.forall₂_map_left_iff]

def shown (values : List Json) : List Json :=
  if view.lastOnly then values.getLast?.toList else values

private theorem shown_of_length_le_one {values : List Json} (single : values.length ≤ 1) :
    view.shown values = values := by
  unfold shown
  split
  · match values, single with
    | [], _ => rfl
    | [_], _ => rfl
  · rfl

private theorem exists_shown_parts (title : String) (levels : Nat) (members : List (String × Json)) :
    ∃ entries : List (String × δ), view.source.parts title (view.data (levels + 1) (.obj members)) =
        .ok (.members ⟨entries.map fun entry => (.ok entry.1, entry.2), .ok ()⟩) ∧
      (∀ entry ∈ entries, view.source.skip entry.2 = .ok ()) ∧
      ∀ key, under entries key = (view.shown (under members key)).map (view.data levels) := by
  obtain ⟨entries, parts, held⟩ := view.parts_obj title levels members
  refine ⟨entries, parts, ?_, held⟩
  rintro ⟨key, data⟩ inside
  have listed : data ∈ under entries key := mem_under_iff.mpr inside
  rw [held] at listed
  obtain ⟨value, _, rfl⟩ := List.mem_map.mp listed
  exact view.skip_data levels value

section Record

variable {α : Type} {title : String} {fields : Fields α} {levels : Nat} {members : List (String × Json)}
  {result : α}

/-- A record is read from an object exactly if no field is shown twice and every field is read from what is
shown under its name. -/
theorem read_record_eq_ok_iff_shown (distinct : fields.names.Nodup) :
    (Shape.record title fields).read view.source (view.data (levels + 1) (.obj members)) =
        .ok result ↔
      (∀ name ∈ fields.names, (view.shown (under members name)).length ≤ 1) ∧
        fields.Gives view.source
          (fun name => (view.shown (under members name)).head?.map (view.data levels)) result := by
  obtain ⟨entries, parts, skips, held⟩ := view.exists_shown_parts title levels members
  rw [Shape.read_record_eq_ok_iff parts distinct skips]
  simp only [held, List.length_map, List.head?_map]

private theorem shown_under_of_nodup (nodup : (members.map (·.1)).Nodup) (name : String) :
    view.shown (under members name) = under members name :=
  view.shown_of_length_le_one (length_under_le_one nodup name)

theorem read_record_eq_ok_iff (distinct : fields.names.Nodup)
    (nodup : (members.map (·.1)).Nodup) :
    (Shape.record title fields).read view.source (view.data (levels + 1) (.obj members)) =
        .ok result ↔
      fields.Gives view.source (fun name => (members.lookup name).map (view.data levels)) result := by
  rw [view.read_record_eq_ok_iff_shown distinct]
  simp only [view.shown_under_of_nodup nodup, ← lookup_eq_head?_under]
  exact and_iff_right fun name _ => length_under_le_one nodup name

theorem read_record_of_under {own : List (String × Json)} (distinct : fields.names.Nodup)
    (nodup : (own.map (·.1)).Nodup) (same : ∀ name ∈ fields.names, under members name = under own name)
    (gives : fields.Gives view.source (fun name => (own.lookup name).map (view.data levels)) result) :
    (Shape.record title fields).read view.source (view.data (levels + 1) (.obj members)) =
      .ok result := by
  have shown : ∀ name ∈ fields.names, view.shown (under members name) = under own name := by
    intro name listed
    rw [same name listed, view.shown_under_of_nodup nodup]
  refine (view.read_record_eq_ok_iff_shown distinct).mpr ⟨fun name listed => ?_, ?_⟩
  · rw [shown name listed]
    exact length_under_le_one nodup name
  · refine (Fields.Gives.congr fun name listed => ?_).mpr gives
    rw [shown name listed, lookup_eq_head?_under]

theorem faults_of_read_record {fault : Fault} (distinct : fields.names.Nodup)
    (nodup : (members.map (·.1)).Nodup)
    (failed : (Shape.record title fields).read view.source (view.data (levels + 1) (.obj members)) =
      .error fault) :
    fields.Faults view.source (fun name => (members.lookup name).map (view.data levels)) fault := by
  obtain ⟨entries, parts, skips, held⟩ := view.exists_shown_parts title levels members
  simp only [view.shown_under_of_nodup nodup] at held
  have once : ∀ name ∈ fields.names, (under entries name).length ≤ 1 := by
    intro name _
    rw [held, List.length_map]
    exact length_under_le_one nodup name
  have faults := Shape.faults_of_read_record parts distinct skips once failed
  simpa only [held, List.head?_map, ← lookup_eq_head?_under] using faults

theorem read_record_list_eq_ok_iff (distinct : fields.names.Nodup) {items : List Json} :
    (Shape.record title fields).read view.source (view.data (levels + 1) (.arr items)) = .ok result ↔
      items.length ≤ fields.count ∧ fields.Gives view.source
        (fun name => ((fields.order.zip items).lookup name).map (view.data levels)) result := by
  obtain ⟨shown, parts, elements, more, close⟩ := view.parts_list title levels items
  have length : shown.elements.length = items.length := by rw [elements, List.length_map]
  have named : ∀ name, (fields.order.zip shown.elements).lookup name =
      ((fields.order.zip items).lookup name).map (view.data levels) := by
    intro name
    rw [elements, List.zip_map_right, ← lookup_map]
    rfl
  rw [Shape.read_record_list_eq_ok_iff parts distinct more (by rw [length]; exact close), length]
  simp only [named]

end Record

end View

/-- In every view that leaves room for some levels, the shape reads back what was written. -/
def Shape.Recovers {α : Type} (shape : Shape α) (encode : α → Json) (depth : Nat) : Prop :=
  ∀ {δ : Type} (view : View δ) (levels : Nat) (value : α),
    shape.read view.source (view.data (levels + depth) (encode value)) = .ok value

namespace Shape

theorem recovers_word {depth : Nat} : Shape.word.Recovers ofUInt32 depth := by
  intro δ view levels word
  rw [Shape.read]
  exact view.word_data _ word

theorem recovers_text {depth : Nat} : Shape.text.Recovers Json.str depth := by
  intro δ view levels text
  rw [Shape.read]
  exact view.text_data _ text

theorem recovers_choice {α : Type} {names : List (String × α)} {nameOf : α → String} {depth : Nat}
    (listed : ∀ value, names.lookup (nameOf value) = some value) :
    (Shape.choice names).Recovers (fun value => .str (nameOf value)) depth := by
  intro δ view levels value
  rw [Shape.read, view.name_data]
  simp only [bind, Except.bind, listed]
  rfl

theorem recovers_optional {α : Type} {shape : Shape α} {encode : α → Json} {depth : Nat}
    (recovers : shape.Recovers encode depth) (present : ∀ value, encode value ≠ .null) :
    shape.optional.Recovers (fun value => (value.map encode).getD .null) depth := by
  intro δ view levels value
  rw [Shape.read]
  cases value with
  | none => exact if_pos ((view.isNull_data _ _).mpr rfl)
  | some value =>
    have shown : ¬ view.source.isNull (view.data (levels + depth) (encode value)) = true :=
      fun null => present value ((view.isNull_data _ _).mp null)
    refine (if_neg shown).trans ?_
    exact congrArg (Except.map some) (recovers view levels value)

theorem recovers_list {α : Type} {shape : Shape α} {encode : α → Json} {depth : Nat}
    (recovers : shape.Recovers encode depth) :
    shape.list.Recovers (fun values => .arr (values.map encode)) (depth + 1) := by
  intro δ view levels values
  refine view.read_list_eq_ok_iff.mpr ?_
  rw [List.forall₂_map_left_iff, List.forall₂_same]
  intro value _
  exact recovers view levels value

theorem recovers_record {α : Type} {title : String} {fields : Fields α}
    {encode : α → List (String × Json)} {depth : Nat} (distinct : fields.names.Nodup)
    (nodup : ∀ value, ((encode value).map (·.1)).Nodup)
    (gives : ∀ {δ : Type} (view : View δ) (levels : Nat) (value : α), fields.Gives view.source
      (fun name => ((encode value).lookup name).map (view.data (levels + depth))) value) :
    (Shape.record title fields).Recovers (fun value => .obj (encode value)) (depth + 1) := by
  intro δ view levels value
  refine (view.read_record_eq_ok_iff distinct (nodup value)).mpr ?_
  exact gives view levels value

theorem ofValue_canonical {α : Type} {shape : Shape α} {encode : α → Json} {depth : Nat}
    (recovers : shape.Recovers encode depth) (value : α) :
    shape.ofValue (encode value).canonical = .ok value :=
  recovers (View.ofCanonical _) 0 value

theorem ofText_text {α : Type} (shape : Shape α) (layout : Layout) (value : Json) :
    shape.ofText (layout.text value) =
      shape.read View.ofDraft.source (View.ofDraft.data Draft.maxLevels value) := by
  rw [Shape.ofText, readText, Draft.ofText_text]
  exact bind_pure _

theorem ofText_compact {α : Type} (shape : Shape α) (value : Json) :
    shape.ofText value.compact =
      shape.read View.ofDraft.source (View.ofDraft.data Draft.maxLevels value) := by
  rw [Layout.compact_eq_text, ofText_text]

end Shape

end Outliner.Json
