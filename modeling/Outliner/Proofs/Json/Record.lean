import Mathlib.Logic.Function.Basic
import Outliner.Json.Shape
import Outliner.Proofs.Json.Members

/-!
Records in objects. The members are met one after the other and fill the slots of the fields. Main
statement: what comes of them depends only on the data that stands under the name of each field, so
neither the order of the members nor members of other names matter, and no name of a field may be
repeated. If the keys are distinct and nothing comes of them, one of the fields is at fault.
-/
set_option autoImplicit false

namespace Outliner.Json

variable {δ : Type}

theorem bind_eq_ok_iff {α β : Type} {first : Except Fault α} {next : α → Except Fault β} {result : β} :
    first >>= next = .ok result ↔ ∃ value, first = .ok value ∧ next value = .ok result := by
  cases first with
  | error fault =>
    constructor
    · intro failed
      cases failed
    · rintro ⟨_, failed, _⟩
      cases failed
  | ok value =>
    constructor
    · intro done
      exact ⟨value, rfl, done⟩
    · rintro ⟨_, equal, done⟩
      obtain rfl := Except.ok.inj equal
      exact done

theorem map_eq_ok_iff {α β : Type} {outcome : Except Fault α} {make : α → β} {result : β} :
    outcome.map make = .ok result ↔ ∃ value, outcome = .ok value ∧ make value = result := by
  cases outcome <;> simp [Except.map]

private theorem map_eq_error_iff {α β : Type} {outcome : Except Fault α} {make : α → β} {fault : Fault} :
    outcome.map make = .error fault ↔ outcome = .error fault := by
  cases outcome <;> simp [Except.map]

namespace Fields

def names : {α : Type} → Fields α → List String
  | _, .make _ => []
  | _, .field before name .. => name :: before.names

/-- Every slot holds what is read from the data under the name of its field. -/
def Filled (source : Source δ) (held : String → Option δ) :
    {α : Type} → (fields : Fields α) → fields.Slots → Prop
  | _, .make _, _ => True
  | _, @Fields.field _ β before name shape _, slots =>
    let slots : before.Slots × Option β := slots
    before.Filled source held slots.1 ∧ (held name).mapM (shape.read source) = .ok slots.2

/-- The record that the data under the names of the fields gives. -/
def Gives (source : Source δ) (held : String → Option δ) : {α : Type} → Fields α → α → Prop
  | _, .make value, result => result = value
  | _, @Fields.field _ β before name shape absent, result =>
    ∃ make value, before.Gives source held make ∧
      (∃ found : Option β, (held name).mapM (shape.read source) = .ok found ∧
        found.or absent = some value) ∧
      result = make value

variable {source : Source δ} {held : String → Option δ}

theorem gives_make {α : Type} (value : α) : (Fields.make value).Gives source held value :=
  rfl

theorem gives_field_iff {α β : Type} {before : Fields (β → α)} {name : String} {shape : Shape β}
    {absent : Option β} {data : δ} {result : α} (present : held name = some data) :
    (Fields.field before name shape absent).Gives source held result ↔
      ∃ make value, before.Gives source held make ∧ shape.read source data = .ok value ∧
        result = make value := by
  have read_iff : ∀ value, (∃ found : Option β, (held name).mapM (shape.read source) = .ok found ∧
      found.or absent = some value) ↔ shape.read source data = .ok value := by
    intro value
    rw [present, Option.mapM_some]
    cases shape.read source data with
    | error fault =>
      constructor
      · rintro ⟨_, failed, _⟩
        cases failed
      · intro failed
        cases failed
    | ok read =>
      constructor
      · rintro ⟨_, found, chosen⟩
        obtain rfl := Except.ok.inj found
        exact congrArg Except.ok (Option.some.inj chosen)
      · intro equal
        obtain rfl := Except.ok.inj equal
        exact ⟨some read, rfl, rfl⟩
  simp only [Gives, read_iff]

theorem gives_field {α β : Type} {before : Fields (β → α)} {name : String} {shape : Shape β}
    {absent : Option β} {make : β → α} {data : δ} {value : β}
    (given : before.Gives source held make) (present : held name = some data)
    (read : shape.read source data = .ok value) :
    (Fields.field before name shape absent).Gives source held (make value) :=
  (gives_field_iff present).mpr ⟨make, value, given, read, rfl⟩

private theorem filled_blank : {α : Type} → (fields : Fields α) →
    fields.Filled source (fun _ => none) fields.blank
  | _, .make _ => trivial
  | _, .field before .. => ⟨before.filled_blank, rfl⟩

private theorem Filled.unique : {α : Type} → {fields : Fields α} → {slots others : fields.Slots} →
    fields.Filled source held slots → fields.Filled source held others → slots = others
  | _, .make _, _, _, _, _ => rfl
  | _, .field .., _, _, filled, other =>
    Prod.ext (Filled.unique filled.1 other.1) (Except.ok.inj (filled.2.symm.trans other.2))

private theorem Filled.of_le {more : String → Option δ}
    (le : ∀ name data, held name = some data → more name = some data) :
    {α : Type} → {fields : Fields α} → {slots : fields.Slots} →
      fields.Filled source more slots → ∃ fewer, fields.Filled source held fewer
  | _, .make _, _, _ => ⟨(), trivial⟩
  | _, .field _ name _ _, slots, filled => by
    obtain ⟨fewer, earlier⟩ := Filled.of_le le filled.1
    cases present : held name with
    | none => exact ⟨(fewer, none), earlier, by rw [present]; rfl⟩
    | some data =>
      refine ⟨(fewer, slots.2), earlier, ?_⟩
      rw [present, ← le name data present]
      exact filled.2

private theorem Filled.congr {other : String → Option δ} : {α : Type} → {fields : Fields α} →
    {slots : fields.Slots} → (∀ name ∈ fields.names, held name = other name) →
      (fields.Filled source held slots ↔ fields.Filled source other slots)
  | _, .make _, _, _ => Iff.rfl
  | _, .field .., _, same => by
    obtain ⟨here, same⟩ := List.forall_mem_cons.mp same
    simp only [Filled, Filled.congr same, here]

private theorem filled_update {key : String} {data : δ} {α : Type} {fields : Fields α}
    {slots : fields.Slots} (unknown : key ∉ fields.names) :
    fields.Filled source (Function.update held key (some data)) slots ↔
      fields.Filled source held slots := by
  refine Filled.congr fun name known => ?_
  have other : name ≠ key := fun same => unknown (same ▸ known)
  rw [Function.update_of_ne other]

theorem readMember_of_eq {α β : Type} {before : Fields (β → α)} {name : String} {shape : Shape β}
    {absent : Option β} {data : δ} (earlier : before.Slots) :
    (Fields.field before name shape absent).readMember source name data (earlier, none) =
      some ((shape.read source data).map fun value => (earlier, some value)) :=
  if_pos rfl

theorem readMember_of_ne {α β : Type} {before : Fields (β → α)} {name key : String}
    {shape : Shape β} {absent : Option β} {data : δ} (other : key ≠ name) (earlier : before.Slots)
    (last : Option β) :
    (Fields.field before name shape absent).readMember source key data (earlier, last) =
      (before.readMember source key data earlier).map fun next => next.map fun next => (next, last) :=
  if_neg other

private theorem readMember_of_not_mem {key : String} {data : δ} : {α : Type} → {fields : Fields α} →
    {slots : fields.Slots} → key ∉ fields.names → fields.readMember source key data slots = none
  | _, .make _, _, _ => rfl
  | _, .field .., slots, unknown => by
    obtain ⟨other, unknown⟩ := List.ne_and_not_mem_of_not_mem_cons unknown
    obtain ⟨earlier, last⟩ := slots
    rw [readMember_of_ne other, readMember_of_not_mem unknown]
    rfl

private theorem readMember_of_mem {key : String} (data : δ) (fresh : held key = none) :
    {α : Type} → {fields : Fields α} → {slots : fields.Slots} → fields.names.Nodup →
      key ∈ fields.names → fields.Filled source held slots →
      ∃ outcome, fields.readMember source key data slots = some outcome ∧ ∀ next,
        outcome = .ok next ↔ fields.Filled source (Function.update held key (some data)) next
  | _, .make _, _, _, known, _ => by cases known
  | _, .field before name shape absent, slots, distinct, known, filled => by
    obtain ⟨unrepeated, distinct⟩ := List.nodup_cons.mp distinct
    obtain ⟨earlier, last⟩ := slots
    obtain ⟨filled, read⟩ := filled
    by_cases same : key = name
    · subst same
      rw [fresh] at read
      obtain rfl := Except.ok.inj read
      refine ⟨_, readMember_of_eq earlier, ?_⟩
      rintro ⟨next, value⟩
      simp only [Filled, filled_update unrepeated, Function.update_self]
      cases made : shape.read source data with
      | error fault =>
        have unread : (some data).mapM (shape.read source) = .error fault := by
          rw [Option.mapM_some, made]
          rfl
        simp [Except.map, unread]
      | ok found =>
        have found_read : (some data).mapM (shape.read source) = .ok (some found) := by
          rw [Option.mapM_some, made]
          rfl
        rw [found_read]
        constructor
        · intro equal
          obtain ⟨rfl, rfl⟩ := Prod.mk.inj (Except.ok.inj equal)
          exact ⟨filled, rfl⟩
        · rintro ⟨refilled, equal⟩
          obtain rfl := filled.unique refilled
          obtain rfl := Except.ok.inj equal
          rfl
    · obtain ⟨outcome, reads, fills⟩ := readMember_of_mem data fresh distinct
        ((List.mem_cons.mp known).resolve_left same) filled
      refine ⟨_, by rw [readMember_of_ne same, reads]; rfl, ?_⟩
      rintro ⟨next, value⟩
      simp only [Filled, ← fills, Function.update_of_ne (Ne.symm same), read]
      cases outcome with
      | error fault => simp [Except.map]
      | ok made =>
        constructor
        · intro equal
          obtain ⟨rfl, rfl⟩ := Prod.mk.inj (Except.ok.inj equal)
          exact ⟨rfl, rfl⟩
        · rintro ⟨made_eq, last_eq⟩
          obtain rfl := Except.ok.inj made_eq
          obtain rfl := Except.ok.inj last_eq
          rfl

private theorem readMember_of_held {key : String} {data other : δ} (met : held key = some other) :
    {α : Type} → {fields : Fields α} → {slots : fields.Slots} → key ∈ fields.names →
      fields.Filled source held slots →
      fields.readMember source key data slots = some (.error (.duplicateField key))
  | _, .make _, _, known, _ => by cases known
  | _, .field before name shape absent, slots, known, filled => by
    obtain ⟨earlier, last⟩ := slots
    obtain ⟨filled, read⟩ := filled
    by_cases same : key = name
    · subst same
      rw [met, Option.mapM_some] at read
      obtain ⟨value, _, equal⟩ := bind_eq_ok_iff.mp read
      obtain rfl := Except.ok.inj equal
      exact if_pos rfl
    · rw [readMember_of_ne same,
        readMember_of_held met ((List.mem_cons.mp known).resolve_left same) filled]
      rfl

def readEntry (source : Source δ) {α : Type} (fields : Fields α) (slots : fields.Slots)
    (entry : Except Fault String × δ) : Except Fault fields.Slots := do
  let key ← entry.1
  match fields.readMember source key entry.2 slots with
  | some slots => slots
  | none =>
    source.skip entry.2
    return slots

private theorem readEntry_of_some {α : Type} {fields : Fields α} {slots : fields.Slots} {key : String}
    {data : δ} {outcome : Except Fault fields.Slots}
    (reads : fields.readMember source key data slots = some outcome) :
    fields.readEntry source slots (.ok key, data) = outcome := by
  show (match fields.readMember source key data slots with
    | some slots => slots
    | none => source.skip data >>= fun _ => pure slots) = outcome
  rw [reads]

private theorem readEntry_of_not_mem {α : Type} {fields : Fields α} {slots : fields.Slots} {key : String}
    {data : δ} (unknown : key ∉ fields.names) (skips : source.skip data = .ok ()) :
    fields.readEntry source slots (.ok key, data) = .ok slots := by
  show (match fields.readMember source key data slots with
    | some slots => slots
    | none => source.skip data >>= fun _ => pure slots) = .ok slots
  rw [readMember_of_not_mem unknown, skips]
  rfl

private theorem or_lookup_cons {key : String} (fresh : held key = none) (data : δ)
    (rest : List (String × δ)) :
    (fun name => (held name).or (((key, data) :: rest).lookup name)) =
      fun name => (Function.update held key (some data) name).or (rest.lookup name) := by
  funext name
  by_cases same : name = key
  · subst same
    simp [fresh]
  · have differs : (name == key) = false := beq_eq_false_iff_ne.mpr same
    simp only [List.lookup_cons, differs, Function.update_of_ne same]

/-- No field is met more than once, among what was met before and further members. -/
def Once (held : String → Option δ) (entries : List (String × δ)) {α : Type} (fields : Fields α) : Prop :=
  ∀ name ∈ fields.names, ((held name).toList ++ under entries name).length ≤ 1

private theorem once_cons_iff {α : Type} {fields : Fields α} {key : String} (fresh : held key = none)
    (data : δ) (rest : List (String × δ)) :
    fields.Once held ((key, data) :: rest) ↔
      fields.Once (Function.update held key (some data)) rest := by
  have same_data : ∀ name, (held name).toList ++ under ((key, data) :: rest) name =
      (Function.update held key (some data) name).toList ++ under rest name := by
    intro name
    by_cases same : name = key
    · subst same
      simp [fresh, under_cons_self]
    · simp [under_cons_of_ne (Ne.symm same), Function.update_of_ne same]
  simp only [Once, same_data]

private theorem once_cons_iff_of_not_mem {α : Type} {fields : Fields α} {key : String}
    (unknown : key ∉ fields.names) (data : δ) (rest : List (String × δ)) :
    fields.Once held ((key, data) :: rest) ↔ fields.Once held rest := by
  refine forall₂_congr fun name known => ?_
  have other : key ≠ name := fun same => unknown (same ▸ known)
  rw [under_cons_of_ne other]

private theorem foldlM_readEntry_eq_ok_iff {α : Type} {fields : Fields α} (distinct : fields.names.Nodup)
    {entries : List (String × δ)} (skips : ∀ entry ∈ entries, source.skip entry.2 = .ok ())
    {slots next : fields.Slots} (filled : fields.Filled source held slots) :
    (entries.map fun entry => (.ok entry.1, entry.2)).foldlM (fields.readEntry source) slots =
        .ok next ↔
      fields.Once held entries ∧
        fields.Filled source (fun name => (held name).or (entries.lookup name)) next := by
  induction entries generalizing held slots with
  | nil =>
    have once : fields.Once held [] := by
      intro name _
      cases held name <;> simp [under]
    simp only [once, true_and, List.lookup_nil, Option.or_none]
    constructor
    · intro equal
      obtain rfl := Except.ok.inj equal
      exact filled
    · intro refilled
      obtain rfl := filled.unique refilled
      rfl
  | cons entry rest ih =>
    obtain ⟨key, data⟩ := entry
    obtain ⟨key_skips, skips⟩ := List.forall_mem_cons.mp skips
    rw [List.map_cons, List.foldlM_cons]
    -- What has been met so far is the invariant: it grows by this member, if the member is a field.
    by_cases known : key ∈ fields.names
    · cases key_fresh : held key with
      | some other =>
        rw [readEntry_of_some (readMember_of_held key_fresh known filled)]
        constructor
        · intro failed
          cases failed
        · rintro ⟨once, _⟩
          have twice := once key known
          rw [key_fresh, under_cons_self] at twice
          simp at twice
      | none =>
        rw [or_lookup_cons key_fresh, once_cons_iff key_fresh]
        obtain ⟨outcome, reads, fills⟩ := readMember_of_mem data key_fresh distinct known filled
        rw [readEntry_of_some reads]
        cases outcome with
        | error fault =>
          constructor
          · intro failed
            cases failed
          · rintro ⟨_, refilled⟩
            -- What cannot be read here can no more be read after further members.
            have le : ∀ name found, Function.update held key (some data) name = some found →
                (Function.update held key (some data) name).or (rest.lookup name) = some found := by
              intro name found present
              rw [present]
              rfl
            obtain ⟨fewer, partly⟩ := refilled.of_le le
            cases (fills fewer).mpr partly
        | ok made => exact ih skips ((fills made).mp rfl)
    · rw [readEntry_of_not_mem known key_skips, once_cons_iff_of_not_mem known]
      refine (ih skips filled).trans (and_congr_right fun _ => Filled.congr fun name listed => ?_)
      have other : name ≠ key := fun same => known (same ▸ listed)
      rw [List.lookup_cons, beq_eq_false_iff_ne.mpr other]

theorem finish_field_eq_ok_iff {α β : Type} {before : Fields (β → α)} {name : String}
    {shape : Shape β} {absent found : Option β} {earlier : before.Slots} {result : α} :
    (Fields.field before name shape absent).finish (earlier, found) = .ok result ↔
      ∃ make value, before.finish earlier = .ok make ∧ found.or absent = some value ∧
        result = make value := by
  simp only [finish, bind_eq_ok_iff]
  constructor
  · rintro ⟨make, finished, chosen⟩
    refine ⟨make, ?_⟩
    cases found with
    | some value => exact ⟨value, finished, rfl, (Except.ok.inj chosen).symm⟩
    | none =>
      cases absent with
      | some value => exact ⟨value, finished, rfl, (Except.ok.inj chosen).symm⟩
      | none => cases chosen
  · rintro ⟨make, value, finished, chosen, rfl⟩
    refine ⟨make, finished, ?_⟩
    cases found with
    | some given =>
      obtain rfl := Option.some.inj chosen
      rfl
    | none =>
      obtain rfl : absent = some value := chosen
      rfl

private theorem gives_iff : {α : Type} → {fields : Fields α} → {result : α} →
    (fields.Gives source held result ↔
      ∃ slots, fields.Filled source held slots ∧ fields.finish slots = .ok result)
  | _, .make value, result => by
    constructor
    · rintro rfl
      exact ⟨(), trivial, rfl⟩
    · rintro ⟨_, _, finished⟩
      exact (Except.ok.inj finished).symm
  | _, .field before name shape absent, result => by
    constructor
    · rintro ⟨make, value, given, ⟨found, read, chosen⟩, rfl⟩
      obtain ⟨earlier, filled, finished⟩ := gives_iff.mp given
      refine ⟨(earlier, found), ⟨filled, read⟩, ?_⟩
      exact finish_field_eq_ok_iff.mpr ⟨make, value, finished, chosen, rfl⟩
    · rintro ⟨⟨earlier, found⟩, ⟨filled, read⟩, finished⟩
      obtain ⟨make, value, made, chosen, rfl⟩ := finish_field_eq_ok_iff.mp finished
      exact ⟨make, value, gives_iff.mpr ⟨earlier, filled, made⟩, ⟨found, read, chosen⟩, rfl⟩

theorem Gives.congr {other : String → Option δ} {α : Type} {fields : Fields α} {result : α}
    (same : ∀ name ∈ fields.names, held name = other name) :
    fields.Gives source held result ↔ fields.Gives source other result := by
  simp only [gives_iff, Filled.congr same]

/-! ### Faults of fields -/

/-- A fault of one of the fields: the data under its name cannot be read, or it has to be there and is
not. -/
def Faults (source : Source δ) (held : String → Option δ) (fault : Fault) : {α : Type} → Fields α → Prop
  | _, .make _ => False
  | _, .field before name shape absent =>
    before.Faults source held fault ∨
      (∃ data, held name = some data ∧ shape.read source data = .error fault) ∨
      held name = none ∧ absent = none ∧ fault = .missingField name

private theorem faults_of_readMember {all : String → Option δ} {key : String} {data : δ} {fault : Fault}
    (fresh : held key = none) (here : all key = some data) :
    {α : Type} → {fields : Fields α} → {slots : fields.Slots} → fields.Filled source held slots →
      fields.readMember source key data slots = some (.error fault) → fields.Faults source all fault
  | _, .make _, _, _, failed => by cases failed
  | _, .field before name shape absent, slots, filled, failed => by
    obtain ⟨earlier, last⟩ := slots
    obtain ⟨filled, read⟩ := filled
    by_cases same : key = name
    · subst same
      rw [fresh] at read
      obtain rfl := Except.ok.inj read
      rw [readMember_of_eq] at failed
      refine .inr (.inl ⟨data, here, ?_⟩)
      exact map_eq_error_iff.mp (Option.some.inj failed)
    · rw [readMember_of_ne same] at failed
      obtain ⟨outcome, reads, failed⟩ := Option.map_eq_some_iff.mp failed
      rw [map_eq_error_iff.mp failed] at reads
      exact .inl (faults_of_readMember fresh here filled reads)

private theorem faults_of_foldlM {all : String → Option δ} {α : Type} {fields : Fields α} {fault : Fault}
    (distinct : fields.names.Nodup) {entries : List (String × δ)}
    (skips : ∀ entry ∈ entries, source.skip entry.2 = .ok ()) (once : fields.Once held entries)
    (found : ∀ entry ∈ entries, entry.1 ∈ fields.names → all entry.1 = some entry.2)
    {slots : fields.Slots} (filled : fields.Filled source held slots)
    (failed : (entries.map fun entry => (.ok entry.1, entry.2)).foldlM (fields.readEntry source) slots =
      .error fault) : fields.Faults source all fault := by
  induction entries generalizing held slots with
  | nil => cases failed
  | cons entry rest ih =>
    obtain ⟨key, data⟩ := entry
    obtain ⟨key_found, found⟩ := List.forall_mem_cons.mp found
    obtain ⟨key_skips, skips⟩ := List.forall_mem_cons.mp skips
    rw [List.map_cons, List.foldlM_cons] at failed
    by_cases known : key ∈ fields.names
    · have key_fresh : held key = none := by
        have single := once key known
        rw [under_cons_self] at single
        cases met : held key with
        | none => rfl
        | some other => simp [met] at single
      obtain ⟨outcome, reads, fills⟩ := readMember_of_mem data key_fresh distinct known filled
      rw [readEntry_of_some reads] at failed
      cases outcome with
      | error other =>
        obtain rfl := Except.error.inj failed
        exact faults_of_readMember key_fresh (key_found known) filled reads
      | ok made =>
        exact ih skips ((once_cons_iff key_fresh data rest).mp once) found ((fills made).mp rfl) failed
    · rw [readEntry_of_not_mem known key_skips] at failed
      exact ih skips ((once_cons_iff_of_not_mem known data rest).mp once) found filled failed

private theorem faults_of_finish {fault : Fault} : {α : Type} → {fields : Fields α} →
    {slots : fields.Slots} → fields.Filled source held slots → fields.finish slots = .error fault →
      fields.Faults source held fault
  | _, .make _, _, _, failed => by cases failed
  | _, .field before name shape absent, slots, filled, failed => by
    obtain ⟨earlier, last⟩ := slots
    obtain ⟨filled, read⟩ := filled
    simp only [finish] at failed
    cases finished : before.finish earlier with
    | error other =>
      rw [finished] at failed
      obtain rfl := Except.error.inj failed
      exact .inl (faults_of_finish filled finished)
    | ok make =>
      rw [finished] at failed
      cases last with
      | some value => cases failed
      | none =>
        cases absent with
        | some value => cases failed
        | none =>
          refine .inr (.inr ⟨?_, rfl, (Except.error.inj failed).symm⟩)
          cases missing : held name with
          | none => rfl
          | some data =>
            rw [missing, Option.mapM_some] at read
            obtain ⟨value, _, equal⟩ := bind_eq_ok_iff.mp read
            cases equal

end Fields

section

variable {source : Source δ} {α : Type} {title : String} {fields : Fields α} {data : δ}
  {entries : List (String × δ)}

private theorem read_record_eq_bind
    (parts : source.parts title data =
      .ok (.members ⟨entries.map fun entry => (.ok entry.1, entry.2), .ok ()⟩)) :
    (Shape.record title fields).read source data =
      ((entries.map fun entry => (.ok entry.1, entry.2)).foldlM (fields.readEntry source)
        fields.blank >>= fields.finish) := by
  rw [Shape.read, parts]
  rfl

/-- A record is read from an object exactly if no field is repeated and every field is read from the data
under its name. -/
theorem Shape.read_record_eq_ok_iff {result : α}
    (parts : source.parts title data =
      .ok (.members ⟨entries.map fun entry => (.ok entry.1, entry.2), .ok ()⟩))
    (distinct : fields.names.Nodup) (skips : ∀ entry ∈ entries, source.skip entry.2 = .ok ()) :
    (Shape.record title fields).read source data = .ok result ↔
      (∀ name ∈ fields.names, (under entries name).length ≤ 1) ∧
        fields.Gives source (fun name => (under entries name).head?) result := by
  have fold : ∀ slots, (entries.map fun entry => (.ok entry.1, entry.2)).foldlM
      (fields.readEntry source) fields.blank = .ok slots ↔
        (∀ name ∈ fields.names, (under entries name).length ≤ 1) ∧
          fields.Filled source (fun name => (under entries name).head?) slots := by
    intro slots
    simp only [← lookup_eq_head?_under]
    exact Fields.foldlM_readEntry_eq_ok_iff distinct skips fields.filled_blank
  simp only [read_record_eq_bind parts, bind_eq_ok_iff, fold, Fields.gives_iff, and_assoc,
    exists_and_left]

theorem Shape.faults_of_read_record {fault : Fault}
    (parts : source.parts title data =
      .ok (.members ⟨entries.map fun entry => (.ok entry.1, entry.2), .ok ()⟩))
    (distinct : fields.names.Nodup) (skips : ∀ entry ∈ entries, source.skip entry.2 = .ok ())
    (once : ∀ name ∈ fields.names, (under entries name).length ≤ 1)
    (failed : (Shape.record title fields).read source data = .error fault) :
    fields.Faults source (fun name => (under entries name).head?) fault := by
  rw [read_record_eq_bind parts] at failed
  cases folded : (entries.map fun entry => (.ok entry.1, entry.2)).foldlM (fields.readEntry source)
      fields.blank with
  | error other =>
    rw [folded] at failed
    obtain rfl := Except.error.inj failed
    have unmet : fields.Once (fun _ => none) entries := once
    refine Fields.faults_of_foldlM distinct skips unmet ?_ fields.filled_blank folded
    intro entry inside known
    obtain ⟨found, single⟩ := List.length_eq_one_iff.mp
      (Nat.le_antisymm (once entry.1 known) (List.length_pos_of_mem (mem_under_iff.mpr inside)))
    have same : entry.2 = found := by
      rw [← List.mem_singleton, ← single]
      exact mem_under_iff.mpr inside
    rw [single, same]
    rfl
  | ok slots =>
    rw [folded] at failed
    have filled := ((Fields.foldlM_readEntry_eq_ok_iff distinct skips fields.filled_blank).mp folded).2
    simp only [Option.none_or, lookup_eq_head?_under] at filled
    exact Fields.faults_of_finish filled failed

end

end Outliner.Json
