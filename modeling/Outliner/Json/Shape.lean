import Outliner.Json.Value

/-!
Shapes: the forms of data that are asked for, and how they are read off any source of values.

A shape says what is expected and which value comes of it. A source says how to look at its data: as
a number, a text, a list, an object. A record is read from an object, with its members in any order,
or from a list, with its fields in order. Members that a record does not know are passed over, a
repeated field is refused when its key is met, and missing fields are looked for at the end.
-/
set_option autoImplicit false

namespace Outliner.Json

mutual

/-- What is expected of a value, and the type of what comes of it. A record has a title for messages, and an
object of any form may be made into something. -/
inductive Shape : Type → Type 1
  | word : Shape UInt32
  | text : Shape String
  | optional {α : Type} (shape : Shape α) : Shape (Option α)
  | list {α : Type} (shape : Shape α) : Shape (List α)
  | choice {α : Type} (names : List (String × α)) : Shape α
  | record {α : Type} (title : String) (fields : Fields α) : Shape α
  | object {α : Type} (make : List (String × Json) → Except Fault α) : Shape α
  -- Nothing at all: values of this shape would be nested too deeply.
  | tooDeep {α : Type} : Shape α

/-- The fields of a record, and what is made of their values. -/
inductive Fields : Type → Type 1
  | make {α : Type} (value : α) : Fields α
  | field {α β : Type} (before : Fields (β → α)) (name : String) (shape : Shape β)
    (absent : Option β) : Fields α

end

namespace Fields

def required {α β : Type} (before : Fields (β → α)) (name : String) (shape : Shape β) : Fields α :=
  .field before name shape none

def orElse {α β : Type} (before : Fields (β → α)) (name : String) (shape : Shape β) (absent : β) :
    Fields α :=
  .field before name shape (some absent)

def count : {α : Type} → Fields α → Nat
  | _, .make _ => 0
  | _, .field before .. => before.count + 1

/-- The values of the fields that have been met so far. -/
def Slots : {α : Type} → Fields α → Type
  | _, .make _ => Unit
  | _, @Fields.field _ β before _ _ _ => before.Slots × Option β

def blank : {α : Type} → (fields : Fields α) → fields.Slots
  | _, .make _ => ()
  | _, .field before .. => (before.blank, none)

def finish : {α : Type} → (fields : Fields α) → fields.Slots → Except Fault α
  | _, .make value, _ => .ok value
  | _, @Fields.field _ β before name _ absent, slots => do
    let held : before.Slots × Option β := slots
    let make ← before.finish held.1
    match held.2, absent with
    | some value, _ => return make value
    | none, some value => return make value
    | none, none => throw (.missingField name)

end Fields

/-- The items of a list, with the verdict if another item is asked for after the last one, and the one if
the list should be over after some number of items. -/
structure Items (δ : Type) where
  elements : List δ
  more : Except Fault Unit
  close : Nat → Except Fault Unit

structure Members (δ : Type) where
  entries : List (Except Fault String × δ)
  close : Except Fault Unit

inductive Parts (δ : Type) where
  | items (items : Items δ)
  | members (members : Members δ)

/-- How to look at data of a type. A name comes with the verdict on what stands beside it. -/
structure Source (δ : Type) where
  word : δ → Except Fault UInt32
  text : δ → Except Fault String
  isNull : δ → Bool
  items : δ → Except Fault (Items δ)
  name : δ → Except Fault (String × Except Fault Unit)
  parts : String → δ → Except Fault (Parts δ)
  object : δ → Except Fault (List (String × Json))
  skip : δ → Except Fault Unit

mutual

def Shape.read {δ : Type} (source : Source δ) : {α : Type} → Shape α → δ → Except Fault α
  | _, .word, data => source.word data
  | _, .text, data => source.text data
  | _, .optional shape, data =>
    if source.isNull data then .ok none else (shape.read source data).map some
  | _, .list shape, data => do
    let items ← source.items data
    let values ← items.elements.mapM (shape.read source)
    items.more
    return values
  | _, .choice names, data => do
    let (name, beside) ← source.name data
    match names.lookup name with
    | none => throw (.unknownVariant name (names.map (·.1)))
    | some value =>
      beside
      return value
  | _, .record title fields, data => do
    match ← source.parts title data with
    | .items items =>
      let (value, taken) ← fields.readItems source title fields.count items
      items.close taken
      return value
    | .members members =>
      let slots ← members.entries.foldlM
        (fun slots (entry : Except Fault String × δ) => do
          let key ← entry.1
          match fields.readMember source key entry.2 slots with
          | some slots => slots
          | none =>
            source.skip entry.2
            return slots)
        fields.blank
      members.close
      fields.finish slots
  | _, .object make, data => do make (← source.object data)
  | _, .tooDeep, _ => .error .tooDeep

/-- Reads the fields of a record from the items of a list, and tells how many items it took. -/
def Fields.readItems {δ : Type} (source : Source δ) (title : String) (total : Nat) :
    {α : Type} → Fields α → Items δ → Except Fault (α × Nat)
  | _, .make value, _ => .ok (value, 0)
  | _, .field before _ shape absent, items => do
    let (make, taken) ← before.readItems source title total items
    match items.elements[taken]? with
    | some data => return (make (← shape.read source data), taken + 1)
    | none =>
      items.more
      match absent with
      | some value => return (make value, taken)
      | none =>
        let elements := if total = 1 then "element" else "elements"
        throw (.wrongLength taken s!"{title} with {total} {elements}")

/-- Reads the member with a key into the field of that name, if there is one. -/
def Fields.readMember {δ : Type} (source : Source δ) :
    {α : Type} → (fields : Fields α) → String → δ → fields.Slots →
      Option (Except Fault fields.Slots)
  | _, .make _, _, _, _ => none
  | _, @Fields.field _ β before name shape _, key, data, slots =>
    let held : before.Slots × Option β := slots
    if key = name then
      match held.2 with
      | some _ => some (.error (.duplicateField name))
      | none => some ((shape.read source data).map fun value => (held.1, some value))
    else
      (before.readMember source key data held.1).map fun slots =>
        slots.map fun before => (before, held.2)

end

end Outliner.Json
