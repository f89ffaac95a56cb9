import Outliner.Json.Decode

/-!
Tagged data: an object with a member that names the variant, or a list that begins with that name.

The tag may stand anywhere among the members, so the other parts are set aside as values, in their
order and with repeated keys, until the variant is known.
-/
set_option autoImplicit false

namespace Outliner.Json

/-- A form of tagged data: the title for messages, the key of the tag, and for every variant its
name and the shape of the other parts. -/
structure Tagged (α : Type) where
  title : String
  tag : String
  variants : List (String × Shape α)

namespace Tagged

variable {α : Type} (tagged : Tagged α)

def variant : Draft → Except Fault (Shape α)
  | .text literal =>
    match literal.value with
    | .error fault => .error fault
    | .ok name =>
      match tagged.variants.lookup name with
      | some shape => .ok shape
      | none => .error (.unknownVariant name (tagged.variants.map (·.1)))
  | draft => .error (draft.mismatch "variant identifier")

/-- Reads members after those set aside, which are in reverse, and after the tag if it was met. -/
def readMembers (levels : Nat) (ending : Draft.ObjectEnd) (shape? : Option (Shape α))
    (aside : List (String × Json)) : List (Literal × Draft) → Except Fault α
  | [] =>
    match ending.close, shape? with
    | .error fault, _ => .error fault
    | .ok (), none => .error (.missingField tagged.tag)
    | .ok (), some shape => shape.ofBuffer (.obj aside.reverse)
  | (key, draft) :: rest =>
    match key.value with
    | .error fault => .error fault
    | .ok key =>
      if key = tagged.tag then
        match shape?, tagged.variant draft with
        | some _, _ => .error (.duplicateField tagged.tag)
        | none, .error fault => .error fault
        | none, .ok shape => readMembers levels ending (some shape) aside rest
      else
        match draft.read levels with
        | .error fault => .error fault
        | .ok value => readMembers levels ending shape? ((key, value) :: aside) rest

def read (levels : Nat) : Draft → Except Fault α
  | .object members ending =>
    match Draft.descend levels with
    | .error fault => .error fault
    | .ok below => tagged.readMembers below ending none [] members
  | .list [] ending =>
    match Draft.descend levels, ending.more with
    | .error fault, _ | _, .error fault => .error fault
    | .ok _, .ok () => .error (.missingField tagged.tag)
  | .list (first :: rest) ending => do
    let below ← Draft.descend levels
    match tagged.variant first with
    | .error fault => .error fault
    | .ok shape =>
      let items ← Draft.readItems below ending [] rest
      shape.ofBuffer (.arr items)
  | draft => .error (draft.mismatch tagged.title)

def ofText (text : String) : Except Fault α :=
  readText text (tagged.read Draft.maxLevels)

end Tagged

end Outliner.Json
