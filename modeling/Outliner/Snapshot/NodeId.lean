import Outliner.Text.Blank

/-!
Node ids: the address of a node in a snapshot, by the number of its group and its offset in it.
-/
set_option autoImplicit false

namespace Outliner

structure NodeId where
  group : UInt32
  offset : UInt32
  deriving DecidableEq, Hashable, Inhabited

namespace NodeId

/-- Ids are ordered by group, and by offset within a group. -/
def le (a b : NodeId) : Bool :=
  a.group < b.group || (a.group == b.group && a.offset ≤ b.offset)

def text (id : NodeId) : String :=
  s!"{id.group.toNat.repr}:{id.offset.toNat.repr}"

def wordOf? (value : Nat) : Option UInt32 :=
  if value < UInt32.size then some (UInt32.ofNat value) else none

theorem wordOf?_eq_some_iff {value : Nat} {word : UInt32} :
    wordOf? value = some word ↔ word.toNat = value := by
  have bound : word.toNat < UInt32.size := word.toNat_lt
  unfold wordOf?
  split
  case isTrue small =>
    rw [Option.some.injEq, ← UInt32.toNat_inj, UInt32.toNat_ofNat_of_lt' small, eq_comm]
  case isFalse large =>
    refine iff_of_false (by simp) fun same => ?_
    omega

/-- The id for a position: the number of a group and an offset in it, if both have 32 bits. -/
def ofPosition? (position : Nat × Nat) : Option NodeId := do
  return ⟨← wordOf? position.1, ← wordOf? position.2⟩

/-- The number that decimal digits after those already read denote, if it has 32 bits. -/
def readDigits? (value : Nat) : List Char → Option UInt32
  | [] => wordOf? value
  | c :: rest =>
    if '0' ≤ c ∧ c ≤ '9' then readDigits? (value * 10 + (c.toNat - '0'.toNat)) rest else none

/-- The number of 32 bits that decimal digits denote, maybe after a plus sign. -/
def readWord? : List Char → Option UInt32
  | [] | ['+'] => none
  | '+' :: digits => readDigits? 0 digits
  | digits => readDigits? 0 digits

/-- Reads `group:offset`. Blanks around either number do not matter. -/
def ofText? (text : String) : Option NodeId :=
  let chars := text.toList
  match chars.dropWhile (· != ':') with
  | [] => none
  | _ :: rest => do
    let group ← readWord? (Text.trim (chars.takeWhile (· != ':')))
    let offset ← readWord? (Text.trim rest)
    return ⟨group, offset⟩

structure Unreadable where
  text : String
  deriving DecidableEq

def Unreadable.message (fault : Unreadable) : String :=
  s!"invalid node id `{fault.text}`, expected `group:offset`"

/-- Reads an id; a text that is none is handed back as it is. -/
def ofText (text : String) : Except Unreadable NodeId :=
  match ofText? text with
  | some id => .ok id
  | none => .error ⟨text⟩

end NodeId

end Outliner
