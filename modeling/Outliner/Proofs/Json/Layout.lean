import Outliner.Json.Draft
import Outliner.Json.Text
import Outliner.Proofs.Json.Literal
import Outliner.Proofs.Json.NumberText

/-!
Layouts: a value as text, with blanks between its tokens, and the draft that such a text has. The text
that is written in one line is the layout without blanks, and the text with one item or member to a line
is a layout too.
-/
set_option autoImplicit false

namespace Outliner.Json

mutual

/-- All numbers within the value are integers. -/
def FloatFree : Json → Prop
  | .num (.float _) => False
  | .arr items => FloatFreeItems items
  | .obj members => FloatFreeMembers members
  | _ => True

def FloatFreeItems : List Json → Prop
  | [] => True
  | item :: rest => item.FloatFree ∧ FloatFreeItems rest

def FloatFreeMembers : List (String × Json) → Prop
  | [] => True
  | (_, value) :: rest => value.FloatFree ∧ FloatFreeMembers rest

end

mutual

/-- The draft of the text of a value. -/
def draft : Json → Draft
  | .null => .null
  | .bool value => .bool value
  | .num (.int value _) => .number (.ofInt value)
  | .num (.float value) => .number (.ofFloat value)
  | .str value => .text (.ofText value)
  | .arr items => .list (draftItems items) .closed
  | .obj members => .object (draftMembers members) .closed

def draftItems : List Json → List Draft
  | [] => []
  | item :: rest => item.draft :: draftItems rest

def draftMembers : List (String × Json) → List (Literal × Draft)
  | [] => []
  | (key, value) :: rest => (.ofText key, value.draft) :: draftMembers rest

end

theorem floatFreeItems_iff {items : List Json} :
    FloatFreeItems items ↔ ∀ item ∈ items, item.FloatFree := by
  induction items with
  | nil => simp [FloatFreeItems]
  | cons item rest ih => simp [FloatFreeItems, ih]

theorem floatFreeMembers_iff {members : List (String × Json)} :
    FloatFreeMembers members ↔ ∀ member ∈ members, member.2.FloatFree := by
  induction members with
  | nil => simp [FloatFreeMembers]
  | cons member rest ih => simp [FloatFreeMembers, ih]

theorem draftItems_eq_map (items : List Json) : draftItems items = items.map draft := by
  induction items with
  | nil => rfl
  | cons item rest ih => rw [draftItems, ih, List.map_cons]

theorem draftMembers_eq_map (members : List (String × Json)) :
    draftMembers members = members.map fun member => (.ofText member.1, member.2.draft) := by
  induction members with
  | nil => rfl
  | cons member rest ih => rw [draftMembers, ih, List.map_cons]

/-- Where blanks stand in the text of a value: before an item, a member or a closing bracket at a depth, and
between a colon and a value. -/
structure Layout where
  gap : Nat → List Char
  afterColon : List Char
  isBlank_gap : ∀ depth, ∀ c ∈ gap depth, Token.isBlank c = true
  isBlank_afterColon : ∀ c ∈ afterColon, Token.isBlank c = true

namespace Layout

def quoted (s : String) : List Char :=
  '"' :: (escapeChars s.toList ++ ['"'])

mutual

/-- The text of a value that stands at a depth. -/
def spell (layout : Layout) (depth : Nat) : Json → List Char
  | .null => ['n', 'u', 'l', 'l']
  | .bool true => ['t', 'r', 'u', 'e']
  | .bool false => ['f', 'a', 'l', 's', 'e']
  | .num value => value.text.toList
  | .str value => quoted value
  | .arr [] => ['[', ']']
  | .arr (item :: rest) =>
    '[' :: (layout.gap (depth + 1) ++ (layout.spell (depth + 1) item ++
      (layout.spellItems (depth + 1) rest ++ (layout.gap depth ++ [']']))))
  | .obj [] => ['\x7b', '\x7d']
  | .obj ((key, value) :: rest) =>
    '\x7b' :: (layout.gap (depth + 1) ++ (quoted key ++ ':' :: (layout.afterColon ++
      (layout.spell (depth + 1) value ++ (layout.spellMembers (depth + 1) rest ++
        (layout.gap depth ++ ['\x7d']))))))

def spellItems (layout : Layout) (depth : Nat) : List Json → List Char
  | [] => []
  | item :: rest =>
    ',' :: (layout.gap depth ++ (layout.spell depth item ++ layout.spellItems depth rest))

def spellMembers (layout : Layout) (depth : Nat) : List (String × Json) → List Char
  | [] => []
  | (key, value) :: rest =>
    ',' :: (layout.gap depth ++ (quoted key ++ ':' :: (layout.afterColon ++
      (layout.spell depth value ++ layout.spellMembers depth rest))))

end

def line : Layout where
  gap _ := []
  afterColon := []
  isBlank_gap := by simp
  isBlank_afterColon := by simp

mutual

private theorem toList_write (out : String) (depth : Nat) :
    (value : Json) → (write out value).toList = out.toList ++ line.spell depth value
  | .null => by simp [write, spell]
  | .bool true => by simp [write, spell]
  | .bool false => by simp [write, spell]
  | .num value => by simp [write, spell]
  | .str value => by simp [write, spell, toList_writeText, quoted]
  | .arr [] => by simp [write, spell]
  | .arr (item :: rest) => by
    simp [write, spell, toList_write _ (depth + 1) item, toList_writeItems _ (depth + 1) rest, line]
  | .obj [] => by simp [write, spell]
  | .obj ((key, value) :: rest) => by
    simp [write, spell, toList_write _ (depth + 1) value, toList_writeMembers _ (depth + 1) rest,
      toList_writeText, quoted, line]

private theorem toList_writeItems (out : String) (depth : Nat) : (items : List Json) →
    (writeItems out items).toList = out.toList ++ line.spellItems depth items
  | [] => by simp [writeItems, spellItems]
  | item :: rest => by
    simp [writeItems, spellItems, toList_write _ depth item, toList_writeItems _ depth rest, line]

private theorem toList_writeMembers (out : String) (depth : Nat) : (members : List (String × Json)) →
    (writeMembers out members).toList = out.toList ++ line.spellMembers depth members
  | [] => by simp [writeMembers, spellMembers]
  | (key, value) :: rest => by
    simp [writeMembers, spellMembers, toList_write _ depth value, toList_writeMembers _ depth rest,
      toList_writeText, quoted, line]

end

def text (layout : Layout) (value : Json) : String :=
  String.ofList (layout.spell 0 value)

theorem compact_eq_text (value : Json) : value.compact = line.text value := by
  apply String.toList_injective
  rw [compact, toList_write "" 0 value]
  exact String.toList_ofList.symm

private theorem visible_showInt (value : Int) : ∀ c ∈ (showInt value).toList, ' ' ≤ c := by
  have sign : ∀ c ∈ (if value < 0 then "-" else "").toList, ' ' ≤ c := by
    split <;> exact visible_of_all (by decide)
  have digits : ∀ c ∈ value.natAbs.repr.toList, ' ' ≤ c := by
    intro c inside
    rw [Nat.toList_repr] at inside
    have digit := Numeral.isDigit_of_mem_toDigits inside
    simp only [Numeral.isDigit, Bool.and_eq_true, decide_eq_true_eq] at digit
    exact Char.le_trans (by decide) digit.1
  rw [showInt, String.toList_append, List.forall_mem_append]
  exact ⟨sign, digits⟩

private theorem visible_quoted (s : String) : ∀ c ∈ quoted s, ' ' ≤ c := by
  intro c inside
  rcases List.mem_cons.mp inside with rfl | inside
  · decide
  rcases List.mem_append.mp inside with inside | inside
  · exact visible_escapeChars s.toList c inside
  · obtain rfl := List.mem_singleton.mp inside
    decide

mutual

private theorem visible_spell (depth : Nat) : (value : Json) → value.FloatFree →
    ∀ c ∈ line.spell depth value, ' ' ≤ c
  | .null, _ => by simp [spell]
  | .bool true, _ => by simp [spell]
  | .bool false, _ => by simp [spell]
  | .num (.int value _), _ => visible_showInt value
  | .num (.float _), free => by cases free
  | .str value, _ => visible_quoted value
  | .arr [], _ => by simp [spell]
  | .arr (item :: rest), free => by
    have first := visible_spell (depth + 1) item free.1
    have others := visible_spellItems (depth + 1) rest free.2
    simp only [spell, List.forall_mem_cons, List.forall_mem_append]
    exact ⟨by decide, nofun, first, others, nofun, by decide, nofun⟩
  | .obj [], _ => by simp [spell]
  | .obj ((key, value) :: rest), free => by
    have first := visible_spell (depth + 1) value free.1
    have others := visible_spellMembers (depth + 1) rest free.2
    simp only [spell, List.forall_mem_cons, List.forall_mem_append]
    exact ⟨by decide, nofun, visible_quoted key, by decide, nofun, first, others, nofun, by decide, nofun⟩

private theorem visible_spellItems (depth : Nat) : (items : List Json) → FloatFreeItems items →
    ∀ c ∈ line.spellItems depth items, ' ' ≤ c
  | [], _ => by simp [spellItems]
  | item :: rest, free => by
    have first := visible_spell depth item free.1
    have others := visible_spellItems depth rest free.2
    simp only [spellItems, List.forall_mem_cons, List.forall_mem_append]
    exact ⟨by decide, nofun, first, others⟩

private theorem visible_spellMembers (depth : Nat) : (members : List (String × Json)) →
    FloatFreeMembers members → ∀ c ∈ line.spellMembers depth members, ' ' ≤ c
  | [], _ => by simp [spellMembers]
  | (key, value) :: rest, free => by
    have first := visible_spell depth value free.1
    have others := visible_spellMembers depth rest free.2
    simp only [spellMembers, List.forall_mem_cons, List.forall_mem_append]
    exact ⟨by decide, nofun, visible_quoted key, by decide, nofun, first, others⟩

end

theorem oneLine_compact {value : Json} (free : value.FloatFree) :
    '\n' ∉ value.compact.toList ∧ '\r' ∉ value.compact.toList := by
  have visible : ∀ c ∈ value.compact.toList, ' ' ≤ c := by
    rw [compact_eq_text, text, String.toList_ofList]
    exact visible_spell 0 value free
  exact ⟨fun inside => absurd (visible _ inside) (by decide),
    fun inside => absurd (visible _ inside) (by decide)⟩

def indented : Layout where
  gap depth := '\n' :: List.replicate (2 * depth) ' '
  afterColon := [' ']
  isBlank_gap depth c inside := by
    rcases List.mem_cons.mp inside with rfl | inside
    · rfl
    · rw [List.eq_of_mem_replicate inside]
      rfl
  isBlank_afterColon := by simp [Token.isBlank]

private theorem toList_newLine (out : String) (depth : Nat) :
    (newLine out depth).toList = out.toList ++ indented.gap depth := by
  induction depth with
  | zero => simp [newLine, indented, Nat.repeat]
  | succ depth ih =>
    have step : newLine out (depth + 1) = newLine out depth ++ "  " := rfl
    have gap : indented.gap (depth + 1) = indented.gap depth ++ [' ', ' '] := by
      show '\n' :: List.replicate (2 * depth + 2) ' ' = '\n' :: List.replicate (2 * depth) ' ' ++ [' ', ' ']
      rw [List.cons_append, List.replicate_add]
      rfl
    rw [step, String.toList_append, ih, gap, List.append_assoc]
    rfl

mutual

private theorem toList_writePretty (out : String) (depth : Nat) :
    (value : Json) → (writePretty depth out value).toList = out.toList ++ indented.spell depth value
  | .null => toList_write out depth .null
  | .bool true => toList_write out depth (.bool true)
  | .bool false => toList_write out depth (.bool false)
  | .num value => toList_write out depth (.num value)
  | .str value => toList_write out depth (.str value)
  | .arr [] => toList_write out depth (.arr [])
  | .arr (item :: rest) => by
    simp [writePretty, spell, toList_writePretty _ (depth + 1) item,
      toList_writePrettyItems _ (depth + 1) rest, toList_newLine]
  | .obj [] => toList_write out depth (.obj [])
  | .obj ((key, value) :: rest) => by
    have colon : indented.afterColon = [' '] := rfl
    simp [writePretty, spell, toList_writePretty _ (depth + 1) value,
      toList_writePrettyMembers _ (depth + 1) rest, toList_newLine, toList_writeText, quoted, colon]

private theorem toList_writePrettyItems (out : String) (depth : Nat) : (items : List Json) →
    (writePrettyItems depth out items).toList = out.toList ++ indented.spellItems depth items
  | [] => by simp [writePrettyItems, spellItems]
  | item :: rest => by
    simp [writePrettyItems, spellItems, toList_writePretty _ depth item,
      toList_writePrettyItems _ depth rest, toList_newLine]

private theorem toList_writePrettyMembers (out : String) (depth : Nat) :
    (members : List (String × Json)) → (writePrettyMembers depth out members).toList =
      out.toList ++ indented.spellMembers depth members
  | [] => by simp [writePrettyMembers, spellMembers]
  | (key, value) :: rest => by
    have colon : indented.afterColon = [' '] := rfl
    simp [writePrettyMembers, spellMembers, toList_writePretty _ depth value,
      toList_writePrettyMembers _ depth rest, toList_newLine, toList_writeText, quoted, colon]

end

theorem pretty_eq_text (value : Json) : value.pretty = indented.text value := by
  apply String.toList_injective
  rw [pretty, toList_writePretty "" 0 value]
  exact String.toList_ofList.symm

end Layout

end Outliner.Json
