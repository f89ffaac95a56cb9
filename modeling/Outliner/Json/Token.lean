import Outliner.Json.Literal
import Outliner.Json.Numeral

/-!
Tokens of JSON text. Every token but the last is well formed or stands where no value can begin.
-/
set_option autoImplicit false

namespace Outliner.Json

/-- A token, possibly one that breaks off, at the end of the text or before it. -/
inductive Token where
  | openList
  | closeList
  | openObject
  | closeObject
  | comma
  | colon
  | null
  | bool (value : Bool)
  | cutWord (textEnds : Bool)
  | number (numeral : Numeral)
  | cutNumber (textEnds : Bool)
  | text (literal : Literal)
  | stray

namespace Token

def isBlank (c : Char) : Bool :=
  c == ' ' || c == '\t' || c == '\n' || c == '\r'

def scanWord (token : Token) (letters : List Char) (s : List Char) : Token × List Char :=
  if letters.isPrefixOf s then (token, s.drop letters.length)
  else (.cutWord (s.isPrefixOf letters), [])

def scanNumber (negative : Bool) (s : List Char) : Token × List Char :=
  match Numeral.scan negative s with
  | .whole numeral rest => (.number numeral, rest)
  | .cut textEnds => (.cutNumber textEnds, [])

def scanFrom (c : Char) (rest : List Char) : Token × List Char :=
  match c with
  | '[' => (.openList, rest)
  | ']' => (.closeList, rest)
  | '\x7b' => (.openObject, rest)
  | '\x7d' => (.closeObject, rest)
  | ',' => (.comma, rest)
  | ':' => (.colon, rest)
  | 'n' => scanWord .null ['u', 'l', 'l'] rest
  | 't' => scanWord (.bool true) ['r', 'u', 'e'] rest
  | 'f' => scanWord (.bool false) ['a', 'l', 's', 'e'] rest
  | '"' =>
    let (literal, rest) := Literal.scan [] rest
    (.text literal, rest)
  | '-' => scanNumber true rest
  | _ => if Numeral.isDigit c then scanNumber false (c :: rest) else (.stray, rest)

/-- The next token of a text and what follows it; nothing if only blanks are left. -/
def next? (s : List Char) : Option (Token × List Char) :=
  match s.dropWhile isBlank with
  | [] => none
  | c :: rest => some (scanFrom c rest)

private theorem length_scanWord (token : Token) (letters s : List Char) :
    (scanWord token letters s).2.length ≤ s.length := by
  unfold scanWord
  split <;> simp

private theorem length_scanNumber (negative : Bool) (s : List Char) :
    (scanNumber negative s).2.length ≤ s.length - 1 := by
  unfold scanNumber
  split
  · rename_i h
    have := Numeral.length_scan h
    simp only
    omega
  · simp

private theorem length_scanFrom (c : Char) (rest : List Char) :
    (scanFrom c rest).2.length ≤ rest.length := by
  unfold scanFrom
  split
  all_goals try exact Nat.le_refl _
  all_goals try exact length_scanWord _ _ _
  · exact Literal.length_scan [] rest
  · exact Nat.le_trans (length_scanNumber true rest) (Nat.sub_le _ _)
  · split
    · exact length_scanNumber false (c :: rest)
    · exact Nat.le_refl _

theorem length_next? {s rest : List Char} {token : Token} (h : next? s = some (token, rest)) :
    rest.length < s.length := by
  unfold next? at h
  split at h
  · cases h
  · rename_i c tail hs
    have shorter := (List.dropWhile_suffix isBlank (l := s)).length_le
    rw [hs, List.length_cons] at shorter
    have := length_scanFrom c tail
    rw [Option.some.inj h] at this
    exact Nat.lt_of_lt_of_le (Nat.lt_succ_of_le this) shorter

end Token

end Outliner.Json
