import Mathlib.Tactic.IntervalCases
import Outliner.Json.Literal

/-!
String literals read back: a text that is written as a literal is scanned piece by piece, one piece for
every character, and the pieces stand for the text.
-/
set_option autoImplicit false

namespace Outliner.Json

def Piece.ofChar (c : Char) : Piece :=
  if c ∈ ['"', '\\', '\x08', '\x0c', '\n', '\r', '\t'] then .escaped c
  else if c < ' ' then .codeUnit c.toNat
  else .plain c

def escapeChars (s : List Char) : List Char :=
  s.flatMap fun c => (escapeChar c).toList

private theorem toList_foldl_escapeChar (out : String) (s : List Char) :
    (s.foldl (fun out c => out ++ escapeChar c) out).toList = out.toList ++ escapeChars s := by
  induction s generalizing out with
  | nil => simp [escapeChars]
  | cons c s ih =>
    rw [List.foldl_cons, ih, String.toList_append, List.append_assoc]
    rfl

theorem toList_writeText (out s : String) :
    (writeText out s).toList = out.toList ++ '"' :: (escapeChars s.toList ++ ['"']) := by
  rw [writeText, String.toList_push, toList_foldl_escapeChar, String.toList_append]
  simp

-- The characters of a closed text are gone through one by one; deciding the conclusion itself would try
-- every character there is.
theorem visible_of_all {text : List Char} (all : text.all (' ' ≤ ·) = true) : ∀ c ∈ text, ' ' ≤ c := by
  intro c inside
  exact of_decide_eq_true (List.all_eq_true.mp all c inside)

private theorem visible_control (n : Nat) (small : n < 32) :
    ∀ c ∈ ("\\u00" ++ (if n < 16 then "0" else "") ++ Text.hex n).toList, ' ' ≤ c := by
  interval_cases n <;> exact visible_of_all (by decide)

private theorem escapeChar_of_not_mem {c : Char} (long : c ∉ ['"', '\\', '\x08', '\x0c', '\n', '\r', '\t']) :
    escapeChar c = if c < ' ' then "\\u00" ++ (if c.toNat < 16 then "0" else "") ++ Text.hex c.toNat
      else c.toString := by
  simp only [List.mem_cons, List.not_mem_nil, or_false, not_or] at long
  obtain ⟨quote, backslash, back, feed, line, carriage, tab⟩ := long
  rw [escapeChar, if_neg quote, if_neg backslash, if_neg back, if_neg feed, if_neg line,
    if_neg carriage, if_neg tab]

private theorem visible_escapeChar (c : Char) : ∀ written ∈ (escapeChar c).toList, ' ' ≤ written := by
  by_cases short : c ∈ ['"', '\\', '\x08', '\x0c', '\n', '\r', '\t']
  · simp only [List.mem_cons, List.not_mem_nil, or_false] at short
    rcases short with rfl | rfl | rfl | rfl | rfl | rfl | rfl <;> exact visible_of_all (by decide)
  · rw [escapeChar_of_not_mem short]
    by_cases control : c < ' '
    · rw [if_pos control]
      exact visible_control c.toNat control
    · rw [if_neg control, Char.toString, String.toList_singleton]
      exact List.forall_mem_singleton.mpr (Char.not_lt.mp control)

theorem visible_escapeChars (s : List Char) : ∀ c ∈ escapeChars s, ' ' ≤ c := by
  intro c inside
  obtain ⟨original, _, written⟩ := List.mem_flatMap.mp inside
  exact visible_escapeChar original c written

namespace Literal

def ofText (s : String) : Literal :=
  ⟨s.toList.map Piece.ofChar, .closed⟩

private theorem scan_plain {c : Char} (quote : c ≠ '"') (backslash : c ≠ '\\') (visible : ¬ c < ' ')
    (done : List Piece) (rest : List Char) :
    scan done (c :: rest) = scan (.plain c :: done) rest := by
  rw [scan, if_neg visible]
  · exact quote
  all_goals simp [backslash]

private theorem scan_control (c : Char) (control : c < ' ') (done : List Piece) (rest : List Char) :
    scan done (("\\u00" ++ (if c.toNat < 16 then "0" else "") ++ Text.hex c.toNat).toList ++ rest) =
      scan (.codeUnit c.toNat :: done) rest := by
  have small : c.toNat < 32 := control
  generalize c.toNat = n at small
  -- Only thirty-two characters are left, and each of them is scanned by evaluation.
  interval_cases n <;> rfl

private theorem scan_escapeChar (c : Char) (done : List Piece) (rest : List Char) :
    scan done ((escapeChar c).toList ++ rest) = scan (Piece.ofChar c :: done) rest := by
  by_cases short : c ∈ ['"', '\\', '\x08', '\x0c', '\n', '\r', '\t']
  · simp only [List.mem_cons, List.not_mem_nil, or_false] at short
    rcases short with rfl | rfl | rfl | rfl | rfl | rfl | rfl <;> rfl
  · rw [Piece.ofChar, if_neg short, escapeChar_of_not_mem short]
    split
    · rename_i control
      exact scan_control c control done rest
    · rename_i visible
      rw [Char.toString, String.toList_singleton, List.singleton_append]
      refine scan_plain ?_ ?_ visible done rest
      · rintro rfl
        exact short (by decide)
      · rintro rfl
        exact short (by decide)

theorem scan_escapeChars (s : List Char) (done : List Piece) (rest : List Char) :
    scan done (escapeChars s ++ '"' :: rest) =
      (⟨done.reverse ++ s.map Piece.ofChar, .closed⟩, rest) := by
  induction s generalizing done with
  | nil => simp [escapeChars, scan]
  | cons c s ih =>
    rw [escapeChars, List.flatMap_cons, List.append_assoc, scan_escapeChar]
    rw [← escapeChars, ih, List.reverse_cons, List.append_assoc]
    rfl

private theorem decode_ofChar (out : String) (ending : Ending) (c : Char) (rest : List Piece) :
    decode out ending (Piece.ofChar c :: rest) = decode (out.push c) ending rest := by
  unfold Piece.ofChar
  split
  · rw [decode]
  · split
    · rename_i control
      have small : c.toNat < 32 := control
      have whole : isTrailing c.toNat = false := by simp [isTrailing]; omega
      have single : isLeading c.toNat = false := by simp [isLeading]; omega
      rw [decode.eq_def]
      simp only [whole, single, Char.ofNat_toNat, Bool.false_eq_true, if_false]
    · rw [decode]

private theorem decode_map_ofChar (out : String) (s : List Char) :
    decode out .closed (s.map Piece.ofChar) = .ok (out ++ String.ofList s) := by
  induction s generalizing out with
  | nil => simp [decode, Ending.fault?]
  | cons c s ih =>
    rw [List.map_cons, decode_ofChar, ih]
    congr 1
    apply String.toList_injective
    simp

theorem value_ofText (s : String) : (ofText s).value = .ok s := by
  rw [value, ofText, decode_map_ofChar]
  simp

theorem skip_ofText (s : String) : (ofText s).skip = .ok () := rfl

end Literal

end Outliner.Json
