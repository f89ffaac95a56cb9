import Outliner.Proofs.Json.Layout

/-!
Scanning a laid out value: its tokens come one after the other, whatever blanks stand between them, and
the frames of the scanner put them together to the draft of the value.
-/
set_option autoImplicit false

namespace Outliner.Json

open Numeral (Stops)

namespace Token

private theorem next?_quoted (s : String) (rest : List Char) :
    next? (Layout.quoted s ++ rest) = some (.text (.ofText s), rest) := by
  rw [Layout.quoted, List.cons_append, next?_cons (by decide)]
  simp only [scanFrom, List.append_assoc, List.singleton_append, Literal.scan_escapeChars]
  rfl

end Token

def Token.beginsValue : Token → Bool
  | .openList | .openObject | .null | .bool _ | .number _ | .text _ => true
  | _ => false

namespace Layout

private theorem stops_blanks {blanks s : List Char} (all : ∀ c ∈ blanks, Token.isBlank c = true)
    (stops : Stops s) : Stops (blanks ++ s) := by
  cases blanks with
  | nil => exact stops
  | cons c blanks =>
    have blank := all c List.mem_cons_self
    simp only [Token.isBlank, Bool.or_eq_true, beq_iff_eq] at blank
    rcases blank with ((rfl | rfl) | rfl) | rfl <;> simp [Stops, Numeral.isDigit]

private theorem stops_spellItems (layout : Layout) (depth : Nat) (items : List Json) {s : List Char}
    (stops : Stops s) : Stops (layout.spellItems depth items ++ s) := by
  cases items with
  | nil => exact stops
  | cons item rest => simp [spellItems, Stops, Numeral.isDigit]

private theorem stops_spellMembers (layout : Layout) (depth : Nat) (members : List (String × Json))
    {s : List Char} (stops : Stops s) : Stops (layout.spellMembers depth members ++ s) := by
  cases members with
  | nil => exact stops
  | cons member rest => simp [spellMembers, Stops, Numeral.isDigit]

end Layout

namespace Draft

private theorem scan_of_next {frames frames' : List Frame} {due due' : Due} {s rest : List Char}
    {token : Token} (next : Token.next? s = some (token, rest))
    (taken : step frames due token = .go frames' due') :
    scan frames due s = scan frames' due' rest := by
  rw [scan]
  split
  · rename_i none
    rw [none] at next
    cases next
  · rename_i other tail some
    rw [some] at next
    cases next
    rw [taken]

private theorem scan_of_stop {frames : List Frame} {due : Due} {s rest : List Char} {token : Token}
    {draft : Draft} (next : Token.next? s = some (token, rest))
    (taken : step frames due token = .stop draft) : scan frames due s = (draft, true) := by
  rw [scan]
  split
  · rename_i none
    rw [none] at next
    cases next
  · rename_i other tail some
    rw [some] at next
    cases next
    rw [taken]

private theorem scan_of_none {frames : List Frame} {due : Due} {s : List Char}
    (ends : Token.next? s = none) : scan frames due s = (finish frames due, false) := by
  rw [scan]
  split
  · rfl
  · rename_i some
    rw [ends] at some
    cases some

private theorem scan_blanks {blanks : List Char} (all : ∀ c ∈ blanks, Token.isBlank c = true)
    (frames : List Frame) (due : Due) (s : List Char) :
    scan frames due (blanks ++ s) = scan frames due s := by
  have same := Token.next?_blanks all s
  cases next : Token.next? s with
  | none => rw [scan_of_none (same.trans next), scan_of_none next]
  | some found =>
    obtain ⟨token, rest⟩ := found
    cases taken : step frames due token with
    | go frames' due' => rw [scan_of_next (same.trans next) taken, scan_of_next next taken]
    | stop draft => rw [scan_of_stop (same.trans next) taken, scan_of_stop next taken]

/-- What is due is a value, to be put into these frames. -/
def Opens (frames : List Frame) (due : Due) (inner : List Frame) : Prop :=
  ∀ token, token.beginsValue = true → step frames due token = begin inner token

private theorem opens_value (frames : List Frame) : Opens frames .value frames :=
  fun _ _ => rfl

private theorem opens_firstItem (frames : List Frame) : Opens frames .firstItem (.list [] :: frames) := by
  intro token begins
  cases token <;> first | rfl | cases begins

private theorem opens_nextItem (frames : List Frame) (items : List Draft) :
    Opens frames (.nextItem items) (.list items :: frames) := by
  intro token begins
  cases token <;> first | rfl | cases begins

private theorem scan_scalar {frames inner : List Frame} {due : Due} {s rest : List Char} {token : Token}
    {value : Draft} (opens : Opens frames due inner) (begins : token.beginsValue = true)
    (next : Token.next? s = some (token, rest)) (whole : begin inner token = .go inner (.after value)) :
    scan frames due s = scan inner (.after value) rest :=
  scan_of_next next ((opens token begins).trans whole)

private theorem scan_mark (c : Char) (token : Token) {frames frames' : List Frame} {due due' : Due}
    (solid : Token.isBlank c = false) (mark : ∀ s, Token.scanFrom c s = (token, s))
    (taken : step frames due token = .go frames' due') (s : List Char) :
    scan frames due (c :: s) = scan frames' due' s :=
  scan_of_next ((Token.next?_cons solid s).trans (congrArg some (mark s))) taken

private theorem scan_key {frames : List Frame} {due : Due} {members : List (Literal × Draft)} {key : String}
    (taken : step frames due (.text (.ofText key)) = .go frames (.colon members (.ofText key)))
    (s : List Char) :
    scan frames due (Layout.quoted key ++ ':' :: s) =
      scan (.member members (.ofText key) :: frames) .value s := by
  rw [scan_of_next (Token.next?_quoted key _) taken]
  exact scan_mark ':' .colon rfl (fun _ => rfl) rfl s

mutual

private theorem scan_spell (layout : Layout) (depth : Nat) {frames inner : List Frame} {due : Due}
    (opens : Opens frames due inner) {s : List Char} (stops : Stops s) : (value : Json) →
      scan frames due (layout.spell depth value ++ s) = scan inner (.after value.draft) s
  | .null => scan_scalar opens rfl (Token.next?_cons (by decide) _) rfl
  | .bool true => scan_scalar opens rfl (Token.next?_cons (by decide) _) rfl
  | .bool false => scan_scalar opens rfl (Token.next?_cons (by decide) _) rfl
  | .num (.int value _) => by
    rw [Layout.spell, draft, Number.text]
    exact scan_scalar opens rfl (Token.next?_showInt value stops) rfl
  | .num (.float value) => by
    rw [Layout.spell, draft, Number.text]
    exact scan_scalar opens rfl (Token.next?_showFloat value stops) rfl
  | .str value => scan_scalar opens rfl (Token.next?_quoted value s) rfl
  | .arr [] => by
    rw [Layout.spell, draft, draftItems, List.cons_append, List.singleton_append,
      scan_mark '[' .openList rfl (fun _ => rfl) (opens .openList rfl)]
    exact scan_mark ']' .closeList rfl (fun _ => rfl) rfl s
  | .arr (item :: rest) => by
    -- A number as the last item ends before the gap or the bracket.
    have after : Stops (layout.gap depth ++ ']' :: s) :=
      Layout.stops_blanks (layout.isBlank_gap depth) (by simp [Stops, Numeral.isDigit])
    rw [Layout.spell, draft, draftItems]
    simp only [List.cons_append, List.append_assoc, List.nil_append]
    rw [scan_mark '[' .openList rfl (fun _ => rfl) (opens .openList rfl),
      scan_blanks (layout.isBlank_gap (depth + 1)),
      scan_spell layout (depth + 1) (opens_firstItem inner)
        (layout.stops_spellItems (depth + 1) rest after) item,
      scan_spellItems layout (depth + 1) after rest]
    rfl
  | .obj [] => by
    rw [Layout.spell, draft, draftMembers, List.cons_append, List.singleton_append,
      scan_mark '\x7b' .openObject rfl (fun _ => rfl) (opens .openObject rfl)]
    exact scan_mark '\x7d' .closeObject rfl (fun _ => rfl) rfl s
  | .obj ((key, value) :: rest) => by
    have after : Stops (layout.gap depth ++ '\x7d' :: s) :=
      Layout.stops_blanks (layout.isBlank_gap depth) (by simp [Stops, Numeral.isDigit])
    rw [Layout.spell, draft, draftMembers]
    simp only [List.cons_append, List.append_assoc, List.nil_append]
    rw [scan_mark '\x7b' .openObject rfl (fun _ => rfl) (opens .openObject rfl),
      scan_blanks (layout.isBlank_gap (depth + 1)), scan_key rfl,
      scan_blanks layout.isBlank_afterColon,
      scan_spell layout (depth + 1) (opens_value _)
        (layout.stops_spellMembers (depth + 1) rest after) value,
      scan_spellMembers layout (depth + 1) after rest]
    rfl

private theorem scan_spellItems (layout : Layout) (depth : Nat) {outer : Nat} {frames : List Frame}
    {done : List Draft} {value : Draft} {s : List Char} (stops : Stops (layout.gap outer ++ ']' :: s)) :
    (items : List Json) →
      scan (.list done :: frames) (.after value)
          (layout.spellItems depth items ++ (layout.gap outer ++ ']' :: s)) =
        scan frames (.after (.list (done.reverse ++ value :: draftItems items) .closed)) s
  | [] => by
    rw [Layout.spellItems, draftItems, List.nil_append, scan_blanks (layout.isBlank_gap outer)]
    refine scan_mark ']' .closeList rfl (fun _ => rfl) ?_ s
    rw [step, List.reverse_cons]
  | item :: rest => by
    rw [Layout.spellItems, draftItems]
    simp only [List.cons_append, List.append_assoc]
    rw [scan_mark ',' .comma rfl (fun _ => rfl) rfl, scan_blanks (layout.isBlank_gap depth),
      scan_spell layout depth (opens_nextItem frames (value :: done))
        (layout.stops_spellItems depth rest stops) item,
      scan_spellItems layout depth stops rest, List.reverse_cons, List.append_assoc]
    rfl

private theorem scan_spellMembers (layout : Layout) (depth : Nat) {outer : Nat} {frames : List Frame}
    {done : List (Literal × Draft)} {key : Literal} {value : Draft} {s : List Char}
    (stops : Stops (layout.gap outer ++ '\x7d' :: s)) :
    (members : List (String × Json)) →
      scan (.member done key :: frames) (.after value)
          (layout.spellMembers depth members ++ (layout.gap outer ++ '\x7d' :: s)) =
        scan frames
          (.after (.object (done.reverse ++ (key, value) :: draftMembers members) .closed)) s
  | [] => by
    rw [Layout.spellMembers, draftMembers, List.nil_append, scan_blanks (layout.isBlank_gap outer)]
    refine scan_mark '\x7d' .closeObject rfl (fun _ => rfl) ?_ s
    rw [step, List.reverse_cons]
  | (name, item) :: rest => by
    rw [Layout.spellMembers, draftMembers]
    simp only [List.cons_append, List.append_assoc]
    rw [scan_mark ',' .comma rfl (fun _ => rfl) rfl, scan_blanks (layout.isBlank_gap depth),
      scan_key rfl, scan_blanks layout.isBlank_afterColon,
      scan_spell layout depth (opens_value _) (layout.stops_spellMembers depth rest stops) item,
      scan_spellMembers layout depth stops rest, List.reverse_cons, List.append_assoc]
    rfl

end

/-- However it is laid out, the text of a value has the draft of the value, and nothing follows it. -/
theorem ofText_text (layout : Layout) (value : Json) : ofText (layout.text value) = (value.draft, false) := by
  have scanned := scan_spell layout 0 (opens_value []) (show Stops [] from trivial) value
  rw [List.append_nil] at scanned
  rw [ofText, Layout.text, String.toList_ofList, scanned]
  exact scan_of_none rfl

end Draft

end Outliner.Json
