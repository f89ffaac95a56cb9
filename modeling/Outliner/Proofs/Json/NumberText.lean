import Mathlib.Data.List.DropRight
import Outliner.Json.Token
import Outliner.Proofs.Json.Numeral

/-!
Texts of numbers. Whatever number is written, its text is one token, as far as nothing follows that could
belong to a number. The text of a double always has a point or an exponent, so it is never taken for an
integer.
-/
set_option autoImplicit false

namespace Outliner

/-! ### The digits of a double -/

namespace Decimal

private theorem compareScaled_zero {n : Nat} (positive : 0 < n) (k p : Int) :
    compareScaled 0 k n p = .lt := by
  have shifted : 0 < n <<< p.toNat := by
    rw [Nat.shiftLeft_eq]
    exact Nat.mul_pos positive (Nat.two_pow_pos _)
  have scaled : 0 < n <<< p.toNat * Nat.pow 10 (-k).toNat :=
    Nat.mul_pos shifted (Nat.pow_pos (by decide))
  rw [compareScaled, Nat.zero_mul]
  exact Nat.compare_eq_lt.mpr scaled

namespace Binary

variable {x : Binary}

private theorem readsBack_zero (positive : 0 < x.significand) (k : Int) : x.readsBack 0 k = false := by
  have low : 0 < 4 * x.significand - (if x.nearBelow then 1 else 2) := by
    split <;> omega
  simp only [readsBack, compareScaled_zero low, Bool.false_and]

private theorem onGrid?_pos (positive : 0 < x.significand) {k : Int} {scaled : Scaled}
    (found : x.onGrid? k = some scaled) : 0 < scaled.digits := by
  simp only [onGrid?] at found
  generalize floorScaled k x.significand x.exponent = d at found
  -- Zero never reads back, so a neighbour that does is at least one.
  have first : x.readsBack d k = true → 0 < d := by
    intro back
    refine Nat.pos_of_ne_zero ?_
    rintro rfl
    rw [readsBack_zero positive] at back
    cases back
  cases low : x.readsBack d k <;> cases high : x.readsBack (d + 1) k <;> rw [low, high] at found
  · cases found
  · obtain rfl := Option.some.inj found
    exact Nat.succ_pos d
  · obtain rfl := Option.some.inj found
    exact first low
  · have least := first low
    dsimp only at found
    split at found <;> obtain rfl := Option.some.inj found <;> dsimp only <;> omega

private theorem exact_pos (positive : 0 < x.significand) : 0 < x.exact.digits := by
  unfold Binary.exact
  split
  · show 0 < x.significand <<< x.exponent.toNat
    rw [Nat.shiftLeft_eq]
    exact Nat.mul_pos positive (Nat.two_pow_pos _)
  · exact Nat.mul_pos positive (Nat.pow_pos (by decide))

private theorem shortest_pos (positive : 0 < x.significand) : 0 < x.shortest.digits := by
  simp only [shortest]
  cases found : (List.range 18).findSome? fun (i : Nat) => x.onGrid? (x.leading - (i : Int)) with
  | none => exact exact_pos positive
  | some scaled =>
    obtain ⟨i, _, reached⟩ := List.exists_of_findSome?_eq_some found
    exact onGrid?_pos positive reached

end Binary

private theorem stripZeros_cons {c : Char} (nonzero : c ≠ '0') (rest : List Char) :
    ∃ kept, stripZeros (c :: rest) = c :: kept ∧ ∀ x ∈ kept, x ∈ rest := by
  have leads : List.rdropWhile (· == '0') (c :: rest) <+: c :: rest := List.rdropWhile_prefix _ _
  have some_left : List.rdropWhile (· == '0') (c :: rest) ≠ [] := by
    intro none
    have zero := List.rdropWhile_eq_nil_iff.mp none c List.mem_cons_self
    exact nonzero (beq_iff_eq.mp zero)
  obtain ⟨first, kept, equal⟩ := List.exists_cons_of_ne_nil some_left
  have kept_eq : stripZeros (c :: rest) = first :: kept := equal
  rw [equal, List.cons_prefix_cons] at leads
  obtain ⟨rfl, leads⟩ := leads
  exact ⟨kept, kept_eq, fun x inside => leads.subset inside⟩

end Decimal

/-! ### Decimal texts -/

namespace Json.Numeral

/-- Digits that can stand before a point: zero alone, or digits that do not begin with it. -/
structure Whole (run : List Char) : Prop where
  digits : ∀ c ∈ run, isDigit c = true
  leads : run = ['0'] ∨ ∃ first rest, run = first :: rest ∧ first ≠ '0'

private theorem value_ne_zero {c : Char} (digit : isDigit c = true) (nonzero : c ≠ '0') :
    c.toNat - '0'.toNat ≠ 0 := by
  intro zero
  simp only [isDigit, Bool.and_eq_true, decide_eq_true_eq] at digit
  have least : '0'.toNat ≤ c.toNat := digit.1
  exact nonzero (Char.toNat_inj.mp (by omega))

private theorem scan_whole {run rest : List Char} (negative : Bool) (whole : Whole run)
    (ends : ∀ c ∈ rest.head?, isDigit c = false) :
    scan negative (run ++ rest) =
      scanFraction ⟨negative, run.map fun c => c.toNat - '0'.toNat, [], none⟩ rest := by
  obtain ⟨digits, leads⟩ := whole
  unfold scan
  rw [leadingDigits_append digits ends, dropWhile_append digits ends]
  rcases leads with rfl | ⟨first, others, rfl, nonzero⟩
  · rfl
  · have kept := value_ne_zero (digits first List.mem_cons_self) nonzero
    rw [List.map_cons]
    split
    · rename_i none
      cases none
    · rename_i zero
      exact absurd (List.cons.inj zero).1 kept
    · rfl

private theorem scanFraction_point {run rest : List Char} (numeral : Numeral)
    (digits : ∀ c ∈ run, isDigit c = true) (some_digit : run ≠ [])
    (ends : ∀ c ∈ rest.head?, isDigit c = false) :
    scanFraction numeral ('.' :: (run ++ rest)) =
      scanScale { numeral with fraction := run.map fun c => c.toNat - '0'.toNat } rest := by
  rw [scanFraction]
  rw [leadingDigits_append digits ends, dropWhile_append digits ends]
  split
  · rename_i none
    exact absurd (List.map_eq_nil_iff.mp none) some_digit
  · rfl

/-- The text is scanned to its end, as a numeral with a point or an exponent. -/
def Scans (negative : Bool) (s : List Char) : Prop :=
  ∃ numeral : Numeral, (numeral.fraction ≠ [] ∨ numeral.exponent ≠ none) ∧
    ∀ rest, Stops rest → scan negative (s ++ rest) = .whole numeral rest

private theorem scans_point {whole fraction : List Char} (negative : Bool) (valid : Whole whole)
    (digits : ∀ c ∈ fraction, isDigit c = true) (some_digit : fraction ≠ []) :
    Scans negative (whole ++ '.' :: fraction) := by
  refine ⟨⟨negative, whole.map fun c => c.toNat - '0'.toNat,
    fraction.map fun c => c.toNat - '0'.toNat, none⟩, .inl ?_, fun rest stops => ?_⟩
  · simpa using some_digit
  · rw [List.append_assoc, List.cons_append, scan_whole negative valid (by simp [isDigit]),
      scanFraction_point _ digits some_digit stops.ends]
    exact scanScale_of_stops _ stops

private theorem scanExponent_append {run : List Char} (digits : ∀ c ∈ run, isDigit c = true)
    (some_digit : run ≠ []) (numeral : Numeral) (sign : Int) {rest : List Char} (stops : Stops rest) :
    scanExponent numeral sign (run ++ rest) = .whole { numeral with
      exponent := some (sign * ofDigits (run.map fun c => c.toNat - '0'.toNat)) } rest := by
  unfold scanExponent
  rw [leadingDigits_append digits stops.ends, dropWhile_append digits stops.ends]
  split
  · rename_i none
    exact absurd (List.map_eq_nil_iff.mp none) some_digit
  · rfl

private theorem scanScale_exponent {sign : Char} {run : List Char} (signed : sign = '+' ∨ sign = '-')
    (digits : ∀ c ∈ run, isDigit c = true) (some_digit : run ≠ []) :
    ∃ exponent, ∀ (numeral : Numeral) (rest : List Char), Stops rest →
      scanScale numeral ('e' :: sign :: (run ++ rest)) =
        .whole { numeral with exponent := some exponent } rest := by
  rcases signed with rfl | rfl
  · exact ⟨_, fun numeral rest stops => scanExponent_append digits some_digit numeral 1 stops⟩
  · exact ⟨_, fun numeral rest stops => scanExponent_append digits some_digit numeral (-1) stops⟩

private theorem scans_exponent {whole tail run : List Char} {sign : Char} (negative : Bool)
    (valid : Whole whole) (tail_digits : ∀ c ∈ tail, isDigit c = true)
    (signed : sign = '+' ∨ sign = '-') (digits : ∀ c ∈ run, isDigit c = true) (some_digit : run ≠ []) :
    Scans negative (whole ++ ((if tail = [] then [] else '.' :: tail) ++ 'e' :: sign :: run)) := by
  obtain ⟨exponent, scaled⟩ := scanScale_exponent signed digits some_digit
  refine ⟨⟨negative, whole.map fun c => c.toNat - '0'.toNat, tail.map fun c => c.toNat - '0'.toNat,
    some exponent⟩, .inr (by simp), fun rest stops => ?_⟩
  by_cases none : tail = []
  · subst none
    rw [if_pos rfl, List.nil_append, List.append_assoc,
      scan_whole negative valid (by simp [isDigit])]
    exact scaled _ rest stops
  · rw [if_neg none, List.append_assoc, List.append_assoc, List.cons_append,
      scan_whole negative valid (by simp [isDigit]),
      scanFraction_point _ tail_digits none (by simp [isDigit])]
    exact scaled _ rest stops

private theorem scans_zero (negative : Bool) : Scans negative "0.0".toList := by
  have valid : Whole ['0'] := ⟨by simp [isDigit], .inl rfl⟩
  have zero : ∀ c ∈ ['0'], isDigit c = true := by simp [isDigit]
  exact scans_point negative valid zero (by simp)

open Decimal (layout)

section

variable {digits rest : List Char} {first : Char} (run : ∀ c ∈ digits, isDigit c = true)
  (leads : digits = first :: rest) (nonzero : first ≠ '0')

include run leads nonzero

private theorem whole_append (zeros : Nat) : Whole (digits ++ List.replicate zeros '0') := by
  refine ⟨fun c inside => ?_, .inr ⟨first, rest ++ List.replicate zeros '0', ?_, nonzero⟩⟩
  · rcases List.mem_append.mp inside with inside | inside
    · exact run c inside
    · rw [List.eq_of_mem_replicate inside]
      rfl
  · rw [leads, List.cons_append]

private theorem whole_take {count : Nat} (positive : 0 < count) : Whole (digits.take count) := by
  refine ⟨fun c inside => run c (List.mem_of_mem_take inside), .inr ?_⟩
  obtain ⟨before, rfl⟩ := Nat.exists_eq_succ_of_ne_zero (Nat.pos_iff_ne_zero.mp positive)
  exact ⟨first, rest.take before, by rw [leads, List.take_succ_cons], nonzero⟩

private theorem scans_layout (negative : Bool) (point : Int) :
    Scans negative (layout digits point).toList := by
  unfold layout
  dsimp only
  split
  · rename_i positive
    split
    · have valid := whole_append run leads nonzero (point - digits.length).toNat
      have zero : ∀ c ∈ ['0'], isDigit c = true := by simp [isDigit]
      rw [String.toList_append, String.toList_ofList]
      exact scans_point negative valid zero (by simp)
    · have valid := whole_take run leads nonzero (show 0 < point.toNat by omega)
      have shorter : point.toNat < digits.length := by omega
      have later : digits.drop point.toNat ≠ [] := by
        rw [ne_eq, List.drop_eq_nil_iff]
        omega
      simp only [String.toList_append, String.toList_ofList, List.append_assoc]
      exact scans_point negative valid (fun c inside => run c (List.mem_of_mem_drop inside)) later
  · split
    · have all : ∀ c ∈ List.replicate (-point).toNat '0' ++ digits, isDigit c = true := by
        intro c inside
        rcases List.mem_append.mp inside with inside | inside
        · rw [List.eq_of_mem_replicate inside]
          rfl
        · exact run c inside
      have zero : Whole ['0'] := ⟨by simp [isDigit], .inl rfl⟩
      have scanned := scans_point negative zero all (by simp [leads])
      simp only [String.toList_append, String.toList_ofList]
      exact scanned
    · have valid := whole_take run leads nonzero Nat.one_pos
      have exponent : ∀ c ∈ Nat.toDigits 10 (point - 1).natAbs, isDigit c = true :=
        fun c => isDigit_of_mem_toDigits
      obtain ⟨sign, signed, sign_eq⟩ : ∃ sign, (sign = '+' ∨ sign = '-') ∧
          (if point - 1 < 0 then "-" else "+").toList = [sign] := by
        split
        · exact ⟨'-', .inr rfl, rfl⟩
        · exact ⟨'+', .inl rfl, rfl⟩
      have tail_eq : (if digits.length ≤ 1 then "" else "." ++ String.ofList (digits.drop 1)).toList =
          if digits.drop 1 = [] then [] else '.' :: digits.drop 1 := by
        by_cases alone : digits.length ≤ 1
        · rw [if_pos alone, if_pos (List.drop_eq_nil_iff.mpr alone)]
          rfl
        · rw [if_neg alone, if_neg (fun none => alone (List.drop_eq_nil_iff.mp none))]
          simp
      have later : ∀ c ∈ digits.drop 1, isDigit c = true :=
        fun c inside => run c (List.mem_of_mem_drop inside)
      have scanned := scans_exponent negative valid later signed exponent Nat.toDigits_ne_nil
      simp only [String.toList_append, String.toList_ofList, tail_eq, sign_eq, Nat.toList_repr,
        List.append_assoc]
      exact scanned

end

end Json.Numeral

/-! ### Number tokens -/

namespace Json.Token

open Numeral (Stops)

theorem next?_blanks {blanks : List Char} (all : ∀ c ∈ blanks, isBlank c = true) (s : List Char) :
    next? (blanks ++ s) = next? s := by
  rw [next?, next?, List.dropWhile_append_of_pos all]

theorem next?_cons {c : Char} (solid : isBlank c = false) (rest : List Char) :
    next? (c :: rest) = some (scanFrom c rest) := by
  rw [next?, List.dropWhile_cons, if_neg (by simp [solid])]

private theorem scanFrom_digit {c : Char} (digit : Numeral.isDigit c = true) (rest : List Char) :
    scanFrom c rest = scanNumber false (c :: rest) := by
  unfold scanFrom
  split
  all_goals try (exact absurd digit (by decide))
  rw [if_pos digit]

private theorem isBlank_digit {c : Char} (digit : Numeral.isDigit c = true) : isBlank c = false := by
  cases blank : isBlank c with
  | false => rfl
  | true =>
    simp only [isBlank, Bool.or_eq_true, beq_iff_eq] at blank
    rcases blank with ((rfl | rfl) | rfl) | rfl <;> exact absurd digit (by decide)

private theorem next?_of_scan {s rest : List Char} {numeral : Numeral}
    (whole : Numeral.scan false s = .whole numeral rest) : next? s = some (.number numeral, rest) := by
  cases s with
  | nil => cases whole
  | cons c others =>
    have digit : Numeral.isDigit c = true := by
      cases leads : Numeral.isDigit c with
      | true => rfl
      | false => simp [Numeral.scan, Numeral.leadingDigits, leads] at whole
    rw [next?_cons (isBlank_digit digit), scanFrom_digit digit, scanNumber, whole]

private theorem next?_minus_of_scan {s rest : List Char} {numeral : Numeral}
    (whole : Numeral.scan true s = .whole numeral rest) :
    next? ('-' :: s) = some (.number numeral, rest) := by
  rw [next?_cons (by decide)]
  simp only [scanFrom, scanNumber, whole]

theorem next?_showInt (value : Int) {rest : List Char} (stops : Stops rest) :
    next? ((showInt value).toList ++ rest) = some (.number (.ofInt value), rest) := by
  rw [showInt, String.toList_append, List.append_assoc, Nat.toList_repr]
  by_cases negative : value < 0
  · have sign : (if value < 0 then "-" else "").toList = ['-'] := by rw [if_pos negative]; rfl
    rw [sign, List.singleton_append,
      next?_minus_of_scan (Numeral.scan_toDigits true value.natAbs stops)]
    simp only [Numeral.ofInt, negative, decide_true]
  · rw [if_neg negative]
    refine (next?_of_scan (Numeral.scan_toDigits false value.natAbs stops)).trans ?_
    simp only [Numeral.ofInt, negative, decide_false]

private theorem exists_next?_signed {s : String} (scans : ∀ negative, Numeral.Scans negative s.toList)
    (negative : Prop) [Decidable negative] : ∃ numeral : Numeral,
      (numeral.fraction ≠ [] ∨ numeral.exponent ≠ none) ∧ ∀ rest, Stops rest →
        next? (((if negative then "-" else "") ++ s).toList ++ rest) = some (.number numeral, rest) := by
  by_cases minus : negative
  · obtain ⟨numeral, fractional, scanned⟩ := scans true
    refine ⟨numeral, fractional, fun rest stops => ?_⟩
    rw [if_pos minus, String.toList_append, List.append_assoc]
    exact next?_minus_of_scan (scanned rest stops)
  · obtain ⟨numeral, fractional, scanned⟩ := scans false
    refine ⟨numeral, fractional, fun rest stops => ?_⟩
    rw [if_neg minus, String.toList_append, List.append_assoc]
    exact next?_of_scan (scanned rest stops)

private theorem exists_next?_showFloat (value : Float) : ∃ numeral : Numeral,
    (numeral.fraction ≠ [] ∨ numeral.exponent ≠ none) ∧ ∀ rest, Stops rest →
      next? ((Decimal.showFloat value).toList ++ rest) = some (.number numeral, rest) := by
  unfold Decimal.showFloat
  dsimp only
  split
  · exact exists_next?_signed (fun negative => Numeral.scans_zero negative) _
  · rename_i nonzero
    have positive := Decimal.Binary.shortest_pos (Nat.pos_of_ne_zero nonzero)
    obtain ⟨first, rest, begins, first_ne⟩ := Numeral.toDigits_eq_cons positive
    have first_ne : first ≠ '0' := by
      rintro rfl
      exact first_ne rfl
    obtain ⟨kept, stripped, inside⟩ := Decimal.stripZeros_cons first_ne rest
    rw [begins, stripped]
    -- What is left after stripping zeros still consists of digits and still begins with the first one.
    have run : ∀ c ∈ first :: kept, Numeral.isDigit c = true := by
      intro c member
      have listed : c ∈ first :: rest := (List.mem_cons.mp member).elim
        (fun same => same ▸ List.mem_cons_self) fun later => List.mem_cons_of_mem first (inside c later)
      rw [← begins] at listed
      exact Numeral.isDigit_of_mem_toDigits listed
    exact exists_next?_signed (fun negative => Numeral.scans_layout run rfl first_ne negative _) _

end Json.Token

/-! ### Doubles as numerals -/

namespace Json

def Numeral.ofFloat (value : Float) : Numeral :=
  match Token.next? (Decimal.showFloat value).toList with
  | some (.number numeral, _) => numeral
  | _ => .ofInt 0

private theorem ofFloat_eq {value : Float} {numeral : Numeral}
    (next : ∀ rest, Numeral.Stops rest →
      Token.next? ((Decimal.showFloat value).toList ++ rest) = some (.number numeral, rest)) :
    Numeral.ofFloat value = numeral := by
  have alone := next [] trivial
  rw [List.append_nil] at alone
  simp only [Numeral.ofFloat, alone]

theorem Token.next?_showFloat (value : Float) {rest : List Char} (stops : Numeral.Stops rest) :
    next? ((Decimal.showFloat value).toList ++ rest) = some (.number (.ofFloat value), rest) := by
  obtain ⟨numeral, _, next⟩ := exists_next?_showFloat value
  rw [ofFloat_eq next]
  exact next rest stops

theorem Numeral.value?_ofFloat_ne_int (value : Float) (whole : Int) (inRange : Number.InRange whole) :
    (ofFloat value).value? ≠ some (.int whole inRange) := by
  obtain ⟨numeral, fractional, next⟩ := Token.exists_next?_showFloat value
  rw [ofFloat_eq next, value?]
  have not_whole : (numeral.fraction.isEmpty && numeral.exponent.isNone) = false := by
    rw [Bool.and_eq_false_iff]
    exact fractional.imp (by simp) (by simp [Option.isSome_iff_ne_none])
  simp [not_whole]

end Json

end Outliner
