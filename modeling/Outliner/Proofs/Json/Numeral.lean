import Outliner.Json.Numeral

/-!
Numerals read back: the decimal text of an integer is scanned as its numeral, as far as nothing follows
that could belong to a number, and the numeral stands for the integer.
-/
set_option autoImplicit false

namespace Outliner.Json.Numeral

/-- Nothing in the text could go on with a number that ends before it. -/
def Stops : List Char → Prop
  | [] => True
  | c :: _ => isDigit c = false ∧ c ≠ '.' ∧ c ≠ 'e' ∧ c ≠ 'E'

def digits (n : Nat) : List Nat :=
  (Nat.toDigits 10 n).map fun c => c.toNat - '0'.toNat

def ofInt (value : Int) : Numeral :=
  ⟨decide (value < 0), digits value.natAbs, [], none⟩

theorem isDigit_of_mem_toDigits {n : Nat} {c : Char} (member : c ∈ Nat.toDigits 10 n) :
    isDigit c = true :=
  Nat.isDigit_of_mem_toDigits (by decide) (by decide) member

theorem leadingDigits_append {run rest : List Char} (digits : ∀ c ∈ run, isDigit c = true)
    (ends : ∀ c ∈ rest.head?, isDigit c = false) :
    leadingDigits (run ++ rest) = run.map fun c => c.toNat - '0'.toNat := by
  rw [leadingDigits, List.takeWhile_append_of_pos digits]
  cases rest with
  | nil => simp
  | cons c rest => simp [ends c rfl]

theorem dropWhile_append {run rest : List Char} (digits : ∀ c ∈ run, isDigit c = true)
    (ends : ∀ c ∈ rest.head?, isDigit c = false) : (run ++ rest).dropWhile isDigit = rest := by
  rw [List.dropWhile_append_of_pos digits]
  cases rest with
  | nil => rfl
  | cons c rest => rw [List.dropWhile_cons, if_neg (by simp [ends c rfl])]

theorem Stops.ends {rest : List Char} (stops : Stops rest) : ∀ c ∈ rest.head?, isDigit c = false := by
  cases rest with
  | nil => simp
  | cons c rest =>
    intro first equal
    obtain rfl := Option.some.inj equal
    exact stops.1

theorem toDigits_eq_cons {n : Nat} (positive : 0 < n) :
    ∃ c rest, Nat.toDigits 10 n = c :: rest ∧ c.toNat - '0'.toNat ≠ 0 := by
  induction n using Nat.strongRecOn with
  | _ n ih =>
    by_cases small : n < 10
    · refine ⟨n.digitChar, [], Nat.toDigits_of_lt_base small, ?_⟩
      have stands : n.digitChar.toNat - '0'.toNat = n := Nat.toNat_digitChar_sub_48_of_lt_ten small
      omega
    · obtain ⟨c, rest, begins, nonzero⟩ := ih (n / 10) (by omega) (by omega)
      refine ⟨c, rest ++ [(n % 10).digitChar], ?_, nonzero⟩
      rw [Nat.toDigits_of_base_le (by decide) (by omega), begins, List.cons_append]

private theorem ofDigits_digits (n : Nat) : ofDigits (digits n) = n := by
  have core := @Nat.ofDigitChars_ten_toDigits n
  rw [Nat.ofDigitChars_eq_foldl] at core
  rw [ofDigits, digits, List.foldl_map]
  simpa only [Nat.mul_comm] using core

private theorem digits_ne_nil (n : Nat) : digits n ≠ [] := by
  rw [digits, ne_eq, List.map_eq_nil_iff]
  exact Nat.toDigits_ne_nil

private theorem digits_ne_zero_cons (n first : Nat) (rest : List Nat) : digits n ≠ 0 :: first :: rest := by
  intro begins
  rcases Nat.eq_zero_or_pos n with rfl | positive
  · cases begins
  · obtain ⟨c, others, equal, nonzero⟩ := toDigits_eq_cons positive
    rw [digits, equal, List.map_cons] at begins
    exact nonzero (List.cons.inj begins).1

theorem scanScale_of_stops (numeral : Numeral) {rest : List Char} (stops : Stops rest) :
    scanScale numeral rest = .whole numeral rest := by
  cases rest with
  | nil => rfl
  | cons c rest =>
    obtain ⟨_, _, small, large⟩ := stops
    unfold scanScale
    split <;> simp_all

private theorem scanFraction_of_stops (numeral : Numeral) {rest : List Char} (stops : Stops rest) :
    scanFraction numeral rest = .whole numeral rest := by
  rw [scanFraction.eq_def]
  split
  · exact absurd rfl stops.2.1
  · exact scanScale_of_stops numeral stops

theorem scan_toDigits (negative : Bool) (n : Nat) {rest : List Char} (stops : Stops rest) :
    scan negative (Nat.toDigits 10 n ++ rest) = .whole ⟨negative, digits n, [], none⟩ rest := by
  have run : ∀ c ∈ Nat.toDigits 10 n, isDigit c = true := fun c => isDigit_of_mem_toDigits
  unfold scan
  rw [leadingDigits_append run stops.ends, dropWhile_append run stops.ends, ← digits]
  split
  · rename_i none
    exact absurd none (digits_ne_nil n)
  · rename_i zero
    exact absurd zero (digits_ne_zero_cons n _ _)
  · exact scanFraction_of_stops _ stops

theorem value?_ofInt (value : Int) (inRange : Number.InRange value) :
    (ofInt value).value? = some (.int value inRange) := by
  have magnitude : ofDigits (ofInt value).whole = value.natAbs := ofDigits_digits value.natAbs
  have signed : (if (ofInt value).negative then -(value.natAbs : Int) else value.natAbs) = value := by
    simp only [ofInt, decide_eq_true_eq]
    split <;> omega
  have nonzero : ((ofInt value).negative && value.natAbs == 0) = false := by
    simp only [ofInt, Bool.and_eq_false_iff, decide_eq_false_iff_not, beq_eq_false_iff_ne]
    omega
  simp only [value?, magnitude, nonzero, signed, dif_pos inRange]
  rfl

end Outliner.Json.Numeral
