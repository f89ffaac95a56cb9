import Mathlib.Data.List.TakeWhile
import Outliner.Snapshot.NodeId

/-!
Spelling: which texts are read as ids. A numeral is a row of decimal digits, maybe after a plus sign, with
any blanks around it. Main statements: a text is read as an id exactly if it is a numeral for the group, a
colon and a numeral for the offset, and every other text is handed back as it is; the text of an id is read
as that id, also with blanks around both numbers.
-/
set_option autoImplicit false

namespace Outliner

namespace Text

def Blank (text : String) : Prop :=
  ∀ c ∈ text.toList, isBlank c = true

private theorem dropWhile_isBlank_of_visible {s : List Char} (visible : ∀ c ∈ s, isBlank c = false) :
    s.dropWhile isBlank = s := by
  cases s with
  | nil => rfl
  | cons c rest =>
    have first : ¬ isBlank c = true := by
      rw [visible c List.mem_cons_self]
      exact Bool.false_ne_true
    exact List.dropWhile_cons_of_neg first

private theorem trim_surrounded {before s after : List Char} (blankBefore : ∀ c ∈ before, isBlank c = true)
    (visible : ∀ c ∈ s, isBlank c = false) (blankAfter : ∀ c ∈ after, isBlank c = true) :
    trim (before ++ s ++ after) = s := by
  have leading : (before ++ s ++ after).dropWhile isBlank = if s = [] then [] else s ++ after := by
    rw [List.append_assoc, List.dropWhile_append_of_pos blankBefore, List.dropWhile_append,
      dropWhile_isBlank_of_visible visible, List.dropWhile_eq_nil_iff.mpr blankAfter]
    cases s <;> rfl
  have reversed : ∀ c ∈ s.reverse, isBlank c = false := by
    intro c member
    exact visible c (List.mem_reverse.mp member)
  have trailing : ∀ c ∈ after.reverse, isBlank c = true := by
    intro c member
    exact blankAfter c (List.mem_reverse.mp member)
  rw [trim, leading]
  split
  case isTrue empty => simp [empty]
  case isFalse =>
    rw [List.reverse_append, List.dropWhile_append_of_pos trailing,
      dropWhile_isBlank_of_visible reversed, List.reverse_reverse]

private theorem exists_surrounded_trim (s : List Char) :
    ∃ before after, s = before ++ trim s ++ after ∧ (∀ c ∈ before, isBlank c = true) ∧
      ∀ c ∈ after, isBlank c = true := by
  have leading : s.takeWhile isBlank ++ s.dropWhile isBlank = s := List.takeWhile_append_dropWhile
  have trailing : (s.dropWhile isBlank).reverse.takeWhile isBlank ++
      (s.dropWhile isBlank).reverse.dropWhile isBlank = (s.dropWhile isBlank).reverse :=
    List.takeWhile_append_dropWhile
  have kept : trim s ++ ((s.dropWhile isBlank).reverse.takeWhile isBlank).reverse =
      s.dropWhile isBlank := by
    rw [trim, ← List.reverse_append, trailing, List.reverse_reverse]
  refine ⟨s.takeWhile isBlank, ((s.dropWhile isBlank).reverse.takeWhile isBlank).reverse, ?_, ?_, ?_⟩
  · rw [List.append_assoc, kept, leading]
  · intro c member
    exact List.mem_takeWhile_imp member
  · intro c member
    exact List.mem_takeWhile_imp (List.mem_reverse.mp member)

end Text

namespace NodeId

/-- A number as it can stand in the text of an id: decimal digits, maybe after a plus sign, with any blanks
around them. -/
structure Numeral where
  before : List Char
  plus : Bool
  digits : List Char
  after : List Char
  blankBefore : ∀ c ∈ before, Text.isBlank c = true
  someDigit : digits ≠ []
  decimal : ∀ c ∈ digits, '0' ≤ c ∧ c ≤ '9'
  blankAfter : ∀ c ∈ after, Text.isBlank c = true

namespace Numeral

def signed (numeral : Numeral) : List Char :=
  if numeral.plus then '+' :: numeral.digits else numeral.digits

def chars (numeral : Numeral) : List Char :=
  numeral.before ++ numeral.signed ++ numeral.after

def value (numeral : Numeral) : Nat :=
  Nat.ofDigitChars 10 numeral.digits 0

end Numeral

/-- The text is a numeral for the group, a colon, and a numeral for the offset, and the colon is the first
one in the text. -/
def Spells (text : String) (id : NodeId) : Prop :=
  ∃ group offset : Numeral, text.toList = group.chars ++ ':' :: offset.chars ∧ ':' ∉ group.chars ∧
    group.value = id.group.toNat ∧ offset.value = id.offset.toNat

private theorem readDigits?_eq_some_iff {value : Nat} {digits : List Char} {word : UInt32} :
    readDigits? value digits = some word ↔
      (∀ c ∈ digits, '0' ≤ c ∧ c ≤ '9') ∧ Nat.ofDigitChars 10 digits value = word.toNat := by
  induction digits generalizing value with
  | nil =>
    rw [readDigits?, wordOf?_eq_some_iff, Nat.ofDigitChars_nil, eq_comm]
    exact (and_iff_right (List.forall_mem_nil _)).symm
  | cons c rest ih =>
    rw [readDigits?, List.forall_mem_cons, Nat.ofDigitChars_cons, Nat.mul_comm 10 value]
    split
    case isTrue digit => rw [ih, and_iff_right digit]
    case isFalse other => exact iff_of_false (by simp) fun both => other both.1.1

private theorem readWord?_eq_some_iff {chars : List Char} {word : UInt32} :
    readWord? chars = some word ↔
      ∃ digits, (chars = '+' :: digits ∨ chars = digits) ∧ digits ≠ [] ∧
        (∀ c ∈ digits, '0' ≤ c ∧ c ≤ '9') ∧ Nat.ofDigitChars 10 digits 0 = word.toNat := by
  -- A plus sign is no digit, so a text has one of the two forms at most.
  have noDigit : ¬ ('0' ≤ '+' ∧ '+' ≤ '9') := by decide
  fun_cases readWord? chars
  case case1 => simp
  case case2 =>
    refine iff_of_false (by simp) ?_
    rintro ⟨digits, plus | plain, someDigit, decimal, -⟩
    · exact someDigit (List.cons.inj plus).2.symm
    · subst plain
      exact noDigit (decimal '+' List.mem_cons_self)
  case case3 digits someDigit =>
    rw [readDigits?_eq_some_iff]
    constructor
    · rintro ⟨decimal, value⟩
      exact ⟨digits, .inl rfl, someDigit, decimal, value⟩
    · rintro ⟨others, plus | plain, -, decimal, value⟩
      · obtain ⟨-, rfl⟩ := List.cons.inj plus
        exact ⟨decimal, value⟩
      · subst plain
        exact absurd (decimal '+' List.mem_cons_self) noDigit
  case case4 someChar _ unsigned =>
    rw [readDigits?_eq_some_iff]
    constructor
    · rintro ⟨decimal, value⟩
      exact ⟨chars, .inr rfl, someChar, decimal, value⟩
    · rintro ⟨digits, plus | plain, -, decimal, value⟩
      · exact absurd plus (unsigned digits)
      · subst plain
        exact ⟨decimal, value⟩

private theorem isBlank_of_decimal {c : Char} (digit : '0' ≤ c ∧ c ≤ '9') : Text.isBlank c = false := by
  have low : 48 ≤ c.toNat := digit.1
  have high : c.toNat ≤ 57 := digit.2
  simp only [Text.isBlank, Bool.or_eq_false_iff, Bool.and_eq_false_iff, decide_eq_false_iff_not,
    beq_eq_false_iff_ne]
  omega

private theorem Numeral.visible_signed (numeral : Numeral) :
    ∀ c ∈ numeral.signed, Text.isBlank c = false := by
  have digits : ∀ c ∈ numeral.digits, Text.isBlank c = false := by
    intro c member
    exact isBlank_of_decimal (numeral.decimal c member)
  unfold signed
  split
  · exact List.forall_mem_cons.mpr ⟨rfl, digits⟩
  · exact digits

/-- What is left of a text without the blanks around it is read as a number exactly if the text is a numeral
for it. -/
theorem readWord?_trim_eq_some_iff {s : List Char} {word : UInt32} :
    readWord? (Text.trim s) = some word ↔
      ∃ numeral : Numeral, s = numeral.chars ∧ numeral.value = word.toNat := by
  constructor
  · intro read
    obtain ⟨digits, form, someDigit, decimal, value⟩ := readWord?_eq_some_iff.mp read
    obtain ⟨before, after, split, blankBefore, blankAfter⟩ := Text.exists_surrounded_trim s
    rcases form with plus | plain
    · refine ⟨⟨before, true, digits, after, blankBefore, someDigit, decimal, blankAfter⟩, ?_, value⟩
      rw [split, plus]
      rfl
    · refine ⟨⟨before, false, digits, after, blankBefore, someDigit, decimal, blankAfter⟩, ?_, value⟩
      rw [split, plain]
      rfl
  · rintro ⟨numeral, rfl, value⟩
    have trimmed : Text.trim numeral.chars = numeral.signed :=
      Text.trim_surrounded numeral.blankBefore numeral.visible_signed numeral.blankAfter
    rw [trimmed, readWord?_eq_some_iff]
    refine ⟨numeral.digits, ?_, numeral.someDigit, numeral.decimal, value⟩
    unfold Numeral.signed
    split
    · exact .inl rfl
    · exact .inr rfl

private theorem bne_colon_of_not_mem {s : List Char} (absent : ':' ∉ s) : ∀ c ∈ s, (c != ':') = true := by
  intro c member
  rw [bne_iff_ne]
  rintro rfl
  exact absent member

private theorem ofText?_of_divided {text : String} {first rest : List Char}
    (divided : text.toList = first ++ ':' :: rest) (absent : ':' ∉ first) :
    ofText? text = do
      let group ← readWord? (Text.trim first)
      let offset ← readWord? (Text.trim rest)
      return ⟨group, offset⟩ := by
  have others := bne_colon_of_not_mem absent
  have before : text.toList.takeWhile (· != ':') = first := by
    rw [divided, List.takeWhile_append_of_pos others]
    simp
  have after : text.toList.dropWhile (· != ':') = ':' :: rest := by
    rw [divided, List.dropWhile_append_of_pos others]
    simp
  simp only [ofText?, before, after]

private theorem ofText?_of_no_colon {text : String} (absent : ':' ∉ text.toList) : ofText? text = none := by
  have nothing : text.toList.dropWhile (· != ':') = [] :=
    List.dropWhile_eq_nil_iff.mpr (bne_colon_of_not_mem absent)
  simp only [ofText?, nothing]

private theorem ofText?_eq_some_iff {text : String} {id : NodeId} :
    ofText? text = some id ↔ Spells text id := by
  constructor
  · intro read
    by_cases colon : ':' ∈ text.toList
    · obtain ⟨first, rest, divided, absent⟩ := List.eq_append_cons_of_mem colon
      rw [ofText?_of_divided divided absent] at read
      obtain ⟨group, readGroup, read⟩ := Option.bind_eq_some_iff.mp read
      obtain ⟨offset, readOffset, read⟩ := Option.bind_eq_some_iff.mp read
      obtain rfl := Option.some.inj read
      obtain ⟨groupNumeral, rfl, groupValue⟩ := readWord?_trim_eq_some_iff.mp readGroup
      obtain ⟨offsetNumeral, rfl, offsetValue⟩ := readWord?_trim_eq_some_iff.mp readOffset
      exact ⟨groupNumeral, offsetNumeral, divided, absent, groupValue, offsetValue⟩
    · rw [ofText?_of_no_colon colon] at read
      cases read
  · rintro ⟨group, offset, divided, absent, groupValue, offsetValue⟩
    rw [ofText?_of_divided divided absent, readWord?_trim_eq_some_iff.mpr ⟨group, rfl, groupValue⟩,
      readWord?_trim_eq_some_iff.mpr ⟨offset, rfl, offsetValue⟩]
    rfl

/-- A text is read as an id exactly if it spells the id. Every other text is handed back as it is. -/
theorem ofText_eq_iff_spells (text : String) :
    (∀ id, ofText text = .ok id ↔ Spells text id) ∧
      ∀ fault, ofText text = .error fault ↔ fault = ⟨text⟩ ∧ ¬ ∃ id, Spells text id := by
  simp only [← ofText?_eq_some_iff]
  unfold ofText
  cases ofText? text with
  | none => simp [eq_comm]
  | some id => simp

private theorem Numeral.colon_not_mem_chars (numeral : Numeral) : ':' ∉ numeral.chars := by
  have visible : ¬ Text.isBlank ':' = true := by decide
  have signed : ':' ∉ numeral.signed := by
    intro member
    have digits : ':' ∈ numeral.digits := by
      unfold signed at member
      split at member
      · exact List.mem_of_ne_of_mem (by decide) member
      · exact member
    have digit := numeral.decimal ':' digits
    exact absurd digit.2 (by decide)
  simp only [chars, List.mem_append, not_or]
  refine ⟨⟨?_, signed⟩, ?_⟩
  · intro member
    exact visible (numeral.blankBefore ':' member)
  · intro member
    exact visible (numeral.blankAfter ':' member)

def Numeral.ofWord (word : UInt32) (before after : String) (blankBefore : Text.Blank before)
    (blankAfter : Text.Blank after) : Numeral where
  before := before.toList
  plus := false
  digits := Nat.toDigits 10 word.toNat
  after := after.toList
  blankBefore := blankBefore
  someDigit := Nat.toDigits_ne_nil
  decimal c member := by
    have digit := Nat.isDigit_of_mem_toDigits (by decide) (by decide) member
    simp only [Char.isDigit, Bool.and_eq_true, decide_eq_true_eq] at digit
    exact digit
  blankAfter := blankAfter

private theorem Numeral.chars_ofWord {word : UInt32} {before after : String} (blankBefore : Text.Blank before)
    (blankAfter : Text.Blank after) : (ofWord word before after blankBefore blankAfter).chars =
      (before ++ word.toNat.repr ++ after).toList := by
  rw [String.toList_append, String.toList_append, Nat.toList_repr]
  rfl

private theorem Numeral.value_ofWord {word : UInt32} {before after : String} (blankBefore : Text.Blank before)
    (blankAfter : Text.Blank after) :
    (ofWord word before after blankBefore blankAfter).value = word.toNat :=
  Nat.ofDigitChars_ten_toDigits

private theorem ofText_of_spells {text : String} {id : NodeId} (spelled : Spells text id) :
    ofText text = .ok id := by
  rw [ofText, ofText?_eq_some_iff.mpr spelled]

private theorem spells_spaced (id : NodeId) {w₁ w₂ w₃ w₄ : String} (b₁ : Text.Blank w₁) (b₂ : Text.Blank w₂)
    (b₃ : Text.Blank w₃) (b₄ : Text.Blank w₄) :
    Spells (w₁ ++ id.group.toNat.repr ++ w₂ ++ ":" ++ w₃ ++ id.offset.toNat.repr ++ w₄) id := by
  let group := Numeral.ofWord id.group w₁ w₂ b₁ b₂
  let offset := Numeral.ofWord id.offset w₃ w₄ b₃ b₄
  have groupChars : group.chars = _ := Numeral.chars_ofWord b₁ b₂
  have offsetChars : offset.chars = _ := Numeral.chars_ofWord b₃ b₄
  refine ⟨group, offset, ?_, group.colon_not_mem_chars, ?_, ?_⟩
  · have colon : ":".toList = [':'] := rfl
    rw [groupChars, offsetChars]
    simp only [String.toList_append, colon, List.append_assoc, List.cons_append, List.nil_append]
  · exact Numeral.value_ofWord b₁ b₂
  · exact Numeral.value_ofWord b₃ b₄

private theorem text_eq (id : NodeId) : id.text = id.group.toNat.repr ++ ":" ++ id.offset.toNat.repr := rfl

theorem ofText_text (id : NodeId) : ofText id.text = .ok id := by
  have nothing : Text.Blank "" := by simp [Text.Blank]
  have spelled := spells_spaced id nothing nothing nothing nothing
  simp only [String.append_empty, String.empty_append] at spelled
  rw [text_eq]
  exact ofText_of_spells spelled

/-- The text of an id consists of its two numbers with a colon between them. With any blanks before and
after each of the numbers it is read as the id, so also as it is, and no other id has the same text. -/
theorem ofText_spaced (id : NodeId) :
    id.text = id.group.toNat.repr ++ ":" ++ id.offset.toNat.repr ∧
    (∀ w₁ w₂ w₃ w₄, Text.Blank w₁ → Text.Blank w₂ → Text.Blank w₃ → Text.Blank w₄ →
      ofText (w₁ ++ id.group.toNat.repr ++ w₂ ++ ":" ++ w₃ ++ id.offset.toNat.repr ++ w₄) = .ok id) ∧
    ofText id.text = .ok id ∧
    ∀ other : NodeId, other ≠ id → other.text ≠ id.text := by
  refine ⟨id.text_eq, ?_, id.ofText_text, ?_⟩
  · intro w₁ w₂ w₃ w₄ b₁ b₂ b₃ b₄
    exact ofText_of_spells (spells_spaced id b₁ b₂ b₃ b₄)
  · intro other different same
    have read : ofText id.text = .ok other := by
      rw [← same]
      exact other.ofText_text
    rw [id.ofText_text] at read
    exact different (Except.ok.inj read).symm

theorem ofText_spaced_greatest :
    (Text.Blank "\u3000 " ∧ Text.Blank "\t" ∧ Text.Blank "\u2028\n" ∧ Text.Blank "") ∧
      ofText "\u3000 4294967295\t:\u2028\n0" = .ok ⟨4294967295, 0⟩ := by
  have blanks : Text.Blank "\u3000 " ∧ Text.Blank "\t" ∧ Text.Blank "\u2028\n" ∧ Text.Blank "" := by
    simp [Text.Blank, Text.isBlank]
  obtain ⟨b₁, b₂, b₃, b₄⟩ := blanks
  exact ⟨⟨b₁, b₂, b₃, b₄⟩, (ofText_spaced ⟨4294967295, 0⟩).2.1 _ _ _ _ b₁ b₂ b₃ b₄⟩

end NodeId

end Outliner
