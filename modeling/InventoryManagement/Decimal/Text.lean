import Mathlib.Algebra.Ring.Int.Defs
import Mathlib.Data.List.Basic
import Mathlib.Data.List.TakeWhile

/-! Decimals written without an exponent, and the numerals that such texts stand for. -/

set_option autoImplicit false

namespace InventoryManagement.Decimal

/-- A coefficient, and how many of its digits stand behind the point. -/
structure Numeral where
  coefficient : Int
  scale : Nat
deriving DecidableEq

/-- Digits with a point, which zeros keep behind at least one digit. -/
def pointed (digits : List Char) (scale : Nat) : List Char :=
  if scale = 0 then digits
  else if digits.length ≤ scale then
    '0' :: '.' :: (List.replicate (scale - digits.length) '0' ++ digits)
  else
    digits.take (digits.length - scale) ++ '.' :: digits.drop (digits.length - scale)

/-- `Decimal.__str__`, for a scale of at most six. -/
def Numeral.text (numeral : Numeral) : List Char :=
  match numeral.coefficient with
  | .ofNat value => pointed (Nat.toDigits 10 value) numeral.scale
  | .negSucc value => '-' :: pointed (Nat.toDigits 10 (value + 1)) numeral.scale

/-- The value as a multiple of a power of ten not above its last digit. -/
def Numeral.units (numeral : Numeral) (places : Nat) : Int :=
  numeral.coefficient * 10 ^ (places - numeral.scale)

def unsigned (text : List Char) : Nat × Nat :=
  (Nat.ofDigitChars 10 (text.filter (fun char => decide (char ≠ '.'))) 0,
    (text.dropWhile (fun char => decide (char ≠ '.'))).length - 1)

/-- The numeral that a text stands for. -/
def ofText (text : List Char) : Numeral :=
  match text with
  | '-' :: text => ⟨-(unsigned text).1, (unsigned text).2⟩
  | text => ⟨(unsigned text).1, (unsigned text).2⟩

variable {digits : List Char}

theorem filter_digits (digit : ∀ char ∈ digits, char.isDigit = true) :
    digits.filter (fun char => decide (char ≠ '.')) = digits := by
  rw [List.filter_eq_self]
  intro char member
  apply decide_eq_true
  rintro rfl
  exact absurd (digit '.' member) (by decide)

theorem dropWhile_digits (digit : ∀ char ∈ digits, char.isDigit = true) (rest : List Char) :
    (digits ++ rest).dropWhile (fun char => decide (char ≠ '.')) =
      rest.dropWhile (fun char => decide (char ≠ '.')) := by
  apply List.dropWhile_append_of_pos
  intro char member
  apply decide_eq_true
  rintro rfl
  exact absurd (digit '.' member) (by decide)

/-- A point between digits changes their number by nothing and marks the scale. -/
theorem unsigned_point {fraction : List Char} (digit : ∀ char ∈ digits, char.isDigit = true)
    (digitToo : ∀ char ∈ fraction, char.isDigit = true) :
    unsigned (digits ++ '.' :: fraction) =
      (Nat.ofDigitChars 10 (digits ++ fraction) 0, fraction.length) := by
  have skipped : (digits ++ '.' :: fraction).filter (fun char => decide (char ≠ '.')) =
      digits ++ fraction := by
    rw [List.filter_append, List.filter_cons_of_neg (by decide), filter_digits digit,
      filter_digits digitToo]
  have found : (digits ++ '.' :: fraction).dropWhile (fun char => decide (char ≠ '.')) =
      '.' :: fraction := by
    rw [dropWhile_digits digit, List.dropWhile_cons_of_neg (by decide)]
  rw [unsigned, skipped, found, List.length_cons, Nat.add_sub_cancel]

theorem unsigned_pointed (digit : ∀ char ∈ digits, char.isDigit = true) (scale : Nat) :
    unsigned (pointed digits scale) = (Nat.ofDigitChars 10 digits 0, scale) := by
  unfold pointed
  split
  next whole =>
    have none := dropWhile_digits digit []
    rw [List.append_nil, List.dropWhile_nil] at none
    rw [unsigned, filter_digits digit, none, whole]
    rfl
  next point =>
    split
    next short =>
      have padded : ∀ char ∈ List.replicate (scale - digits.length) '0' ++ digits,
          char.isDigit = true := by
        intro char member
        rcases List.mem_append.mp member with zero | listed
        · rw [List.eq_of_mem_replicate zero]
          rfl
        · exact digit char listed
      have zero : ∀ char ∈ ['0'], char.isDigit = true := by
        intro char member
        rw [List.mem_singleton.mp member]
        rfl
      rw [← List.singleton_append (x := '0'), unsigned_point zero padded, List.singleton_append,
        Nat.ofDigitChars_cons, Nat.ofDigitChars_append, Nat.ofDigitChars_replicate_zero,
        List.length_append, List.length_replicate]
      congr 1
      omega
    next long =>
      rw [unsigned_point (fun char member => digit char (List.mem_of_mem_take member))
        (fun char member => digit char (List.mem_of_mem_drop member)), List.take_append_drop,
        List.length_drop]
      congr 1
      omega

/-- A text begins with a digit unless it has a sign. -/
theorem pointed_head (digit : ∀ char ∈ digits, char.isDigit = true) (some : digits ≠ [])
    (scale : Nat) : ∃ char rest, pointed digits scale = char :: rest ∧ char ≠ '-' := by
  have first : ∀ char ∈ digits, char ≠ '-' := by
    rintro char member rfl
    exact absurd (digit '-' member) (by decide)
  unfold pointed
  split
  next _ =>
    obtain ⟨char, rest, rfl⟩ := List.exists_cons_of_ne_nil some
    exact ⟨char, rest, rfl, first char List.mem_cons_self⟩
  next point =>
    split
    next _ => exact ⟨'0', _, rfl, by decide⟩
    next long =>
      have more : digits.take (digits.length - scale) ≠ [] := by
        apply List.ne_nil_of_length_pos
        rw [List.length_take]
        omega
      obtain ⟨char, rest, head⟩ := List.exists_cons_of_ne_nil more
      refine ⟨char, rest ++ _, by rw [head]; rfl, first char ?_⟩
      exact List.mem_of_mem_take (head ▸ List.mem_cons_self)

theorem ofText_of_head {char : Char} {rest : List Char} (unsigned_head : char ≠ '-') :
    ofText (char :: rest) = ⟨(unsigned (char :: rest)).1, (unsigned (char :: rest)).2⟩ := by
  rw [ofText]
  rintro text same
  exact unsigned_head (List.head_eq_of_cons_eq same)

/-- The text of a numeral stands for that numeral. -/
theorem ofText_text (numeral : Numeral) : ofText numeral.text = numeral := by
  obtain ⟨coefficient, scale⟩ := numeral
  have digit : ∀ value : Nat, ∀ char ∈ Nat.toDigits 10 value, char.isDigit = true :=
    fun value char member => Nat.isDigit_of_mem_toDigits (by decide) (by decide) member
  cases coefficient with
  | ofNat value =>
      have read := unsigned_pointed (digit value) scale
      obtain ⟨char, rest, text, head⟩ := pointed_head (digit value) Nat.toDigits_ne_nil scale
      rw [text, Nat.ofDigitChars_ten_toDigits] at read
      change ofText (pointed (Nat.toDigits 10 value) scale) = _
      rw [text, ofText_of_head head, read]
      rfl
  | negSucc value =>
      have read := unsigned_pointed (digit (value + 1)) scale
      rw [Nat.ofDigitChars_ten_toDigits] at read
      change ofText ('-' :: pointed (Nat.toDigits 10 (value + 1)) scale) = _
      rw [ofText, read]
      rfl

end InventoryManagement.Decimal
