import InventoryManagement.Json

/-! Strings and numbers as `json.loads` reads them: what `json.dumps` has written is read
back. -/

set_option autoImplicit false

namespace InventoryManagement.Json

/-! Reading a string. -/

def hexDigit? (char : Char) : Option Nat :=
  if '0' ≤ char ∧ char ≤ '9' then some (char.toNat - 48)
  else if 'a' ≤ char ∧ char ≤ 'f' then some (char.toNat - 87)
  else if 'A' ≤ char ∧ char ≤ 'F' then some (char.toNat - 55)
  else none

/-- Four hexadecimal digits. -/
def readUnit : List Char → Option (Nat × List Char)
  | a :: b :: c :: d :: rest => do
      let first ← hexDigit? a
      let second ← hexDigit? b
      let third ← hexDigit? c
      let fourth ← hexDigit? d
      some (first * 4096 + second * 256 + third * 16 + fourth, rest)
  | _ => none

/-- `BACKSLASH`. -/
def backslash : List (Char × Char) :=
  [('"', '"'), ('\\', '\\'), ('/', '/'), ('b', '\x08'), ('f', '\x0c'), ('n', '\n'), ('r', '\r'),
    ('t', '\t')]

/-- What follows a backslash. A lone surrogate, which Python keeps in its string, is no
character and is not read. -/
def readEscape : List Char → Option (Char × List Char)
  | 'u' :: text => do
      let (unit, rest) ← readUnit text
      if 55296 ≤ unit ∧ unit < 56320 then
        match rest with
        | '\\' :: 'u' :: text => do
            let (low, rest) ← readUnit text
            if 56320 ≤ low ∧ low < 57344 then
              some (Char.ofNat (65536 + (unit - 55296) * 1024 + (low - 56320)), rest)
            else none
        | _ => none
      else if 56320 ≤ unit ∧ unit < 57344 then none
      else some (Char.ofNat unit, rest)
  | letter :: rest => (backslash.lookup letter).map (·, rest)
  | [] => none

/-- `scanstring`, behind the opening quote: the characters of the string, and what
follows the closing quote. -/
def readString : Nat → List Char → Option (List Char × List Char)
  | 0, _ => none
  | fuel + 1, text =>
      match text with
      | [] => none
      | '"' :: rest => some ([], rest)
      | '\\' :: rest => do
          let (char, rest) ← readEscape rest
          let (chars, rest) ← readString fuel rest
          some (char :: chars, rest)
      | char :: rest =>
          if char < ' ' then none
          else do
            let (chars, rest) ← readString fuel rest
            some (char :: chars, rest)

section Strings

variable {text rest : List Char}

theorem hexDigit?_hexDigit : ∀ digit < 16, hexDigit? (hexDigit digit) = some digit := by decide

def unitDigits (unit : Nat) : List Char :=
  [hexDigit (unit / 4096 % 16), hexDigit (unit / 256 % 16), hexDigit (unit / 16 % 16),
    hexDigit (unit % 16)]

theorem readUnit_unitDigits {unit : Nat} (small : unit < 65536) :
    readUnit (unitDigits unit ++ rest) = some (unit, rest) := by
  simp only [unitDigits, List.cons_append, List.nil_append, readUnit, hexDigit?_hexDigit _ (Nat.mod_lt _ (show 0 < 16 by decide)), Option.bind_eq_bind,
    Option.bind_some, Option.some.injEq, Prod.mk.injEq, and_true]
  omega

/-- One unit that is no surrogate. -/
theorem readEscape_unit {unit : Nat} (read : readUnit (text ++ rest) = some (unit, rest))
    (plain : unit < 55296 ∨ 57344 ≤ unit) :
    readEscape ('u' :: (text ++ rest)) = some (Char.ofNat unit, rest) := by
  simp only [readEscape, read, Option.bind_eq_bind, Option.bind_some]
  rw [if_neg (by omega), if_neg (by omega)]

/-- A surrogate pair. -/
theorem readEscape_pair {unit low : Nat} {others : List Char}
    (read : readUnit (text ++ '\\' :: 'u' :: (others ++ rest)) =
      some (unit, '\\' :: 'u' :: (others ++ rest)))
    (readToo : readUnit (others ++ rest) = some (low, rest))
    (high : 55296 ≤ unit ∧ unit < 56320) (paired : 56320 ≤ low ∧ low < 57344) :
    readEscape ('u' :: (text ++ '\\' :: 'u' :: (others ++ rest))) =
      some (Char.ofNat (65536 + (unit - 55296) * 1024 + (low - 56320)), rest) := by
  simp only [readEscape, read, Option.bind_eq_bind, Option.bind_some]
  rw [if_pos high]
  simp only [readToo, Option.bind_some]
  rw [if_pos paired]

theorem readEscape_escapeCode (char : Char) (rest : List Char) : ∃ text, escapeCode char.toNat = '\\' :: text ∧
    readEscape (text ++ rest) = some (char, rest) := by
  have valid : char.toNat.isValidChar := char.valid
  rcases valid with low | ⟨above, below⟩
  · refine ⟨'u' :: unitDigits char.toNat, ?_, ?_⟩
    · rw [escapeCode, if_pos (by omega)]
      rfl
    · rw [List.cons_append, readEscape_unit (readUnit_unitDigits (by omega)) (.inl low),
        Char.ofNat_toNat]
  · by_cases small : char.toNat < 65536
    · refine ⟨'u' :: unitDigits char.toNat, ?_, ?_⟩
      · rw [escapeCode, if_pos small]
        rfl
      · rw [List.cons_append, readEscape_unit (readUnit_unitDigits small) (.inr (by omega)),
          Char.ofNat_toNat]
    · refine ⟨'u' :: unitDigits (55296 + (char.toNat - 65536) / 1024) ++ '\\' :: 'u' ::
        unitDigits (56320 + (char.toNat - 65536) % 1024), ?_, ?_⟩
      · rw [escapeCode, if_neg small]
        rfl
      · rw [List.cons_append, List.cons_append, List.append_assoc, List.cons_append,
          List.cons_append, readEscape_pair (readUnit_unitDigits (by omega))
          (readUnit_unitDigits (by omega)) (by omega) (by omega)]
        have same : 65536 + (55296 + (char.toNat - 65536) / 1024 - 55296) * 1024 +
            (56320 + (char.toNat - 65536) % 1024 - 56320) = char.toNat := by omega
        rw [same, Char.ofNat_toNat]

/-- An escaped character is read back as one character. -/
theorem readString_escape {fuel : Nat} (char : Char) :
    readString (fuel + 1) (escape char ++ rest) =
      (readString fuel rest).map (fun read => (char :: read.1, read.2)) := by
  have short : ∀ letter, readEscape (letter :: rest) = some (char, rest) →
      readString (fuel + 1) ('\\' :: letter :: rest) =
        (readString fuel rest).map (fun read => (char :: read.1, read.2)) := by
    intro letter read
    simp only [readString, read, Option.bind_eq_bind, Option.bind_some]
    rw [Option.map_eq_bind]
    rfl
  rw [escape]
  split_ifs with quote slash newline carriage tab feed back plain
  · subst quote
    exact short _ rfl
  · subst slash
    exact short _ rfl
  · subst newline
    exact short _ rfl
  · subst carriage
    exact short _ rfl
  · subst tab
    exact short _ rfl
  · subst feed
    exact short _ rfl
  · subst back
    exact short _ rfl
  · rw [List.cons_append, List.nil_append, readString]
    · rw [if_neg (by simpa using plain.1), Option.map_eq_bind]
      rfl
    · simpa using quote
    · simpa using slash
  · obtain ⟨text, escaped, read⟩ := readEscape_escapeCode char rest
    rw [escaped, List.cons_append]
    simp only [readString, read, Option.bind_eq_bind, Option.bind_some]
    rw [Option.map_eq_bind]
    rfl

theorem readString_stringText {fuel : Nat} (chars : List Char) (enough : chars.length < fuel) :
    readString fuel (chars.flatMap escape ++ '"' :: rest) = some (chars, rest) := by
  induction chars generalizing fuel with
  | nil =>
      cases fuel with
      | zero => cases enough
      | succ fuel => rfl
  | cons char chars ih =>
      cases fuel with
      | zero => cases enough
      | succ fuel =>
          rw [List.flatMap_cons, List.append_assoc, readString_escape,
            ih (Nat.lt_of_succ_lt_succ enough)]
          rfl

end Strings

/-! Reading a number, by `NUMBER_RE`. -/

def readSign : List Char → List Char × List Char
  | '-' :: rest => (['-'], rest)
  | text => ([], text)

def readDigits (text : List Char) : List Char × List Char :=
  (text.takeWhile Char.isDigit, text.dropWhile Char.isDigit)

def readWhole : List Char → Option (List Char × List Char)
  | '0' :: rest => some (['0'], rest)
  | text => if (readDigits text).1 = [] then none else some (readDigits text)

def readFraction : List Char → List Char × List Char
  | '.' :: rest =>
      if (readDigits rest).1 = [] then ([], '.' :: rest)
      else ('.' :: (readDigits rest).1, (readDigits rest).2)
  | text => ([], text)

def readExponentSign : List Char → List Char × List Char
  | '+' :: rest => (['+'], rest)
  | '-' :: rest => (['-'], rest)
  | text => ([], text)

def readExponent : List Char → List Char × List Char
  | [] => ([], [])
  | letter :: rest =>
      if letter = 'e' ∨ letter = 'E' then
        let (sign, unsigned) := readExponentSign rest
        if (readDigits unsigned).1 = [] then ([], letter :: rest)
        else (letter :: sign ++ (readDigits unsigned).1, (readDigits unsigned).2)
      else ([], letter :: rest)

/-- `int(sign + whole)`. -/
def integerValue (sign whole : List Char) : Int :=
  if sign = [] then Nat.ofDigitChars 10 whole 0 else -Nat.ofDigitChars 10 whole 0

/-- `float` is `float(text)`, by the text of its result. -/
def readNumber (float : List Char → FloatText) (text : List Char) :
    Option (Scalar × List Char) := do
  let (sign, text) := readSign text
  let (whole, text) ← readWhole text
  let (fraction, text) := readFraction text
  let (exponent, text) := readExponent text
  if fraction = [] ∧ exponent = [] then some (.integer (integerValue sign whole), text)
  else some (.float (float (sign ++ whole ++ fraction ++ exponent)), text)

/-- The parts that a number is written with. -/
structure NumberParts where
  negative : Bool
  whole : List Char
  fraction : List Char
  exponent : Option (Char × List Char × List Char)
  whole_digits : whole ≠ [] ∧ ∀ char ∈ whole, char.isDigit = true
  no_leading_zero : ∀ rest, whole = '0' :: rest → rest = []
  fraction_digits : ∀ char ∈ fraction, char.isDigit = true
  exponent_digits : ∀ part ∈ exponent, (part.1 = 'e' ∨ part.1 = 'E') ∧
    (part.2.1 = [] ∨ part.2.1 = ['+'] ∨ part.2.1 = ['-']) ∧ part.2.2 ≠ [] ∧
    ∀ char ∈ part.2.2, char.isDigit = true

namespace NumberParts

variable (parts : NumberParts)

def signText : List Char := if parts.negative then ['-'] else []

def fractionText : List Char := if parts.fraction = [] then [] else '.' :: parts.fraction

def exponentText : List Char :=
  match parts.exponent with
  | none => []
  | some (letter, sign, digits) => letter :: sign ++ digits

def text : List Char := parts.signText ++ parts.whole ++ parts.fractionText ++ parts.exponentText

end NumberParts

section Numbers

variable {rest : List Char}

theorem isTokenChar_of_isDigit {char : Char} (digit : char.isDigit = true) :
    isTokenChar char = true := by
  simp [isTokenChar, Char.isAlphanum, digit]

/-- No digit goes on where no token does. -/
theorem readDigits_append {digits : List Char} (all : ∀ char ∈ digits, char.isDigit = true)
    (stops : ∀ char more, rest = char :: more → char.isDigit = false) :
    readDigits (digits ++ rest) = (digits, rest) := by
  rw [readDigits, List.takeWhile_append_of_pos all, List.dropWhile_append_of_pos all]
  cases rest with
  | nil => simp
  | cons char more => simp [stops char more rfl]

theorem Closes.not_digit (closes : Closes rest) {char : Char} {more : List Char}
    (same : rest = char :: more) : char.isDigit = false := by
  cases digit : char.isDigit with
  | false => rfl
  | true =>
      have token := closes char more same
      rw [isTokenChar_of_isDigit digit] at token
      cases token

theorem Closes.ne {char : Char} {more : List Char} (closes : Closes (char :: more)) (other : Char)
    (token : isTokenChar other = true) : char ≠ other := by
  rintro rfl
  rw [closes char more rfl] at token
  cases token

theorem readExponent_closes (closes : Closes rest) : readExponent rest = ([], rest) := by
  cases rest with
  | nil => rfl
  | cons char more =>
      rw [readExponent, if_neg]
      rintro (rfl | rfl)
      · exact closes.ne 'e' (by decide) rfl
      · exact closes.ne 'E' (by decide) rfl

namespace NumberParts

variable (parts : NumberParts)

theorem readExponent_text (closes : Closes rest) :
    readExponent (parts.exponentText ++ rest) = (parts.exponentText, rest) := by
  rw [exponentText]
  cases written : parts.exponent with
  | none => exact readExponent_closes closes
  | some part =>
      obtain ⟨letter, sign, digits⟩ := part
      obtain ⟨marks, signed, some_digits, all⟩ := parts.exponent_digits _ written
      have read := readDigits_append all (fun _ _ same => closes.not_digit same)
      have unsigned : readExponentSign (sign ++ (digits ++ rest)) = (sign, digits ++ rest) := by
        rcases signed with rfl | rfl | rfl
        · cases digits with
          | nil => exact absurd rfl some_digits
          | cons digit more =>
              have first := all digit List.mem_cons_self
              rw [List.nil_append, List.cons_append, readExponentSign]
              · intro _ same
                cases same
                cases first
              · intro _ same
                cases same
                cases first
        · rfl
        · rfl
      simp only [List.cons_append, List.append_assoc, readExponent, if_pos marks, unsigned, read,
        if_neg some_digits]

/-- What follows a whole number or its fraction is no digit. -/
theorem exponentText_head (closes : Closes rest) {char : Char} {more : List Char}
    (same : parts.exponentText ++ rest = char :: more) : char.isDigit = false ∧ char ≠ '.' := by
  rw [exponentText] at same
  cases written : parts.exponent with
  | none =>
      rw [written, List.nil_append] at same
      subst same
      exact ⟨closes.not_digit rfl, closes.ne '.' (by decide)⟩
  | some part =>
      obtain ⟨letter, sign, digits⟩ := part
      obtain ⟨marks, _⟩ := parts.exponent_digits _ written
      rw [written] at same
      cases same
      rcases marks with rfl | rfl <;> decide

theorem readFraction_text (closes : Closes rest) :
    readFraction (parts.fractionText ++ (parts.exponentText ++ rest)) =
      (parts.fractionText, parts.exponentText ++ rest) := by
  rw [fractionText]
  split
  · rw [List.nil_append, readFraction]
    rintro more same
    exact (parts.exponentText_head closes same).2 rfl
  · next some_digits =>
      have read := readDigits_append parts.fraction_digits
        (fun _ _ same => (parts.exponentText_head closes same).1)
      rw [List.cons_append, readFraction, read, if_neg some_digits]

theorem readWhole_text (closes : Closes rest) :
    readWhole (parts.whole ++ (parts.fractionText ++ (parts.exponentText ++ rest))) =
      some (parts.whole, parts.fractionText ++ (parts.exponentText ++ rest)) := by
  have stops : ∀ char more, parts.fractionText ++ (parts.exponentText ++ rest) = char :: more →
      char.isDigit = false := by
    intro char more same
    rw [fractionText] at same
    split at same
    · exact (parts.exponentText_head closes same).1
    · cases same
      rfl
  have read := readDigits_append parts.whole_digits.2 stops
  obtain ⟨some_digits, _⟩ := parts.whole_digits
  have leading := parts.no_leading_zero
  generalize parts.whole = whole at read some_digits leading
  unfold readWhole
  split
  · next more same =>
      cases whole with
      | nil => exact absurd rfl some_digits
      | cons digit digits =>
          rw [List.cons_append, List.cons.injEq] at same
          obtain ⟨rfl, rfl⟩ := same
          rw [leading digits rfl]
          rfl
  · rw [read, if_neg some_digits]

theorem readSign_text (tail : List Char) :
    readSign (parts.signText ++ (parts.whole ++ tail)) = (parts.signText, parts.whole ++ tail) := by
  rw [signText]
  split
  · rfl
  · obtain ⟨some_digits, all⟩ := parts.whole_digits
    cases written : parts.whole with
    | nil => exact absurd written some_digits
    | cons digit digits =>
        have first := all digit (written ▸ List.mem_cons_self)
        rw [List.nil_append, List.cons_append, readSign]
        intro _ same
        cases same
        cases first

theorem readNumber_text (float : List Char → FloatText) (closes : Closes rest) :
    readNumber float (parts.text ++ rest) =
      if parts.fractionText = [] ∧ parts.exponentText = [] then
        some (.integer (integerValue parts.signText parts.whole), rest)
      else some (.float (float parts.text), rest) := by
  simp only [text, List.append_assoc, readNumber, readSign_text, readWhole_text _ closes,
    readFraction_text _ closes, readExponent_text _ closes, Option.bind_eq_bind, Option.bind_some]

end NumberParts

theorem digitChar_ne_zero : ∀ value < 10, 0 < value → Nat.digitChar value ≠ '0' := by decide

theorem toDigits_head {value : Nat} (positive : 0 < value) :
    ∃ digit digits, Nat.toDigits 10 value = digit :: digits ∧ digit ≠ '0' := by
  induction value using Nat.strongRecOn with
  | _ value ih =>
      by_cases small : value < 10
      · refine ⟨Nat.digitChar value, [], Nat.toDigits_of_lt_base small,
          digitChar_ne_zero value small positive⟩
      · obtain ⟨digit, digits, head, other⟩ := ih (value / 10) (by omega) (by omega)
        rw [Nat.toDigits_of_base_le (by decide) (by omega), head]
        exact ⟨digit, _, rfl, other⟩

/-- The parts of an integer. -/
def NumberParts.ofNat (negative : Bool) (value : Nat) : NumberParts where
  negative := negative
  whole := Nat.toDigits 10 value
  fraction := []
  exponent := none
  whole_digits := ⟨Nat.toDigits_ne_nil, fun _ member => toDigits_isDigit member⟩
  no_leading_zero := by
    intro rest same
    rcases Nat.eq_zero_or_pos value with rfl | positive
    · cases same
      rfl
    · obtain ⟨digit, digits, head, other⟩ := toDigits_head positive
      rw [head, List.cons.injEq] at same
      exact absurd same.1 other
  fraction_digits := by simp
  exponent_digits := by simp

def NumberParts.ofInt : Int → NumberParts
  | .ofNat value => .ofNat false value
  | .negSucc value => .ofNat true (value + 1)

theorem integerText_parts (value : Int) : integerText value = (NumberParts.ofInt value).text := by
  cases value <;> simp [NumberParts.text, NumberParts.signText, NumberParts.fractionText,
    NumberParts.exponentText, NumberParts.ofInt, NumberParts.ofNat, integerText]

theorem readNumber_integerText (float : List Char → FloatText) (value : Int) (closes : Closes rest) :
    readNumber float (integerText value ++ rest) = some (.integer value, rest) := by
  rw [integerText_parts, NumberParts.readNumber_text _ float closes]
  cases value with
  | ofNat value =>
      simp [NumberParts.signText, NumberParts.fractionText, NumberParts.exponentText,
        NumberParts.ofInt, NumberParts.ofNat, integerValue, Nat.ofDigitChars_ten_toDigits]
  | negSucc value =>
      simp [NumberParts.signText, NumberParts.fractionText, NumberParts.exponentText,
        NumberParts.ofInt, NumberParts.ofNat, integerValue, Nat.ofDigitChars_ten_toDigits]
      omega

end Numbers

end InventoryManagement.Json
