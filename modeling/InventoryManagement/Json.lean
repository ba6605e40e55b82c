import Mathlib.Data.List.Basic

/-! JSON values as Python holds them, and the text that `json.dumps` makes of an object
of scalars. The text determines the object. -/

set_option autoImplicit false

namespace InventoryManagement.Json

/-- What numbers and names are written with. -/
def isTokenChar (char : Char) : Bool :=
  char.isAlphanum || char = '+' || char = '-' || char = '.'

/-- A float, by the text `json.dumps` writes: `float.__repr__`, `NaN`, `Infinity` or
`-Infinity`. -/
structure FloatText where
  text : List Char
  token : ∀ char ∈ text, isTokenChar char = true
  not_integer : ∃ char ∈ text, char.isDigit = false ∧ char ≠ '-'
  not_name : text ≠ "null".toList ∧ text ≠ "true".toList ∧ text ≠ "false".toList
deriving DecidableEq

/-- A scalar that Python writes and reads back. An integer has at most 4300 digits, the
most that `int.__repr__` and `int` convert; a string holds Unicode scalar values and no
surrogates. -/
inductive Scalar where
  | null
  | boolean (value : Bool)
  | integer (value : Int)
  | float (value : FloatText)
  | string (value : String)
deriving DecidableEq

/-- What `json.loads` returns; the keys of a dictionary are distinct. -/
inductive Value where
  | scalar (value : Scalar)
  | array (items : List Value)
  | object (members : List (String × Value))

/-! The text of a string, with `ensure_ascii`. -/

def hexDigit (digit : Nat) : Char :=
  if digit < 10 then Char.ofNat (48 + digit) else Char.ofNat (87 + digit)

/-- `'\\u{0:04x}'`. -/
def escapeUnit (unit : Nat) : List Char :=
  ['\\', 'u', hexDigit (unit / 4096 % 16), hexDigit (unit / 256 % 16), hexDigit (unit / 16 % 16),
    hexDigit (unit % 16)]

/-- A character of the first plane is one unit, another one a surrogate pair. -/
def escapeCode (code : Nat) : List Char :=
  if code < 65536 then escapeUnit code
  else escapeUnit (55296 + (code - 65536) / 1024) ++ escapeUnit (56320 + (code - 65536) % 1024)

def escape (char : Char) : List Char :=
  if char = '"' then ['\\', '"']
  else if char = '\\' then ['\\', '\\']
  else if char = '\n' then ['\\', 'n']
  else if char = '\r' then ['\\', 'r']
  else if char = '\t' then ['\\', 't']
  else if char = '\x0c' then ['\\', 'f']
  else if char = '\x08' then ['\\', 'b']
  else if ' ' ≤ char ∧ char ≤ '~' then [char]
  else escapeCode char.toNat

def stringText (value : String) : List Char :=
  '"' :: value.toList.flatMap escape ++ ['"']

/-- `int.__repr__`, which refuses integers of more than 4300 digits. -/
def integerText : Int → List Char
  | .ofNat value => Nat.toDigits 10 value
  | .negSucc value => '-' :: Nat.toDigits 10 (value + 1)

def Scalar.text : Scalar → List Char
  | .null => "null".toList
  | .boolean true => "true".toList
  | .boolean false => "false".toList
  | .integer value => integerText value
  | .float value => value.text
  | .string value => stringText value

def memberText (member : String × Scalar) : List Char :=
  stringText member.1 ++ ':' :: ' ' :: member.2.text

/-- What follows the first member of an object. -/
def restText : List (String × Scalar) → List Char
  | [] => ['}']
  | member :: rest => ',' :: ' ' :: memberText member ++ restText rest

def dumpsText : List (String × Scalar) → List Char
  | [] => ['{', '}']
  | member :: rest => '{' :: memberText member ++ restText rest

/-- `json.dumps` of a dictionary whose items are in this order. -/
def dumps (members : List (String × Scalar)) : String := String.ofList (dumpsText members)

example : dumps [("limit", .integer 10), ("name", .string "é\n")] =
    "\x7b\"limit\": 10, \"name\": \"\\u00e9\\n\"\x7d" := by decide

/-! Reading an escaped character back. -/

def hexValue (char : Char) : Nat :=
  if char.toNat < 58 then char.toNat - 48 else char.toNat - 87

theorem hexValue_hexDigit : ∀ digit < 16, hexValue (hexDigit digit) = digit := by decide

def unitValue (first second third fourth : Char) : Nat :=
  hexValue first * 4096 + hexValue second * 256 + hexValue third * 16 + hexValue fourth

theorem unitValue_escapeUnit {unit : Nat} (small : unit < 65536) :
    unitValue (hexDigit (unit / 4096 % 16)) (hexDigit (unit / 256 % 16)) (hexDigit (unit / 16 % 16))
      (hexDigit (unit % 16)) = unit := by
  rw [unitValue, hexValue_hexDigit _ (Nat.mod_lt _ (by decide)),
    hexValue_hexDigit _ (Nat.mod_lt _ (by decide)), hexValue_hexDigit _ (Nat.mod_lt _ (by decide)),
    hexValue_hexDigit _ (Nat.mod_lt _ (by decide))]
  omega

/-- The code of an escaped character, and what follows it. -/
def readCode : List Char → Option (Nat × List Char)
  | '\\' :: 'u' :: a :: b :: c :: d :: rest =>
      let unit := unitValue a b c d
      if 55296 ≤ unit ∧ unit < 56320 then
        match rest with
        | '\\' :: 'u' :: e :: f :: g :: h :: rest =>
            some (65536 + (unit - 55296) * 1024 + (unitValue e f g h - 56320), rest)
        | _ => none
      else some (unit, rest)
  | _ => none

theorem readCode_escapeCode (char : Char) (rest : List Char) :
    readCode (escapeCode char.toNat ++ rest) = some (char.toNat, rest) := by
  have valid : char.toNat.isValidChar := char.valid
  rw [escapeCode]
  split
  · next small =>
      rw [escapeUnit]
      simp only [List.cons_append, List.nil_append, readCode, unitValue_escapeUnit small]
      rw [if_neg]
      rcases valid with low | high <;> omega
  · next large =>
      have bound : char.toNat < 1114112 := by
        rcases valid with low | high <;> omega
      simp only [escapeUnit, List.cons_append, List.nil_append, readCode]
      rw [unitValue_escapeUnit (by omega), unitValue_escapeUnit (by omega), if_pos (by omega)]
      have same : 65536 + (55296 + (char.toNat - 65536) / 1024 - 55296) * 1024 +
          (56320 + (char.toNat - 65536) % 1024 - 56320) = char.toNat := by omega
      rw [same]

/-- The codes of the short escapes. -/
def shortEscapes : List (Char × Nat) :=
  [('"', 34), ('\\', 92), ('n', 10), ('r', 13), ('t', 9), ('f', 12), ('b', 8)]

/-- The code of a character, and what follows it. -/
def readChar : List Char → Option (Nat × List Char)
  | '\\' :: letter :: rest =>
      if letter = 'u' then readCode ('\\' :: 'u' :: rest)
      else (shortEscapes.lookup letter).map (·, rest)
  | char :: rest => some (char.toNat, rest)
  | [] => none

theorem escapeCode_head (code : Nat) : ∃ rest, escapeCode code = '\\' :: 'u' :: rest := by
  rw [escapeCode]
  split
  · exact ⟨_, rfl⟩
  · exact ⟨_, rfl⟩

theorem readChar_escape (char : Char) (rest : List Char) :
    readChar (escape char ++ rest) = some (char.toNat, rest) := by
  rw [escape]
  split_ifs with quote backslash newline carriage tab feed back plain
  · rw [quote]; rfl
  · rw [backslash]; rfl
  · rw [newline]; rfl
  · rw [carriage]; rfl
  · rw [tab]; rfl
  · rw [feed]; rfl
  · rw [back]; rfl
  · rw [List.cons_append, List.nil_append]
    unfold readChar
    split <;> simp_all
  · have code := readCode_escapeCode char rest
    obtain ⟨others, head⟩ := escapeCode_head char.toNat
    rw [head, List.cons_append, List.cons_append] at code ⊢
    rw [readChar, if_pos rfl]
    exact code

theorem escape_append {left right : Char} {rest other : List Char}
    (same : escape left ++ rest = escape right ++ other) : left = right ∧ rest = other := by
  have read := congrArg readChar same
  rw [readChar_escape, readChar_escape, Option.some.injEq, Prod.mk.injEq, Char.toNat_inj] at read
  exact read

theorem escape_head (char : Char) : ∃ head rest, escape char = head :: rest ∧ head ≠ '"' := by
  obtain ⟨others, code⟩ := escapeCode_head char.toNat
  rw [escape]
  split_ifs with quote
  all_goals first
    | exact ⟨'\\', _, rfl, by decide⟩
    | exact ⟨char, _, rfl, quote⟩
    | exact ⟨'\\', _, code, by decide⟩

private theorem escapes_append {left right : List Char} {rest other : List Char}
    (same : left.flatMap escape ++ '"' :: rest = right.flatMap escape ++ '"' :: other) :
    left = right ∧ rest = other := by
  induction left generalizing right with
  | nil =>
      cases right with
      | nil => exact ⟨rfl, List.tail_eq_of_cons_eq same⟩
      | cons char chars =>
          obtain ⟨head, tail, escaped, other⟩ := escape_head char
          rw [List.flatMap_cons, escaped] at same
          exact absurd (List.head_eq_of_cons_eq same).symm other
  | cons char chars ih =>
      cases right with
      | nil =>
          obtain ⟨head, tail, escaped, other⟩ := escape_head char
          rw [List.flatMap_cons, escaped] at same
          exact absurd (List.head_eq_of_cons_eq same) other
      | cons another others =>
          rw [List.flatMap_cons, List.flatMap_cons, List.append_assoc, List.append_assoc] at same
          obtain ⟨rfl, following⟩ := escape_append same
          obtain ⟨rfl, last⟩ := ih following
          exact ⟨rfl, last⟩

theorem stringText_append {left right : String} {rest other : List Char}
    (same : stringText left ++ rest = stringText right ++ other) : left = right ∧ rest = other := by
  simp only [stringText, List.cons_append, List.append_assoc, List.cons.injEq, true_and,
    List.nil_append] at same
  obtain ⟨chars, same⟩ := escapes_append same
  exact ⟨String.toList_inj.mp chars, same⟩

/-! Reading a scalar back. -/

/-- No token goes on here. -/
def Closes (text : List Char) : Prop := ∀ char rest, text = char :: rest → isTokenChar char = false

private theorem token_append {left right : List Char} {rest other : List Char}
    (token : ∀ char ∈ left, isTokenChar char = true) (tokenToo : ∀ char ∈ right, isTokenChar char = true)
    (closes : Closes rest) (closesToo : Closes other) (same : left ++ rest = right ++ other) :
    left = right ∧ rest = other := by
  induction left generalizing right with
  | nil =>
      cases right with
      | nil => exact ⟨rfl, same⟩
      | cons char chars =>
          have stops := closes char (chars ++ other) same
          rw [tokenToo char List.mem_cons_self] at stops
          cases stops
  | cons char chars ih =>
      cases right with
      | nil =>
          have stops := closesToo char (chars ++ rest) same.symm
          rw [token char List.mem_cons_self] at stops
          cases stops
      | cons another others =>
          rw [List.cons_append, List.cons_append, List.cons.injEq] at same
          obtain ⟨rfl, following⟩ := same
          obtain ⟨rfl, last⟩ := ih (fun c member => token c (List.mem_cons_of_mem _ member))
            (fun c member => tokenToo c (List.mem_cons_of_mem _ member)) following
          exact ⟨rfl, last⟩

theorem toDigits_injective {left right : Nat} (same : Nat.toDigits 10 left = Nat.toDigits 10 right) :
    left = right := by
  rw [← Nat.ofDigitChars_ten_toDigits (n := left), same, Nat.ofDigitChars_ten_toDigits]

theorem toDigits_isDigit {value : Nat} {char : Char} (member : char ∈ Nat.toDigits 10 value) :
    char.isDigit = true := Nat.isDigit_of_mem_toDigits (by decide) (by decide) member

theorem integerText_char {value : Int} {char : Char} (member : char ∈ integerText value) :
    char.isDigit = true ∨ char = '-' := by
  cases value with
  | ofNat value => exact .inl (toDigits_isDigit member)
  | negSucc value =>
      rcases List.mem_cons.mp member with sign | digit
      · exact .inr sign
      · exact .inl (toDigits_isDigit digit)

theorem integerText_injective {left right : Int} (same : integerText left = integerText right) :
    left = right := by
  have unsigned : ∀ {value other : Nat}, Nat.toDigits 10 value ≠ '-' :: Nat.toDigits 10 other := by
    intro value other same
    have digit : '-'.isDigit = true := toDigits_isDigit (same ▸ List.mem_cons_self)
    revert digit
    decide
  cases left with
  | ofNat left =>
      cases right with
      | ofNat right => exact congrArg Int.ofNat (toDigits_injective same)
      | negSucc right => exact absurd same unsigned
  | negSucc left =>
      cases right with
      | ofNat right => exact absurd same.symm unsigned
      | negSucc right =>
          exact congrArg Int.negSucc (Nat.succ.inj (toDigits_injective (List.tail_eq_of_cons_eq same)))

/-- A scalar is a token, except for a string. -/
theorem text_token {value : Scalar} (token : ∀ text, value ≠ .string text) {char : Char}
    (member : char ∈ value.text) : isTokenChar char = true := by
  cases value with
  | null =>
      have all : Scalar.null.text.all isTokenChar = true := by decide
      exact List.all_eq_true.mp all char member
  | boolean value =>
      have all : (Scalar.boolean value).text.all isTokenChar = true := by cases value <;> decide
      exact List.all_eq_true.mp all char member
  | integer value =>
      rcases integerText_char member with digit | rfl
      · simp [isTokenChar, Char.isAlphanum, digit]
      · decide
  | float value => exact value.token char member
  | string value => exact absurd rfl (token value)

theorem text_injective {left right : Scalar} (token : ∀ text, left ≠ .string text)
    (tokenToo : ∀ text, right ≠ .string text) (same : left.text = right.text) : left = right := by
  have apart : ∀ {value : Int} {text : List Char}, integerText value = text →
      (∃ char ∈ text, char.isDigit = false ∧ char ≠ '-') → False := by
    intro value text same found
    obtain ⟨char, member, letter, unsigned⟩ := found
    rcases integerText_char (same ▸ member) with digit | sign
    · rw [letter] at digit
      cases digit
    · exact unsigned sign
  cases left with
  | string text => exact absurd rfl (token text)
  | null =>
      cases right with
      | string text => exact absurd rfl (tokenToo text)
      | null => rfl
      | boolean value => cases value <;> exact absurd same (by decide)
      | integer value => exact absurd same.symm (fun equal => apart equal ⟨'n', by decide⟩)
      | float value => exact absurd same.symm value.not_name.1
  | boolean flag =>
      cases right with
      | string text => exact absurd rfl (tokenToo text)
      | null => cases flag <;> exact absurd same (by decide)
      | boolean value => cases flag <;> cases value <;> first | rfl | exact absurd same (by decide)
      | integer value =>
          cases flag
          · exact absurd same.symm (fun equal => apart equal ⟨'f', by decide⟩)
          · exact absurd same.symm (fun equal => apart equal ⟨'t', by decide⟩)
      | float value =>
          cases flag
          · exact absurd same.symm value.not_name.2.2
          · exact absurd same.symm value.not_name.2.1
  | integer number =>
      cases right with
      | string text => exact absurd rfl (tokenToo text)
      | null => exact absurd same (fun equal => apart equal ⟨'n', by decide⟩)
      | boolean value =>
          cases value
          · exact absurd same (fun equal => apart equal ⟨'f', by decide⟩)
          · exact absurd same (fun equal => apart equal ⟨'t', by decide⟩)
      | integer value => exact congrArg Scalar.integer (integerText_injective same)
      | float value => exact absurd same (fun equal => apart equal value.not_integer)
  | float number =>
      cases right with
      | string text => exact absurd rfl (tokenToo text)
      | null => exact absurd same number.not_name.1
      | boolean value =>
          cases value
          · exact absurd same number.not_name.2.2
          · exact absurd same number.not_name.2.1
      | integer value => exact absurd same.symm (fun equal => apart equal number.not_integer)
      | float value =>
          cases number
          cases value
          cases same
          rfl

theorem text_ne_nil (value : Scalar) : value.text ≠ [] := by
  cases value with
  | null => decide
  | boolean value => cases value <;> decide
  | integer value =>
      cases value with
      | ofNat value => exact Nat.toDigits_ne_nil
      | negSucc value => exact List.cons_ne_nil _ _
  | float value =>
      obtain ⟨char, member, _⟩ := value.not_integer
      exact List.ne_nil_of_mem member
  | string value => exact List.cons_ne_nil _ _

/-- A string starts with what no token has. -/
private theorem string_ne_token {text : String} {value : Scalar} {rest other : List Char}
    (token : ∀ text, value ≠ .string text) : stringText text ++ rest ≠ value.text ++ other := by
  intro same
  cases head : value.text with
  | nil => exact text_ne_nil value head
  | cons char chars =>
      have letter := text_token token (head ▸ List.mem_cons_self)
      rw [head, stringText, List.cons_append, List.cons_append, List.cons_append] at same
      rw [← List.head_eq_of_cons_eq same] at letter
      revert letter
      decide

theorem text_append {left right : Scalar} {rest other : List Char} (closes : Closes rest)
    (closesToo : Closes other) (same : left.text ++ rest = right.text ++ other) :
    left = right ∧ rest = other := by
  by_cases string : ∃ text, left = .string text
  · obtain ⟨text, rfl⟩ := string
    by_cases stringToo : ∃ text, right = .string text
    · obtain ⟨another, rfl⟩ := stringToo
      obtain ⟨rfl, last⟩ := stringText_append same
      exact ⟨rfl, last⟩
    · exact absurd same (string_ne_token (fun text equal => stringToo ⟨text, equal⟩))
  · have token : ∀ text, left ≠ .string text := fun text equal => string ⟨text, equal⟩
    by_cases stringToo : ∃ text, right = .string text
    · obtain ⟨another, rfl⟩ := stringToo
      exact absurd same.symm (string_ne_token token)
    · have tokenToo : ∀ text, right ≠ .string text := fun text equal => stringToo ⟨text, equal⟩
      obtain ⟨equal, last⟩ := token_append (fun _ => text_token token) (fun _ => text_token tokenToo)
        closes closesToo same
      exact ⟨text_injective token tokenToo equal, last⟩

theorem restText_closes (members : List (String × Scalar)) : Closes (restText members) := by
  intro char rest same
  cases members with
  | nil =>
      rw [restText, List.cons.injEq] at same
      rw [← same.1]
      decide
  | cons member others =>
      rw [restText, List.cons_append, List.cons_append, List.cons.injEq] at same
      rw [← same.1]
      decide

theorem memberText_append {left right : String × Scalar} {rest other : List Char}
    (closes : Closes rest) (closesToo : Closes other)
    (same : memberText left ++ rest = memberText right ++ other) : left = right ∧ rest = other := by
  simp only [memberText, List.append_assoc, List.cons_append] at same
  obtain ⟨key, same⟩ := stringText_append same
  simp only [List.cons.injEq, true_and] at same
  obtain ⟨value, last⟩ := text_append closes closesToo same
  exact ⟨Prod.ext key value, last⟩

theorem restText_injective {left right : List (String × Scalar)}
    (same : restText left = restText right) : left = right := by
  induction left generalizing right with
  | nil =>
      cases right with
      | nil => rfl
      | cons member others =>
          rw [restText, restText, List.cons_append, List.cons_append, List.cons.injEq] at same
          exact absurd same.1 (by decide)
  | cons member rest ih =>
      cases right with
      | nil =>
          rw [restText, restText, List.cons_append, List.cons_append, List.cons.injEq] at same
          exact absurd same.1 (by decide)
      | cons another others =>
          simp only [restText, List.cons_append, List.cons.injEq, true_and] at same
          obtain ⟨first, following⟩ :=
            memberText_append (restText_closes rest) (restText_closes others) same
          rw [first, ih following]

/-- The text determines the members and their order. -/
theorem dumps_injective {left right : List (String × Scalar)} (same : dumps left = dumps right) :
    left = right := by
  have texts := String.ofList_injective same
  have quoted : ∀ (member : String × Scalar) (rest : List Char),
      ['{', '}'] ≠ '{' :: memberText member ++ rest := by
    intro member rest equal
    rw [memberText, stringText, List.cons_append, List.cons_append, List.cons_append, List.cons_append,
      List.cons.injEq, List.cons.injEq] at equal
    exact absurd equal.2.1 (by decide)
  cases left with
  | nil =>
      cases right with
      | nil => rfl
      | cons member rest => exact absurd texts (quoted member _)
  | cons member rest =>
      cases right with
      | nil => exact absurd texts.symm (quoted member _)
      | cons another others =>
          simp only [dumpsText, List.cons_append, List.cons.injEq, true_and] at texts
          obtain ⟨first, following⟩ :=
            memberText_append (restText_closes rest) (restText_closes others) texts
          rw [first, restText_injective following]

end InventoryManagement.Json
