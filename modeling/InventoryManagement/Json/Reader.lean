import InventoryManagement.Json.Tokens
import Mathlib.Data.List.Nodup

/-! `json.dumps` and `json.loads` of any value: what is read back is what has been
written. -/

set_option autoImplicit false

namespace InventoryManagement.Json

mutual

/-- `json.dumps(value)`. -/
def Value.text : Value → List Char
  | .scalar value => value.text
  | .array [] => ['[', ']']
  | .array (item :: rest) => '[' :: item.text ++ itemsText rest
  | .object [] => ['{', '}']
  | .object ((key, value) :: rest) =>
      '{' :: stringText key ++ ':' :: ' ' :: value.text ++ membersText rest

/-- What follows the first item of an array. -/
def itemsText : List Value → List Char
  | [] => [']']
  | item :: rest => ',' :: ' ' :: item.text ++ itemsText rest

/-- What follows the first member of an object. -/
def membersText : List (String × Value) → List Char
  | [] => ['}']
  | (key, value) :: rest =>
      ',' :: ' ' :: stringText key ++ ':' :: ' ' :: value.text ++ membersText rest

end

def Value.dumps (value : Value) : String := String.ofList value.text

/-- `WHITESPACE`. -/
def isSpace (char : Char) : Bool := char = ' ' || char = '\t' || char = '\n' || char = '\r'

def skipSpace (text : List Char) : List Char := text.dropWhile isSpace

def names (float : List Char → FloatText) : List (List Char × Scalar) :=
  let constant (text : List Char) := (text, Scalar.float (float text))
  [(['n', 'u', 'l', 'l'], .null), (['t', 'r', 'u', 'e'], .boolean true),
    (['f', 'a', 'l', 's', 'e'], .boolean false), constant ['N', 'a', 'N'],
    constant ['I', 'n', 'f', 'i', 'n', 'i', 't', 'y'],
    constant ['-', 'I', 'n', 'f', 'i', 'n', 'i', 't', 'y']]

def readName (float : List Char → FloatText) (text : List Char) : Option (Scalar × List Char) :=
  (names float).findSome? (fun name =>
    if name.1 <+: text then some (name.2, text.drop name.1.length) else none)

/-- The items of an array, from the first one on. -/
def readItems (read : List Char → Option (Value × List Char)) :
    Nat → List Char → Option (List Value × List Char)
  | 0, _ => none
  | fuel + 1, text => do
      let (item, rest) ← read text
      match skipSpace rest with
      | ']' :: rest => some ([item], rest)
      | ',' :: rest => do
          let (items, rest) ← readItems read fuel (skipSpace rest)
          some (item :: items, rest)
      | _ => none

/-- The pairs of an object, from the first key on. -/
def readMembers (read : List Char → Option (Value × List Char)) :
    Nat → List Char → Option (List (String × Value) × List Char)
  | 0, _ => none
  | fuel + 1, text =>
      match text with
      | '"' :: text => do
          let (key, rest) ← readString (text.length + 1) text
          match skipSpace rest with
          | ':' :: rest => do
              let (value, rest) ← read (skipSpace rest)
              match skipSpace rest with
              | '}' :: rest => some ([(String.ofList key, value)], rest)
              | ',' :: rest => do
                  let (members, rest) ← readMembers read fuel (skipSpace rest)
                  some ((String.ofList key, value) :: members, rest)
              | _ => none
          | _ => none
      | _ => none

/-- `members[key] = value` on a dictionary, in the order its keys were set. -/
def setItem {Item : Type} (members : List (String × Item)) (key : String) (value : Item) :
    List (String × Item) :=
  if members.any (fun member => member.1 = key) then
    members.map (fun member => if member.1 = key then (key, value) else member)
  else members ++ [(key, value)]

/-- `dict(pairs)`. -/
def dictOf {Item : Type} (pairs : List (String × Item)) : List (String × Item) :=
  pairs.foldl (fun members pair => setItem members pair.1 pair.2) []

def readValue (float : List Char → FloatText) : Nat → List Char → Option (Value × List Char)
  | 0, _ => none
  | fuel + 1, text =>
      match text with
      | '"' :: rest => do
          let (chars, rest) ← readString (rest.length + 1) rest
          some (.scalar (.string (String.ofList chars)), rest)
      | '{' :: rest =>
          match skipSpace rest with
          | '}' :: rest => some (.object [], rest)
          | text => do
              let (members, rest) ← readMembers (readValue float fuel) text.length text
              some (.object (dictOf members), rest)
      | '[' :: rest =>
          match skipSpace rest with
          | ']' :: rest => some (.array [], rest)
          | text => do
              let (items, rest) ← readItems (readValue float fuel) text.length text
              some (.array items, rest)
      | text => do
          let (value, rest) ← (readName float text).or (readNumber float text)
          some (.scalar value, rest)

/-- `json.loads`. -/
def loads (float : List Char → FloatText) (text : String) : Option Value :=
  match readValue float (text.length + 1) (skipSpace text.toList) with
  | some (value, rest) => if skipSpace rest = [] then some value else none
  | none => none

/-- The text of a float, or a name for one that is no number. -/
def FloatText.Written (value : FloatText) : Prop :=
  (∃ parts : NumberParts, value.text = parts.text ∧
    ¬ (parts.fractionText = [] ∧ parts.exponentText = [])) ∨
  value.text = ['N', 'a', 'N'] ∨ value.text = ['I', 'n', 'f', 'i', 'n', 'i', 't', 'y'] ∨
    value.text = ['-', 'I', 'n', 'f', 'i', 'n', 'i', 't', 'y']

/-- A value that Python can hold: the keys of its dictionaries are distinct, and a float is
what `float` makes of its text. -/
inductive Value.Proper (float : List Char → FloatText) : Value → Prop where
  | scalar {value : Scalar}
      (floats : ∀ number, value = .float number → number.Written ∧ float number.text = number) :
      Proper float (.scalar value)
  | array {items : List Value} (proper : ∀ item ∈ items, item.Proper float) :
      Proper float (.array items)
  | object {members : List (String × Value)} (unique : (members.map Prod.fst).Nodup)
      (proper : ∀ member ∈ members, member.2.Proper float) : Proper float (.object members)

section Values

variable {float : List Char → FloatText} {rest tail : List Char}

theorem dictOf_nodup {Item : Type} {pairs : List (String × Item)}
    (unique : (pairs.map Prod.fst).Nodup) : dictOf pairs = pairs := by
  have grown : ∀ (pairs members : List (String × Item)),
      ((members ++ pairs).map Prod.fst).Nodup →
      pairs.foldl (fun members pair => setItem members pair.1 pair.2) members = members ++ pairs := by
    intro pairs
    induction pairs with
    | nil => exact fun members _ => (List.append_nil members).symm
    | cons pair pairs ih =>
        intro members unique
        have fresh : members.any (fun member => member.1 = pair.1) = false := by
          rw [List.any_eq_false]
          intro member held same
          rw [List.map_append, List.map_cons, List.nodup_append] at unique
          exact unique.2.2 member.1 (List.mem_map_of_mem held) pair.1 List.mem_cons_self
            (of_decide_eq_true same)
        rw [List.foldl_cons, setItem, fresh, if_neg Bool.false_ne_true, ih, List.append_assoc]
        · rfl
        · rwa [List.append_assoc]
  exact grown pairs [] unique

theorem skipSpace_cons {char : Char} (visible : isSpace char = false) :
    skipSpace (char :: rest) = char :: rest := by
  rw [skipSpace, List.dropWhile_cons_of_neg (by simp [visible])]

theorem skipSpace_space : skipSpace (' ' :: rest) = skipSpace rest := by
  rw [skipSpace, List.dropWhile_cons_of_pos (by decide)]
  rfl

/-- Where a value's text starts nothing is skipped, and no array ends. -/
theorem text_head (value : Value) : ∃ char rest, value.text = char :: rest ∧
    isSpace char = false ∧ char ≠ ']' := by
  have token : ∀ char, isTokenChar char = true → isSpace char = false ∧ char ≠ ']' := by
    intro char token
    refine ⟨?_, ?_⟩
    · rw [isSpace]
      cases space : (char = ' ' || char = '\t' || char = '\n' || char = '\r' : Bool) with
      | false => rfl
      | true =>
          simp only [Bool.or_eq_true, decide_eq_true_eq] at space
          rcases space with ((rfl | rfl) | rfl) | rfl <;> cases token
    · rintro rfl
      cases token
  cases value with
  | scalar value =>
      rw [Value.text]
      by_cases string : ∃ text, value = .string text
      · obtain ⟨text, rfl⟩ := string
        exact ⟨'"', _, rfl, rfl, by decide⟩
      · cases head : value.text with
        | nil => exact absurd head (text_ne_nil value)
        | cons char chars =>
            obtain ⟨visible, inside⟩ := token char (text_token
              (fun text same => string ⟨text, same⟩) (head ▸ List.mem_cons_self))
            exact ⟨char, chars, rfl, visible, inside⟩
  | array items => cases items <;> exact ⟨'[', _, rfl, rfl, by decide⟩
  | object members => cases members <;> exact ⟨'{', _, rfl, rfl, by decide⟩

theorem skipSpace_text (value : Value) : skipSpace (value.text ++ rest) = value.text ++ rest := by
  obtain ⟨char, more, head, visible, _⟩ := text_head value
  rw [head, List.cons_append, skipSpace_cons visible]

theorem itemsText_closes (items : List Value) : Closes (itemsText items ++ tail) := by
  intro char more same
  cases items <;> (cases same; decide)

theorem membersText_closes (members : List (String × Value)) :
    Closes (membersText members ++ tail) := by
  intro char more same
  cases members <;> (cases same; decide)

theorem readItems_text {read : List Char → Option (Value × List Char)} {fuel : Nat} {item : Value}
    {items : List Value} (enough : items.length < fuel)
    (reads : ∀ value ∈ item :: items, ∀ tail, Closes tail →
      read (value.text ++ tail) = some (value, tail)) :
    readItems read fuel (item.text ++ (itemsText items ++ tail)) = some (item :: items, tail) := by
  induction items generalizing item fuel with
  | nil =>
      cases fuel with
      | zero => cases enough
      | succ fuel =>
          rw [readItems, reads item List.mem_cons_self _ (itemsText_closes [])]
          rfl
  | cons next items ih =>
      cases fuel with
      | zero => cases enough
      | succ fuel =>
          rw [readItems, reads item List.mem_cons_self _ (itemsText_closes _)]
          have rest := ih (Nat.lt_of_succ_lt_succ enough)
            (fun value member => reads value (List.mem_cons_of_mem _ member))
          simp only [itemsText, List.cons_append, List.append_assoc, Option.bind_eq_bind,
            Option.bind_some, skipSpace_cons (show isSpace ',' = false by rfl), skipSpace_space,
            skipSpace_text, rest]

theorem skipSpace_stringText (key : String) :
    skipSpace (stringText key ++ rest) = stringText key ++ rest := by
  rw [stringText, List.cons_append, List.cons_append, skipSpace_cons rfl]

/-- The closing quote of a string is reached. -/
theorem readString_text (key : String) (rest : List Char) : ∃ text, stringText key ++ rest = '"' :: text ∧
    readString (text.length + 1) text = some (key.toList, rest) := by
  refine ⟨key.toList.flatMap escape ++ '"' :: rest, ?_, ?_⟩
  · rw [stringText, List.cons_append, List.cons_append, List.append_assoc]
    rfl
  · apply readString_stringText
    have short : key.toList.length ≤ (key.toList.flatMap escape).length := by
      rw [List.length_flatMap]
      induction key.toList with
      | nil => exact Nat.le_refl 0
      | cons char chars ih =>
          obtain ⟨head, more, escaped, _⟩ := escape_head char
          rw [List.map_cons, List.sum_cons, List.length_cons, escaped, List.length_cons]
          omega
    rw [List.length_append, List.length_cons]
    omega

theorem readMembers_text {read : List Char → Option (Value × List Char)} {fuel : Nat}
    {member : String × Value} {members : List (String × Value)} (enough : members.length < fuel)
    (reads : ∀ other ∈ member :: members, ∀ tail, Closes tail →
      read (other.2.text ++ tail) = some (other.2, tail)) :
    readMembers read fuel (stringText member.1 ++
      (':' :: ' ' :: (member.2.text ++ (membersText members ++ tail)))) =
        some (member :: members, tail) := by
  induction members generalizing member fuel with
  | nil =>
      cases fuel with
      | zero => cases enough
      | succ fuel =>
          obtain ⟨text, same, key⟩ := readString_text member.1
            (':' :: ' ' :: (member.2.text ++ (membersText [] ++ tail)))
          rw [same, readMembers, key]
          simp only [Option.bind_eq_bind, Option.bind_some,
            skipSpace_cons (show isSpace ':' = false by rfl), skipSpace_space, skipSpace_text,
            reads member List.mem_cons_self _ (membersText_closes []), String.ofList_toList]
          rfl
  | cons next members ih =>
      cases fuel with
      | zero => cases enough
      | succ fuel =>
          obtain ⟨text, same, key⟩ := readString_text member.1
            (':' :: ' ' :: (member.2.text ++ (membersText (next :: members) ++ tail)))
          have rest := ih (Nat.lt_of_succ_lt_succ enough)
            (fun other listed => reads other (List.mem_cons_of_mem _ listed))
          rw [same, readMembers, key]
          simp only [Option.bind_eq_bind, Option.bind_some,
            skipSpace_cons (show isSpace ':' = false by rfl), skipSpace_space, skipSpace_text,
            reads member List.mem_cons_self _ (membersText_closes _), String.ofList_toList]
          simp only [membersText, List.cons_append, List.append_assoc,
            skipSpace_cons (show isSpace ',' = false by rfl), skipSpace_space, skipSpace_stringText,
            rest, Option.bind_some]

/-- A number is no name. -/
theorem readName_number (parts : NumberParts) : readName float (parts.text ++ rest) = none := by
  obtain ⟨some_digits, all⟩ := parts.whole_digits
  cases whole : parts.whole with
  | nil => exact absurd whole some_digits
  | cons digit digits =>
      have first := all digit (whole ▸ List.mem_cons_self)
      rw [NumberParts.text, NumberParts.signText, whole]
      have ne : ∀ letter : Char, letter.isDigit = false → letter ≠ digit := by
        rintro letter plain rfl
        rw [plain] at first
        cases first
      split <;> simp [readName, names, ne]

theorem readName_names (float : List Char → FloatText) {name : List Char × Scalar}
    (listed : name ∈ names float) : readName float (name.1 ++ rest) = some (name.2, rest) := by
  simp only [names, List.mem_cons, List.not_mem_nil, or_false] at listed
  rcases listed with rfl | rfl | rfl | rfl | rfl | rfl <;>
    simp [readName, names, List.cons_prefix_cons]

theorem readToken_name {text : List Char} {value : Scalar} (listed : (text, value) ∈ names float) :
    (readName float (text ++ rest)).or (readNumber float (text ++ rest)) = some (value, rest) := by
  rw [readName_names float listed, Option.some_or]

theorem readToken_number {parts : NumberParts} (closes : Closes rest) :
    (readName float (parts.text ++ rest)).or (readNumber float (parts.text ++ rest)) =
      if parts.fractionText = [] ∧ parts.exponentText = [] then
        some (.integer (integerValue parts.signText parts.whole), rest)
      else some (.float (float parts.text), rest) := by
  rw [readName_number, Option.none_or, NumberParts.readNumber_text _ float closes]

theorem readToken_text {value : Scalar} (token : ∀ text, value ≠ .string text)
    (floats : ∀ number, value = .float number → number.Written ∧ float number.text = number)
    (closes : Closes rest) :
    (readName float (value.text ++ rest)).or (readNumber float (value.text ++ rest)) =
      some (value, rest) := by
  cases value with
  | null =>
      have listed : (['n', 'u', 'l', 'l'], Scalar.null) ∈ names float := by simp [names]
      exact readToken_name listed
  | boolean value =>
      have listed : ((Scalar.boolean value).text, Scalar.boolean value) ∈ names float := by
        cases value <;> simp [names, Scalar.text]
      exact readToken_name listed
  | integer value =>
      have name : readName float (integerText value ++ rest) = none := by
        rw [integerText_parts]
        exact readName_number _
      rw [Scalar.text, name, Option.none_or, readNumber_integerText float value closes]
  | float value =>
      obtain ⟨wrote, same⟩ := floats value rfl
      have constant : ∀ text, value.text = text → (text, Scalar.float (float text)) ∈ names float →
          (readName float (value.text ++ rest)).or (readNumber float (value.text ++ rest)) =
            some (.float value, rest) := by
        rintro text rfl listed
        rw [readToken_name listed, same]
      rcases wrote with ⟨parts, text, real⟩ | text | text | text
      · rw [Scalar.text, text, readToken_number closes, if_neg real, ← text, same]
      · exact constant _ text (by simp [names])
      · exact constant _ text (by simp [names])
      · exact constant _ text (by simp [names])
  | string text => exact absurd rfl (token text)

theorem itemsText_length (items : List Value) : items.length < (itemsText items).length ∧
    ∀ item ∈ items, item.text.length < (itemsText items).length := by
  induction items with
  | nil => exact ⟨Nat.zero_lt_one, fun _ member => by cases member⟩
  | cons first items ih =>
      simp only [itemsText, List.cons_append, List.length_cons, List.length_append]
      refine ⟨by omega, ?_⟩
      intro item member
      rcases List.mem_cons.mp member with rfl | later
      · omega
      · have := ih.2 item later
        omega

theorem membersText_length (members : List (String × Value)) :
    members.length < (membersText members).length ∧
      ∀ member ∈ members, member.2.text.length < (membersText members).length := by
  induction members with
  | nil => exact ⟨Nat.zero_lt_one, fun _ member => by cases member⟩
  | cons first members ih =>
      simp only [membersText, List.cons_append, List.length_cons, List.length_append]
      refine ⟨by omega, ?_⟩
      intro member listed
      rcases List.mem_cons.mp listed with rfl | later
      · omega
      · have := ih.2 member later
        omega

theorem readValue_scalar {value : Scalar} {fuel : Nat}
    (floats : ∀ number, value = .float number → number.Written ∧ float number.text = number)
    (closes : Closes rest) :
    readValue float (fuel + 1) (value.text ++ rest) = some (.scalar value, rest) := by
  by_cases string : ∃ text, value = .string text
  · obtain ⟨text, rfl⟩ := string
    obtain ⟨chars, same, read⟩ := readString_text text rest
    rw [Scalar.text, same, readValue, read]
    simp only [Option.bind_eq_bind, Option.bind_some, String.ofList_toList]
  · have token : ∀ text, value ≠ .string text := fun text same => string ⟨text, same⟩
    have read := readToken_text token floats closes
    cases text : value.text with
    | nil => exact absurd text (text_ne_nil value)
    | cons char more =>
        have first := text_token token (text ▸ List.mem_cons_self)
        have other : ∀ mark, isTokenChar mark = false → char ≠ mark := by
          rintro mark plain rfl
          rw [plain] at first
          cases first
        rw [text, List.cons_append] at read
        rw [List.cons_append, readValue, read]
        · rfl
        · exact fun _ same => other '"' (by decide) (List.head_eq_of_cons_eq same)
        · exact fun _ same => other '{' (by decide) (List.head_eq_of_cons_eq same)
        · exact fun _ same => other '[' (by decide) (List.head_eq_of_cons_eq same)

theorem readValue_array {item : Value} {items : List Value} {fuel : Nat}
    (reads : ∀ value ∈ item :: items, ∀ tail, Closes tail →
      readValue float fuel (value.text ++ tail) = some (value, tail)) :
    readValue float (fuel + 1) ((Value.array (item :: items)).text ++ rest) =
      some (.array (item :: items), rest) := by
  have longer := (itemsText_length items).1
  have read : readItems (readValue float fuel) (item.text ++ (itemsText items ++ rest)).length
      (item.text ++ (itemsText items ++ rest)) = some (item :: items, rest) := by
    refine readItems_text ?_ reads
    simp only [List.length_append]
    omega
  obtain ⟨char, more, head, _, inside⟩ := text_head item
  simp only [Value.text, List.cons_append, List.append_assoc, readValue, skipSpace_text]
  split
  · next other same =>
      rw [head, List.cons_append, List.cons.injEq] at same
      exact absurd same.1 inside
  · rw [read]
    rfl

theorem readValue_object {member : String × Value} {members : List (String × Value)} {fuel : Nat}
    (unique : ((member :: members).map Prod.fst).Nodup)
    (reads : ∀ other ∈ member :: members, ∀ tail, Closes tail →
      readValue float fuel (other.2.text ++ tail) = some (other.2, tail)) :
    readValue float (fuel + 1) ((Value.object (member :: members)).text ++ rest) =
      some (.object (member :: members), rest) := by
  have longer := (membersText_length members).1
  have read : readMembers (readValue float fuel) (stringText member.1 ++
      (':' :: ' ' :: (member.2.text ++ (membersText members ++ rest)))).length
      (stringText member.1 ++ (':' :: ' ' :: (member.2.text ++ (membersText members ++ rest)))) =
        some (member :: members, rest) := by
    refine readMembers_text ?_ reads
    simp only [List.length_append, List.length_cons]
    omega
  simp only [Value.text, List.cons_append, List.append_assoc, readValue, skipSpace_stringText]
  split
  · next other same => cases same
  · rw [read]
    simp only [Option.bind_eq_bind, Option.bind_some, dictOf_nodup unique]

/-- What `json.dumps` has written is read back, whatever closes it. -/
theorem readValue_text {value : Value} (proper : value.Proper float) :
    ∀ {fuel : Nat} {rest : List Char}, value.text.length < fuel → Closes rest →
      readValue float fuel (value.text ++ rest) = some (value, rest) := by
  induction proper with
  | @scalar value floats =>
      intro fuel rest enough closes
      obtain ⟨fuel, rfl⟩ := Nat.exists_eq_succ_of_ne_zero (Nat.ne_zero_of_lt enough)
      exact readValue_scalar floats closes
  | @array items proper ih =>
      intro fuel rest enough closes
      obtain ⟨fuel, rfl⟩ := Nat.exists_eq_succ_of_ne_zero (Nat.ne_zero_of_lt enough)
      cases items with
      | nil => rfl
      | cons item items =>
          apply readValue_array
          simp only [Value.text, List.cons_append, List.length_cons, List.length_append] at enough
          intro value member tail closed
          refine ih value member ?_ closed
          rcases List.mem_cons.mp member with rfl | later
          · omega
          · have := (itemsText_length items).2 value later
            omega
  | @object members unique proper ih =>
      intro fuel rest enough closes
      obtain ⟨fuel, rfl⟩ := Nat.exists_eq_succ_of_ne_zero (Nat.ne_zero_of_lt enough)
      cases members with
      | nil => rfl
      | cons member members =>
          apply readValue_object unique
          simp only [Value.text, List.cons_append, List.length_cons, List.length_append] at enough
          intro other listed tail closed
          refine ih other listed ?_ closed
          rcases List.mem_cons.mp listed with rfl | later
          · omega
          · have := (membersText_length members).2 other later
            omega

/-- `json.loads(json.dumps(value)) = value`. -/
theorem loads_dumps {value : Value} (proper : value.Proper float) :
    loads float value.dumps = some value := by
  have read : readValue float (value.text.length + 1) (value.text ++ []) = some (value, []) :=
    readValue_text proper (Nat.lt_succ_self _) (fun _ _ same => by cases same)
  have start : skipSpace (value.text ++ []) = value.text ++ [] := skipSpace_text value
  rw [List.append_nil] at read start
  rw [loads, Value.dumps, String.toList_ofList, start, String.length_ofList, read]
  rfl

end Values

end InventoryManagement.Json
