import Mathlib.Data.List.Infix
import Mathlib.Data.List.TakeDrop

/-! `LIKE` patterns: what they match, what the shortest match is, and when a pattern
made of a text between two `%` is a search for that text. -/

set_option autoImplicit false

namespace InventoryManagement.Like

inductive Token (Letter : Type) where
  | anyText
  | anyLetter
  | letter (value : Letter)
deriving DecidableEq

/-- The characters that do not stand for themselves. -/
def special : List Char := ['%', '_', '\\']

/-- A backslash takes the next character literally, and cannot come last. -/
def parse : List Char → Option (List (Token Char))
  | [] => some []
  | '%' :: pattern => (parse pattern).map (.anyText :: ·)
  | '_' :: pattern => (parse pattern).map (.anyLetter :: ·)
  | ['\\'] => none
  | '\\' :: value :: pattern => (parse pattern).map (.letter value :: ·)
  | value :: pattern => (parse pattern).map (.letter value :: ·)

variable {Letter : Type}

def accepts [DecidableEq Letter] : List (Token Letter) → List Letter → Bool
  | [], text => text.isEmpty
  | .anyText :: tokens, text => text.tails.any (accepts tokens)
  | .anyLetter :: _, [] => false
  | .anyLetter :: tokens, _ :: text => accepts tokens text
  | .letter _ :: _, [] => false
  | .letter value :: tokens, first :: text => decide (value = first) && accepts tokens text

/-- A text that matches, as short as one can be. -/
def least (filler : Letter) : List (Token Letter) → List Letter
  | [] => []
  | .anyText :: tokens => least filler tokens
  | .anyLetter :: tokens => filler :: least filler tokens
  | .letter value :: tokens => value :: least filler tokens

section Accepts

variable [DecidableEq Letter] {tokens : List (Token Letter)} {text : List Letter}

theorem accepts_anyText :
    accepts (.anyText :: tokens) text ↔ ∃ rest, rest <:+ text ∧ accepts tokens rest := by
  rw [accepts, List.any_eq_true]
  simp only [List.mem_tails]

theorem accepts_letter {value : Letter} :
    accepts (.letter value :: tokens) text ↔ ∃ rest, text = value :: rest ∧ accepts tokens rest := by
  cases text with
  | nil => simp [accepts]
  | cons first rest =>
      rw [accepts, Bool.and_eq_true, decide_eq_true_iff]
      constructor
      · rintro ⟨rfl, later⟩
        exact ⟨rest, rfl, later⟩
      · rintro ⟨_, same, later⟩
        cases same
        exact ⟨rfl, later⟩

/-- Letters match themselves. -/
theorem accepts_letters {letters : List Letter} :
    accepts (letters.map .letter ++ tokens) text ↔
      ∃ rest, text = letters ++ rest ∧ accepts tokens rest := by
  induction letters generalizing text with
  | nil => simp
  | cons value letters ih =>
      rw [List.map_cons, List.cons_append, accepts_letter]
      simp only [ih]
      constructor
      · rintro ⟨_, rfl, rest, rfl, later⟩
        exact ⟨rest, rfl, later⟩
      · rintro ⟨rest, rfl, later⟩
        exact ⟨letters ++ rest, rfl, rest, rfl, later⟩

theorem accepts_everything : accepts [.anyText] text := by
  rw [accepts_anyText]
  exact ⟨[], List.nil_suffix, rfl⟩

/-- Letters between two `%` are searched for. -/
theorem accepts_infix {letters : List Letter} :
    accepts (.anyText :: (letters.map .letter ++ [.anyText])) text ↔ letters <:+: text := by
  rw [accepts_anyText]
  simp only [accepts_letters, accepts_everything, and_true]
  constructor
  · rintro ⟨_, ⟨before, rfl⟩, after, rfl⟩
    exact ⟨before, after, by simp⟩
  · rintro ⟨before, after, rfl⟩
    exact ⟨letters ++ after, ⟨before, by simp⟩, after, rfl⟩

theorem least_le (filler : Letter) (matched : accepts tokens text) :
    (least filler tokens).length ≤ text.length := by
  induction tokens generalizing text with
  | nil => exact Nat.zero_le _
  | cons token tokens ih =>
      cases token with
      | anyText =>
          obtain ⟨rest, suffix, later⟩ := accepts_anyText.mp matched
          exact (ih later).trans suffix.length_le
      | anyLetter =>
          cases text with
          | nil => cases matched
          | cons first rest => exact Nat.succ_le_succ (ih matched)
      | letter value =>
          obtain ⟨rest, rfl, later⟩ := accepts_letter.mp matched
          exact Nat.succ_le_succ (ih later)

theorem accepts_least (filler : Letter) : accepts tokens (least filler tokens) := by
  induction tokens with
  | nil => rfl
  | cons token tokens ih =>
      cases token with
      | anyText => exact accepts_anyText.mpr ⟨_, List.suffix_rfl, ih⟩
      | anyLetter => exact ih
      | letter value => exact accepts_letter.mpr ⟨_, rfl, ih⟩

end Accepts

/-! Patterns as characters. -/

/-- The number of characters that a text before a closing `%` asks for: a backslash
counts together with the character after it. -/
def required : List Char → Nat
  | [] => 0
  | '%' :: text => required text
  | ['\\'] => 1
  | '\\' :: _ :: text => required text + 1
  | _ :: text => required text + 1

/-- A text whose characters stand for themselves. -/
def Plain (text : List Char) : Prop := ∀ value ∈ text, value ∉ special

/-- How a text before a closing `%` is read: a backslash that comes last takes the `%`. -/
inductive Read : List Char → List (Token Char) → Prop where
  | closing : Read [] [.anyText]
  | anyText {text tokens} : Read text tokens → Read ('%' :: text) (.anyText :: tokens)
  | anyLetter {text tokens} : Read text tokens → Read ('_' :: text) (.anyLetter :: tokens)
  | dangling : Read ['\\'] [.letter '%']
  | escaped {value text tokens} :
      Read text tokens → Read ('\\' :: value :: text) (.letter value :: tokens)
  | plain {value text tokens} :
      value ∉ special → Read text tokens → Read (value :: text) (.letter value :: tokens)

section Parse

variable {text rest : List Char} {tokens : List (Token Char)}

theorem parse_cons {value : Char} (plain : value ∉ special) (rest : List Char) :
    parse (value :: rest) = (parse rest).map (.letter value :: ·) := by
  simp only [special, List.mem_cons, List.not_mem_nil, or_false, not_or] at plain
  apply parse.eq_6
  · exact plain.1
  · exact plain.2.1
  · exact fun escape _ => plain.2.2 escape
  · exact fun _ _ escape _ => plain.2.2 escape

theorem required_cons {value : Char} (plain : value ∉ special) (rest : List Char) :
    required (value :: rest) = required rest + 1 := by
  simp only [special, List.mem_cons, List.not_mem_nil, or_false, not_or] at plain
  apply required.eq_5
  · exact plain.1
  · exact fun escape _ => plain.2.2 escape
  · exact fun _ _ escape _ => plain.2.2 escape

/-- By the ways a pattern can start. -/
theorem pattern_induction {motive : List Char → Prop} (nil : motive [])
    (anyText : ∀ text, motive text → motive ('%' :: text))
    (anyLetter : ∀ text, motive text → motive ('_' :: text))
    (dangling : motive ['\\'])
    (escaped : ∀ value text, motive text → motive ('\\' :: value :: text))
    (plain : ∀ value text, value ∉ special → motive text → motive (value :: text))
    (text : List Char) : motive text := by
  induction text using parse.induct with
  | case1 => exact nil
  | case2 text ih => exact anyText text ih
  | case3 text ih => exact anyLetter text ih
  | case4 => exact dangling
  | case5 value text ih => exact escaped value text ih
  | case6 value text percent underscore last escape ih =>
      apply plain value text _ ih
      simp only [special, List.mem_cons, List.not_mem_nil, or_false, not_or]
      refine ⟨percent, underscore, ?_⟩
      intro backslash
      cases text with
      | nil => exact last backslash rfl
      | cons next text => exact escape next text backslash rfl

theorem exists_read (text : List Char) : ∃ tokens, Read text tokens := by
  induction text using pattern_induction with
  | nil => exact ⟨_, .closing⟩
  | dangling => exact ⟨_, .dangling⟩
  | anyText text ih =>
      obtain ⟨_, read⟩ := ih
      exact ⟨_, .anyText read⟩
  | anyLetter text ih =>
      obtain ⟨_, read⟩ := ih
      exact ⟨_, .anyLetter read⟩
  | escaped value text ih =>
      obtain ⟨_, read⟩ := ih
      exact ⟨_, .escaped read⟩
  | plain value text ordinary ih =>
      obtain ⟨_, read⟩ := ih
      exact ⟨_, .plain ordinary read⟩

theorem Read.parse (read : Read text tokens) : parse (text ++ ['%']) = some tokens := by
  induction read with
  | closing => rfl
  | dangling => rfl
  | anyText _ ih => simp [Like.parse, ih]
  | anyLetter _ ih => simp [Like.parse, ih]
  | escaped _ ih => simp [Like.parse, ih]
  | plain ordinary _ ih =>
      rw [List.cons_append, parse_cons ordinary, ih]
      rfl

/-- The characters of a shortest match are those of the text, and the closing `%`. -/
theorem Read.mem_least {filler : Char} (read : Read text tokens) :
    ∀ value ∈ least filler tokens, value = filler ∨ value = '%' ∨ value ∈ text := by
  induction read with
  | closing => simp [least]
  | dangling => simp [least]
  | anyText _ ih =>
      intro value listed
      exact (ih value listed).imp_right (Or.imp_right (List.mem_cons_of_mem _))
  | anyLetter _ ih =>
      intro value listed
      rcases List.mem_cons.mp listed with here | there
      · exact .inl here
      · exact (ih value there).imp_right (Or.imp_right (List.mem_cons_of_mem _))
  | escaped _ ih =>
      intro value listed
      rcases List.mem_cons.mp listed with rfl | there
      · exact .inr (.inr (by simp))
      · exact (ih value there).imp_right (Or.imp_right (fun old => by simp [old]))
  | plain _ _ ih =>
      intro value listed
      rcases List.mem_cons.mp listed with rfl | there
      · exact .inr (.inr List.mem_cons_self)
      · exact (ih value there).imp_right (Or.imp_right (List.mem_cons_of_mem _))

/-- The shortest match of a search is no longer than the text searched for. -/
theorem Read.least_length_le (filler : Char) (read : Read text tokens) :
    (least filler tokens).length ≤ text.length := by
  induction read with
  | closing => exact Nat.le_refl _
  | dangling => exact Nat.le_refl _
  | anyText _ ih => exact Nat.le_succ_of_le ih
  | anyLetter _ ih => exact Nat.succ_le_succ ih
  | escaped _ ih => exact Nat.succ_le_succ (Nat.le_succ_of_le ih)
  | plain _ _ ih => exact Nat.succ_le_succ ih

/-- It is the text itself only if the text is plain. -/
theorem Read.plain_of_least {filler : Char} (other : filler ≠ '_') (read : Read text tokens)
    (same : least filler tokens = text) : Plain text := by
  induction read with
  | closing => simp [Plain]
  | dangling => exact absurd (List.cons.inj same).1 (by decide)
  | anyText read _ =>
      have shorter := read.least_length_le filler
      have length := congrArg List.length same
      simp only [least, List.length_cons] at length
      omega
  | anyLetter _ _ => exact absurd (List.cons.inj same).1 other
  | escaped read _ =>
      have shorter := read.least_length_le filler
      have length := congrArg List.length same
      simp only [least, List.length_cons] at length
      omega
  | plain ordinary _ ih => exact List.forall_mem_cons.mpr ⟨ordinary, ih (List.cons.inj same).2⟩

theorem Read.least_required {filler : Char} (read : Read text tokens) :
    (least filler tokens).length = required text := by
  induction read with
  | closing => rfl
  | dangling => rfl
  | anyText _ ih => exact ih
  | anyLetter _ ih => exact congrArg Nat.succ ih
  | escaped _ ih => exact congrArg Nat.succ ih
  | plain ordinary _ ih =>
      rw [required_cons ordinary, ← ih]
      rfl

/-- A plain text is read letter by letter. -/
theorem Read.tokens_of_plain (read : Read text tokens) (ordinary : Plain text) :
    tokens = text.map .letter ++ [.anyText] := by
  induction read with
  | closing => rfl
  | dangling => exact absurd (by decide) (ordinary '\\' List.mem_cons_self)
  | anyText _ _ => exact absurd (by decide) (ordinary '%' List.mem_cons_self)
  | anyLetter _ _ => exact absurd (by decide) (ordinary '_' List.mem_cons_self)
  | escaped _ _ => exact absurd (by decide) (ordinary '\\' List.mem_cons_self)
  | plain _ _ ih =>
      rw [ih (fun value listed => ordinary value (List.mem_cons_of_mem _ listed))]
      rfl

/-- A text that is not plain is not found in the shortest match of its search. -/
theorem Read.not_infix_least {filler : Char} (other : filler ≠ '_') (read : Read text tokens)
    (wild : ¬ Plain text) : ¬ text <:+: least filler tokens := by
  intro found
  have same := found.eq_of_length (Nat.le_antisymm found.length_le (read.least_length_le filler))
  exact wild (read.plain_of_least other same.symm)

end Parse

/-! `ILIKE`: pattern and text are compared after folding both. -/

/-- How letters lose their case. The special characters and the null character have none. -/
structure CaseFolding where
  fold : Char → Char
  uncased : ∀ mark ∈ Char.ofNat 0 :: special, ∀ value, fold value = mark ↔ value = mark

def CaseFolding.text (folding : CaseFolding) (text : String) : List Char :=
  text.toList.map folding.fold

def Token.map {Other : Type} (change : Letter → Other) : Token Letter → Token Other
  | .anyText => .anyText
  | .anyLetter => .anyLetter
  | .letter value => .letter (change value)

theorem least_map {Other : Type} (change : Letter → Other) (filler : Letter)
    (tokens : List (Token Letter)) :
    least (change filler) (tokens.map (Token.map change)) = (least filler tokens).map change := by
  induction tokens with
  | nil => rfl
  | cons token tokens ih => cases token <;> simp [least, Token.map, ih]

section Folding

variable (folding : CaseFolding)

theorem CaseFolding.fold_special {value : Char} : folding.fold value ∈ special ↔ value ∈ special := by
  constructor
  · intro listed
    exact (folding.uncased _ (List.mem_cons_of_mem _ listed) value).mp rfl ▸ listed
  · intro listed
    exact ((folding.uncased value (List.mem_cons_of_mem _ listed) value).mpr rfl).symm ▸ listed

theorem CaseFolding.plain_iff {text : List Char} : Plain (text.map folding.fold) ↔ Plain text := by
  simp only [Plain, List.forall_mem_map, folding.fold_special]

/-- Folding a text folds the letters it is read as. -/
theorem Read.map {text : List Char} {tokens : List (Token Char)} (read : Read text tokens) :
    Read (text.map folding.fold) (tokens.map (Token.map folding.fold)) := by
  have kept : ∀ mark ∈ special, folding.fold mark = mark :=
    fun mark listed => (folding.uncased mark (List.mem_cons_of_mem _ listed) mark).mpr rfl
  have percent := kept '%' (by decide)
  have underscore := kept '_' (by decide)
  have backslash := kept '\\' (by decide)
  induction read with
  | closing => exact .closing
  | dangling =>
      rw [List.map_singleton, List.map_singleton, Token.map, percent, backslash]
      exact .dangling
  | anyText _ ih =>
      rw [List.map_cons, percent]
      exact .anyText ih
  | anyLetter _ ih =>
      rw [List.map_cons, underscore]
      exact .anyLetter ih
  | escaped _ ih =>
      rw [List.map_cons, List.map_cons, backslash]
      exact .escaped ih
  | plain ordinary _ ih => exact .plain (folding.fold_special.not.mpr ordinary) ih

end Folding

end InventoryManagement.Like
