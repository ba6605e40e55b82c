import Mathlib.Data.List.Basic

/-! Comma-separated values in the excel dialect: a writer that quotes a field only where
it has to, and a reader that takes one character after the other. What is written is
read back. -/

set_option autoImplicit false

namespace InventoryManagement.Csv

abbrev Field := List Char

abbrev Row := List Field

/-! ## Writing -/

/-- A delimiter, a quote, or a part of a line terminator. -/
def isSpecial (char : Char) : Bool :=
  char = ',' || char = '"' || char = '\r' || char = '\n'

/-- Quotes are doubled. -/
def doubled : Field → List Char
  | [] => []
  | char :: rest => if char = '"' then '"' :: '"' :: doubled rest else char :: doubled rest

def quoted (field : Field) : List Char := '"' :: (doubled field ++ ['"'])

/-- `QUOTE_MINIMAL`. -/
def fieldText (field : Field) : List Char :=
  if field.any isSpecial then quoted field else field

def joined : Row → List Char
  | [] => []
  | [field] => fieldText field
  | field :: next :: rest => fieldText field ++ ',' :: joined (next :: rest)

/-- The fields of a line. A row of one empty field is quoted: an empty line has no field. -/
def rowText (row : Row) : List Char :=
  if row = [[]] then quoted [] else joined row

/-- `writer.writerow`, called on one row after the other. -/
def write (rows : List Row) : List Char :=
  rows.flatMap (fun row => rowText row ++ ['\r', '\n'])

/-! ## Reading -/

inductive State where
  | startRecord
  | startField
  | inField
  | inQuotedField
  | quoteInQuotedField
  | eatCrnl
deriving DecidableEq

structure Reader where
  state : State
  field : Field
  fields : Row

/-- A reader before a record. -/
def Reader.reset : Reader := ⟨.startRecord, [], []⟩

def Reader.saveField (reader : Reader) (state : State) : Reader :=
  ⟨state, [], reader.fields ++ [reader.field]⟩

def Reader.addChar (reader : Reader) (state : State) (char : Char) : Reader :=
  ⟨state, reader.field ++ [char], reader.fields⟩

def Reader.enter (reader : Reader) (state : State) : Reader :=
  ⟨state, reader.field, reader.fields⟩

def isNewline (char : Char) : Bool := char = '\n' || char = '\r'

/-- The first character of a field. -/
def Reader.openField (reader : Reader) (char : Char) : Reader :=
  if isNewline char then reader.saveField .eatCrnl
  else if char = '"' then reader.enter .inQuotedField
  else if char = ',' then reader.saveField .startField
  else reader.addChar .inField char

/-- `parse_process_char`; text after a line terminator that did not end its line is an error. -/
def Reader.processChar (reader : Reader) (char : Char) : Option Reader :=
  match reader.state with
  | .startRecord =>
      if isNewline char then some (reader.enter .eatCrnl) else some (reader.openField char)
  | .startField => some (reader.openField char)
  | .inField =>
      if isNewline char then some (reader.saveField .eatCrnl)
      else if char = ',' then some (reader.saveField .startField)
      else some (reader.addChar .inField char)
  | .inQuotedField =>
      if char = '"' then some (reader.enter .quoteInQuotedField)
      else some (reader.addChar .inQuotedField char)
  | .quoteInQuotedField =>
      if char = '"' then some (reader.addChar .inQuotedField char)
      else if char = ',' then some (reader.saveField .startField)
      else if isNewline char then some (reader.saveField .eatCrnl)
      else some (reader.addChar .inField char)
  | .eatCrnl => if isNewline char then some reader else none

/-- `parse_process_char` at the end of a line; a quoted field goes on in the next line. -/
def Reader.processEol (reader : Reader) : Reader :=
  match reader.state with
  | .startRecord | .inQuotedField => reader
  | .startField | .inField | .quoteInQuotedField => reader.saveField .startRecord
  | .eatCrnl => reader.enter .startRecord

/-- Whether a character ends its line, in a file opened without newline translation. -/
def endsLine (char : Char) (rest : List Char) : Bool :=
  char = '\n' || (char = '\r' && rest.head? ≠ some '\n') || rest.isEmpty

/-- The records of a file, from a reader inside a record on. A quoted field that the file
does not close is a field nevertheless. -/
def records : Reader → List Char → Option (List Row)
  | reader, [] =>
      if reader.field ≠ [] ∨ reader.state = .inQuotedField then
        some [reader.fields ++ [reader.field]]
      else some []
  | reader, char :: rest =>
      match reader.processChar char with
      | none => none
      | some reader =>
          if endsLine char rest then
            if reader.processEol.state = .startRecord then
              (records .reset rest).map (reader.processEol.fields :: ·)
            else records reader.processEol rest
          else records reader rest

def read (text : List Char) : Option (List Row) := records .reset text

/-! ## What is written is read back -/

variable {reader : Reader} {char : Char} {field : Field} {rest : List Char}

theorem records_cons_of_not_endsLine {next : Reader} (processed : reader.processChar char = some next)
    (inside : endsLine char rest = false) :
    records reader (char :: rest) = records next rest := by
  rw [records, processed]
  simp only [inside, Bool.false_eq_true, if_false]

/-- Inside quotes the end of a line is text like any other. -/
theorem records_cons_of_inQuotedField {next : Reader}
    (processed : reader.processChar char = some next) (state : next.state = .inQuotedField) :
    records reader (char :: rest) = records next rest := by
  have eol : next.processEol = next := by
    rw [Reader.processEol, state]
  rw [records, processed]
  simp only [eol, state, reduceCtorEq, if_false, ite_self]

theorem endsLine_eq_false (plain : isNewline char = false) (more : rest ≠ []) :
    endsLine char rest = false := by
  simp only [isNewline, Bool.or_eq_false_iff, decide_eq_false_iff_not] at plain
  simp [endsLine, plain.1, plain.2, more]

/-- The reader takes a quoted field up to its closing quote. -/
theorem records_doubled (rest : List Char) (fields : Row) (read field : Field) (more : rest ≠ []) :
    records ⟨.inQuotedField, read, fields⟩ (doubled field ++ '"' :: rest) =
      records ⟨.quoteInQuotedField, read ++ field, fields⟩ rest := by
  induction field generalizing read with
  | nil =>
      rw [List.append_nil]
      exact records_cons_of_not_endsLine rfl (endsLine_eq_false rfl more)
  | cons char field ih =>
      have taken : records ⟨.inQuotedField, read ++ [char], fields⟩ (doubled field ++ '"' :: rest) =
          records ⟨.quoteInQuotedField, read ++ char :: field, fields⟩ rest := by
        rw [ih, List.append_assoc, List.singleton_append]
      rw [← taken, doubled]
      split
      next quote =>
        subst quote
        rw [List.cons_append, List.cons_append,
          records_cons_of_not_endsLine rfl (endsLine_eq_false rfl (List.cons_ne_nil _ _))]
        exact records_cons_of_inQuotedField rfl rfl
      next other =>
        rw [List.cons_append]
        exact records_cons_of_inQuotedField (by simp [Reader.processChar, other, Reader.addChar]) rfl

/-- The reader takes the text of an unquoted field as it is. -/
theorem records_plain (fields : Row) (read : Field) (field : Field)
    (plain : ∀ char ∈ field, isSpecial char = false) (more : rest ≠ []) :
    records ⟨.inField, read, fields⟩ (field ++ rest) =
      records ⟨.inField, read ++ field, fields⟩ rest := by
  induction field generalizing read with
  | nil => rw [List.append_nil, List.nil_append]
  | cons char field ih =>
      have ordinary := plain char List.mem_cons_self
      simp only [isSpecial, Bool.or_eq_false_iff, decide_eq_false_iff_not] at ordinary
      obtain ⟨⟨⟨comma, quote⟩, carriage⟩, line⟩ := ordinary
      have newline : isNewline char = false := by simp [isNewline, carriage, line]
      have next := ih (read ++ [char]) (fun char member => plain char (List.mem_cons_of_mem _ member))
      rw [List.append_assoc, List.singleton_append] at next
      rw [← next, List.cons_append]
      apply records_cons_of_not_endsLine
      · simp [Reader.processChar, newline, comma, Reader.addChar]
      · exact endsLine_eq_false newline (List.append_ne_nil_of_right_ne_nil _ more)

/-- The states in which a field is complete when a delimiter or a line terminator follows. -/
def State.endsField : State → Bool
  | .startField | .inField | .quoteInQuotedField => true
  | _ => false

theorem records_fieldText (rest : List Char) (fields : Row) (field : Field) (more : rest ≠ []) :
    ∃ state, state.endsField = true ∧
      records ⟨.startField, [], fields⟩ (fieldText field ++ rest) =
        records ⟨state, field, fields⟩ rest := by
  unfold fieldText
  split
  next _ =>
    refine ⟨.quoteInQuotedField, rfl, ?_⟩
    have content := records_doubled rest fields [] field more
    rw [List.nil_append] at content
    rw [← content, quoted, List.cons_append, List.append_assoc, List.singleton_append]
    exact records_cons_of_inQuotedField rfl rfl
  next plain =>
    simp only [List.any_eq_true, not_exists, not_and, Bool.not_eq_true] at plain
    cases field with
    | nil => exact ⟨.startField, rfl, rfl⟩
    | cons char field =>
        refine ⟨.inField, rfl, ?_⟩
        have first := plain char List.mem_cons_self
        simp only [isSpecial, Bool.or_eq_false_iff, decide_eq_false_iff_not] at first
        obtain ⟨⟨⟨comma, quote⟩, carriage⟩, line⟩ := first
        have newline : isNewline char = false := by simp [isNewline, carriage, line]
        have content := records_plain fields [char] field
          (fun char member => plain char (List.mem_cons_of_mem _ member)) more
        rw [List.singleton_append] at content
        rw [← content, List.cons_append]
        apply records_cons_of_not_endsLine
        · simp [Reader.processChar, Reader.openField, newline, quote, comma, Reader.addChar]
        · exact endsLine_eq_false newline (List.append_ne_nil_of_right_ne_nil _ more)

theorem records_delimiter {state : State} (ends : state.endsField = true) (fields : Row)
    (more : rest ≠ []) :
    records ⟨state, field, fields⟩ (',' :: rest) =
      records ⟨.startField, [], fields ++ [field]⟩ rest := by
  apply records_cons_of_not_endsLine
  · cases state <;> first | rfl | cases ends
  · exact endsLine_eq_false rfl more

/-- Both characters of a line terminator belong to one line. -/
theorem records_eatCrnl (fields : Row) :
    records ⟨.eatCrnl, [], fields⟩ ('\n' :: rest) = (records .reset rest).map (fields :: ·) := by
  rw [records]
  rfl

theorem records_terminator (rest : List Char) (field : Field) {state : State}
    (ends : state.endsField = true) (fields : Row) :
    records ⟨state, field, fields⟩ ('\r' :: '\n' :: rest) =
      (records .reset rest).map ((fields ++ [field]) :: ·) := by
  rw [← records_eatCrnl]
  apply records_cons_of_not_endsLine
  · cases state <;> first | rfl | cases ends
  · rfl

theorem records_joined (rest : List Char) (fields row : Row) (some : row ≠ []) :
    records ⟨.startField, [], fields⟩ (joined row ++ '\r' :: '\n' :: rest) =
      (records .reset rest).map ((fields ++ row) :: ·) := by
  induction row generalizing fields with
  | nil => exact absurd rfl some
  | cons field row ih =>
      cases row with
      | nil =>
          obtain ⟨state, ends, taken⟩ :=
            records_fieldText ('\r' :: '\n' :: rest) fields field (List.cons_ne_nil _ _)
          rw [joined, taken, records_terminator _ _ ends]
      | cons next row =>
          have following : joined (next :: row) ++ '\r' :: '\n' :: rest ≠ [] :=
            List.append_ne_nil_of_right_ne_nil _ (List.cons_ne_nil _ _)
          obtain ⟨state, ends, taken⟩ := records_fieldText (',' :: (joined (next :: row) ++
            '\r' :: '\n' :: rest)) fields field (List.cons_ne_nil _ _)
          rw [joined, List.append_assoc, List.cons_append, taken, records_delimiter ends _ following,
            ih (fields ++ [field]) (List.cons_ne_nil _ _), List.append_assoc, List.singleton_append]

/-- A record begins like a field, unless its line is empty. -/
theorem records_reset (first : isNewline char = false) :
    records .reset (char :: rest) = records ⟨.startField, [], []⟩ (char :: rest) := by
  have same : Reader.reset.processChar char =
      Reader.processChar ⟨.startField, [], []⟩ char := by
    simp [Reader.processChar, Reader.reset, first]
    rfl
  rw [records, records, same]

/-- The text of a field never begins like a line terminator. -/
theorem fieldText_head (some : field ≠ []) :
    ∃ char text, fieldText field = char :: text ∧ isNewline char = false := by
  unfold fieldText
  split
  next _ => exact ⟨'"', doubled field ++ ['"'], rfl, rfl⟩
  next plain =>
    cases field with
    | nil => exact absurd rfl some
    | cons char field =>
        refine ⟨char, field, rfl, ?_⟩
        simp only [List.any_eq_true, not_exists, not_and, Bool.not_eq_true] at plain
        have first := plain char List.mem_cons_self
        simp only [isSpecial, Bool.or_eq_false_iff, decide_eq_false_iff_not] at first
        simp [isNewline, first.1.2, first.2]

theorem joined_head {row : Row} (some : row ≠ []) (more : row ≠ [[]]) :
    ∃ char text, joined row = char :: text ∧ isNewline char = false := by
  cases row with
  | nil => exact absurd rfl some
  | cons field row =>
      by_cases empty : field = []
      · subst empty
        cases row with
        | nil => exact absurd rfl more
        | cons next row => exact ⟨',', joined (next :: row), rfl, rfl⟩
      · obtain ⟨char, text, head, first⟩ := fieldText_head empty
        cases row with
        | nil => exact ⟨char, text, head, first⟩
        | cons next row =>
            exact ⟨char, text ++ ',' :: joined (next :: row), by rw [joined, head]; rfl, first⟩

theorem records_rowText (row : Row) :
    records .reset (rowText row ++ '\r' :: '\n' :: rest) =
      (records .reset rest).map (row :: ·) := by
  unfold rowText
  split
  next single =>
    subst single
    have content := records_doubled ('\r' :: '\n' :: rest) [] [] [] (List.cons_ne_nil _ _)
    rw [List.nil_append] at content
    have ends := records_terminator rest []
      (show State.endsField .quoteInQuotedField = true from rfl) []
    rw [List.nil_append] at ends
    rw [← ends, ← content]
    exact records_cons_of_inQuotedField rfl rfl
  next more =>
    by_cases none : row = []
    · subst none
      rw [← records_eatCrnl]
      exact records_cons_of_not_endsLine rfl rfl
    · obtain ⟨char, text, head, first⟩ := joined_head none more
      have line := records_joined rest [] row none
      rw [List.nil_append] at line
      rw [← line, head, List.cons_append]
      exact records_reset first

/-- What the writer has written, the reader reads: every row, with its fields as they were. -/
theorem read_write (rows : List Row) : read (write rows) = some rows := by
  induction rows with
  | nil => rfl
  | cons row rows ih =>
      have text : write (row :: rows) = rowText row ++ '\r' :: '\n' :: write rows := by
        rw [write, List.flatMap_cons, List.append_assoc]
        rfl
      rw [text, read, records_rowText, show records .reset (write rows) = some rows from ih]
      rfl

end InventoryManagement.Csv
