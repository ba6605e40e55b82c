import Mathlib.Data.List.Basic

/-! Sheets of cells, and edits that assign some of the cells. Of several edits the last
one that assigns a cell decides it. -/

set_option autoImplicit false

namespace InventoryManagement.Merging

/-- What the cells contain; an edit is the sheet of the cells that it assigns. -/
abbrev Sheet (Cell Content : Type) := Cell → Option Content

variable {Cell Content : Type} {edits : List (Sheet Cell Content)} {cell : Cell}

/-- A sheet with the cells of an edit assigned. -/
def amend (edit sheet : Sheet Cell Content) : Sheet Cell Content :=
  fun cell => (edit cell).or (sheet cell)

/-- What the last edit to assign a cell assigns to it. -/
def latest (edits : List (Sheet Cell Content)) : Sheet Cell Content :=
  fun cell => edits.reverse.findSome? (fun edit => edit cell)

@[simp] theorem latest_singleton (edit : Sheet Cell Content) : latest [edit] = edit := by
  funext cell
  simp only [latest, List.reverse_singleton, List.findSome?_cons, List.findSome?_nil]
  cases edit cell <;> rfl

theorem latest_append (edits more : List (Sheet Cell Content)) :
    latest (edits ++ more) = amend (latest more) (latest edits) := by
  funext cell
  simp only [latest, amend, List.reverse_append, List.findSome?_append]

theorem amend_amend (first second sheet : Sheet Cell Content) :
    amend first (amend second sheet) = amend (amend first second) sheet := by
  funext cell
  exact Option.or_assoc.symm

theorem latest_eq_none : latest edits cell = none ↔ ∀ edit ∈ edits, edit cell = none := by
  simp [latest, List.findSome?_eq_none_iff]

theorem latest_eq_some {content : Content} : latest edits cell = some content ↔
    ∃ earlier edit later, edits = earlier ++ edit :: later ∧ edit cell = some content ∧
      ∀ other ∈ later, other cell = none := by
  rw [latest, List.findSome?_eq_some_iff]
  constructor
  · rintro ⟨later, edit, earlier, split, assigned, since⟩
    refine ⟨earlier.reverse, edit, later.reverse, ?_, assigned, ?_⟩
    · rw [← List.reverse_reverse edits, split]
      simp
    · intro other member
      exact since other (List.mem_reverse.mp member)
  · rintro ⟨earlier, edit, later, rfl, assigned, since⟩
    refine ⟨later.reverse, edit, earlier.reverse, by simp, assigned, ?_⟩
    intro other member
    exact since other (List.mem_reverse.mp member)

end InventoryManagement.Merging
