import InventoryManagement.Catalog.Discipline
import InventoryManagement.Catalog.Services
import InventoryManagement.Merging

/-! The catalog as a sheet of cells: a flushed row is an edit of the cells that it sets. -/

set_option autoImplicit false

namespace InventoryManagement.Catalog

open Merging (Sheet amend)

inductive Column where
  | sku
  | name
  | description
  | price
  | code
  | address
  | isActive
deriving DecidableEq

structure Cell where
  resource : Resource
  id : UUID
  column : Column
deriving DecidableEq

inductive Content where
  | text (value : Option String)
  | amount (hundredths : Int)
  | flag (value : Bool)
deriving DecidableEq

namespace Resource

def content : (resource : Resource) → resource.Row → Column → Option Content
  | .product, row, .sku => some (.text row.sku)
  | .product, row, .name => some (.text row.name)
  | .product, row, .description => some (.text row.description)
  | .product, row, .price => some (.amount row.price)
  | .product, row, .isActive => some (.flag row.isActive)
  | .warehouse, row, .name => some (.text row.name)
  | .warehouse, row, .code => some (.text row.code)
  | .warehouse, row, .address => some (.text row.address)
  | .warehouse, row, .isActive => some (.flag row.isActive)
  | .product, _, .code | .product, _, .address => none
  | .warehouse, _, .sku | .warehouse, _, .description | .warehouse, _, .price => none

/-- What changes assign; null is a value for the columns that may be null only. -/
def assigned : (resource : Resource) → resource.Changes → Column → Option Content
  | .product, changes, .sku => changes.sku.join.map (fun value => .text (some value))
  | .product, changes, .name => changes.name.join.map (fun value => .text (some value))
  | .product, changes, .description => changes.description.map .text
  | .product, changes, .price => changes.price.join.map .amount
  | .product, changes, .isActive => changes.isActive.join.map .flag
  | .warehouse, changes, .name => changes.name.join.map (fun value => .text (some value))
  | .warehouse, changes, .code => changes.code.join.map (fun value => .text (some value))
  | .warehouse, changes, .address => changes.address.map .text
  | .warehouse, changes, .isActive => changes.isActive.join.map .flag
  | .product, _, .code | .product, _, .address => none
  | .warehouse, _, .sku | .warehouse, _, .description | .warehouse, _, .price => none

section Columns

variable {Value : Type} {set : Option (Option Value)} {content : Content}

theorem map_assignColumn (set : Option (Option Value)) (current : Value) (wrap : Value → Content) :
    some (wrap (assignColumn set current)) = (set.join.map wrap).or (some (wrap current)) := by
  cases set with
  | none => rfl
  | some value => cases value <;> rfl

theorem map_getD (set : Option (Option Value)) (current : Option Value)
    (wrap : Option Value → Content) :
    some (wrap (set.getD current)) = (set.map wrap).or (some (wrap current)) := by
  cases set <;> rfl

variable [DecidableEq Value]

theorem dirtyColumn_cases (set : Option (Option Value)) (current : Option Value) :
    dirtyColumn set current = set ∨ set = some current ∧ dirtyColumn set current = none := by
  by_cases same : set = some current
  · exact .inr ⟨same, if_pos same⟩
  · exact .inl (if_neg same)

/-- Only what is set is flushed, and what is set and not flushed is in place. -/
theorem join_dirtyColumn (current : Value) (wrap : Value → Content) :
    (set.join.map wrap = some content →
      (dirtyColumn set (some current)).join.map wrap = some content ∨
        some (wrap current) = some content) ∧
    ((dirtyColumn set (some current)).join.map wrap = some content →
      set.join.map wrap = some content) := by
  rcases dirtyColumn_cases set (some current) with same | ⟨rfl, clean⟩
  · rw [same]
    exact ⟨.inl, fun flushed => flushed⟩
  · rw [clean]
    exact ⟨.inr, fun flushed => nomatch flushed⟩

theorem map_dirtyColumn (current : Option Value) (wrap : Option Value → Content) :
    (set.map wrap = some content →
      (dirtyColumn set current).map wrap = some content ∨ some (wrap current) = some content) ∧
    ((dirtyColumn set current).map wrap = some content → set.map wrap = some content) := by
  rcases dirtyColumn_cases set current with same | ⟨rfl, clean⟩
  · rw [same]
    exact ⟨.inl, fun flushed => flushed⟩
  · rw [clean]
    exact ⟨.inr, fun flushed => nomatch flushed⟩

end Columns

variable {resource : Resource} {changes : resource.Changes} {row : resource.Row} {column : Column}
variable {content : Content}

theorem content_apply : resource.content (resource.apply changes row) column =
    (resource.assigned changes column).or (resource.content row column) := by
  cases resource <;> cases column <;> simp only [Resource.content, apply, assigned] <;>
    first
    | rfl
    | exact map_assignColumn _ _ (fun value => .text (some value))
    | exact map_assignColumn _ _ .amount
    | exact map_assignColumn _ _ .flag
    | exact map_getD _ _ .text

theorem assigned_columns :
    resource.assigned (resource.columns row) column = resource.content row column := by
  cases resource <;> cases column <;> rfl

theorem assigned_dirty :
    (resource.assigned changes column = some content →
      resource.assigned (resource.dirty changes row) column = some content ∨
        resource.content row column = some content) ∧
    (resource.assigned (resource.dirty changes row) column = some content →
      resource.assigned changes column = some content) := by
  cases resource <;> cases column <;> simp only [Resource.content, dirty, assigned] <;>
    first
    | exact join_dirtyColumn _ (fun value => .text (some value))
    | exact join_dirtyColumn _ .amount
    | exact join_dirtyColumn _ .flag
    | exact map_dirtyColumn _ .text
    | simp

theorem assigned_unchanged (unchanged : resource.unchanged changes = true) :
    resource.assigned changes column = none := by
  cases resource <;> rw [Resource.unchanged, decide_eq_true_eq] at unchanged <;>
    subst unchanged <;> cases column <;> rfl

end Resource

/-- What is stored; the columns of the other table have no content. -/
def Store.cells (store : Store) : Sheet Cell Content := fun cell =>
  (store.row? cell.resource cell.id).bind (fun row => cell.resource.content row cell.column)

def Write.assigns : Write → Column → Option Content
  | .insert resource row, column => resource.content row column
  | .update resource _ changes, column => resource.assigned changes column

def Write.cells (write : Write) : Sheet Cell Content := fun cell =>
  if write.resource = cell.resource ∧ write.id = cell.id then write.assigns cell.column else none

section Rows

variable {store : Store} {write : Write} {resource : Resource} {id : UUID}

theorem row?_insert {row : resource.Row} (unused : store.row? resource (resource.id row) = none) :
    ((Write.insert resource row).apply store).row? resource id =
      if resource.id row = id then some row else store.row? resource id := by
  simp only [Store.row?, Write.rows_insert, List.find?_append]
  by_cases here : resource.id row = id
  · subst here
    simp only [Store.row?] at unused
    simp [unused]
  · simp [here]

theorem row?_update {target : UUID} {changes : resource.Changes} :
    ((Write.update resource target changes).apply store).row? resource id =
      (store.row? resource id).map
        (fun row => if target = id then resource.apply changes row else row) := by
  have same : (fun row => decide (resource.id row = id)) ∘
      (fun row => if resource.id row = target then resource.apply changes row else row) =
        fun row => decide (resource.id row = id) := by
    funext row
    by_cases here : resource.id row = target <;> simp [here]
  rw [Store.row?, Write.rows_update, KeyedRows.modify, List.find?_map, same, Store.row?]
  apply Option.map_congr
  intro row found
  simp only [(Store.mem_of_row? found).2, eq_comm]

/-- A flushed row that can be committed is committed as an edit. -/
theorem Write.Sound.cells (sound : write.Sound store) :
    (write.apply store).cells = amend write.cells store.cells := by
  funext cell
  obtain ⟨resource, id, column⟩ := cell
  by_cases same : write.resource = resource
  · subst same
    cases write with
    | insert resource row =>
        simp only [Store.cells, row?_insert sound.row.1, amend, Write.cells, Write.id, true_and]
        by_cases here : resource.id row = id
        · subst here
          simp [sound.row.1, Write.assigns]
        · rw [if_neg here, if_neg here]
          rfl
    | update resource target changes =>
        simp only [Store.cells, row?_update, amend, Write.cells, Write.id, true_and]
        by_cases here : target = id
        · subst here
          obtain ⟨row, found⟩ := Option.isSome_iff_exists.mp sound.row.1
          simp only [if_pos, found, Option.map_some, Option.bind_some, Write.assigns]
          exact Resource.content_apply
        · simp only [if_neg here, Option.map_id']
          rfl
  · have apart : ¬ (write.resource = resource ∧ write.id = id) := fun both => same both.1
    simp only [amend, Write.cells, if_neg apart, Store.cells, Store.row?]
    rw [Write.rows_apply_of_ne (Ne.symm same)]
    rfl

end Rows

end InventoryManagement.Catalog
