import InventoryManagement.Catalog.Resource

/-! What columns accept: of a whole row, of the values assigned to it, and of those that
are flushed because they differ from the stored ones. -/

set_option autoImplicit false

namespace InventoryManagement.Catalog

section Columns

variable {Value : Type} {fits : Value → Bool}

theorem inRange_assign {assigned : Option (Option Value)} {current : Value}
    (accepted : inRange fits assigned = true) (fitting : fits current = true) :
    inRange fits (some (some (assignColumn assigned current))) = true := by
  match assigned, accepted with
  | none, _ => exact fitting
  | some none, _ => exact fitting
  | some (some value), accepted => exact accepted

theorem inRange_getD {assigned : Option (Option Value)} {current : Option Value}
    (accepted : inRange fits assigned = true) (fitting : inRange fits (some current) = true) :
    inRange fits (some (assigned.getD current)) = true := by
  cases assigned with
  | none => exact fitting
  | some value => exact accepted

theorem assignColumn_join (assigned : Option (Option Value)) (current : Value) :
    assignColumn assigned current = assigned.join.getD current := by
  cases assigned <;> rfl

end Columns

section Dirty

variable {Value : Type} [DecidableEq Value] {assigned : Option (Option Value)}

theorem inRange_dirtyColumn {fits : Value → Bool} {current : Option Value}
    (stored : inRange fits (some current) = true) :
    inRange fits (dirtyColumn assigned current) = inRange fits assigned := by
  unfold dirtyColumn
  split
  · next same => rw [same, stored]; rfl
  · rfl

theorem notNull_dirtyColumn {current : Value} :
    notNull (dirtyColumn assigned (some current)) = notNull assigned := by
  unfold dirtyColumn
  split
  · next same => rw [same]; rfl
  · rfl

theorem assignColumn_dirty {current : Value} (present : notNull assigned = true) :
    some (assignColumn (dirtyColumn assigned (some current)) current) =
      assigned.getD (some current) := by
  unfold dirtyColumn
  split
  · next same => rw [same]; rfl
  · match assigned, present with
    | none, _ => rfl
    | some (some value), _ => rfl

theorem getD_dirty {current : Option Value} :
    (dirtyColumn assigned current).getD current = assigned.getD current := by
  unfold dirtyColumn
  split
  · next same => rw [same]; rfl
  · rfl

theorem dirtyColumn_some {current value : Option Value}
    (dirty : dirtyColumn assigned current = some value) : assigned = some value := by
  unfold dirtyColumn at dirty
  split at dirty
  · cases dirty
  · exact dirty

end Dirty

namespace Resource

variable {resource : Resource} {changes : resource.Changes} {row : resource.Row}

/-- A row keeps its natural key when none is assigned. -/
theorem key_apply : resource.key (resource.apply changes row) =
    (resource.newKey changes).getD (resource.key row) := by
  cases resource <;> exact assignColumn_join _ _

theorem inRange_apply (accepted : resource.inRange changes = true)
    (stored : resource.inRange (resource.columns row) = true) :
    resource.inRange (resource.columns (resource.apply changes row)) = true := by
  cases resource with
  | product =>
      simp only [inRange, ProductChanges.inRange, Bool.and_eq_true] at accepted stored ⊢
      obtain ⟨⟨⟨sku, name⟩, description⟩, price⟩ := accepted
      obtain ⟨⟨⟨skuFits, nameFits⟩, descriptionFits⟩, priceFits⟩ := stored
      exact ⟨⟨⟨inRange_assign sku skuFits, inRange_assign name nameFits⟩,
        inRange_getD description descriptionFits⟩, inRange_assign price priceFits⟩
  | warehouse =>
      simp only [inRange, WarehouseChanges.inRange, Bool.and_eq_true] at accepted stored ⊢
      obtain ⟨⟨name, code⟩, address⟩ := accepted
      obtain ⟨⟨nameFits, codeFits⟩, addressFits⟩ := stored
      exact ⟨⟨inRange_assign name nameFits, inRange_assign code codeFits⟩,
        inRange_getD address addressFits⟩

theorem violation?_eq_none : resource.violation? changes = none ↔
    resource.inRange changes = true ∧ resource.notNull changes = true := by
  unfold violation?
  cases resource.inRange changes <;> cases resource.notNull changes <;> simp

theorem violation?_isNone :
    (resource.violation? changes).isNone = (resource.inRange changes && resource.notNull changes) := by
  unfold violation?
  cases resource.inRange changes <;> cases resource.notNull changes <;> rfl

/-- The values that a stored row already has are acceptable. -/
theorem inRange_dirty (stored : resource.inRange (resource.columns row) = true) :
    resource.inRange (resource.dirty changes row) = resource.inRange changes := by
  cases resource with
  | product =>
      simp only [inRange, ProductChanges.inRange, Bool.and_eq_true] at stored
      obtain ⟨⟨⟨sku, name⟩, description⟩, price⟩ := stored
      simp only [inRange, ProductChanges.inRange, dirty, inRange_dirtyColumn sku,
        inRange_dirtyColumn name, inRange_dirtyColumn description, inRange_dirtyColumn price]
  | warehouse =>
      simp only [inRange, WarehouseChanges.inRange, Bool.and_eq_true] at stored
      obtain ⟨⟨name, code⟩, address⟩ := stored
      simp only [inRange, WarehouseChanges.inRange, dirty, inRange_dirtyColumn name,
        inRange_dirtyColumn code, inRange_dirtyColumn address]

theorem notNull_dirty : resource.notNull (resource.dirty changes row) = resource.notNull changes := by
  cases resource <;>
    simp only [notNull, ProductChanges.notNull, WarehouseChanges.notNull, dirty,
      notNull_dirtyColumn]

/-- What is flushed of some values is acceptable if and only if they are. -/
theorem violation?_dirty (stored : resource.inRange (resource.columns row) = true) :
    resource.violation? (resource.dirty changes row) = resource.violation? changes := by
  rw [violation?, inRange_dirty stored, notNull_dirty, violation?]

theorem sendable_newKey (accepted : resource.inRange changes = true) {key : String}
    (assigned : resource.newKey changes = some key) : Text.sendable key = true := by
  cases resource with
  | product =>
      simp only [Resource.inRange, ProductChanges.inRange, Bool.and_eq_true] at accepted
      have sku := accepted.1.1.1
      rw [Option.join_eq_some_iff.mp assigned] at sku
      exact (Bool.and_eq_true_iff.mp sku).2
  | warehouse =>
      simp only [Resource.inRange, WarehouseChanges.inRange, Bool.and_eq_true] at accepted
      have code := accepted.1.2
      rw [Option.join_eq_some_iff.mp assigned] at code
      exact (Bool.and_eq_true_iff.mp code).2

theorem violation?_error {error : Exception} (rejected : resource.violation? changes = some error) :
    error = .dataError ∨ error = .integrityError := by
  unfold violation? at rejected
  split at rejected
  · exact .inl (Option.some.inj rejected).symm
  · split at rejected
    · exact .inr (Option.some.inj rejected).symm
    · cases rejected

theorem keyConflict_text (resource : Resource) (key : String) :
    ∃ text, resource.keyConflict key = .conflictError text := by
  cases resource <;> exact ⟨_, rfl⟩

@[simp] theorem newKey_columns : resource.newKey (resource.columns row) = some (resource.key row) := by
  cases resource <;> rfl

theorem newKey_dirty {key : String}
    (assigned : resource.newKey (resource.dirty changes row) = some key) :
    resource.newKey changes = some key := by
  cases resource <;>
    exact Option.join_eq_some_iff.mpr (dirtyColumn_some (Option.join_eq_some_iff.mp assigned))

theorem apply_unchanged (same : resource.unchanged changes = true) :
    resource.apply changes row = row := by
  cases resource <;> cases of_decide_eq_true same <;> rfl

theorem violation?_unchanged (same : resource.unchanged changes = true) :
    resource.violation? changes = none := by
  cases resource <;> cases of_decide_eq_true same <;> rfl

/-- Every field that is set has the value it is set to, every other one the value it had. -/
def Carries : (resource : Resource) → resource.Changes → resource.Row → resource.Row → Prop
  | .product, changes, before, after =>
      after.id = before.id ∧ some after.sku = changes.sku.getD (some before.sku) ∧
        some after.name = changes.name.getD (some before.name) ∧
        after.description = changes.description.getD before.description ∧
        some after.price = changes.price.getD (some before.price) ∧
        some after.isActive = changes.isActive.getD (some before.isActive)
  | .warehouse, changes, before, after =>
      after.id = before.id ∧ some after.name = changes.name.getD (some before.name) ∧
        some after.code = changes.code.getD (some before.code) ∧
        after.address = changes.address.getD before.address ∧
        some after.isActive = changes.isActive.getD (some before.isActive)

theorem carries_apply (present : resource.notNull changes = true) :
    resource.Carries changes row (resource.apply (resource.dirty changes row) row) := by
  cases resource with
  | product =>
      simp only [notNull, ProductChanges.notNull, Bool.and_eq_true] at present
      obtain ⟨⟨⟨sku, name⟩, price⟩, active⟩ := present
      exact ⟨rfl, assignColumn_dirty sku, assignColumn_dirty name, getD_dirty,
        assignColumn_dirty price, assignColumn_dirty active⟩
  | warehouse =>
      simp only [notNull, WarehouseChanges.notNull, Bool.and_eq_true] at present
      obtain ⟨⟨name, code⟩, active⟩ := present
      exact ⟨rfl, assignColumn_dirty name, assignColumn_dirty code, getD_dirty,
        assignColumn_dirty active⟩

end Resource

end InventoryManagement.Catalog
