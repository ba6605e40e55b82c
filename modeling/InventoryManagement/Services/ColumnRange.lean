import InventoryManagement.Services.Books
import InventoryManagement.Services.Sequential

/-! Quantities and the range of their columns: nothing bounds what a movement adds to its
destination before the database does. -/

set_option autoImplicit false

namespace InventoryManagement

open Interleaving (Completion Guard Program Reachable)

variable {answers : Nat → Answer} {world : World} {session : Session}
variable {change : Pair → Int} {rows : List Inventory}

/-- The checks that precede the update of a movement's destination let it through. The
source of a transfer is among them when its warehouse comes first. -/
structure MovementPayload.Reaches (data : MovementPayload) (tables : Tables) (destination : UUID) :
    Prop where
  named : data.destinationWarehouseId = some destination
  product : tables.hasProduct data.productId = true
  warehouse : tables.hasWarehouse destination = true
  source : ∀ source, data.sourceWarehouseId = some source →
    (sortedByStr source destination).1 = source →
      tables.Ships (data.productId, source) data.quantity

/-- A call whose quantities are stored, each within its column, or which is rejected
with a domain error. -/
def StoredOrRejected (data : MovementCreate) (performedBy : Option UUID) (before : Tables)
    (done : Completion World Session Exception Movement) : Prop :=
  (data.Recorded performedBy before done.shared.tables ∧ Integer.fits data.quantity = true ∧
    ∀ pair ∈ data.pairs, Integer.fits (done.shared.tables.quantity pair) = true) ∨
  ∃ error, done.outcome = some (.error error) ∧ error.isAppException = true

section Overflow

variable (healthy : ∀ n, (answers n).fails = false)
include healthy

theorem flushQuantity_overflow {row : Inventory} {quantity : Int}
    (overflow : Integer.fits quantity = false) :
    (flushQuantity row quantity).Raises environment answers world session
      (fun error _ _ => error = .dataError) := by
  apply Program.raises_refused
  intro n
  refine ⟨.dataError, ?_, rfl⟩
  change execute _ _ _ _ _ = _
  rw [execute_healthy (healthy n)]
  simp [respond, updateInventory, overflow]

theorem increaseStock_overflow (valid : world.Valid) {productId warehouseId : UUID} {quantity : Int}
    (product : world.tables.hasProduct productId = true)
    (warehouse : world.tables.hasWarehouse warehouseId = true)
    (overflow : Integer.fits (world.tables.quantity (productId, warehouseId) + quantity) = false)
    (applying : Applying change rows session world)
    (fresh : ∀ row ∈ rows, row.pair ≠ (productId, warehouseId)) :
    (increaseStock productId warehouseId quantity).Raises environment answers world session
      (fun error _ _ => error = .dataError) := by
  apply (getWarehouse_alone healthy warehouse).bind_raises
  intro _ _ _ checked
  obtain ⟨rfl, rfl⟩ := checked
  apply (getForUpdate_alone healthy valid applying fresh).bind_raises
  intro found after updated locked
  obtain ⟨rfl, _, stored, held⟩ := locked
  have refused : ∀ (row : Inventory) (middle : Session),
      row.quantity = world.tables.quantity (productId, warehouseId) →
      (flushQuantity row (row.quantity + quantity)).Raises environment answers world middle
        (fun error _ _ => error = .dataError) := by
    intro row middle base
    apply flushQuantity_overflow healthy
    rw [base]
    exact overflow
  cases found with
  | some row =>
      apply refused
      simp [Tables.quantity, stored]
  | none =>
      have refers : world.tables.hasPair (productId, warehouseId) = true := by
        simp [Tables.hasPair, product, warehouse]
      have held : Applying change rows updated world := by simpa using held
      apply (createInventory_alone healthy refers stored held fresh).bind_raises
      intro row after middle created
      obtain ⟨rfl, _, here, applying⟩ := created
      apply refused
      have changed := applying.changed row (by simp)
      rw [here, held.unchanged _ fresh] at changed
      omega

theorem applyMovement_overflow (valid : world.Valid) {data : MovementCreate} {destination : UUID}
    (reaches : data.Reaches world.tables destination)
    (overflow : Integer.fits
      (world.tables.quantity (data.productId, destination) + data.quantity) = false)
    (applying : Applying (fun _ => 0) [] session world) :
    (applyMovement data).Raises environment answers world session
      (fun error _ _ => error = .dataError) := by
  have named := reaches.named
  rcases data.warehouses_cases with ⟨type, _, warehouse, target⟩ | ⟨_, target, _⟩ |
    ⟨type, source, warehouse, origin, target, different⟩
  · rw [named] at target
    cases target
    simp only [applyMovement, type, named]
    exact (increaseStock_overflow healthy valid reaches.product reaches.warehouse overflow applying
      (by simp)).bind
  · rw [named] at target
    cases target
  · rw [named] at target
    cases target
    simp only [applyMovement, type, origin, named, transferStock]
    apply Program.Raises.bind
    split
    · next first =>
        apply (decreaseStock_alone healthy valid data.quantity_positive
          (reaches.source source origin first) applying (by simp)).bind_raises
        intro row after middle moved
        obtain ⟨rfl, leg⟩ := moved
        refine (increaseStock_overflow healthy valid reaches.product reaches.warehouse overflow
          leg.2.2 ?_).bind
        intro held member
        rw [List.mem_singleton.mp member, leg.1]
        simpa using different
    · exact (increaseStock_overflow healthy valid reaches.product reaches.warehouse overflow applying
        (by simp)).bind

theorem applyMovement_unreached (valid : world.Valid) {data : MovementCreate} {destination : UUID}
    (named : data.destinationWarehouseId = some destination)
    (product : world.tables.hasProduct data.productId = true)
    (unreached : ¬ data.Reaches world.tables destination)
    (applying : Applying (fun _ => 0) [] session world) :
    (applyMovement data).Raises environment answers world session
      (fun error _ _ => error.isAppException = true) := by
  rcases data.warehouses_cases with ⟨type, origin, warehouse, target⟩ | ⟨_, target, _⟩ |
    ⟨type, source, warehouse, origin, target, different⟩
  · have missing : world.tables.hasWarehouse destination = false := by
      rw [Bool.eq_false_iff]
      intro present
      exact unreached ⟨named, product, present, by simp [origin]⟩
    simp only [applyMovement, type, named]
    exact (increaseStock_missing healthy missing).bind
  · rw [named] at target
    cases target
  · rw [named] at target
    cases target
    simp only [applyMovement, type, origin, named, transferStock]
    apply Program.Raises.bind
    split
    · next first =>
        by_cases ships : world.tables.Ships (data.productId, source) data.quantity
        · have missing : world.tables.hasWarehouse destination = false := by
            rw [Bool.eq_false_iff]
            intro present
            refine unreached ⟨named, product, present, ?_⟩
            intro other origin' _
            rw [origin] at origin'
            cases origin'
            exact ships
          apply (decreaseStock_alone healthy valid data.quantity_positive ships applying
            (by simp)).bind_raises
          intro row after middle moved
          obtain ⟨rfl, _⟩ := moved
          exact (increaseStock_missing healthy missing).bind
        · exact (decreaseStock_refused healthy valid ships applying (by simp)).bind
    · next first =>
        have missing : world.tables.hasWarehouse destination = false := by
          rw [Bool.eq_false_iff]
          intro present
          refine unreached ⟨named, product, present, ?_⟩
          intro other origin' firstToo
          rw [origin] at origin'
          cases origin'
          exact absurd firstToo first
        exact (increaseStock_missing healthy missing).bind

end Overflow

theorem prepareMovement_raises (healthy : ∀ n, (answers n).fails = false) {data : MovementCreate}
    {performedBy : Option UUID} (product : world.tables.hasProduct data.productId = true)
    {expected : Exception → Prop}
    (raises : (applyMovement data).Raises environment answers world {}
      (fun error _ _ => expected error)) :
    (prepareMovement data performedBy).Raises environment answers world {}
      (fun error _ _ => expected error) := by
  apply (getProduct_alone healthy product).bind_raises
  intro _ _ _ checked
  obtain ⟨rfl, rfl⟩ := checked
  exact raises.bind

/-- The quantity of a possible movement is one its column can hold, as stock is never
negative. -/
theorem MovementPayload.Possible.inRange {data : MovementCreate}
    (possible : data.Possible world.tables) (valid : world.Valid)
    (nonnegative : ∀ pair, 0 ≤ world.tables.quantity pair)
    (room : ∀ destination, data.destinationWarehouseId = some destination →
      Integer.fits (world.tables.quantity (data.productId, destination) + data.quantity) = true) :
    data.InRange world.tables := by
  refine ⟨?_, room⟩
  have positive := data.quantity_positive
  have bounded : ∃ limit, data.quantity ≤ limit ∧ Integer.fits limit = true := by
    rcases data.warehouses_cases with ⟨_, _, destination, named⟩ | ⟨_, _, source, named⟩ |
      ⟨_, source, _, named, _⟩
    · have stock := nonnegative (data.productId, destination)
      exact ⟨_, by omega, room destination named⟩
    · obtain ⟨row, stored, _, enough⟩ := possible.stock source named
      exact ⟨_, enough, (valid.inventories_fit row stored).quantity⟩
    · obtain ⟨row, stored, _, enough⟩ := possible.stock source named
      exact ⟨_, enough, (valid.inventories_fit row stored).quantity⟩
  obtain ⟨limit, below, fits⟩ := bounded
  simp only [Integer.fits, Bool.and_eq_true, decide_eq_true_eq] at fits ⊢
  omega

/-- What the checks of a possible movement precede they let through. -/
theorem MovementPayload.Possible.reaches {data : MovementPayload} {tables : Tables}
    (possible : data.Possible tables) {destination : UUID}
    (named : data.destinationWarehouseId = some destination) : data.Reaches tables destination where
  named := named
  product := possible.product
  warehouse := possible.warehouses destination (.inr named)
  source := fun _ origin _ => possible.ships origin

/-- An error of the database is no rejection. -/
theorem not_storedOrRejected (settings : Settings) (valid : world.Valid) {data : MovementCreate}
    {performedBy : Option UUID}
    (raises : (prepareMovement data performedBy).Raises environment answers world {}
      (fun error _ _ => error = .dataError)) :
    ¬ StoredOrRejected data performedBy world.tables
      (runAlone answers world (recordMovement settings data performedBy)) := by
  obtain ⟨⟨error, raised, same⟩, _, untouched⟩ := recordMovement_raises valid settings raises
  rintro (⟨recorded, _⟩ | ⟨other, raisedToo, domain⟩)
  · exact MovementCreate.not_recorded untouched.tables recorded
  · rw [raised] at raisedToo
    cases raisedToo
    rw [same] at domain
    cases domain

theorem storedOrRejected_iff (settings : Settings) (valid : world.Valid)
    (nonnegative : ∀ pair, 0 ≤ world.tables.quantity pair) (data : MovementCreate)
    (performedBy : Option UUID) (healthy : ∀ n, (answers n).fails = false) :
    StoredOrRejected data performedBy world.tables
        (runAlone answers world (recordMovement settings data performedBy)) ↔
      (∀ destination, data.Reaches world.tables destination →
        Integer.fits (world.tables.quantity (data.productId, destination) + data.quantity) = true) ∧
      (data.reason.all Text.sendable = true ∨ ¬ data.Possible world.tables) := by
  constructor
  · intro kept
    have room : ∀ destination, data.Reaches world.tables destination →
        Integer.fits (world.tables.quantity (data.productId, destination) + data.quantity) =
          true := by
      intro destination reaches
      by_contra overflow
      apply not_storedOrRejected settings valid _ kept
      exact prepareMovement_raises healthy reaches.product (applyMovement_overflow healthy valid
        reaches (Bool.eq_false_iff.mpr overflow) (applying_start world))
    refine ⟨room, ?_⟩
    by_cases possible : data.Possible world.tables
    · left
      by_contra unsendable
      have inRange := possible.inRange valid nonnegative
        (fun destination named => room destination (possible.reaches named))
      exact not_storedOrRejected settings valid (prepareMovement_unsendable healthy valid
        performedBy possible inRange (Bool.eq_false_iff.mpr unsendable)) kept
    · exact .inr possible
  · rintro ⟨room, sendable⟩
    have rejected : (prepareMovement data performedBy).Raises environment answers world {}
        (fun error _ _ => error.isAppException = true) → StoredOrRejected data performedBy
          world.tables (runAlone answers world (recordMovement settings data performedBy)) :=
      fun raised => .inr (recordMovement_raises valid settings raised).1
    cases product : world.tables.hasProduct data.productId with
    | false => exact rejected (getProduct_missing healthy product).bind
    | true =>
        by_cases reached : ∀ destination, data.destinationWarehouseId = some destination →
            data.Reaches world.tables destination
        · have room : ∀ destination, data.destinationWarehouseId = some destination →
              Integer.fits (world.tables.quantity (data.productId, destination) + data.quantity) =
                true := fun destination named => room destination (reached destination named)
          by_cases possible : data.Possible world.tables
          · have inRange := possible.inRange valid nonnegative room
            have after := (databaseDiscipline.run answers
              (recordMovement settings data performedBy) 0 valid (Session.fresh_sound world)).1
            have storable : data.Storable world.tables :=
              ⟨inRange, sendable.resolve_right (not_not.mpr possible)⟩
            exact .inl ⟨recordMovement_possible valid healthy settings data performedBy possible
              storable, inRange.quantity, fun pair _ => World.Valid.quantity_fits after pair⟩
          · exact .inr (recordMovement_refused valid healthy settings data performedBy possible
              room).1
        · simp only [not_forall] at reached
          obtain ⟨destination, named, unreached⟩ := reached
          exact rejected (prepareMovement_raises healthy product
            (applyMovement_unreached healthy valid named product unreached (applying_start world)))

/-- From every state that movements can reach, a movement that runs alone stores values
in range or is rejected, if and only if it does not overflow a destination that the
checks before it let it reach, and the database takes its reason unless a check rejects it. -/
theorem movement_stored_or_rejected_iff (settings : Settings) (start : World) (valid : start.Valid)
    (noInventories : start.tables.inventories = []) (requests : List Request) (system : Application)
    (reached : Reachable environment Guard.unrestricted
      (Application.start settings start requests) system)
    (data : MovementCreate) (performedBy : Option UUID) (answers : Nat → Answer)
    (healthy : ∀ n, (answers n).fails = false) :
    StoredOrRejected data performedBy system.shared.tables
        (runAlone answers system.shared (recordMovement settings data performedBy)) ↔
      (∀ destination, data.Reaches system.shared.tables destination →
        Integer.fits (system.shared.tables.quantity (data.productId, destination) +
          data.quantity) = true) ∧
      (data.reason.all Text.sendable = true ∨ ¬ data.Possible system.shared.tables) := by
  have verified := (Application.start_verified settings permits_unrestricted valid requests).reachable
    reached
  have booked := Application.booked valid reached
  apply storedOrRejected_iff settings verified.valid _ data performedBy healthy
  intro pair
  apply booked.grown.nonnegative
  simp [Tables.quantity, Tables.inventoriesOf, noInventories]

theorem movement_stored_or_rejected_iff_receipt :
    StoredOrRejected (Sample.receive Sample.main 25 (by decide)) none Sample.world.tables
      (runAlone (fun _ => {}) Sample.world
        (recordMovement {} (Sample.receive Sample.main 25 (by decide)) none)) := by
  apply (movement_stored_or_rejected_iff {} Sample.world Sample.world_valid rfl [] _ .refl _ none
    (fun _ => {}) (fun _ => rfl)).mpr
  refine ⟨?_, .inl rfl⟩
  intro destination reaches
  cases reaches.named
  decide

/-- More units than the column can hold. -/
theorem oversized_receipt_raises_data_error :
    ¬ StoredOrRejected (Sample.receive Sample.main (2 ^ 31) (by decide)) none Sample.world.tables
      (runAlone (fun _ => {}) Sample.world
        (recordMovement {} (Sample.receive Sample.main (2 ^ 31) (by decide)) none)) := by
  intro kept
  rcases kept with ⟨_, fits, _⟩ | ⟨error, raised, domain⟩
  · cases fits
  · cases raised
    cases domain

end InventoryManagement
