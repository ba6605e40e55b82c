import InventoryManagement.OrderedPaging
import InventoryManagement.Services.Requests

/-! The `GET /movements` endpoint and its repository, page after page: when the audit
trail is complete and newest first. -/

set_option autoImplicit false

namespace InventoryManagement

/-- `ORDER BY created_at DESC`. -/
abbrev newestFirst : Movement → Movement → Prop := Sql.descending Movement.createdAt

namespace MovementRepository

def listByProduct (order : Sql.Order Movement newestFirst) (productId : UUID) (skip limit : Nat)
    (tables : Tables) : List Movement :=
  Sql.select order (fun movement => decide (movement.productId = productId)) skip limit
    tables.movements

/-- The `WHERE` clause of `list_by_warehouse`; either column can be NULL. -/
def warehouseCondition (warehouseId : UUID) (movement : Movement) : Bool :=
  Sql.isTrue (Sql.or
    (Sql.strict (fun id other => decide (id = other)) movement.sourceWarehouseId (some warehouseId))
    (Sql.strict (fun id other => decide (id = other)) movement.destinationWarehouseId
      (some warehouseId)))

def listByWarehouse (order : Sql.Order Movement newestFirst) (warehouseId : UUID) (skip limit : Nat)
    (tables : Tables) : List Movement :=
  Sql.select order (warehouseCondition warehouseId) skip limit tables.movements

/-- `BaseRepository.list_all`, which orders by nothing. -/
def listAll (order : Sql.Order Movement Sql.unordered) (skip limit : Nat) (tables : Tables) :
    List Movement :=
  Sql.select order (fun _ => true) skip limit tables.movements

end MovementRepository

/-- What the database makes of each of the two `ORDER BY` clauses. -/
structure MovementOrders where
  unordered : Sql.Order Movement Sql.unordered
  newestFirst : Sql.Order Movement newestFirst

/-- The `list_movements` endpoint: a product takes precedence over a warehouse. -/
def listMovements (orders : MovementOrders) (productId warehouseId : Option UUID)
    (skip limit : Nat) (tables : Tables) : List Movement :=
  match productId, warehouseId with
  | some productId, _ =>
      MovementRepository.listByProduct orders.newestFirst productId skip limit tables
  | none, some warehouseId =>
      MovementRepository.listByWarehouse orders.newestFirst warehouseId skip limit tables
  | none, none => MovementRepository.listAll orders.unordered skip limit tables

/-- Consecutive pages from the start, each by a query that may order the rows anew. -/
def auditTrail (orders : Nat → MovementOrders) (productId warehouseId : Option UUID) (limit : Nat)
    (tables : Tables) (pages : Nat) : List Movement :=
  (List.range pages).flatMap (fun number => listMovements (orders (number * limit)) productId
    warehouseId (number * limit) limit tables)

/-- The movements that a choice of filters asks for. -/
def Movement.Matches (productId warehouseId : Option UUID) (movement : Movement) : Prop :=
  match productId, warehouseId with
  | some productId, _ => movement.productId = productId
  | none, some warehouseId => movement.sourceWarehouseId = some warehouseId ∨
      movement.destinationWarehouseId = some warehouseId
  | none, none => True

instance Movement.decidableMatches (productId warehouseId : Option UUID) (movement : Movement) :
    Decidable (movement.Matches productId warehouseId) :=
  match productId, warehouseId with
  | some productId, _ => inferInstanceAs (Decidable (movement.productId = productId))
  | none, some warehouseId => inferInstanceAs (Decidable
      (movement.sourceWarehouseId = some warehouseId ∨
        movement.destinationWarehouseId = some warehouseId))
  | none, none => inferInstanceAs (Decidable True)

def Tables.matching (tables : Tables) (productId warehouseId : Option UUID) : List Movement :=
  tables.movements.filter (fun movement => movement.Matches productId warehouseId)

/-- As soon as the pages reach the end, they hold every matching movement once, the newest
first, whatever orders the queries see. -/
def PagesCompletely (tables : Tables) (productId warehouseId : Option UUID) (limit : Nat) : Prop :=
  ∀ (orders : Nat → MovementOrders) (pages : Nat),
    (tables.matching productId warehouseId).length ≤ pages * limit →
      (auditTrail orders productId warehouseId limit tables pages).Perm
          (tables.matching productId warehouseId) ∧
        (auditTrail orders productId warehouseId limit tables pages).Pairwise newestFirst

/-- With a filter, no page ends between two movements of one time. Without one, there is
one page, and all its movements are of one time. -/
def Pageable (tables : Tables) (productId warehouseId : Option UUID) (limit : Nat) : Prop :=
  if productId = none ∧ warehouseId = none then
    tables.movements.length ≤ limit ∧ ∀ movement ∈ tables.movements, ∀ other ∈ tables.movements,
      movement.createdAt = other.createdAt
  else ∀ number createdAt,
    number * limit ≤ (tables.matching productId warehouseId).countP
        (fun movement => decide (createdAt < movement.createdAt)) ∨
      (tables.matching productId warehouseId).countP
        (fun movement => decide (createdAt ≤ movement.createdAt)) ≤ number * limit

section Trail

variable {tables : Tables} {productId warehouseId : Option UUID} {limit pages : Nat}

theorem warehouseCondition_eq (warehouseId : UUID) (movement : Movement) :
    MovementRepository.warehouseCondition warehouseId movement =
      decide (movement.Matches none (some warehouseId)) := by
  have column : ∀ id : Option UUID, Sql.isTrue (Sql.strict (fun id other => decide (id = other)) id
      (some warehouseId)) = decide (id = some warehouseId) := by
    intro id
    cases id <;> simp [Sql.strict, Sql.isTrue]
  rw [MovementRepository.warehouseCondition, Sql.isTrue_or, column, column, ← Bool.decide_or]
  rfl

theorem auditTrail_filtered (orders : Nat → MovementOrders)
    (filtered : ¬ (productId = none ∧ warehouseId = none)) :
    auditTrail orders productId warehouseId limit tables pages = Paging.pages limit
      (fun skip => (orders skip).newestFirst.arrange (tables.matching productId warehouseId))
      pages 0 := by
  rw [auditTrail, Paging.pages_eq_flatMap]
  congr 1
  funext number
  rw [Nat.zero_add]
  cases productId with
  | some productId => rfl
  | none =>
      cases warehouseId with
      | none => exact absurd ⟨rfl, rfl⟩ filtered
      | some warehouseId =>
          rw [listMovements, MovementRepository.listByWarehouse, Sql.select, Tables.matching,
            funext (warehouseCondition_eq warehouseId)]
          rfl

theorem matching_unfiltered : tables.matching none none = tables.movements :=
  List.filter_eq_self.mpr (fun _ _ => rfl)

theorem auditTrail_unfiltered (orders : Nat → MovementOrders) :
    auditTrail orders none none limit tables pages =
      Paging.pages limit (fun skip => (orders skip).unordered.arrange tables.movements) pages 0 := by
  rw [auditTrail, Paging.pages_eq_flatMap]
  congr 1
  funext number
  rw [Nat.zero_add, listMovements, MovementRepository.listAll, Sql.select,
    List.filter_eq_self.mpr (fun _ _ => rfl)]
  rfl

theorem matching_nodup (unique : (tables.movements.map (·.id)).Nodup) :
    (tables.matching productId warehouseId).Nodup :=
  (List.Nodup.of_map _ unique).filter _

/-- A filtered trail is complete if and only if no page ends within one time. -/
theorem filtered_iff (unique : (tables.movements.map (·.id)).Nodup) (positive : 0 < limit)
    (filtered : ¬ (productId = none ∧ warehouseId = none)) :
    PagesCompletely tables productId warehouseId limit ↔
      Paging.Uncut Movement.createdAt limit (tables.matching productId warehouseId) := by
  rw [← Paging.listed_pages_iff (matching_nodup unique) positive]
  simp only [PagesCompletely, auditTrail_filtered _ filtered]
  constructor
  · intro always listing listed pages enough
    obtain ⟨orders, arranged⟩ := (Sql.Order.byKey Movement.createdAt).exists_arrangements
      (fun skip => (listed skip).perm) (fun skip => (listed skip).sorted)
    obtain ⟨perm, sorted⟩ := always (fun skip => ⟨Sql.Order.stored Movement, orders skip⟩) pages enough
    rw [← arranged]
    exact ⟨perm, sorted⟩
  · intro always orders pages enough
    have listed : ∀ skip, Paging.Listed Movement.createdAt (tables.matching productId warehouseId)
        ((orders skip).newestFirst.arrange (tables.matching productId warehouseId)) := by
      intro skip
      exact ⟨(orders skip).newestFirst.perm _, (orders skip).newestFirst.sorted _⟩
    have complete := always _ listed pages enough
    exact ⟨complete.perm, complete.sorted⟩

theorem unfiltered_iff (unique : (tables.movements.map (·.id)).Nodup) (positive : 0 < limit) :
    PagesCompletely tables none none limit ↔ tables.movements.length ≤ limit ∧
      ∀ movement ∈ tables.movements, ∀ other ∈ tables.movements,
        movement.createdAt = other.createdAt := by
  rw [← Paging.unordered_pages_iff (List.Nodup.of_map _ unique) positive]
  simp only [PagesCompletely, auditTrail_unfiltered, matching_unfiltered]
  constructor
  · intro always listing perm pages enough
    obtain ⟨orders, arranged⟩ := (Sql.Order.stored Movement).exists_arrangements perm
      (fun _ => List.pairwise_of_forall (fun _ _ => True.intro))
    obtain ⟨same, sorted⟩ := always
      (fun skip => ⟨orders skip, Sql.Order.byKey Movement.createdAt⟩) pages enough
    rw [← arranged]
    exact ⟨same, sorted⟩
  · intro always orders pages enough
    have complete := always _ (fun skip => (orders skip).unordered.perm _) pages enough
    exact ⟨complete.perm, complete.sorted⟩

end Trail

/-- The audit trail pages completely and newest first exactly where it is `Pageable`. -/
theorem audit_trail_iff (tables : Tables) (unique : (tables.movements.map (·.id)).Nodup)
    (productId warehouseId : Option UUID) (limit : Nat) (positive : 0 < limit) :
    PagesCompletely tables productId warehouseId limit ↔
      Pageable tables productId warehouseId limit := by
  by_cases unfiltered : productId = none ∧ warehouseId = none
  · rw [Pageable, if_pos unfiltered]
    obtain ⟨rfl, rfl⟩ := unfiltered
    exact unfiltered_iff unique positive
  · rw [Pageable, if_neg unfiltered]
    exact filtered_iff unique positive unfiltered

/-! Two receipts, stored in the order they came in. -/

namespace Sample

def stockReceipt (id : RowId) (createdAt : Nat) : Movement where
  productId := product.id
  movementType := .IN
  quantity := 10
  sourceWarehouseId := none
  destinationWarehouseId := some main.id
  reason := none
  performedBy := none
  id := id
  createdAt := createdAt

def audited : Tables :=
  { world.tables with movements := [stockReceipt 0 0, stockReceipt 1 1] }

theorem audited_pageable : Pageable audited (some product.id) none 1 := by
  rw [Pageable, if_neg (by simp)]
  intro number createdAt
  have matching : audited.matching (some product.id) none = audited.movements := by decide
  rw [matching, audited]
  rcases createdAt with _ | _ | createdAt <;> simp [stockReceipt] <;> omega

end Sample

theorem audit_trail_iff_by_product : PagesCompletely Sample.audited (some Sample.product.id) none 1 :=
  (audit_trail_iff Sample.audited (by decide) (some Sample.product.id) none 1 (by decide)).mpr
    Sample.audited_pageable

/-- Unfiltered, the database may return the older receipt first. -/
theorem unfiltered_trail_oldest_first :
    ¬ ∀ (tables : Tables), (tables.movements.map (·.id)).Nodup →
      ∀ (productId warehouseId : Option UUID) (limit : Nat), 0 < limit →
        PagesCompletely tables productId warehouseId limit := by
  intro always
  have sorted := (always Sample.audited (by decide) none none 100 (by decide)
    (fun _ => ⟨Sql.Order.stored Movement, Sql.Order.byKey Movement.createdAt⟩) 1 (by decide)).2
  change [Sample.stockReceipt 0 0, Sample.stockReceipt 1 1].Pairwise newestFirst at sorted
  have newer := (List.pairwise_cons.mp sorted).1 _ List.mem_cons_self
  exact Nat.not_succ_le_zero 0 newer

end InventoryManagement
