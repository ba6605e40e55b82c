import InventoryManagement.Services.Sequential
import Mathlib.Data.List.Forall2

/-! The published movement events as a log of the stock: replayed from zero they
give the inventories table. -/

set_option autoImplicit false

namespace InventoryManagement

open Interleaving (Program)

/-- Stock rebuilt from events; a pair that no event named has no entry. -/
abbrev Stock := Pair → Option Int

def Stock.add (stock : Stock) (pair : Pair) (quantity : Int) : Stock :=
  Function.update stock pair (some ((stock pair).getD 0 + quantity))

def Stock.apply (stock : Stock) : InventoryEvent → Stock
  | .stockReceived productId warehouseId quantity _ => stock.add (productId, warehouseId) quantity
  | .stockRemoved productId warehouseId quantity _ => stock.add (productId, warehouseId) (-quantity)
  | .stockTransferred productId sourceWarehouseId destinationWarehouseId quantity =>
      (stock.add (productId, sourceWarehouseId) (-quantity)).add
        (productId, destinationWarehouseId) quantity
  | .lowStockDetected .. | .outOfStockDetected .. => stock

def replay (events : List InventoryEvent) : Stock := events.foldl Stock.apply (fun _ => none)

/-- The pair and the balance that an event reports. -/
def InventoryEvent.resulting : InventoryEvent → Option (Pair × Int)
  | .stockReceived productId warehouseId _ resultingQuantity
  | .stockRemoved productId warehouseId _ resultingQuantity =>
      some ((productId, warehouseId), resultingQuantity)
  | .stockTransferred .. | .lowStockDetected .. | .outOfStockDetected .. => none

/-- An event agrees with an audit record on type, product, warehouses and quantity. -/
def InventoryEvent.Describes (event : InventoryEvent) (movement : Movement) : Prop :=
  match event with
  | .stockReceived productId warehouseId quantity _ =>
      movement.movementType = .IN ∧ movement.productId = productId ∧
        movement.sourceWarehouseId = none ∧ movement.destinationWarehouseId = some warehouseId ∧
        movement.quantity = quantity
  | .stockRemoved productId warehouseId quantity _ =>
      movement.movementType = .OUT ∧ movement.productId = productId ∧
        movement.sourceWarehouseId = some warehouseId ∧ movement.destinationWarehouseId = none ∧
        movement.quantity = quantity
  | .stockTransferred productId sourceWarehouseId destinationWarehouseId quantity =>
      movement.movementType = .TRANSFER ∧ movement.productId = productId ∧
        movement.sourceWarehouseId = some sourceWarehouseId ∧
        movement.destinationWarehouseId = some destinationWarehouseId ∧
        movement.quantity = quantity
  | .lowStockDetected .. | .outOfStockDetected .. => False

def World.movementEvents (world : World) : List InventoryEvent :=
  world.published.filter InventoryEvent.isMovement

/-- The movement events correspond to the audit records and replay to the stock. -/
structure Replayed (world : World) : Prop where
  records : List.Forall₂ InventoryEvent.Describes world.movementEvents world.tables.movements
  stock : ∀ pair, (world.tables.inventoriesOf pair).map (·.quantity) =
    (replay world.movementEvents pair).toList
  resulting : ∀ earlier event later, world.movementEvents = earlier ++ event :: later →
    ∀ pair quantity, event.resulting = some (pair, quantity) →
      replay (earlier ++ [event]) pair = some quantity

theorem replay_append (events : List InventoryEvent) (event : InventoryEvent) :
    replay (events ++ [event]) = (replay events).apply event := by
  simp [replay, List.foldl_append]

theorem Replayed.quantity {world : World} (replayed : Replayed world) (pair : Pair) :
    world.tables.quantity pair = (replay world.movementEvents pair).getD 0 := by
  rw [Tables.quantity, replayed.stock]
  cases replay world.movementEvents pair <;> simp

section Movement

variable {settings : Settings} {answers : Nat → Answer}
variable {world before after : World} {session updated : Session}
variable {data : MovementCreate} {performedBy : Option UUID}
variable {affected : List Inventory} {movement : Movement}

structure Announces (data : MovementCreate) (movement : Movement) (affected : List Inventory)
    (event : InventoryEvent) : Prop where
  isMovement : event.isMovement = true
  describes : event.Describes movement
  apply : ∀ (stock : Stock) pair, stock.apply event pair =
    if pair ∈ data.pairs then some ((stock pair).getD 0 + movement.change pair) else stock pair
  resulting : ∀ pair quantity, event.resulting = some (pair, quantity) →
    data.pairs = [pair] ∧ quantity = resultingQuantity affected

theorem buildMovementEvent_announces (affected : List Inventory)
    (values : movement.toMovementValues = data.values performedBy) :
    ∃ event, buildMovementEvent data affected = .ret event ∧
      Announces data movement affected event := by
  have change : ∀ pair, movement.change pair = (data.values performedBy).change pair := by
    intro pair
    rw [values]
  rcases data.warehouses_cases with ⟨type, source, warehouse, destination⟩ |
    ⟨type, destination, warehouse, source⟩ | ⟨type, left, right, source, destination, different⟩
  · refine ⟨_, by simp only [buildMovementEvent, type, destination]; rfl, rfl, ?_, ?_, ?_⟩
    · simp [InventoryEvent.Describes, values, MovementCreate.values, type, source, destination]
    · intro stock pair
      simp only [Stock.apply, Stock.add, MovementPayload.pairs, source, destination, change,
        change_values]
      by_cases here : pair = (data.productId, warehouse) <;> simp [here]
    · intro pair quantity reported
      cases reported
      exact ⟨by simp [MovementPayload.pairs, source, destination], rfl⟩
  · refine ⟨_, by simp only [buildMovementEvent, type, source]; rfl, rfl, ?_, ?_, ?_⟩
    · simp [InventoryEvent.Describes, values, MovementCreate.values, type, source, destination]
    · intro stock pair
      simp only [Stock.apply, Stock.add, MovementPayload.pairs, source, destination, change,
        change_values]
      by_cases here : pair = (data.productId, warehouse) <;> simp [here]
    · intro pair quantity reported
      cases reported
      exact ⟨by simp [MovementPayload.pairs, source, destination], rfl⟩
  · refine ⟨_, by simp only [buildMovementEvent, type, source, destination]; rfl, rfl, ?_, ?_, ?_⟩
    · simp [InventoryEvent.Describes, values, MovementCreate.values, type, source, destination]
    · intro stock pair
      simp only [Stock.apply, Stock.add, MovementPayload.pairs, source, destination, change,
        change_values]
      by_cases first : pair = (data.productId, left)
      · simp [first, different]
      · by_cases second : pair = (data.productId, right) <;> simp [first, second, different.symm]
    · intro pair quantity reported
      cases reported

theorem Replayed.append {event : InventoryEvent} (replayed : Replayed before)
    (announces : Announces data movement affected event)
    (done : MovementDone before data performedBy affected movement session world)
    (inventories : after.tables.inventories = world.tables.inventories)
    (movements : after.tables.movements = world.tables.movements)
    (published : after.movementEvents = before.movementEvents ++ [event]) : Replayed after := by
  have rows : ∀ pair, after.tables.inventoriesOf pair = world.tables.inventoriesOf pair := by
    intro pair
    rw [Tables.inventoriesOf, inventories, Tables.inventoriesOf]
  have applied : ∀ pair, replay after.movementEvents pair = if pair ∈ data.pairs then
      some (before.tables.quantity pair + movement.change pair) else
        replay before.movementEvents pair := by
    intro pair
    rw [published, replay_append, announces.apply, replayed.quantity]
  have balance : ∀ row ∈ affected,
      row.quantity = before.tables.quantity row.pair + movement.change row.pair := by
    intro row member
    rw [← done.quantity, Tables.quantity, done.stored row member]
    simp
  refine ⟨?_, ?_, ?_⟩
  · rw [published, movements, done.movements]
    exact List.rel_append replayed.records (.cons announces.describes .nil)
  · intro pair
    rw [rows, applied]
    by_cases named : pair ∈ data.pairs
    · rw [if_pos named]
      obtain ⟨row, member, rfl⟩ := List.mem_map.mp (done.posted.pairs ▸ named)
      simp [done.stored row member, balance row member]
    · rw [if_neg named, done.elsewhere pair named]
      exact replayed.stock pair
  · intro earlier reported later split pair quantity resulting
    rw [published] at split
    rcases List.eq_nil_or_concat later with rfl | ⟨front, last, rfl⟩
    · obtain ⟨rfl, same⟩ := List.append_inj' split rfl
      cases same
      obtain ⟨only, rfl⟩ := announces.resulting pair quantity resulting
      rw [← published, applied, if_pos (by simp [only])]
      have pairs := done.posted.pairs
      rw [only] at pairs
      obtain ⟨row, rfl, here⟩ := List.map_eq_singleton_iff.mp pairs
      have amount := balance row (by simp)
      rw [here] at amount
      simp [resultingQuantity, amount]
    · have split : before.movementEvents ++ [event] = (earlier ++ reported :: front) ++ [last] := by
        simpa using split
      have same := List.append_inj_left' split rfl
      exact replayed.resulting earlier reported front same pair quantity resulting

/-- A request that changes no stock and announces no movement. -/
theorem Replayed.keep (replayed : Replayed before)
    (inventories : after.tables.inventories = before.tables.inventories)
    (movements : after.tables.movements = before.tables.movements)
    (published : after.movementEvents = before.movementEvents) : Replayed after := by
  refine ⟨?_, ?_, ?_⟩
  · rw [published, movements]
    exact replayed.records
  · intro pair
    rw [published, Tables.inventoriesOf, inventories]
    exact replayed.stock pair
  · rw [published]
    exact replayed.resulting

theorem movementEvents_append {events : List InventoryEvent}
    (published : after.published = before.published ++ events)
    (quiet : ∀ event ∈ events, event.isMovement = false) :
    after.movementEvents = before.movementEvents := by
  have none : events.filter InventoryEvent.isMovement = [] := by
    rw [List.filter_eq_nil_iff]
    intro event member
    simp [quiet event member]
  rw [World.movementEvents, published, List.filter_append, none, List.append_nil,
    World.movementEvents]

theorem posted_resting (posted : Posted data affected movement session world) :
    Resting settings session [] session := by
  refine ⟨posted.clean, ?_, rfl, Nat.le_refl _, rfl, rfl, by simp⟩
  intro lookup object pending
  rw [posted.pending] at pending
  cases pending

/-- What follows a commit, with nobody else active and a healthy database, returns and
publishes the movement's event. -/
theorem Replayed.announce (healthy : ∀ n, (answers n).fails = false) (replayed : Replayed before)
    (atMostOne : AtMostOneActive before.tables)
    (done : MovementDone before data performedBy affected movement session world)
    (elapsed : Nat) :
    Replayed (((announceMovement settings data affected).bind (fun _ => .ret movement)).run
      environment answers elapsed world session).shared := by
  obtain ⟨event, built, announces⟩ := buildMovementEvent_announces affected done.values
  have evaluates : Request.Evaluates (.movement data performedBy) session := by
    change session.recorded ≠ []
    rw [done.posted.recorded]
    exact List.cons_ne_nil _ _
  have unique : AtMostOneActive world.tables := by
    intro pair
    rw [Tables.activeAlerts, done.alerts]
    exact atMostOne pair
  obtain ⟨_, evaluated, rested, later, ran, _⟩ := evaluateAffected_alone settings
    healthy done.valid unique (posted_resting done.posted) evaluates done.posted.known elapsed
  have kept := keepsStock_run answers world
    ((evaluateAffected_concernsAlerts settings affected).mono
      (fun _ => Statement.keepsStock_of_concernsAlerts)) done.posted.clean.toUnlocked elapsed
  obtain ⟨events, published, quiet⟩ := concernsAlerts_run answers world session
    (evaluateAffected_concernsAlerts settings affected) elapsed
  rw [ran] at kept published
  have ended : (((announceMovement settings data affected).bind (fun _ => .ret movement)).run
      environment answers elapsed world session).shared =
        { evaluated with published := evaluated.published ++ [event] } := by
    simp only [announceMovement, Program.bind_eq, built, Program.ret_bind, Program.bind_assoc,
      Program.run_bind, ran]
    rfl
  rw [ended]
  refine replayed.append announces done kept.inventories kept.movements ?_
  have earlier : evaluated.movementEvents = before.movementEvents :=
    movementEvents_append (by rw [published, done.published]) quiet
  simpa [World.movementEvents, announces.isMovement] using earlier

end Movement

/-- Requests served one after another. Database failures are part of it as long as
they do not interrupt a movement after its commit. -/
inductive Served (settings : Settings) (start : World) : World → Prop
  | start : Served settings start start
  | next {world : World} (served : Served settings start world) (request : Request)
      (answers : Nat → Answer)
      (uninterrupted : ∀ data performedBy, request = .movement data performedBy →
        (∀ n, (answers n).fails = false) ∨
          (runAlone answers world (request.program settings)).session.commits = 0) :
      Served settings start (runAlone answers world (request.program settings)).shared

section Request

variable {settings : Settings} {answers : Nat → Answer} {world : World}

theorem Replayed.movement (valid : world.Valid) (atMostOne : AtMostOneActive world.tables)
    (replayed : Replayed world) (data : MovementCreate) (performedBy : Option UUID)
    (uninterrupted : (∀ n, (answers n).fails = false) ∨
      (runAlone answers world (recordMovement settings data performedBy)).session.commits = 0) :
    Replayed (runAlone answers world (recordMovement settings data performedBy)).shared := by
  have untouched : ∀ after, world.Untouched after → Replayed after := by
    intro after same
    refine replayed.keep (by rw [same.tables]) (by rw [same.tables]) ?_
    rw [World.movementEvents, same.published, World.movementEvents]
  rcases uninterrupted with healthy | nothing
  · rcases recordMovement_run valid settings answers data performedBy with
      ⟨same, _, _⟩ | ⟨affected, movement, session, committed, elapsed, done, ran⟩
    · exact untouched _ same
    · rw [runAlone, ran]
      exact replayed.announce healthy atMostOne done elapsed
  · exact untouched _ (recordMovement_traceless valid settings answers data performedBy nothing)

theorem Replayed.request (valid : world.Valid) (atMostOne : AtMostOneActive world.tables)
    (replayed : Replayed world) (request : Request)
    (uninterrupted : ∀ data performedBy, request = .movement data performedBy →
      (∀ n, (answers n).fails = false) ∨
        (runAlone answers world (request.program settings)).session.commits = 0) :
    Replayed (runAlone answers world (request.program settings)).shared := by
  by_cases moves : ∃ data performedBy, request = .movement data performedBy
  · obtain ⟨data, performedBy, rfl⟩ := moves
    obtain ⟨shared, session⟩ := movement_alone settings answers world data performedBy
    rw [shared]
    exact replayed.movement valid atMostOne data performedBy
      (session ▸ uninterrupted data performedBy rfl)
  · have concerns := request_concernsAlerts settings request
      (fun data performedBy same => moves ⟨data, performedBy, same⟩)
    have kept := keepsStock_run answers world
      (concerns.mono (fun _ => Statement.keepsStock_of_concernsAlerts))
      (⟨rfl, rfl, rfl⟩ : Session.Unlocked {}) 0
    obtain ⟨events, published, quiet⟩ := concernsAlerts_run answers world {} concerns 0
    exact replayed.keep kept.inventories kept.movements (movementEvents_append published quiet)

end Request

/-- The movement events of every sequential run replay to its stock. A movement call in it
meets no database failure, or ends before its commit. -/
theorem movement_events_replay_to_stock (settings : Settings) (world : World)
    (valid : world.Valid) (noInventories : world.tables.inventories = [])
    (noMovements : world.tables.movements = []) (noAlerts : world.tables.alerts = [])
    (unpublished : world.published = []) (after : World) (served : Served settings world after) :
    Replayed after := by
  have start : Replayed world := by
    refine ⟨?_, ?_, ?_⟩ <;> simp [World.movementEvents, unpublished, noMovements, replay,
      Tables.inventoriesOf, noInventories]
  have unique : AtMostOneActive world.tables := by
    intro pair
    simp [Tables.activeAlerts, noAlerts]
  have invariant : after.Valid ∧ AtMostOneActive after.tables ∧ Replayed after := by
    induction served with
    | start => exact ⟨valid, unique, start⟩
    | next _ request answers uninterrupted ih =>
        obtain ⟨validBefore, uniqueBefore, replayed⟩ := ih
        obtain ⟨validAfter, uniqueAfter⟩ :=
          request_alone settings answers request validBefore uniqueBefore
        exact ⟨validAfter, uniqueAfter,
          replayed.request validBefore uniqueBefore request uninterrupted⟩
  exact invariant.2.2

/-- A receipt and a shipment; the broker refuses the notification of the second. -/
def Sample.served : World :=
  (runAlone (fun _ => { brokerRaises := true })
    (runAlone (fun _ => {}) Sample.world
      (Request.program {} (.movement Sample.receive25 none))).shared
    (Request.program {} (.movement Sample.ship20 none))).shared

theorem movement_events_replay_to_stock_sample :
    Replayed Sample.served ∧ Sample.served.movementEvents = [
      .stockReceived Sample.product.id Sample.main.id 25 25,
      .stockRemoved Sample.product.id Sample.main.id 20 5] := by
  refine ⟨?_, by decide +kernel⟩
  exact movement_events_replay_to_stock {} Sample.world Sample.world_valid rfl rfl rfl rfl _
    (.next (.next .start _ _ (fun _ _ _ => .inl (fun _ => rfl))) _ _
      (fun _ _ _ => .inl (fun _ => rfl)))

end InventoryManagement
