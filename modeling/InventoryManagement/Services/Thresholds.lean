import InventoryManagement.Services.Sequential

/-! Thresholds are configured out of band: no request changes one. -/

set_option autoImplicit false

namespace InventoryManagement

open Interleaving (Program)

/-- The thresholds that have been configured. -/
def Tables.thresholds (tables : Tables) (pair : Pair) : Option Int :=
  (tables.inventoriesOf pair).head?.bind (·.lowStockThreshold)

/-- New inventory rows are inserted without a threshold. -/
def Statement.plain : Statement → Bool
  | .insertInventory inventory => inventory.lowStockThreshold.isNone
  | _ => true

variable {world before after : World} {session updated : Session} {thresholds : Pair → Option Int}

private abbrev Plain {Value : Type} (program : Transaction Value) : Prop :=
  program.Only (fun statement => statement.plain = true)

theorem Statement.plain_of_keepsStock {statement : Statement} (keeps : statement.keepsStock = true) :
    statement.plain = true := by
  cases statement with
  | insertInventory inventory => cases keeps
  | _ => rfl

theorem flushQuantity_plain (inventory : Inventory) (quantity : Int) :
    Plain (flushQuantity inventory quantity) := ⟨rfl, fun _ => trivial⟩

theorem locked_plain {Value : Type} {productId warehouseId : UUID}
    {next : Option Inventory → Transaction Value} (rest : ∀ found, Plain (next found)) :
    Plain ((getWarehouseByIdOrRaise warehouseId).bind fun _ =>
      (getByProductAndWarehouseForUpdate productId warehouseId).bind next) := by
  refine Program.Only.bind ⟨rfl, fun entity => getByIdOrRaise_only _ _ _ entity⟩ (fun _ => ?_)
  exact Program.Only.bind ⟨rfl, fun rows => scalarOneOrNone_only _ rows⟩ rest

theorem increaseStock_plain (productId warehouseId : UUID) (quantity : Int) :
    Plain (increaseStock productId warehouseId quantity) := by
  refine locked_plain (fun found => ?_)
  cases found with
  | none => exact ⟨rfl, fun row => flushQuantity_plain row _⟩
  | some row => exact flushQuantity_plain row _

theorem decreaseStock_plain (productId warehouseId : UUID) (quantity : Int) :
    Plain (decreaseStock productId warehouseId quantity) := by
  refine locked_plain (fun found => ?_)
  cases found with
  | none => trivial
  | some row =>
      by_cases short : row.quantity < quantity
      · simp only [short, if_true]
        trivial
      · simp only [short, if_false]
        exact flushQuantity_plain row _

theorem transferStock_plain (productId sourceId destinationId : UUID) (quantity : Int) :
    Plain (transferStock productId sourceId destinationId quantity) := by
  unfold transferStock
  split
  · exact (decreaseStock_plain _ _ _).bind (fun _ =>
      (increaseStock_plain _ _ _).bind (fun _ => trivial))
  · exact (increaseStock_plain _ _ _).bind (fun _ =>
      (decreaseStock_plain _ _ _).bind (fun _ => trivial))

theorem applyMovement_plain (data : MovementCreate) : Plain (applyMovement data) := by
  unfold applyMovement
  split
  · exact (increaseStock_plain _ _ _).bind (fun _ => trivial)
  · exact (decreaseStock_plain _ _ _).bind (fun _ => trivial)
  · exact (transferStock_plain _ _ _ _).bind (fun _ => trivial)
  · trivial

theorem request_plain (settings : Settings) (request : Request) :
    Plain (request.program settings) := by
  have quiet : ConcernsAlerts (request.program settings) → Plain (request.program settings) :=
    fun concerns => concerns.mono fun _ concerned =>
      Statement.plain_of_keepsStock (Statement.keepsStock_of_concernsAlerts concerned)
  cases request with
  | movement data performedBy =>
      change Plain ((recordMovement settings data performedBy).bind _)
      rw [recordMovement_eq]
      refine Program.Only.bind (Program.Only.bind ?_ fun prepared => ⟨rfl, fun _ => ?_⟩)
        (fun _ => trivial)
      · refine Program.Only.bind ⟨rfl, fun entity => getByIdOrRaise_only _ _ _ entity⟩ (fun _ => ?_)
        exact (applyMovement_plain data).bind (fun _ => ⟨rfl, fun _ => trivial⟩)
      · exact ((announceMovement_keepsStock settings data prepared.1).mono
          fun _ => Statement.plain_of_keepsStock).bind (fun _ => trivial)
  | sweep fuel =>
      exact quiet (request_concernsAlerts settings (.sweep fuel) (fun _ _ same => by cases same))
  | resolveAlert alertId =>
      exact quiet
        (request_concernsAlerts settings (.resolveAlert alertId) (fun _ _ same => by cases same))

theorem thresholds_same {tables others : Tables}
    (inventories : tables.inventories = others.inventories) :
    tables.thresholds = others.thresholds := by
  funext pair
  rw [Tables.thresholds, Tables.inventoriesOf, inventories]
  rfl

/-- The rows of an open transaction have the configured thresholds. -/
structure Configured (thresholds : Pair → Option Int) (session : Session) (world : World) :
    Prop where
  valid : world.Valid
  sound : session.Sound world
  stored : world.tables.thresholds = thresholds
  held : ∀ row ∈ session.rows, row.lowStockThreshold = thresholds row.pair

theorem Configured.commit {dirty : List (RowId × AlertChange)}
    (configured : Configured thresholds session world) :
    (world.tables.commit session dirty).thresholds = thresholds := by
  funext pair
  rw [Tables.thresholds, Tables.inventoriesOf_commit configured.sound]
  cases found : session.row? pair with
  | none => exact congrFun configured.stored pair
  | some row =>
      obtain ⟨held, rfl⟩ := Session.row?_some found
      exact configured.held row held

theorem stored_threshold (valid : world.Valid) {row : Inventory}
    (stored : row ∈ world.tables.inventories) :
    world.tables.thresholds row.pair = row.lowStockThreshold := by
  rw [Tables.thresholds, valid.inventoriesOf_of_mem stored]
  rfl

theorem replaceRow_held {rows : List Inventory} {row : Inventory}
    (held : ∀ row ∈ rows, row.lowStockThreshold = thresholds row.pair)
    (same : row.lowStockThreshold = thresholds row.pair) :
    ∀ other ∈ replaceRow rows row, other.lowStockThreshold = thresholds other.pair := by
  intro other member
  rw [replaceRow] at member
  split at member
  · obtain ⟨earlier, among, rfl⟩ := List.mem_map.mp member
    split
    · exact same
    · exact held earlier among
  · rcases List.mem_append.mp member with before | last
    · exact held other before
    · exact List.mem_singleton.mp last ▸ same

theorem respond_held {statement : Statement} {answer : Answer} {response : statement.Response}
    (plain : statement.plain = true)
    (executed : respond statement answer [] world session = .done response after updated)
    (configured : Configured thresholds session world) :
    ∀ row ∈ updated.rows, row.lowStockThreshold = thresholds row.pair := by
  cases statement
  case selectInventoryForUpdate productId warehouseId =>
    simp only [respond, selectInventoryForUpdate] at executed
    split at executed
    · cases executed
      exact configured.held
    · split at executed
      · cases executed
        exact configured.held
      · split at executed
        · cases executed
        · cases executed
          intro row member
          rcases List.mem_append.mp member with before | locked
          · exact configured.held row before
          · rw [← configured.stored]
            exact (stored_threshold configured.valid (Tables.mem_inventoriesOf.mp locked).1).symm
  case insertInventory inventory =>
    simp only [respond, insertInventory] at executed
    split at executed
    · cases executed
    · split at executed
      · cases executed
      · next fresh =>
          (repeat' split at executed) <;> cases executed
          intro row member
          rcases List.mem_append.mp member with before | inserted
          · exact configured.held row before
          · rw [List.mem_singleton] at inserted
            subst inserted
            rw [not_or, not_not] at fresh
            rw [← configured.stored, Tables.thresholds, fresh.1]
            exact Option.isNone_iff_eq_none.mp plain
  case updateInventory inventory =>
    simp only [respond, updateInventory] at executed
    split at executed
    · cases executed
    · split at executed
      · cases executed
      · next row found =>
          cases executed
          obtain ⟨held, _⟩ := Session.row?_some found
          exact replaceRow_held configured.held (configured.held row held)
  case commit dirty =>
    simp only [respond, commit] at executed
    split at executed <;> cases executed
    intro row member
    cases member
  all_goals
    simp only [respond, insertMovement, insertAlert, selectActiveAlerts, refreshAlert,
      selectInventories, dispatch, gather, delay] at executed
    (repeat' split at executed) <;> cases executed <;> exact configured.held

theorem execute_configured {statement : Statement} {answer : Answer}
    {response : statement.Response} (plain : statement.plain = true)
    (executed : execute statement answer [] world session = .done response after updated)
    (configured : Configured thresholds session world) : Configured thresholds updated after := by
  obtain ⟨valid, sound, _⟩ := databaseDiscipline.execute_done _ _ _ _ _ _ _ _ executed
    configured.valid configured.sound (by simp)
  have answered := execute_done executed
  refine ⟨valid, sound, ?_, respond_held plain answered configured⟩
  by_cases commits : ∃ dirty, statement = .commit dirty
  · obtain ⟨dirty, rfl⟩ := commits
    simp only [respond, commit] at answered
    split at answered <;> cases answered
    exact configured.commit
  · obtain ⟨tables, _⟩ := respond_uncommitted (fun dirty same => commits ⟨dirty, same⟩) answered
    rw [tables]
    exact configured.stored

theorem request_thresholds (settings : Settings) (answers : Nat → Answer) (request : Request)
    (valid : world.Valid) :
    (runAlone answers world (request.program settings)).shared.tables.thresholds =
      world.tables.thresholds := by
  have configured : Configured world.tables.thresholds {} world :=
    ⟨valid, Session.fresh_sound world, rfl, fun _ held => by cases held⟩
  refine ((request_plain settings request).run environment answers
    (fun after updated => Configured world.tables.thresholds updated after) 0 configured ?_).stored
  intro statement answer before session response after updated plain executed kept
  exact execute_configured plain executed kept

end InventoryManagement
