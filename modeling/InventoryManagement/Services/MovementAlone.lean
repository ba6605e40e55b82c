import InventoryManagement.Interleaving.Alone
import InventoryManagement.Services.Ledger

/-! A movement request with nobody else active: when it commits, and what is left
of it when it does not. -/

set_option autoImplicit false

namespace InventoryManagement

open Interleaving (Program Outcome)

variable {answers : Nat → Answer} {world : World} {session : Session}
variable {change : Pair → Int} {rows : List Inventory}

theorem execute_healthy {answer : Answer} (healthy : answer.fails = false) (statement : Statement)
    (others : List Session) (world : World) (session : Session) :
    execute statement answer others world session =
      respond statement answer others world session := by
  simp [execute, healthy]

theorem returns_statement {Value : Type} (healthy : ∀ n, (answers n).fails = false)
    {statement : Statement} {next : statement.Response → Transaction Value}
    {post : Value → World → Session → Prop}
    (answered : ∀ n, ∃ response after updated,
      respond statement (answers n) [] world session = .done response after updated ∧
        (next response).Returns environment answers after updated post) :
    (Program.call statement next : Transaction Value).Returns environment answers world session
      post := by
  refine Program.returns_call (fun n => ?_)
  obtain ⟨response, after, updated, done, returns⟩ := answered n
  exact ⟨response, after, updated, (execute_healthy (healthy n) _ _ _ _).trans done, returns⟩

theorem raises_statement {Value : Type} (healthy : ∀ n, (answers n).fails = false)
    {statement : Statement} {next : statement.Response → Transaction Value}
    {post : Exception → World → Session → Prop}
    (answered : ∀ n, ∃ response after updated,
      respond statement (answers n) [] world session = .done response after updated ∧
        (next response).Raises environment answers after updated post) :
    (Program.call statement next : Transaction Value).Raises environment answers world session
      post := by
  refine Program.raises_call (fun n => ?_)
  obtain ⟨response, after, updated, done, raises⟩ := answered n
  exact ⟨response, after, updated, (execute_healthy (healthy n) _ _ _ _).trans done, raises⟩

theorem other_leg {pair other : Pair} {delta : Int} {before : Session} {row : Inventory}
    (moved : Moved change [] pair delta before row session world) (different : pair ≠ other) :
    ∀ held ∈ [] ++ [row], held.pair ≠ other := by
  intro held member
  rw [List.mem_singleton.mp member, moved.1]
  exact different

section Stock

variable (healthy : ∀ n, (answers n).fails = false)
include healthy

theorem getProduct_alone {id : UUID} (exists_ : world.tables.hasProduct id = true) :
    (getProductByIdOrRaise id).Returns environment answers world session
      (fun _ after updated => world = after ∧ session = updated) := by
  refine returns_statement healthy (fun n => ⟨_, _, _, rfl, ?_⟩)
  cases found : world.tables.product? id with
  | none => simp [Tables.hasProduct, found] at exists_
  | some product => exact Program.returns_ret ⟨rfl, rfl⟩

theorem getProduct_missing {id : UUID} (missing : world.tables.hasProduct id = false) :
    (getProductByIdOrRaise id).Raises environment answers world session
      (fun error _ _ => error.isAppException = true) := by
  refine raises_statement healthy (fun n => ⟨_, _, _, rfl, ?_⟩)
  cases found : world.tables.product? id with
  | none => exact Program.raises_raise rfl
  | some product => simp [Tables.hasProduct, found] at missing

theorem getWarehouse_alone {id : UUID} (exists_ : world.tables.hasWarehouse id = true) :
    (getWarehouseByIdOrRaise id).Returns environment answers world session
      (fun _ after updated => world = after ∧ session = updated) := by
  refine returns_statement healthy (fun n => ⟨_, _, _, rfl, ?_⟩)
  cases found : world.tables.warehouse? id with
  | none => simp [Tables.hasWarehouse, found] at exists_
  | some warehouse => exact Program.returns_ret ⟨rfl, rfl⟩

theorem getWarehouse_missing {id : UUID} (missing : world.tables.hasWarehouse id = false) :
    (getWarehouseByIdOrRaise id).Raises environment answers world session
      (fun error _ _ => error.isAppException = true) := by
  refine raises_statement healthy (fun n => ⟨_, _, _, rfl, ?_⟩)
  cases found : world.tables.warehouse? id with
  | none => exact Program.raises_raise rfl
  | some warehouse => simp [Tables.hasWarehouse, found] at missing

theorem getForUpdate_alone (valid : world.Valid) {productId warehouseId : UUID}
    (applying : Applying change rows session world)
    (fresh : ∀ row ∈ rows, row.pair ≠ (productId, warehouseId)) :
    (getByProductAndWarehouseForUpdate productId warehouseId).Returns environment answers world
      session (fun found after updated => world = after ∧
        updated.movements = session.movements ∧
        world.tables.inventoriesOf (productId, warehouseId) = found.toList ∧
        Applying change (rows ++ found.toList) updated world) := by
  have absent : session.row? (productId, warehouseId) = none := by
    rw [Session.row?_none, applying.held]
    exact fresh
  rcases valid.inventoriesOf_cases (productId, warehouseId) with none | ⟨row, one⟩
  · refine returns_statement healthy (fun n => ⟨[], world, session, ?_, ?_⟩)
    · simp only [respond, selectInventoryForUpdate, absent, none]
    · exact Program.returns_ret ⟨rfl, rfl, none, by simpa using applying⟩
  · have here : row.pair = (productId, warehouseId) :=
      (Tables.mem_inventoriesOf.mp (by rw [one]; simp)).2
    refine returns_statement healthy (fun n => ⟨[row], world, { session with
      rows := session.rows ++ [row], objects := session.objects ++ [row] }, ?_, ?_⟩)
    · simp only [respond, selectInventoryForUpdate, absent, one, held, List.any_nil,
        Bool.false_eq_true, if_false]
    · refine Program.returns_ret ⟨rfl, rfl, one, applying.lock row ?_ ?_ ?_ ?_ rfl rfl⟩
      · rw [here]
        exact fresh
      · simp [Tables.quantity, here, one]
      · rw [applying.held]
      · rw [applying.objects]

theorem createInventory_alone {productId warehouseId : UUID}
    (refers : world.tables.hasPair (productId, warehouseId) = true)
    (unused : world.tables.inventoriesOf (productId, warehouseId) = [])
    (applying : Applying change rows session world)
    (fresh : ∀ row ∈ rows, row.pair ≠ (productId, warehouseId)) :
    (createInventory { productId, warehouseId, quantity := 0 }).Returns environment answers world
      session (fun row after updated => world = after ∧ updated.movements = session.movements ∧
        row.pair = (productId, warehouseId) ∧ Applying change (rows ++ [row]) updated world) := by
  have row : Inventory.pair { productId, warehouseId, quantity := 0 } = (productId, warehouseId) :=
    rfl
  have free : ¬ (world.tables.inventoriesOf (productId, warehouseId) ≠ [] ∨
      session.holds (productId, warehouseId) = true) := by
    rw [not_or, not_not]
    refine ⟨unused, fun holds => ?_⟩
    obtain ⟨mine, member, same⟩ := holds_iff.mp holds
    exact fresh mine (applying.held ▸ member) same
  have quantity : Integer.fits 0 = true := by decide
  refine returns_statement healthy (fun n => ⟨{ productId, warehouseId, quantity := 0 }, world,
    { session with
      rows := session.rows ++ [{ productId, warehouseId, quantity := 0 }]
      inserted := (productId, warehouseId) :: session.inserted
      objects := session.objects ++ [{ productId, warehouseId, quantity := 0 }] }, ?_,
    Program.returns_ret ⟨rfl, rfl, rfl, applying.lock _ fresh ?_ ?_ ?_ rfl rfl⟩⟩)
  · simp only [respond, insertInventory, insertedElsewhere, List.any_nil, Bool.false_eq_true,
      if_false, row, free, refers, quantity, Option.all_none, and_self, not_true_eq_false]
  · have stored : world.tables.quantity (productId, warehouseId) = 0 := by
      simp [Tables.quantity, unused]
    exact stored.symm
  · rw [applying.held]
  · rw [applying.objects]

theorem flushQuantity_alone {row : Inventory} {delta : Int}
    (applying : Applying change (rows ++ [row]) session world)
    (fresh : ∀ other ∈ rows, other.pair ≠ row.pair)
    (fits : Integer.fits (row.quantity + delta) = true)
    (nonnegative : 0 ≤ row.quantity → 0 ≤ row.quantity + delta) :
    (flushQuantity row (row.quantity + delta)).Returns environment answers world session
      (fun result after updated => world = after ∧ Moved change rows row.pair delta session result
        updated world) := by
  have found : session.row? row.pair = some row := by
    rw [Session.row?, applying.held, List.find?_append]
    have absent : rows.find? (fun other => other.pair = row.pair) = none := by
      simpa using fresh
    simp [absent]
  have same : Inventory.pair { row with quantity := row.quantity + delta } = row.pair := rfl
  refine returns_statement healthy (fun n => ⟨(), world, { session with
    rows := replaceRow session.rows { row with quantity := row.quantity + delta }
    objects := replaceRow session.objects { row with quantity := row.quantity + delta } }, ?_,
    Program.returns_ret ⟨rfl, rfl, rfl, applying.flush fresh nonnegative ?_ ?_ rfl rfl⟩⟩)
  · simp only [respond, updateInventory, fits, not_true_eq_false, if_false, same, found]
  · change replaceRow session.rows _ = _
    rw [applying.held]
    exact replaceRow_last rfl fresh
  · change replaceRow session.objects _ = _
    rw [applying.objects]
    exact replaceRow_last rfl fresh

theorem increaseStock_alone (valid : world.Valid) {productId warehouseId : UUID} {quantity : Int}
    (positive : 0 < quantity) (product : world.tables.hasProduct productId = true)
    (warehouse : world.tables.hasWarehouse warehouseId = true)
    (fits : Integer.fits (world.tables.quantity (productId, warehouseId) + quantity) = true)
    (applying : Applying change rows session world)
    (fresh : ∀ row ∈ rows, row.pair ≠ (productId, warehouseId)) :
    (increaseStock productId warehouseId quantity).Returns environment answers world session
      (fun row after updated => world = after ∧
        Moved change rows (productId, warehouseId) quantity session row updated world) := by
  refine (getWarehouse_alone healthy warehouse).bind ?_
  intro _ _ _ ensured
  obtain ⟨rfl, rfl⟩ := ensured
  refine (getForUpdate_alone healthy valid applying fresh).bind ?_
  intro found _ updated ensured
  obtain ⟨rfl, movements, stored, locked⟩ := ensured
  have flushed : ∀ {row : Inventory} {middle : Session}, row.pair = (productId, warehouseId) →
      middle.movements = session.movements → Applying change (rows ++ [row]) middle world →
      (flushQuantity row (row.quantity + quantity)).Returns environment answers world middle
        (fun result after last => world = after ∧
          Moved change rows (productId, warehouseId) quantity session result last world) := by
    intro row middle here kept held
    have base : row.quantity = world.tables.quantity (productId, warehouseId) := by
      have changed := held.changed row (by simp)
      have none := applying.unchanged (productId, warehouseId) fresh
      rw [here, none] at changed
      omega
    refine (flushQuantity_alone healthy held (here ▸ fresh) (base ▸ fits) (by omega)).mono ?_
    intro result after last ensured
    obtain ⟨same, pair, moved, rest⟩ := ensured
    exact ⟨same, pair.trans here, moved.trans kept, here ▸ rest⟩
  cases found with
  | some row =>
      have here : row.pair = (productId, warehouseId) :=
        (Tables.mem_inventoriesOf.mp (by rw [stored]; simp)).2
      exact flushed here movements locked
  | none =>
      have refers : world.tables.hasPair (productId, warehouseId) = true := by
        simp [Tables.hasPair, product, warehouse]
      have locked : Applying change rows updated world := by simpa using locked
      refine (createInventory_alone healthy refers stored locked fresh).bind ?_
      intro row _ middle ensured
      obtain ⟨rfl, kept, here, held⟩ := ensured
      exact flushed here (kept.trans movements) held

/-- The source of a movement: its warehouse exists and its row has enough. -/
def Tables.Ships (tables : Tables) (pair : Pair) (quantity : Int) : Prop :=
  tables.hasWarehouse pair.2 = true ∧
    ∃ row ∈ tables.inventories, row.pair = pair ∧ quantity ≤ row.quantity

theorem decreaseStock_alone (valid : world.Valid) {productId warehouseId : UUID} {quantity : Int}
    (positive : 0 < quantity) (ships : world.tables.Ships (productId, warehouseId) quantity)
    (applying : Applying change rows session world)
    (fresh : ∀ row ∈ rows, row.pair ≠ (productId, warehouseId)) :
    (decreaseStock productId warehouseId quantity).Returns environment answers world session
      (fun row after updated => world = after ∧
        Moved change rows (productId, warehouseId) (-quantity) session row updated world) := by
  obtain ⟨warehouse, row, committed, here, enough⟩ := ships
  have one := valid.inventoriesOf_of_mem committed
  rw [here] at one
  refine (getWarehouse_alone healthy warehouse).bind ?_
  intro _ _ _ ensured
  obtain ⟨rfl, rfl⟩ := ensured
  refine (getForUpdate_alone healthy valid applying fresh).bind ?_
  intro found _ updated ensured
  obtain ⟨rfl, movements, stored, locked⟩ := ensured
  rw [one] at stored
  cases found with
  | none => cases stored
  | some other =>
      cases stored
      have fits : Integer.fits (row.quantity + -quantity) = true := by
        have range := (valid.inventories_fit row committed).quantity
        simp only [Integer.fits, Bool.and_eq_true, decide_eq_true_eq] at range ⊢
        omega
      have notShort : ¬ row.quantity < quantity := by omega
      simp only [notShort, if_false, Int.sub_eq_add_neg]
      refine (flushQuantity_alone healthy locked (here ▸ fresh) fits (by omega)).mono ?_
      intro result after last ensured
      obtain ⟨same, pair, moved, rest⟩ := ensured
      exact ⟨same, pair.trans here, moved.trans movements, here ▸ rest⟩

theorem increaseStock_missing {productId warehouseId : UUID} {quantity : Int}
    (missing : world.tables.hasWarehouse warehouseId = false) :
    (increaseStock productId warehouseId quantity).Raises environment answers world session
      (fun error _ _ => error.isAppException = true) :=
  (getWarehouse_missing healthy missing).bind

theorem decreaseStock_refused (valid : world.Valid) {productId warehouseId : UUID} {quantity : Int}
    (refused : ¬ world.tables.Ships (productId, warehouseId) quantity)
    (applying : Applying change rows session world)
    (fresh : ∀ row ∈ rows, row.pair ≠ (productId, warehouseId)) :
    (decreaseStock productId warehouseId quantity).Raises environment answers world session
      (fun error _ _ => error.isAppException = true) := by
  cases warehouse : world.tables.hasWarehouse warehouseId with
  | false => exact (getWarehouse_missing healthy warehouse).bind
  | true =>
      refine (getWarehouse_alone healthy warehouse).bind_raises ?_
      intro _ _ _ ensured
      obtain ⟨rfl, rfl⟩ := ensured
      refine (getForUpdate_alone healthy valid applying fresh).bind_raises ?_
      intro found _ updated ensured
      obtain ⟨rfl, movements, stored, locked⟩ := ensured
      cases found with
      | none => exact Program.raises_raise rfl
      | some row =>
          have short : row.quantity < quantity := by
            by_contra enough
            obtain ⟨committed, here⟩ : row ∈ world.tables.inventories ∧
                row.pair = (productId, warehouseId) :=
              Tables.mem_inventoriesOf.mp (by rw [stored]; simp)
            exact refused ⟨warehouse, row, committed, here, by omega⟩
          simp only [short, if_true]
          exact Program.raises_raise rfl

section Transfer

variable {productId sourceId destinationId : UUID} {quantity : Int}

theorem transferStock_alone (valid : world.Valid) (positive : 0 < quantity)
    (different : sourceId ≠ destinationId)
    (product : world.tables.hasProduct productId = true)
    (ships : world.tables.Ships (productId, sourceId) quantity)
    (destination : world.tables.hasWarehouse destinationId = true)
    (fits : Integer.fits (world.tables.quantity (productId, destinationId) + quantity) = true)
    (applying : Applying (fun _ => 0) [] session world) :
    (transferStock productId sourceId destinationId quantity).Returns environment answers world
      session (fun _ after _ => world = after) := by
  unfold transferStock
  split
  · refine (decreaseStock_alone healthy valid positive ships applying (by simp)).bind ?_
    intro source _ middle ensured
    obtain ⟨rfl, leg⟩ := ensured
    refine (increaseStock_alone healthy valid positive product destination fits leg.2.2
      (other_leg leg (by simpa using different))).bind ?_
    intro target _ last ensured
    obtain ⟨rfl, _⟩ := ensured
    exact Program.returns_ret rfl
  · refine (increaseStock_alone healthy valid positive product destination fits applying
      (by simp)).bind ?_
    intro target _ middle ensured
    obtain ⟨rfl, leg⟩ := ensured
    refine (decreaseStock_alone healthy valid positive ships leg.2.2
      (other_leg leg (by simpa using different.symm))).bind ?_
    intro source _ last ensured
    obtain ⟨rfl, _⟩ := ensured
    exact Program.returns_ret rfl

/-- In the second order the destination has already been increased when the source
refuses. -/
theorem transferStock_refused (valid : world.Valid) (positive : 0 < quantity)
    (different : sourceId ≠ destinationId)
    (product : world.tables.hasProduct productId = true)
    (fits : Integer.fits (world.tables.quantity (productId, destinationId) + quantity) = true)
    (refused : world.tables.hasWarehouse destinationId = true →
      ¬ world.tables.Ships (productId, sourceId) quantity)
    (applying : Applying (fun _ => 0) [] session world) :
    (transferStock productId sourceId destinationId quantity).Raises environment answers world
      session (fun error _ _ => error.isAppException = true) := by
  unfold transferStock
  split
  · by_cases ships : world.tables.Ships (productId, sourceId) quantity
    · have missing : world.tables.hasWarehouse destinationId = false := by
        by_contra present
        exact refused (by simpa using present) ships
      refine (decreaseStock_alone healthy valid positive ships applying (by simp)).bind_raises ?_
      intro source _ middle ensured
      obtain ⟨rfl, _⟩ := ensured
      exact (increaseStock_missing healthy missing).bind
    · exact (decreaseStock_refused healthy valid ships applying (by simp)).bind
  · cases destination : world.tables.hasWarehouse destinationId with
    | false => exact (increaseStock_missing healthy destination).bind
    | true =>
        refine (increaseStock_alone healthy valid positive product destination fits applying
          (by simp)).bind_raises ?_
        intro target _ middle ensured
        obtain ⟨rfl, leg⟩ := ensured
        exact (decreaseStock_refused healthy valid (refused destination) leg.2.2
          (other_leg leg (by simpa using different.symm))).bind

end Transfer

end Stock

/-- What a movement asks of the committed state. -/
structure MovementPayload.Possible (data : MovementPayload) (tables : Tables) : Prop where
  product : tables.hasProduct data.productId = true
  warehouses : ∀ id, data.sourceWarehouseId = some id ∨ data.destinationWarehouseId = some id →
    tables.hasWarehouse id = true
  stock : ∀ source, data.sourceWarehouseId = some source → ∃ row ∈ tables.inventories,
    row.pair = (data.productId, source) ∧ data.quantity ≤ row.quantity

/-- The quantities a movement adds stay inside the range of their columns. -/
structure MovementPayload.InRange (data : MovementPayload) (tables : Tables) : Prop where
  quantity : Integer.fits data.quantity = true
  destination : ∀ destination, data.destinationWarehouseId = some destination →
    Integer.fits (tables.quantity (data.productId, destination) + data.quantity) = true

/-- Nothing in a movement is more than its column takes. -/
structure MovementPayload.Storable (data : MovementPayload) (tables : Tables) : Prop
    extends data.InRange tables where
  reason : data.reason.all Text.sendable = true

theorem MovementPayload.Possible.ships {data : MovementPayload} {tables : Tables}
    (possible : data.Possible tables) {source : UUID} (named : data.sourceWarehouseId = some source) :
    tables.Ships (data.productId, source) data.quantity :=
  ⟨possible.warehouses source (.inl named), possible.stock source named⟩

section Apply

variable (healthy : ∀ n, (answers n).fails = false)
include healthy

theorem applyMovement_alone (valid : world.Valid) {data : MovementCreate}
    (possible : data.Possible world.tables) (inRange : data.InRange world.tables)
    (applying : Applying (fun _ => 0) [] session world) :
    (applyMovement data).Returns environment answers world session
      (fun _ after _ => world = after) := by
  rcases data.warehouses_cases with ⟨type, source, warehouse, destination⟩ |
    ⟨type, destination, warehouse, source⟩ | ⟨type, left, right, source, destination, different⟩
  · simp only [applyMovement, type, destination]
    refine (increaseStock_alone healthy valid data.quantity_positive possible.product
      (possible.warehouses _ (.inr destination)) (inRange.destination _ destination) applying
      (by simp)).bind ?_
    intro row _ updated ensured
    obtain ⟨rfl, _⟩ := ensured
    exact Program.returns_ret rfl
  · simp only [applyMovement, type, source]
    refine (decreaseStock_alone healthy valid data.quantity_positive (possible.ships source)
      applying (by simp)).bind ?_
    intro row _ updated ensured
    obtain ⟨rfl, _⟩ := ensured
    exact Program.returns_ret rfl
  · simp only [applyMovement, type, source, destination]
    refine (transferStock_alone healthy valid data.quantity_positive different possible.product
      (possible.ships source) (possible.warehouses _ (.inr destination))
      (inRange.destination _ destination) applying).bind ?_
    intro rows _ updated same
    subst same
    exact Program.returns_ret rfl

theorem applyMovement_refused (valid : world.Valid) {data : MovementCreate}
    (product : world.tables.hasProduct data.productId = true)
    (impossible : ¬ data.Possible world.tables)
    (room : ∀ destination, data.destinationWarehouseId = some destination →
      Integer.fits (world.tables.quantity (data.productId, destination) + data.quantity) = true)
    (applying : Applying (fun _ => 0) [] session world) :
    (applyMovement data).Raises environment answers world session
      (fun error _ _ => error.isAppException = true) := by
  rcases data.warehouses_cases with ⟨type, source, warehouse, destination⟩ |
    ⟨type, destination, warehouse, source⟩ | ⟨type, left, right, source, destination, different⟩
  · have missing : world.tables.hasWarehouse warehouse = false := by
      by_contra present
      apply impossible
      refine ⟨product, ?_, by simp [source]⟩
      simpa [source, destination] using present
    simp only [applyMovement, type, destination]
    exact (increaseStock_missing healthy missing).bind
  · have refused : ¬ world.tables.Ships (data.productId, warehouse) data.quantity := by
      intro given
      obtain ⟨present, stock⟩ := given
      apply impossible
      refine ⟨product, ?_, ?_⟩
      · simpa [source, destination] using present
      · simpa [source] using stock
    simp only [applyMovement, type, source]
    exact (decreaseStock_refused healthy valid refused applying (by simp)).bind
  · have refused : world.tables.hasWarehouse right = true →
        ¬ world.tables.Ships (data.productId, left) data.quantity := by
      intro present ensured
      obtain ⟨(presentToo : world.tables.hasWarehouse left = true), stock⟩ := ensured
      apply impossible
      refine ⟨product, ?_, ?_⟩
      · simpa [source, destination, or_imp, forall_and] using ⟨presentToo, present⟩
      · simpa [source] using stock
    simp only [applyMovement, type, source, destination]
    exact (transferStock_refused healthy valid data.quantity_positive different product
      (room _ destination) refused applying).bind

end Apply

end InventoryManagement
