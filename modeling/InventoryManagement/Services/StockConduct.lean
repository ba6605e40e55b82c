import InventoryManagement.Services.ConductProperties

/-! The transaction of a movement: locks, stock changes and their bookkeeping. -/

set_option autoImplicit false

namespace InventoryManagement

open Interleaving (Guard Outcome Program)

variable {settings : Settings} {request : Request}
variable {guard : Guard Statement Answer World Session}
variable {allowed : List Movement → Exception → Prop}
variable {session : Session} {world : World}

section Applying

variable {change : Pair → Int} {rows : List Inventory}

/-- The others never touch what a transaction holds. -/
theorem Applying.stable {before after : World} (applying : Applying change rows session before)
    (relied : session.Rely before after) : Applying change rows session after where
  held := applying.held
  objects := applying.objects
  changed := by
    intro row member
    have same := relied.rows row (applying.held ▸ member)
    simp only [Tables.quantity, same]
    exact applying.changed row member
  nonnegative := by
    intro row member
    have same := relied.rows row (applying.held ▸ member)
    simp only [Tables.quantity, same]
    exact applying.nonnegative row member
  unchanged := applying.unchanged
  history := applying.history
  alerts := applying.alerts

theorem applying_start (world : World) : Applying (fun _ => 0) [] {} world := by
  constructor <;> simp

theorem getWarehouse_conducted (permits : Permits guard allowed) {id : UUID}
    (applying : Applying change rows session world) :
    Conducted settings request guard allowed
      (fun _ updated after => session = updated ∧ Applying change rows session after)
      (getWarehouseByIdOrRaise id) session world := by
  refine conducted_quiet permits (fun _ => ⟨applying.history, applying.alerts⟩)
    (fun answer others current => ⟨_, _, rfl, rfl, rfl⟩) ?_
  intro response after relied
  cases response with
  | none => exact Excused.fresh applying.history _
  | some warehouse => exact ⟨rfl, applying.stable relied⟩

theorem getProduct_conducted (permits : Permits guard allowed) {id : UUID}
    (applying : Applying change rows session world) :
    Conducted settings request guard allowed
      (fun _ updated after => session = updated ∧ Applying change rows session after)
      (getProductByIdOrRaise id) session world := by
  refine conducted_quiet permits (fun _ => ⟨applying.history, applying.alerts⟩)
    (fun answer others current => ⟨_, _, rfl, rfl, rfl⟩) ?_
  intro response after relied
  cases response with
  | none => exact Excused.fresh applying.history _
  | some product => exact ⟨rfl, applying.stable relied⟩

theorem Applying.lock (row : Inventory) {updated : Session}
    (applying : Applying change rows session world)
    (fresh : ∀ other ∈ rows, other.pair ≠ row.pair)
    (quantity : row.quantity = world.tables.quantity row.pair)
    (held : updated.rows = rows ++ [row]) (objects : updated.objects = rows ++ [row])
    (history : updated.toHistory = session.toHistory) (alerts : updated.alerts = session.alerts) :
    Applying change (rows ++ [row]) updated world where
  held := held
  objects := objects
  changed := by
    intro other member
    rcases List.mem_append.mp member with old | added
    · exact applying.changed other old
    · rw [List.mem_singleton.mp added, applying.unchanged row.pair fresh, quantity, Int.add_zero]
  nonnegative := by
    intro other member
    rcases List.mem_append.mp member with old | added
    · exact applying.nonnegative other old
    · rw [List.mem_singleton.mp added, quantity]
      exact id
  unchanged := fun pair absent =>
    applying.unchanged pair (fun other member => absent other (List.mem_append_left _ member))
  history := history.trans applying.history
  alerts := alerts.trans applying.alerts

theorem Applying.flush {row : Inventory} {delta : Int} {updated : Session}
    (applying : Applying change (rows ++ [row]) session world)
    (fresh : ∀ other ∈ rows, other.pair ≠ row.pair)
    (nonnegative : 0 ≤ row.quantity → 0 ≤ row.quantity + delta)
    (held : updated.rows = rows ++ [{ row with quantity := row.quantity + delta }])
    (objects : updated.objects = rows ++ [{ row with quantity := row.quantity + delta }])
    (history : updated.toHistory = session.toHistory) (alerts : updated.alerts = session.alerts) :
    Applying (fun pair => change pair + if pair = row.pair then delta else 0)
      (rows ++ [{ row with quantity := row.quantity + delta }]) updated world where
  held := held
  objects := objects
  changed := by
    intro other member
    rcases List.mem_append.mp member with old | added
    · rw [if_neg (fresh other old), Int.add_zero]
      exact applying.changed other (List.mem_append_left _ old)
    · have here := applying.changed row (by simp)
      rw [List.mem_singleton.mp added]
      change row.quantity + delta = world.tables.quantity row.pair +
        (change row.pair + if row.pair = row.pair then delta else 0)
      rw [if_pos rfl]
      omega
  nonnegative := by
    intro other member
    rcases List.mem_append.mp member with old | added
    · exact applying.nonnegative other (List.mem_append_left _ old)
    · rw [List.mem_singleton.mp added]
      intro stored
      exact nonnegative (applying.nonnegative row (by simp) stored)
  unchanged := by
    intro pair absent
    have different : pair ≠ row.pair := 
      fun same => absent _ (List.mem_append_right _ (List.mem_singleton.mpr rfl)) same.symm
    rw [if_neg different, Int.add_zero]
    apply applying.unchanged
    intro other member
    rcases List.mem_append.mp member with old | added
    · exact absent other (List.mem_append_left _ old)
    · rw [List.mem_singleton.mp added]
      exact different.symm
  history := history.trans applying.history
  alerts := alerts.trans applying.alerts

theorem replaceRow_last {row updated : Inventory} (same : updated.pair = row.pair)
    (fresh : ∀ other ∈ rows, other.pair ≠ row.pair) :
    replaceRow (rows ++ [row]) updated = rows ++ [updated] := by
  have found : (rows ++ [row]).any (fun other => other.pair = updated.pair) = true := by
    simp [same]
  rw [replaceRow, if_pos found, List.map_append]
  congr 1
  · conv_rhs => rw [← List.map_id rows]
    apply List.map_congr_left
    intro other member
    rw [same, if_neg (fresh other member), id]
  · simp [same]

theorem flushQuantity_conducted (permits : Permits guard allowed) {row : Inventory} {delta : Int}
    (applying : Applying change (rows ++ [row]) session world)
    (fresh : ∀ other ∈ rows, other.pair ≠ row.pair)
    (nonnegative : 0 ≤ row.quantity → 0 ≤ row.quantity + delta) :
    Conducted settings request guard allowed
      (fun result updated after => result = { row with quantity := row.quantity + delta } ∧
        updated.movements = session.movements ∧
        Applying (fun pair => change pair + if pair = row.pair then delta else 0)
          (rows ++ [{ row with quantity := row.quantity + delta }]) updated after)
      (flushQuantity row (row.quantity + delta)) session world := by
  refine conducted_call permits ?_
  intro current relied valid sound
  refine ⟨⟨applying.history, applying.alerts⟩, fun answer others _ => ⟨fun error _ =>
    Excused.fresh applying.history error, ?_⟩⟩
  intro response after updated executed _ _
  simp only [respond, updateInventory] at executed
  split at executed
  · cases executed
  · split at executed
    · cases executed
    · next stored found =>
        obtain ⟨member, same⟩ := Session.row?_some found
        have same : stored.pair = row.pair := same
        have stored_eq : stored = row := by
          rw [applying.held] at member
          rcases List.mem_append.mp member with old | added
          · exact absurd same (fresh stored old)
          · exact List.mem_singleton.mp added
        subst stored_eq
        cases executed
        refine ⟨rfl, rfl, (applying.stable relied).flush fresh nonnegative ?_ ?_ rfl rfl⟩
        · rw [applying.held]
          exact replaceRow_last rfl fresh
        · rw [applying.objects]
          exact replaceRow_last rfl fresh

/-- What a locking read leaves behind. -/
def Locked (change : Pair → Int) (rows : List Inventory) (pair : Pair)
    (before : Session) (found : Option Inventory) (session : Session) (world : World) : Prop :=
  session.movements = before.movements ∧
    match found with
    | none => Applying change rows session world
    | some row => row.pair = pair ∧ Applying change (rows ++ [row]) session world

theorem getForUpdate_conducted (permits : Permits guard allowed)
    {productId warehouseId : UUID} (applying : Applying change rows session world)
    (fresh : ∀ row ∈ rows, row.pair ≠ (productId, warehouseId)) :
    Conducted settings request guard allowed
      (Locked change rows (productId, warehouseId) session)
      (getByProductAndWarehouseForUpdate productId warehouseId) session world := by
  refine conducted_call permits ?_
  intro current relied valid sound
  refine ⟨⟨applying.history, applying.alerts⟩, fun answer others _ => ⟨fun error _ =>
    Excused.fresh applying.history error, ?_⟩⟩
  intro response after updated executed _ _
  have absent : session.row? (productId, warehouseId) = none := by
    rw [Session.row?_none, applying.held]
    exact fresh
  simp only [respond, selectInventoryForUpdate, absent] at executed
  split at executed
  · cases executed
    exact ⟨rfl, applying.stable relied⟩
  · next visible =>
      split at executed
      · cases executed
      · cases executed
        obtain ⟨row, one⟩ : ∃ row, current.tables.inventoriesOf (productId, warehouseId) = [row] :=
          (valid.inventoriesOf_cases _).resolve_left visible
        obtain ⟨member, here⟩ : row ∈ current.tables.inventories ∧
            row.pair = (productId, warehouseId) :=
          Tables.mem_inventoriesOf.mp (by rw [one]; simp)
        rw [one]
        refine ⟨rfl, here, (applying.stable relied).lock row ?_ ?_ ?_ ?_ rfl rfl⟩
        · rw [here]
          exact fresh
        · simp [Tables.quantity, here, one]
        · rw [applying.held]
        · rw [applying.objects]

theorem createInventory_conducted (permits : Permits guard allowed)
    {productId warehouseId : UUID} (applying : Applying change rows session world)
    (fresh : ∀ row ∈ rows, row.pair ≠ (productId, warehouseId)) :
    Conducted settings request guard allowed
      (fun row => Locked change rows (productId, warehouseId) session (some row))
      (createInventory { productId, warehouseId, quantity := 0 }) session world := by
  refine conducted_call permits ?_
  intro current relied valid sound
  refine ⟨⟨applying.history, applying.alerts⟩, fun answer others _ => ⟨fun error _ =>
    Excused.fresh applying.history error, ?_⟩⟩
  intro response after updated executed _ _
  simp only [respond, insertInventory] at executed
  split at executed
  · cases executed
  · split at executed
    · cases executed
    · next unused =>
        split at executed
        · cases executed
        · split at executed
          · cases executed
          · cases executed
            have none : current.tables.inventoriesOf (productId, warehouseId) = [] :=
              not_not.mp (not_or.mp unused).1
            refine ⟨rfl, rfl, (applying.stable relied).lock _ fresh ?_ ?_ ?_ rfl rfl⟩
            · have stored : current.tables.quantity (productId, warehouseId) = 0 := by
                simp [Tables.quantity, none]
              exact stored.symm
            · rw [applying.held]
            · rw [applying.objects]

/-- One leg of a movement: one more row held, its stock changed by `delta`. -/
def Moved (change : Pair → Int) (rows : List Inventory) (pair : Pair) (delta : Int)
    (before : Session) (row : Inventory) (session : Session) (world : World) : Prop :=
  row.pair = pair ∧ session.movements = before.movements ∧
    Applying (fun other => change other + if other = pair then delta else 0) (rows ++ [row])
      session world

private theorem flushed (permits : Permits guard allowed) {pair : Pair} {row : Inventory}
    {before : Session} {delta : Int} (locked : Locked change rows pair before (some row) session world)
    (fresh : ∀ row ∈ rows, row.pair ≠ pair)
    (nonnegative : 0 ≤ row.quantity → 0 ≤ row.quantity + delta) :
    Conducted settings request guard allowed (Moved change rows pair delta before)
      (flushQuantity row (row.quantity + delta)) session world := by
  obtain ⟨kept, rfl, applying⟩ := locked
  refine Program.verified_mono (flushQuantity_conducted permits applying fresh nonnegative) ?_
  intro result updated after ensured
  obtain ⟨rfl, same, moved⟩ := ensured
  exact ⟨rfl, same.trans kept, moved⟩

theorem increaseStock_conducted (permits : Permits guard allowed) {productId warehouseId : UUID}
    {quantity : Int} (positive : 0 < quantity) (applying : Applying change rows session world)
    (fresh : ∀ row ∈ rows, row.pair ≠ (productId, warehouseId)) :
    Conducted settings request guard allowed
      (Moved change rows (productId, warehouseId) quantity session)
      (increaseStock productId warehouseId quantity) session world := by
  refine conducted_bind _ (getWarehouse_conducted permits applying) ?_
  intro _ _ world ensured
  obtain ⟨rfl, applying⟩ := ensured
  refine conducted_bind _ (getForUpdate_conducted permits applying fresh) ?_
  intro found updated after locked
  cases found with
  | some row => exact flushed permits locked fresh (by omega)
  | none =>
      obtain ⟨kept, applying⟩ := locked
      refine conducted_bind _ (createInventory_conducted permits applying fresh) ?_
      intro row final last ensured
      obtain ⟨same, rest⟩ := ensured
      exact flushed permits ⟨same.trans kept, rest⟩ fresh (by omega)

theorem decreaseStock_conducted (permits : Permits guard allowed) {productId warehouseId : UUID}
    {quantity : Int} (applying : Applying change rows session world)
    (fresh : ∀ row ∈ rows, row.pair ≠ (productId, warehouseId)) :
    Conducted settings request guard allowed
      (Moved change rows (productId, warehouseId) (-quantity) session)
      (decreaseStock productId warehouseId quantity) session world := by
  refine conducted_bind _ (getWarehouse_conducted permits applying) ?_
  intro _ _ world ensured
  obtain ⟨rfl, applying⟩ := ensured
  refine conducted_bind _ (getForUpdate_conducted permits applying fresh) ?_
  intro found updated after locked
  cases found with
  | none => exact Excused.fresh locked.2.history _
  | some row =>
      by_cases short : row.quantity < quantity
      · simp only [short, if_true]
        exact Excused.fresh locked.2.2.history _
      · simp only [short, if_false, Int.sub_eq_add_neg]
        exact flushed permits locked fresh (by omega)

end Applying

/-- The state after the stock changes of a movement. -/
structure Applied (data : MovementCreate) (performedBy : Option UUID) (affected : List Inventory)
    (session : Session) (world : World) : Prop where
  pairs : affected.map Inventory.pair = data.pairs
  movements : session.movements = []
  applying : ∃ rows, rows.Perm affected ∧
    Applying (data.values performedBy).change rows session world

theorem change_values (data : MovementCreate) (performedBy : Option UUID) (pair : Pair) :
    (data.values performedBy).change pair =
      (if some pair = data.destinationWarehouseId.map (data.productId, ·)
        then data.quantity else 0) -
      (if some pair = data.sourceWarehouseId.map (data.productId, ·)
        then data.quantity else 0) := by
  obtain ⟨productId, warehouseId⟩ := pair
  have names : ∀ named : Option UUID, (data.productId = productId ∧ named = some warehouseId) ↔
      some (productId, warehouseId) = named.map (data.productId, ·) := by
    intro named
    cases named <;> simp [eq_comm]
  simp only [MovementValues.change, MovementCreate.values, names]

private theorem applied_single {data : MovementCreate}
    {performedBy : Option UUID} {pair : Pair} {delta : Int} {leg : Transaction Inventory}
    (pairs : data.pairs = [pair])
    (change : ∀ other, (data.values performedBy).change other = if other = pair then delta else 0)
    (movements : session.movements = [])
    (moved : Conducted settings request guard allowed (Moved (fun _ => 0) [] pair delta session)
      leg session world) :
    Conducted settings request guard allowed (Applied data performedBy)
      (leg.bind (fun inventory => .ret [inventory])) session world := by
  refine conducted_bind _ moved ?_
  intro row updated after ensured
  obtain ⟨here, kept, applying⟩ := ensured
  have same : (data.values performedBy).change =
      fun other => 0 + if other = pair then delta else 0 := by
    funext other
    rw [change, Int.zero_add]
  refine ⟨?_, kept.trans movements, [row], .refl _, ?_⟩
  · rw [pairs, List.map_singleton, here]
  · rw [same]
    exact applying

/-- Both legs of a transfer, in the order of the locks. -/
private theorem transferStock_conducted (permits : Permits guard allowed)
    {productId sourceId destinationId : UUID} {quantity : Int} (positive : 0 < quantity)
    (different : sourceId ≠ destinationId) (movements : session.movements = [])
    (applying : Applying (fun _ => 0) [] session world) :
    Conducted settings request guard allowed
      (fun result updated after => result.1.pair = (productId, sourceId) ∧
        result.2.pair = (productId, destinationId) ∧ updated.movements = [] ∧
        ∃ rows, rows.Perm [result.1, result.2] ∧ Applying
          (fun other => (if other = (productId, sourceId) then -quantity else 0) +
            if other = (productId, destinationId) then quantity else 0) rows updated after)
      (transferStock productId sourceId destinationId quantity) session world := by
  unfold transferStock
  by_cases first : (sortedByStr sourceId destinationId).1 = sourceId
  · rw [if_pos first]
    refine conducted_bind _ (decreaseStock_conducted permits applying (by simp)) ?_
    intro source middle between ensured
    obtain ⟨sourceHere, kept, leg⟩ := ensured
    refine conducted_bind _ (increaseStock_conducted permits positive leg ?_) ?_
    · intro row member
      rw [List.mem_singleton.mp member, sourceHere]
      simpa using different
    · intro destination updated after ensured
      obtain ⟨destinationHere, keptToo, both⟩ := ensured
      refine ⟨sourceHere, destinationHere, keptToo.trans (kept.trans movements), _, .refl _, ?_⟩
      simpa using both
  · rw [if_neg first]
    refine conducted_bind _ (increaseStock_conducted permits positive applying (by simp)) ?_
    intro destination middle between ensured
    obtain ⟨destinationHere, kept, leg⟩ := ensured
    refine conducted_bind _ (decreaseStock_conducted permits leg ?_) ?_
    · intro row member
      rw [List.mem_singleton.mp member, destinationHere]
      simpa using different.symm
    · intro source updated after ensured
      obtain ⟨sourceHere, keptToo, both⟩ := ensured
      refine ⟨sourceHere, destinationHere, keptToo.trans (kept.trans movements), _,
        .swap _ _ _, ?_⟩
      simpa [Int.add_comm] using both

theorem applyMovement_conducted (permits : Permits guard allowed) (data : MovementCreate)
    (performedBy : Option UUID) (movements : session.movements = [])
    (applying : Applying (fun _ => 0) [] session world) :
    Conducted settings request guard allowed (Applied data performedBy)
      (applyMovement data) session world := by
  rcases data.warehouses_cases with ⟨type, source, warehouse, destination⟩ |
    ⟨type, destination, warehouse, source⟩ | ⟨type, left, right, source, destination, different⟩
  · simp only [applyMovement, type, destination]
    refine applied_single ?_ ?_ movements
      (increaseStock_conducted permits data.quantity_positive applying (by simp))
    · simp [MovementPayload.pairs, source, destination]
    · intro other
      simp [change_values, source, destination]
  · simp only [applyMovement, type, source]
    refine applied_single ?_ ?_ movements
      (decreaseStock_conducted permits applying (by simp))
    · simp [MovementPayload.pairs, source, destination]
    · intro other
      simp only [change_values, source, destination, Option.map_none, Option.map_some,
        Option.some.injEq, reduceCtorEq, if_false]
      split <;> omega
  · simp only [applyMovement, type, source, destination]
    refine conducted_bind _ (transferStock_conducted permits data.quantity_positive different
      movements applying) ?_
    rintro ⟨first, second⟩ updated after ⟨firstHere, secondHere, kept, rows, perm, both⟩
    have same : (data.values performedBy).change = fun other =>
        (if other = (data.productId, left) then -data.quantity else 0) +
          if other = (data.productId, right) then data.quantity else 0 := by
      funext other
      simp only [change_values, source, destination, Option.map_some,
        Option.some.injEq]
      split <;> split <;> omega
    refine ⟨?_, kept, rows, perm, same ▸ both⟩
    simp only [List.map_cons, List.map_nil, firstHere, secondHere, MovementPayload.pairs, source,
      destination]
    rfl

end InventoryManagement
