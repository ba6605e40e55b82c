import InventoryManagement.Interleaving.Dialogue
import InventoryManagement.Services.Sequential

/-! Refused movements: what a domain error says about the stock was true of the committed
stock at some moment of the call. -/

set_option autoImplicit false

namespace InventoryManagement

open Interleaving (Exchange Guard Program Reachable System Thread)

/-- The answers that a call has had from its environment, the latest first. -/
abbrev Dialogue := List (Exchange Statement Statement.Response)

def notFound (model id : String) : Exception :=
  .notFoundError s!"{model} with id '{id}' was not found."

/-- Why a movement is refused in a committed state, and what its caller is told. -/
inductive Refused (data : MovementCreate) (tables : Tables) : Exception → Prop where
  | product (missing : tables.hasProduct data.productId = false) :
      Refused data tables (notFound "Product" data.productId.str)
  | warehouse {id : UUID}
      (named : data.sourceWarehouseId = some id ∨ data.destinationWarehouseId = some id)
      (missing : tables.hasWarehouse id = false) :
      Refused data tables (notFound "Warehouse" id.str)
  | record {source : UUID} (named : data.sourceWarehouseId = some source)
      (missing : tables.inventoriesOf (data.productId, source) = []) :
      Refused data tables (.notFoundError
        s!"No inventory record for product '{data.productId.str}' in warehouse '{source.str}'.")
  | stock {source : UUID} {row : Inventory} (named : data.sourceWarehouseId = some source)
      (stored : tables.inventoriesOf (data.productId, source) = [row])
      (short : row.quantity < data.quantity) :
      Refused data tables (.insufficientStockError
        (s!"Cannot remove {data.quantity} units of product '{data.productId.str}' from " ++
          s!"warehouse '{source.str}': only {row.quantity} in stock."))

theorem Refused.impossible {data : MovementCreate} {tables : Tables} {error : Exception}
    (refused : Refused data tables error) : ¬ data.Possible tables := by
  intro possible
  cases refused with
  | product missing => simp [possible.product] at missing
  | warehouse named missing => simp [possible.warehouses _ named] at missing
  | record named missing =>
      obtain ⟨row, stored, here, _⟩ := possible.stock _ named
      have listed := Tables.mem_inventoriesOf.mpr ⟨stored, here⟩
      rw [missing] at listed
      cases listed
  | stock named only short =>
      obtain ⟨row, stored, here, enough⟩ := possible.stock _ named
      have listed := Tables.mem_inventoriesOf.mpr ⟨stored, here⟩
      rw [only, List.mem_singleton] at listed
      subst listed
      omega

/-- The pairs whose rows a transaction may hold after these answers. -/
def touchedPairs (exchanges : Dialogue) : List Pair :=
  exchanges.flatMap (fun exchange =>
    match exchange.statement with
    | .selectInventoryForUpdate productId warehouseId => [(productId, warehouseId)]
    | .insertInventory inventory => [inventory.pair]
    | _ => [])

/-- A row is locked at most once. -/
def LocksOnce (exchanges : Dialogue) : Statement → Prop
  | .selectInventoryForUpdate productId warehouseId =>
      (productId, warehouseId) ∉ touchedPairs exchanges
  | _ => True

/-- An answer that says what the committed tables say. -/
def Reports (tables : Tables) : Exchange Statement Statement.Response → Prop
  | ⟨.getProduct id, found⟩ => found = tables.product? id
  | ⟨.getWarehouse id, found⟩ => found = tables.warehouse? id
  | ⟨.selectInventoryForUpdate productId warehouseId, rows⟩ =>
      rows = tables.inventoriesOf (productId, warehouseId)
  | _ => True

/-- The last answer shows why the movement is refused. -/
def Refuted (data : MovementCreate) (error : Exception) : Dialogue → Prop
  | [] => False
  | exchange :: _ => ∀ tables, Reports tables exchange → Refused data tables error

/-- A program of a movement that locks each row once and refuses only for a reason. -/
abbrev Candid {Value : Type} (data : MovementCreate) (returns : Dialogue → Value → Prop)
    (program : Transaction Value) (exchanges : Dialogue) : Prop :=
  program.Reasoned LocksOnce
    (fun exchanges error => error.isAppException = true → Refuted data error exchanges) returns
    exchanges

section Programs

variable {data : MovementCreate} {exchanges : Dialogue} {quantity : Int}

theorem getProduct_candid : Candid data (fun after _ => touchedPairs after = touchedPairs exchanges)
    (getProductByIdOrRaise data.productId) exchanges := by
  refine ⟨trivial, fun found => ?_⟩
  cases found with
  | none =>
      exact fun _ tables same => .product (by rw [Tables.hasProduct, ← same]; rfl)
  | some product => rfl

theorem getWarehouse_candid {id : UUID}
    (named : data.sourceWarehouseId = some id ∨ data.destinationWarehouseId = some id) :
    Candid data (fun after _ => touchedPairs after = touchedPairs exchanges)
      (getWarehouseByIdOrRaise id) exchanges := by
  refine ⟨trivial, fun found => ?_⟩
  cases found with
  | none =>
      exact fun _ tables same => .warehouse named (by rw [Tables.hasWarehouse, ← same]; rfl)
  | some warehouse => rfl

/-- The rows that a lock found are in its answer. -/
theorem getForUpdate_candid {pair : Pair} (fresh : pair ∉ touchedPairs exchanges) :
    Candid data (fun after found => ∃ earlier, touchedPairs earlier = touchedPairs exchanges ∧
        after = ⟨.selectInventoryForUpdate pair.1 pair.2, found.toList⟩ :: earlier)
      (getByProductAndWarehouseForUpdate pair.1 pair.2) exchanges := by
  refine ⟨fresh, fun rows => ?_⟩
  match rows with
  | [] => exact ⟨exchanges, rfl, rfl⟩
  | [row] => exact ⟨exchanges, rfl, rfl⟩
  | _ :: _ :: _ => exact fun domain => by cases domain

/-- A leg of a movement touches no pair but its own. -/
def Touches (exchanges : Dialogue) (pair : Pair) (after : Dialogue) : Prop :=
  ∀ other ∈ touchedPairs after, other = pair ∨ other ∈ touchedPairs exchanges

theorem touches_of {pair : Pair} {after later : Dialogue} (pairs : List Pair)
    (own : ∀ other ∈ pairs, other = pair) (grown : touchedPairs later = pairs ++ touchedPairs after)
    (kept : touchedPairs after = touchedPairs exchanges) : Touches exchanges pair later := by
  intro other member
  rw [grown, kept, List.mem_append] at member
  exact member.imp_left (own other)

theorem increaseStock_candid {destination : UUID}
    (named : data.destinationWarehouseId = some destination)
    (fresh : (data.productId, destination) ∉ touchedPairs exchanges) :
    Candid data (fun after _ => Touches exchanges (data.productId, destination) after)
      (increaseStock data.productId destination quantity) exchanges := by
  refine Program.reasoned_bind ((getWarehouse_candid (.inr named)).mono ?_)
  intro seen _ same
  refine Program.reasoned_bind ((getForUpdate_candid (same ▸ fresh)).mono ?_)
  rintro after found ⟨earlier, kept, rfl⟩
  cases found with
  | some row =>
      exact ⟨trivial, fun _ => touches_of [(data.productId, destination)] (by simp) rfl
        (kept.trans same)⟩
  | none =>
      exact ⟨trivial, fun _ => ⟨trivial, fun _ => touches_of
        [(data.productId, destination), (data.productId, destination)] (by simp) rfl
        (kept.trans same)⟩⟩

theorem decreaseStock_candid {source : UUID} (named : data.sourceWarehouseId = some source)
    (fresh : (data.productId, source) ∉ touchedPairs exchanges) :
    Candid data (fun after _ => Touches exchanges (data.productId, source) after)
      (decreaseStock data.productId source data.quantity) exchanges := by
  refine Program.reasoned_bind ((getWarehouse_candid (.inl named)).mono ?_)
  intro seen _ same
  refine Program.reasoned_bind ((getForUpdate_candid (same ▸ fresh)).mono ?_)
  rintro after found ⟨earlier, kept, rfl⟩
  cases found with
  | none => exact fun _ tables stored => .record named stored.symm
  | some row =>
      by_cases short : row.quantity < data.quantity
      · simp only [short, if_true]
        exact fun _ tables stored => .stock named stored.symm short
      · simp only [short, if_false]
        exact ⟨trivial, fun _ => touches_of [(data.productId, source)] (by simp) rfl
          (kept.trans same)⟩

theorem transferStock_candid {source destination : UUID} (named : data.sourceWarehouseId = some source)
    (namedToo : data.destinationWarehouseId = some destination) (different : source ≠ destination)
    (fresh : touchedPairs exchanges = []) :
    Candid data (fun _ _ => True)
      (transferStock data.productId source destination data.quantity) exchanges := by
  have unused : ∀ {pair other : Pair} {after : Dialogue}, Touches exchanges pair after →
      other ≠ pair → other ∉ touchedPairs after := by
    intro pair other after touches distinct listed
    rcases touches other listed with same | before
    · exact distinct same
    · rw [fresh] at before
      cases before
  have apart : (data.productId, destination) ≠ (data.productId, source) :=
    fun same => different (Prod.mk.inj same).2.symm
  unfold transferStock
  split
  · refine Program.reasoned_bind ((decreaseStock_candid named (by simp [fresh])).mono ?_)
    intro after _ touches
    exact Program.reasoned_bind ((increaseStock_candid namedToo (unused touches apart)).mono
      fun _ _ _ => trivial)
  · refine Program.reasoned_bind ((increaseStock_candid namedToo (by simp [fresh])).mono ?_)
    intro after _ touches
    exact Program.reasoned_bind ((decreaseStock_candid named (unused touches apart.symm)).mono
      fun _ _ _ => trivial)

theorem applyMovement_candid (data : MovementCreate) (fresh : touchedPairs exchanges = []) :
    Candid data (fun _ _ => True) (applyMovement data) exchanges := by
  rcases data.warehouses_cases with ⟨type, source, warehouse, destination⟩ |
    ⟨type, destination, warehouse, source⟩ | ⟨type, left, right, source, destination, different⟩
  · simp only [applyMovement, type, destination]
    exact Program.reasoned_bind ((increaseStock_candid destination (by simp [fresh])).mono
      fun _ _ _ => trivial)
  · simp only [applyMovement, type, source]
    exact Program.reasoned_bind ((decreaseStock_candid source (by simp [fresh])).mono
      fun _ _ _ => trivial)
  · simp only [applyMovement, type, source, destination]
    exact Program.reasoned_bind ((transferStock_candid source destination different fresh).mono
      fun _ _ _ => trivial)

/-! After a commit no domain error is raised. -/

abbrev RaisesNoDomainError {Value : Type} (program : Transaction Value) : Prop :=
  program.Throws (fun error => error.isAppException = false)

theorem scalarOneOrNone_raises {Row : Type} (rows : List Row) :
    RaisesNoDomainError (scalarOneOrNone rows) := by
  match rows with
  | [] => trivial
  | [row] => trivial
  | _ :: _ :: _ => rfl

theorem evaluateStockLevel_raises (settings : Settings) (inventory : Inventory) :
    RaisesNoDomainError (evaluateStockLevel settings inventory) := by
  obtain ⟨next, evaluates, reconciles⟩ := evaluateStockLevel_cases settings inventory
  rw [evaluates]
  refine Program.Throws.bind (fun rows => scalarOneOrNone_raises rows) (fun existing => ?_)
  have reacts : ∀ alert,
      RaisesNoDomainError ((reactToAlert alert).bind fun _ => .ret (some alert)) :=
    fun alert => (reactToAlert_throws alert).bind (fun _ => trivial)
  have branch := reconciles existing
  generalize next existing = program at branch ⊢
  cases branch with
  | rest | keep => trivial
  | resolve => exact fun _ _ _ => trivial
  | retype => exact fun _ refreshed => reacts refreshed
  | raise => exact fun alert _ => reacts alert

theorem announceMovement_raises (settings : Settings) (data : MovementCreate)
    (affected : List Inventory) : RaisesNoDomainError (announceMovement settings data affected) := by
  have evaluates : RaisesNoDomainError (evaluateAffected settings affected) := by
    induction affected with
    | nil => trivial
    | cons inventory rest ih => exact (evaluateStockLevel_raises _ _).bind (fun _ => ih)
  refine evaluates.bind (fun _ => ?_)
  obtain ⟨event, built⟩ := buildMovementEvent_returns data affected
  simp only [built, Program.bind_eq, Program.ret_bind]
  exact publish_throws event

theorem locksOnce_of_keepsStock (exchanges : Dialogue) (statement : Statement)
    (keeps : statement.keepsStock = true) : LocksOnce exchanges statement := by
  cases statement <;> trivial

theorem recordMovement_candid (settings : Settings) (data : MovementCreate)
    (performedBy : Option UUID) :
    Candid data (fun _ _ => True) (recordMovement settings data performedBy) [] := by
  refine Program.reasoned_bind (getProduct_candid.mono ?_)
  intro seen _ same
  refine Program.reasoned_bind ((applyMovement_candid data same).mono ?_)
  intro prepared affected _
  refine ⟨trivial, fun movement => ⟨trivial, fun _ => ?_⟩⟩
  change Candid data _ ((announceMovement settings data affected).bind fun _ => .ret movement) _
  refine Program.reasoned_bind ((Program.reasoned_of_only
    (announceMovement_keepsStock settings data affected) (announceMovement_raises settings data affected)
    locksOnce_of_keepsStock ?_ _).mono fun _ _ _ => trivial)
  intro _ error internal domain
  rw [internal] at domain
  cases domain

end Programs

section Answers

variable {exchanges : Dialogue} {statement : Statement} {answer : Answer} {others : List Session}
variable {world after : World} {session updated : Session} {response : statement.Response}

/-- A transaction holds rows of pairs it has touched. -/
def Session.HoldsTouched (session : Session) (exchanges : Dialogue) : Prop :=
  ∀ row ∈ session.rows, row.pair ∈ touchedPairs exchanges

theorem respond_holdsTouched (holds : session.HoldsTouched exchanges)
    (executed : respond statement answer others world session = .done response after updated) :
    updated.HoldsTouched (⟨statement, response⟩ :: exchanges) := by
  have older : ∀ pair ∈ touchedPairs exchanges,
      pair ∈ touchedPairs (⟨statement, response⟩ :: exchanges) :=
    fun pair member => List.mem_append_right _ member
  have unchanged : updated.rows = session.rows →
      updated.HoldsTouched (⟨statement, response⟩ :: exchanges) := by
    intro same row held
    exact older _ (holds row (same ▸ held))
  cases statement
  case selectInventoryForUpdate productId warehouseId =>
    simp only [respond, selectInventoryForUpdate] at executed
    split at executed
    · cases executed
      exact unchanged rfl
    · split at executed
      · cases executed
        exact unchanged rfl
      · split at executed
        · cases executed
        · cases executed
          intro row held
          rcases List.mem_append.mp held with own | stored
          · exact older _ (holds row own)
          · rw [(Tables.mem_inventoriesOf.mp stored).2]
            exact List.mem_append_left _ (List.mem_singleton.mpr rfl)
  case insertInventory inventory =>
    simp only [respond, insertInventory] at executed
    (repeat' split at executed) <;> cases executed
    intro row held
    rcases List.mem_append.mp held with own | new
    · exact older _ (holds row own)
    · rw [List.mem_singleton.mp new]
      exact List.mem_append_left _ (List.mem_singleton.mpr rfl)
  case updateInventory inventory =>
    simp only [respond, updateInventory] at executed
    split at executed
    · cases executed
    · split at executed
      · cases executed
      · next row found =>
          cases executed
          intro other held
          rcases mem_replaceRow held with rfl | ⟨own, _⟩
          · exact older _ (holds row (Session.row?_some found).1)
          · exact older _ (holds other own)
  case commit dirty =>
    simp only [respond, commit] at executed
    split at executed <;> cases executed
    intro row held
    cases held
  all_goals
    simp only [respond, insertMovement, insertAlert, selectActiveAlerts, refreshAlert,
      selectInventories, dispatch, gather, delay] at executed
    (repeat' split at executed) <;> cases executed <;> exact unchanged rfl

/-- A call that locks a row for the first time is told what is committed. -/
theorem respond_reports (holds : session.HoldsTouched exchanges) (once : LocksOnce exchanges statement)
    (executed : respond statement answer others world session = .done response after updated) :
    Reports world.tables ⟨statement, response⟩ := by
  cases statement
  case getProduct id =>
    cases executed
    rfl
  case getWarehouse id =>
    cases executed
    rfl
  case selectInventoryForUpdate productId warehouseId =>
    have unlocked : session.row? (productId, warehouseId) = none := by
      rw [Session.row?_none]
      exact fun row held same => once (same ▸ holds row held)
    simp only [respond, selectInventoryForUpdate, unlocked] at executed
    split at executed
    · next none =>
        cases executed
        exact none.symm
    · split at executed
      · cases executed
      · cases executed
        rfl
  all_goals trivial

theorem execute_raises {error : Exception}
    (executed : execute statement answer others world session = .raise error) :
    error.isAppException = false := by
  unfold execute at executed
  split at executed
  · cases executed
    rfl
  · cases statement <;>
      simp only [respond, selectInventoryForUpdate, insertInventory, updateInventory, insertMovement,
        commit, insertAlert, selectActiveAlerts, refreshAlert, selectInventories, dispatch, gather, delay]
        at executed <;>
      (repeat' split at executed) <;> cases executed <;> rfl

end Answers

section Runs

variable {settings : Settings} {world : World} {requests : List Request} {system : Application}
variable {guard : Guard Statement Answer World Session}

/-- What a domain error that ends a movement has to say about the tables. -/
def RefusedBy (request : Request) (error : Exception) (world : World) : Prop :=
  error.isAppException = true → ∀ data performedBy, request = .movement data performedBy →
    Refused data world.tables error

/-- The reasons of a request for its domain errors. -/
def RequestRefuted (request : Request) (exchanges : Dialogue) (error : Exception) : Prop :=
  error.isAppException = true → ∀ data performedBy, request = .movement data performedBy →
    Refuted data error exchanges

theorem request_reasoned (settings : Settings) (request : Request) :
    (request.program settings).Reasoned LocksOnce (RequestRefuted request) (fun _ _ => True) [] := by
  have unlocked : (∀ data performedBy, request ≠ .movement data performedBy) →
      (request.program settings).Reasoned LocksOnce (RequestRefuted request) (fun _ _ => True) [] := by
    intro other
    refine Program.reasoned_of_only ((request_concernsAlerts settings request other).mono
      fun _ => Statement.keepsStock_of_concernsAlerts) (Program.throws_anything _)
      locksOnce_of_keepsStock ?_ []
    intro _ _ _ _ data performedBy same
    exact absurd same (other data performedBy)
  cases request with
  | movement data performedBy =>
      have candid : (recordMovement settings data performedBy).Reasoned LocksOnce
          (RequestRefuted (.movement data performedBy)) (fun _ _ => True) [] :=
        (recordMovement_candid settings data performedBy).raising (fun exchanges error refuted => by
          intro domain data performedBy same
          cases same
          exact refuted domain)
      exact Program.reasoned_bind (candid.mono fun _ _ _ => trivial)
  | sweep fuel => exact unlocked (fun _ _ same => by cases same)
  | resolveAlert alertId => exact unlocked (fun _ _ same => by cases same)

theorem start_working {index : Nat} {data : MovementCreate} {performedBy : Option UUID}
    {thread : Thread Request Statement Statement.Response Exception Session Reply}
    (found : (Application.start settings world requests).threads[index]? = some thread)
    (label : thread.label = .movement data performedBy) : thread.finished = false := by
  obtain ⟨request, _, rfl⟩ := List.mem_map.mp (List.mem_of_getElem? found)
  rw [Thread.settle_label] at label
  cases label
  rfl

/-- Whatever else happens, a movement ends with a domain error only where that error has
told the truth about the committed tables at some moment of the call. -/
theorem refusals_were_true (settings : Settings) (world : World) (requests : List Request)
    (system : Application)
    (reached : Reachable environment Guard.unrestricted
      (Application.start settings world requests) system)
    (index : Nat) (data : MovementCreate) (performedBy : Option UUID) (error : Exception)
    (session : Session)
    (ended : system.threads[index]? = some ⟨.movement data performedBy, .raise error, session⟩)
    (domain : error.isAppException = true) :
    ∃ earlier : Application,
      Reachable environment Guard.unrestricted (Application.start settings world requests) earlier ∧
      Reachable environment Guard.unrestricted earlier system ∧
      (∃ thread, earlier.threads[index]? = some thread ∧ thread.finished = false) ∧
      Refused data earlier.shared.tables error ∧ ¬ data.Possible earlier.shared.tables := by
  have started : ∀ thread ∈ (Application.start settings world requests).threads,
      thread.Informed (fun _ => LocksOnce) RequestRefuted Session.HoldsTouched :=
    System.start_informed (fun _ held => by cases held)
      (fun request _ => request_reasoned settings request)
  have working : ∀ thread, (Application.start settings world requests).threads[index]? = some thread →
      thread.finished = false := by
    intro thread found
    have labels := congrArg (·[index]?) reached.labels
    simp only [List.getElem?_map, ended, found, Option.map_some, Option.some.injEq] at labels
    exact start_working found labels.symm
  obtain ⟨earlier, before, since, unfinished, because⟩ := reached.raised_because RefusedBy started
    (fun _ _ _ _ _ _ _ _ _ _ holds _ executed => respond_holdsTouched holds (execute_done executed))
    (fun _ _ _ _ _ _ _ _ _ _ _ holds once executed refuted domain data performedBy same =>
      refuted domain data performedBy same _ (respond_reports holds once (execute_done executed)))
    (fun _ _ _ _ _ _ _ executed domain => by
      rw [execute_raises executed] at domain
      cases domain)
    working _ error ended rfl
  have refused := because domain data performedBy rfl
  exact ⟨earlier, before, since, unfinished, refused, refused.impossible⟩

end Runs

/-! Two shipments of four units out of five. -/

def Sample.shipments : List Request :=
  List.replicate 2 (.movement (Sample.ship Sample.main 4 (by decide)) none)

def Sample.overdrawn : List (Nat × Answer) := [1, 1, 0, 0, 0, 0, 0, 0, 1].map (·, {})

theorem refusals_were_true_overdrawn :
    ∃ system error session, (Application.start {} Sample.stocked Sample.shipments).schedule environment
        Sample.overdrawn = some system ∧
      system.threads[1]? =
        some ⟨.movement (Sample.ship Sample.main 4 (by decide)) none, .raise error, session⟩ ∧
      ∃ earlier : Application, Reachable environment Guard.unrestricted earlier system ∧
        Refused (Sample.ship Sample.main 4 (by decide)) earlier.shared.tables error := by
  have failed : ((Application.start {} Sample.stocked Sample.shipments).schedule environment
      Sample.overdrawn).any (fun system => system.threads[1]?.any (fun thread =>
        match thread.program with
        | .raise error => error.isAppException
        | _ => false)) = true := by
    decide +kernel
  obtain ⟨system, ran, refused⟩ := (Option.any_eq_true ..).mp failed
  obtain ⟨⟨label, program, session⟩, found, raised⟩ := (Option.any_eq_true ..).mp refused
  have reached := System.schedule_reachable .refl ran
  have labels := congrArg (·[1]?) reached.labels
  simp only [List.getElem?_map, found] at labels
  cases labels
  cases program with
  | ret value => cases raised
  | call statement next => cases raised
  | raise error =>
      obtain ⟨earlier, _, since, _, refused, _⟩ := refusals_were_true {} Sample.stocked
        Sample.shipments system reached 1 _ none error session found raised
      exact ⟨system, error, session, ran, found, earlier, since, refused⟩

end InventoryManagement
