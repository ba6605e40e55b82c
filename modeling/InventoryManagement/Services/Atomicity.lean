import InventoryManagement.Services.MovementAlone

/-! A movement request commits everything or nothing, and when it does which. -/

set_option autoImplicit false

namespace InventoryManagement

open Interleaving (Guard Program)

variable {settings : Settings} {answers : Nat → Answer}
variable {world before after : World} {session updated : Session}

/-- Nothing a client, the publisher or the broker can see has changed. -/
structure World.Untouched (before after : World) : Prop where
  tables : after.tables = before.tables
  published : after.published = before.published
  enqueued : after.enqueued = before.enqueued

theorem World.Untouched.refl (world : World) : world.Untouched world := ⟨rfl, rfl, rfl⟩

theorem World.Untouched.trans {first second third : World} (earlier : first.Untouched second)
    (later : second.Untouched third) : first.Untouched third :=
  ⟨later.tables.trans earlier.tables, later.published.trans earlier.published,
    later.enqueued.trans earlier.enqueued⟩

/-- The statements that come before the commit of a movement. -/
def Statement.prepares : Statement → Bool
  | .getProduct _ | .getWarehouse _ | .selectInventoryForUpdate _ _ | .insertInventory _
  | .updateInventory _ | .insertMovement _ => true
  | _ => false

theorem respond_prepares {statement : Statement} {answer : Answer} {others : List Session}
    {response : statement.Response} (prepares : statement.prepares = true)
    (executed : respond statement answer others before session = .done response after updated) :
    before.Untouched after ∧ updated.toHistory = session.toHistory := by
  cases statement <;> simp only [Statement.prepares, Bool.false_eq_true] at prepares <;>
    simp only [respond, selectInventoryForUpdate, insertInventory, updateInventory, insertMovement]
      at executed <;>
    (repeat' split at executed) <;> cases executed <;> exact ⟨⟨rfl, rfl, rfl⟩, rfl⟩

/-- The statements that change no stock and no audit record. -/
def Statement.keepsStock : Statement → Bool
  | .selectInventoryForUpdate _ _ | .insertInventory _ | .updateInventory _
  | .insertMovement _ => false
  | _ => true

/-- Those of them that announce no movement either. -/
def Statement.concernsAlerts : Statement → Bool
  | .dispatch event => !event.isMovement
  | statement => statement.keepsStock

theorem Statement.keepsStock_of_concernsAlerts {statement : Statement}
    (concerns : statement.concernsAlerts = true) : statement.keepsStock = true := by
  cases statement <;> first | rfl | exact concerns

/-- A session without rows leaves stock and movements as they are. -/
structure StockKept (before : World) (session : Session) (after : World) (updated : Session) :
    Prop where
  unlocked : updated.Unlocked
  inventories : after.tables.inventories = before.tables.inventories
  movements : after.tables.movements = before.tables.movements
  recorded : updated.recorded = session.recorded
  commits : session.commits ≤ updated.commits

theorem respond_keepsStock {statement : Statement} {answer : Answer} {others : List Session}
    {response : statement.Response} (keeps : statement.keepsStock = true)
    (unlocked : session.Unlocked)
    (executed : respond statement answer others before session = .done response after updated) :
    StockKept before session after updated := by
  cases statement
  case commit dirty =>
    simp only [respond, commit] at executed
    split at executed
    · cases executed
    · cases executed
      obtain ⟨inventories, movements⟩ := unlocked.commit_stock before.tables dirty
      exact ⟨⟨rfl, rfl, rfl⟩, inventories, movements, by simp [unlocked.movements], Nat.le_succ _⟩
  all_goals simp only [Statement.keepsStock, Bool.false_eq_true] at keeps
  all_goals
    try simp only [respond, insertAlert, selectActiveAlerts, refreshAlert, selectInventories,
      dispatch, gather, delay] at executed
    (repeat' split at executed) <;> cases executed <;>
      exact ⟨⟨unlocked.rows, unlocked.inserted, unlocked.movements⟩, rfl, rfl, rfl, Nat.le_refl _⟩

theorem keepsStock_run (answers : Nat → Answer) (world : World) {Value : Type}
    {program : Transaction Value}
    (only : program.Only (fun statement => statement.keepsStock = true))
    (unlocked : session.Unlocked) (elapsed : Nat) :
    StockKept world session (program.run environment answers elapsed world session).shared
      (program.run environment answers elapsed world session).session := by
  refine only.run environment answers (fun after updated => StockKept world session after updated) elapsed
    ⟨unlocked, rfl, rfl, rfl, Nat.le_refl _⟩ ?_
  intro statement answer earlier middle response later last keeps executed sofar
  have step := respond_keepsStock keeps sofar.unlocked (execute_done executed)
  exact ⟨step.unlocked, step.inventories.trans sofar.inventories,
    step.movements.trans sofar.movements, step.recorded.trans sofar.recorded,
    Nat.le_trans sofar.commits step.commits⟩

section Programs

theorem scalarOneOrNone_only {Row : Type} (allowed : Statement → Prop) (rows : List Row) :
    (scalarOneOrNone rows).Only allowed := by
  match rows with
  | [] => trivial
  | [row] => trivial
  | _ :: _ :: _ => trivial

theorem getByIdOrRaise_only {Entity : Type} (allowed : Statement → Prop) (model id : String)
    (entity : Option Entity) : (getByIdOrRaise model id entity).Only allowed := by
  cases entity <;> trivial

private abbrev Prepares {Value : Type} (program : Transaction Value) : Prop :=
  program.Only (fun statement => statement.prepares = true)

private theorem flushQuantity_prepares (inventory : Inventory) (quantity : Int) :
    Prepares (flushQuantity inventory quantity) :=
  ⟨rfl, fun _ => trivial⟩

private theorem locked_prepares {Value : Type} {productId warehouseId : UUID}
    {next : Option Inventory → Transaction Value} (rest : ∀ found, Prepares (next found)) :
    Prepares ((getWarehouseByIdOrRaise warehouseId).bind fun _ =>
      (getByProductAndWarehouseForUpdate productId warehouseId).bind next) := by
  refine Program.Only.bind ⟨rfl, fun entity => getByIdOrRaise_only _ _ _ entity⟩ (fun _ => ?_)
  exact Program.Only.bind ⟨rfl, fun rows => scalarOneOrNone_only _ rows⟩ rest

theorem increaseStock_prepares (productId warehouseId : UUID) (quantity : Int) :
    Prepares (increaseStock productId warehouseId quantity) := by
  refine locked_prepares (fun found => ?_)
  cases found with
  | none => exact ⟨rfl, fun row => flushQuantity_prepares row _⟩
  | some row => exact flushQuantity_prepares row _

theorem decreaseStock_prepares (productId warehouseId : UUID) (quantity : Int) :
    Prepares (decreaseStock productId warehouseId quantity) := by
  refine locked_prepares (fun found => ?_)
  cases found with
  | none => trivial
  | some row =>
      by_cases short : row.quantity < quantity
      · simp only [short, if_true]
        trivial
      · simp only [short, if_false]
        exact flushQuantity_prepares row _

theorem transferStock_prepares (productId sourceId destinationId : UUID) (quantity : Int) :
    Prepares (transferStock productId sourceId destinationId quantity) := by
  unfold transferStock
  split
  · exact (decreaseStock_prepares _ _ _).bind (fun _ =>
      (increaseStock_prepares _ _ _).bind (fun _ => trivial))
  · exact (increaseStock_prepares _ _ _).bind (fun _ =>
      (decreaseStock_prepares _ _ _).bind (fun _ => trivial))

theorem applyMovement_prepares (data : MovementCreate) : Prepares (applyMovement data) := by
  unfold applyMovement
  split
  · exact (increaseStock_prepares _ _ _).bind (fun _ => trivial)
  · exact (decreaseStock_prepares _ _ _).bind (fun _ => trivial)
  · exact (transferStock_prepares _ _ _ _).bind (fun _ => trivial)
  · trivial

abbrev ConcernsAlerts {Value : Type} (program : Transaction Value) : Prop :=
  program.Only (fun statement => statement.concernsAlerts = true)

theorem alertEvent_isMovement (alert : Alert) : (alertEvent alert).isMovement = false := by
  unfold alertEvent
  split <;> rfl

theorem publish_throws {allowed : Exception → Prop} (event : InventoryEvent) :
    (publish event).Throws allowed :=
  fun _ _ => trivial

theorem reactToAlert_throws {allowed : Exception → Prop} (alert : Alert) :
    (reactToAlert alert).Throws allowed := by
  refine Program.Throws.bind (publish_throws (alertEvent alert)) ?_
  intro _ response
  cases response <;> trivial

theorem reactToAlert_concernsAlerts (alert : Alert) : ConcernsAlerts (reactToAlert alert) := by
  refine ⟨?_, fun _ => ⟨rfl, fun _ => ⟨rfl, fun response => ?_⟩⟩⟩
  · simp [Statement.concernsAlerts, alertEvent_isMovement]
  · cases response <;> trivial

theorem evaluateStockLevel_concernsAlerts (settings : Settings) (inventory : Inventory) :
    ConcernsAlerts (evaluateStockLevel settings inventory) := by
  obtain ⟨next, evaluates, reconciles⟩ := evaluateStockLevel_cases settings inventory
  rw [evaluates]
  refine Program.Only.bind ⟨rfl, fun rows => scalarOneOrNone_only _ rows⟩ (fun existing => ?_)
  have reacts : ∀ alert, ConcernsAlerts ((reactToAlert alert).bind fun _ => .ret (some alert)) :=
    fun alert => (reactToAlert_concernsAlerts alert).bind (fun _ => trivial)
  have branch := reconciles existing
  generalize next existing = program at branch ⊢
  cases branch with
  | rest | keep => trivial
  | resolve => exact ⟨rfl, fun _ => ⟨rfl, fun _ => ⟨rfl, fun _ => trivial⟩⟩⟩
  | retype => exact ⟨rfl, fun _ => ⟨rfl, fun refreshed => reacts refreshed⟩⟩
  | raise => exact ⟨rfl, fun alert => ⟨rfl, fun _ => reacts alert⟩⟩

theorem evaluateAffected_concernsAlerts (settings : Settings) (affected : List Inventory) :
    ConcernsAlerts (evaluateAffected settings affected) := by
  induction affected with
  | nil => trivial
  | cons inventory rest ih => exact (evaluateStockLevel_concernsAlerts _ _).bind (fun _ => ih)

private abbrev KeepsStock {Value : Type} (program : Transaction Value) : Prop :=
  program.Only (fun statement => statement.keepsStock = true)

theorem announceMovement_keepsStock (settings : Settings) (data : MovementCreate)
    (affected : List Inventory) : KeepsStock (announceMovement settings data affected) := by
  refine ((evaluateAffected_concernsAlerts settings affected).mono
    (fun _ => Statement.keepsStock_of_concernsAlerts)).bind (fun _ => ?_)
  obtain ⟨event, built⟩ := buildMovementEvent_returns data affected
  simp only [built, Program.bind_eq, Program.ret_bind]
  exact ⟨rfl, fun _ => ⟨rfl, fun _ => trivial⟩⟩

end Programs

/-- The part of `record_movement` before its commit. -/
def prepareMovement (data : MovementCreate) (performedBy : Option UUID) :
    Transaction (List Inventory × Movement) := do
  let _ ← getProductByIdOrRaise data.productId
  let affected ← applyMovement data
  let movement ← createMovement (data.values performedBy)
  pure (affected, movement)

theorem recordMovement_eq (settings : Settings) (data : MovementCreate)
    (performedBy : Option UUID) :
    recordMovement settings data performedBy = (prepareMovement data performedBy).bind
      (fun prepared => (commitSession []).bind (fun _ =>
        (announceMovement settings data prepared.1).bind (fun _ => .ret prepared.2))) := by
  simp only [recordMovement, prepareMovement, Program.bind_eq, Program.pure_eq_ret,
    Program.bind_assoc, Program.ret_bind]

theorem prepareMovement_prepares (data : MovementCreate) (performedBy : Option UUID) :
    Prepares (prepareMovement data performedBy) := by
  refine Program.Only.bind ⟨rfl, fun entity => getByIdOrRaise_only _ _ _ entity⟩ (fun _ => ?_)
  exact (applyMovement_prepares data).bind (fun _ => ⟨rfl, fun _ => trivial⟩)

theorem prepareMovement_conducted (settings : Settings) (world : World) {guard : Guard Statement Answer World Session}
    {allowed : List Movement → Exception → Prop} (permits : Permits guard allowed)
    (data : MovementCreate) (performedBy : Option UUID) :
    Conducted settings (.movement data performedBy) guard allowed
      (fun prepared => Recording data performedBy prepared.1 prepared.2)
      (prepareMovement data performedBy) {} world := by
  refine conducted_bind _ (getProduct_conducted permits (applying_start world)) ?_
  intro _ _ checked ensured
  obtain ⟨rfl, applying⟩ := ensured
  refine conducted_bind _ (applyMovement_conducted permits data performedBy rfl applying) ?_
  intro affected changed between applied
  refine conducted_bind _ (createMovement_conducted permits applied) ?_
  intro movement audited later recording
  exact recording

theorem Session.fresh_sound (world : World) : Session.Sound {} world :=
  Session.close_sound {} world

/-- The state right before the commit of a movement that started in `before`. -/
structure Prepared (before : World) (data : MovementCreate) (performedBy : Option UUID)
    (affected : List Inventory) (movement : Movement) (session : Session) (world : World) :
    Prop where
  untouched : before.Untouched world
  recording : Recording data performedBy affected movement session world
  valid : world.Valid
  sound : session.Sound world

theorem prepareMovement_run (answers : Nat → Answer) (valid : world.Valid) (data : MovementCreate)
    (performedBy : Option UUID) (elapsed : Nat) :
    match (prepareMovement data performedBy).run environment answers elapsed world {} with
    | ⟨outcome, after, updated, _⟩ => world.Untouched after ∧ updated.commits = 0 ∧
      ∀ prepared, outcome = some (.ok prepared) →
        Prepared world data performedBy prepared.1 prepared.2 updated after := by
  have conducted := (prepareMovement_conducted {} world permits_unrestricted data performedBy).run answers
    (fun _ _ => True) elapsed valid (Session.fresh_sound world) (fun _ _ _ _ => trivial) trivial
      (fun _ _ _ _ _ _ _ _ _ _ _ => trivial)
  have kept := databaseDiscipline.run answers (prepareMovement data performedBy) elapsed valid (Session.fresh_sound world)
  have quiet := (prepareMovement_prepares data performedBy).run environment answers
    (fun after updated => world.Untouched after ∧ updated.toHistory = {}) elapsed
    (⟨.refl world, rfl⟩ : world.Untouched world ∧ Session.toHistory {} = {}) (by
      intro statement answer earlier middle response later last prepares executed sofar
      obtain ⟨untouched, history⟩ := respond_prepares prepares (execute_done executed)
      exact ⟨sofar.1.trans untouched, history.trans sofar.2⟩)
  revert conducted kept quiet
  cases (prepareMovement data performedBy).run environment answers elapsed world {} with
  | mk outcome after updated later =>
      rintro ⟨_, returns, _⟩ ⟨validAfter, sound⟩ ⟨untouched, history⟩
      refine ⟨untouched, congrArg History.commits history, ?_⟩
      intro prepared ended
      exact ⟨untouched, returns prepared ended, validAfter, sound⟩

/-- The state right after the commit of a movement that started in `before`. -/
structure MovementDone (before : World) (data : MovementCreate) (performedBy : Option UUID)
    (affected : List Inventory) (movement : Movement) (session : Session) (world : World) :
    Prop where
  posted : Posted data affected movement session world
  values : movement.toMovementValues = data.values performedBy
  movements : world.tables.movements = before.tables.movements ++ [movement]
  stored : ∀ row ∈ affected, world.tables.inventoriesOf row.pair = [row]
  elsewhere : ∀ pair, pair ∉ data.pairs →
    world.tables.inventoriesOf pair = before.tables.inventoriesOf pair
  quantity : ∀ pair,
    world.tables.quantity pair = before.tables.quantity pair + movement.change pair
  nonnegative : ∀ pair, 0 ≤ before.tables.quantity pair → 0 ≤ world.tables.quantity pair
  alerts : world.tables.alerts = before.tables.alerts
  published : world.published = before.published
  enqueued : world.enqueued = before.enqueued
  valid : world.Valid
  sound : session.Sound world

theorem Prepared.commit {data : MovementCreate} {performedBy : Option UUID}
    {affected : List Inventory} {movement : Movement} {answer : Answer} {response : Unit}
    (prepared : Prepared before data performedBy affected movement session world)
    (executed : execute (.commit []) answer [] world session = .done response after updated) :
    MovementDone before data performedBy affected movement updated after := by
  obtain ⟨validAfter, soundAfter, _⟩ := databaseDiscipline.execute_done _ _ _ _ _ _ _ _ executed
    prepared.valid prepared.sound (by simp)
  have conducted : Conducted {} (.movement data performedBy) Guard.unrestricted (fun _ _ => True)
      (fun _ => Posted data affected movement) (commitSession []) session world :=
    commitMovement_conducted permits_unrestricted prepared.recording
  have posted : Posted data affected movement updated after :=
    ((conducted world (.refl _ _) prepared.valid prepared.sound).2 answer [] trivial).2 response
      after updated executed validAfter soundAfter
  obtain ⟨rows, perm, applying⟩ := prepared.recording.applying
  have found : ∀ row ∈ affected, session.row? row.pair = some row := fun row member =>
    find_pair_of_mem prepared.sound.rows_unique (applying.held ▸ perm.mem_iff.mpr member)
  have absent : ∀ pair, pair ∉ data.pairs → session.row? pair = none := by
    intro pair outside
    rw [Session.row?_none, applying.held]
    intro row member same
    apply outside
    rw [← prepared.recording.pairs, ← same]
    exact List.mem_map_of_mem (perm.mem_iff.mp member)
  have before_eq := prepared.untouched.tables
  cases execute_done executed
  refine ⟨posted, prepared.recording.values, ?_, ?_, ?_, ?_, ?_, ?_, prepared.untouched.published,
    prepared.untouched.enqueued, validAfter, soundAfter⟩
  · simp [Tables.commit, prepared.recording.movements, before_eq]
  · intro row member
    simp only [Tables.inventoriesOf_commit prepared.sound, found row member]
  · intro pair outside
    rw [← before_eq]
    simp only [Tables.inventoriesOf_commit prepared.sound, absent pair outside]
  · intro pair
    rw [← before_eq]
    change (world.tables.commit session []).quantity pair = _
    rw [Tables.quantity_commit prepared.sound]
    cases held : session.row? pair with
    | none =>
        have unchanged := applying.unchanged pair (applying.held ▸ Session.row?_none.mp held)
        rw [unchanged, Int.add_zero]
    | some row =>
        obtain ⟨member, rfl⟩ := Session.row?_some held
        exact applying.changed row (applying.held ▸ member)
  · intro pair
    rw [← before_eq]
    change _ → 0 ≤ (world.tables.commit session []).quantity pair
    rw [Tables.quantity_commit prepared.sound]
    cases held : session.row? pair with
    | none => exact id
    | some row =>
        obtain ⟨member, rfl⟩ := Session.row?_some held
        exact applying.nonnegative row (applying.held ▸ member)
  · simp [Tables.commit, applying.alerts, before_eq, show applyChanges [] = id from rfl]

theorem commitSession_run {Value : Type} (dirty : List (RowId × AlertChange))
    (next : Unit → Transaction Value) (elapsed : Nat) (world : World) (session : Session) :
    ((commitSession dirty).bind next).run environment answers elapsed world session =
      match execute (.commit dirty) (answers elapsed) [] world session with
      | .wait => ⟨none, world, session, elapsed⟩
      | .raise error => ⟨some (.error error), world, session, elapsed + 1⟩
      | .done response after updated =>
          (next response).run environment answers (elapsed + 1) after updated := by
  rw [show (commitSession dirty).bind next = .call (.commit dirty) next from rfl, Program.run_call]
  cases executed : execute (.commit dirty) (answers elapsed) [] world session <;>
    simp only [environment, executed]

/-- A movement request either commits and announces, or leaves no trace. -/
theorem recordMovement_run (valid : world.Valid) (settings : Settings) (answers : Nat → Answer)
    (data : MovementCreate) (performedBy : Option UUID) :
    (world.Untouched
        ((recordMovement settings data performedBy).run environment answers 0 world {}).shared ∧
      ((recordMovement settings data performedBy).run environment answers 0 world {}).session.commits
        = 0 ∧
      ((∀ n, (answers n).fails = false) → ∀ prepared,
        ((prepareMovement data performedBy).run environment answers 0 world {}).outcome ≠
          some (.ok prepared))) ∨
    ∃ affected movement session committed elapsed,
      MovementDone world data performedBy affected movement session committed ∧
      (recordMovement settings data performedBy).run environment answers 0 world {} =
        ((announceMovement settings data affected).bind (fun _ => .ret movement)).run environment
          answers elapsed committed session := by
  have ran := prepareMovement_run answers valid data performedBy 0
  rw [recordMovement_eq, Program.run_bind]
  revert ran
  rcases (prepareMovement data performedBy).run environment answers 0 world {} with
    ⟨_ | error | ⟨affected, movement⟩, after, updated, later⟩
  · intro given
    obtain ⟨untouched, commits, _⟩ := given
    exact .inl ⟨untouched, commits, fun _ _ ended => (by cases ended)⟩
  · intro given
    obtain ⟨untouched, commits, _⟩ := given
    exact .inl ⟨untouched, commits, fun _ _ ended => (by cases ended)⟩
  · intro given
    obtain ⟨untouched, commits, prepared⟩ := given
    have prepared := prepared (affected, movement) rfl
    dsimp only
    rw [commitSession_run]
    cases executed : execute (.commit []) (answers later) [] after updated with
    | wait => cases fails : (answers later).fails <;> simp [execute, fails, Statement.usesDatabase,
        respond, commit] at executed
    | raise error =>
        refine .inl ⟨untouched, commits, fun healthy => ?_⟩
        simp [execute, healthy, respond, commit] at executed
    | done response committed session =>
        exact .inr ⟨affected, movement, session, committed, later + 1, prepared.commit executed, rfl⟩

theorem MovementPayload.Possible.refers {data : MovementCreate}
    (possible : data.Possible world.tables) (performedBy : Option UUID) :
    (data.values performedBy).refers world.tables = true := by
  simp only [MovementValues.refers, MovementCreate.values, possible.product, Bool.true_and,
    Bool.and_eq_true, Option.all_eq_true]
  exact ⟨fun id named => possible.warehouses id (.inl named),
    fun id named => possible.warehouses id (.inr named)⟩

section Possible

variable (healthy : ∀ n, (answers n).fails = false)
include healthy

theorem prepareMovement_alone (valid : world.Valid) {data : MovementCreate}
    (performedBy : Option UUID) (possible : data.Possible world.tables)
    (storable : data.Storable world.tables) :
    (prepareMovement data performedBy).Returns environment answers world {}
      (fun _ _ _ => True) := by
  refine (getProduct_alone healthy possible.product).bind ?_
  intro _ _ _ ensured
  obtain ⟨rfl, rfl⟩ := ensured
  refine (applyMovement_alone healthy valid possible storable.toInRange (applying_start world)).bind ?_
  intro affected _ updated same
  subst same
  refine returns_statement healthy (fun n => ?_)
  have refers := possible.refers performedBy
  have fits : Integer.fits (data.values performedBy).quantity = true := storable.quantity
  have reason : (data.values performedBy).reason.all Text.sendable = true := storable.reason
  simp only [respond, insertMovement, refers, fits, reason]
  exact ⟨_, _, _, rfl, Program.returns_ret trivial⟩

/-- The stock has been changed when the database refuses the reason. -/
theorem prepareMovement_unsendable (valid : world.Valid) {data : MovementCreate}
    (performedBy : Option UUID) (possible : data.Possible world.tables)
    (inRange : data.InRange world.tables) (unsendable : data.reason.all Text.sendable = false) :
    (prepareMovement data performedBy).Raises environment answers world {}
      (fun error _ _ => error = .dataError) := by
  refine (getProduct_alone healthy possible.product).bind_raises ?_
  intro _ _ _ ensured
  obtain ⟨rfl, rfl⟩ := ensured
  refine (applyMovement_alone healthy valid possible inRange (applying_start world)).bind_raises ?_
  intro affected _ updated same
  subst same
  apply Program.Raises.bind
  apply Program.raises_refused
  intro n
  refine ⟨.dataError, ?_, rfl⟩
  have refers := possible.refers performedBy
  have reason : (data.values performedBy).reason.all Text.sendable = false := unsendable
  change execute _ _ _ _ _ = _
  rw [execute_healthy (healthy n)]
  simp [respond, insertMovement, refers, reason]

theorem prepareMovement_refused (valid : world.Valid) {data : MovementCreate}
    (performedBy : Option UUID) (impossible : ¬ data.Possible world.tables)
    (room : ∀ destination, data.destinationWarehouseId = some destination →
      Integer.fits (world.tables.quantity (data.productId, destination) + data.quantity) = true) :
    (prepareMovement data performedBy).Raises environment answers world {}
      (fun error _ _ => error.isAppException = true) := by
  cases product : world.tables.hasProduct data.productId with
  | false => exact (getProduct_missing healthy product).bind
  | true =>
      refine (getProduct_alone healthy product).bind_raises ?_
      intro _ _ _ ensured
      obtain ⟨rfl, rfl⟩ := ensured
      exact (applyMovement_refused healthy valid product impossible room
        (applying_start world)).bind

end Possible

/-- A committed movement: one more audit record, and stock that has changed by it. -/
def MovementCreate.Recorded (data : MovementCreate) (performedBy : Option UUID)
    (before after : Tables) : Prop :=
  ∃ movement : Movement, movement.toMovementValues = data.values performedBy ∧
    after.movements = before.movements ++ [movement] ∧
    ∀ pair, after.quantity pair = before.quantity pair + movement.change pair

/-- A program run alone, in a session of its own. -/
def runAlone {Value : Type} (answers : Nat → Answer) (world : World) (program : Transaction Value) :
    Interleaving.Completion World Session Exception Value :=
  program.run environment answers 0 world {}

theorem MovementDone.recorded {data : MovementCreate} {performedBy : Option UUID}
    {affected : List Inventory} {movement : Movement}
    (done : MovementDone before data performedBy affected movement session world)
    (kept : StockKept world session after updated) :
    data.Recorded performedBy before.tables after.tables := by
  refine ⟨movement, done.values, kept.movements.trans done.movements, fun pair => ?_⟩
  rw [← done.quantity pair]
  simp only [Tables.quantity, Tables.inventoriesOf, kept.inventories]

theorem recordMovement_raises (valid : world.Valid) (settings : Settings) {data : MovementCreate}
    {performedBy : Option UUID} {expected : Exception → Prop}
    (raises : (prepareMovement data performedBy).Raises environment answers world {}
      (fun error _ _ => expected error)) :
    let done := runAlone answers world (recordMovement settings data performedBy)
    (∃ error, done.outcome = some (.error error) ∧ expected error) ∧
      done.session.commits = 0 ∧ world.Untouched done.shared := by
  obtain ⟨error, after, updated, later, ran, holds⟩ := raises 0
  have prepared := prepareMovement_run answers valid data performedBy 0
  rw [ran] at prepared
  simp only [runAlone, recordMovement_eq, Program.run_bind, ran]
  exact ⟨⟨error, rfl, holds⟩, prepared.2.1, prepared.1⟩

theorem recordMovement_refused (valid : world.Valid) (healthy : ∀ n, (answers n).fails = false)
    (settings : Settings) (data : MovementCreate) (performedBy : Option UUID)
    (impossible : ¬ data.Possible world.tables)
    (room : ∀ destination, data.destinationWarehouseId = some destination →
      Integer.fits (world.tables.quantity (data.productId, destination) + data.quantity) = true) :
    let done := runAlone answers world (recordMovement settings data performedBy)
    (∃ error, done.outcome = some (.error error) ∧ error.isAppException = true) ∧
      done.session.commits = 0 ∧ world.Untouched done.shared :=
  recordMovement_raises valid settings
    (prepareMovement_refused healthy valid performedBy impossible room)

theorem MovementDone.announced {data : MovementCreate} {performedBy : Option UUID}
    {affected : List Inventory} {movement : Movement}
    (done : MovementDone before data performedBy affected movement session world)
    (settings : Settings) (answers : Nat → Answer) (elapsed : Nat) :
    StockKept world session
      (((announceMovement settings data affected).bind (fun _ => .ret movement)).run environment
        answers elapsed world session).shared
      (((announceMovement settings data affected).bind (fun _ => .ret movement)).run environment
        answers elapsed world session).session := by
  have only : KeepsStock ((announceMovement settings data affected).bind
      (fun _ => .ret movement)) :=
    (announceMovement_keepsStock settings data affected).bind (fun _ => trivial)
  exact keepsStock_run answers _ only done.posted.clean.toUnlocked elapsed

theorem recordMovement_traceless (valid : world.Valid) (settings : Settings)
    (answers : Nat → Answer) (data : MovementCreate) (performedBy : Option UUID)
    (uncommitted :
      (runAlone answers world (recordMovement settings data performedBy)).session.commits = 0) :
    world.Untouched (runAlone answers world (recordMovement settings data performedBy)).shared := by
  rcases recordMovement_run valid settings answers data performedBy with
    ⟨untouched, _, _⟩ | ⟨affected, movement, session, committed, elapsed, done, ran⟩
  · exact untouched
  · have grown := (done.announced settings answers elapsed).commits
    have made := done.posted.commits
    rw [runAlone, ran] at uncommitted
    omega

theorem recordMovement_possible (valid : world.Valid) (healthy : ∀ n, (answers n).fails = false)
    (settings : Settings) (data : MovementCreate) (performedBy : Option UUID)
    (possible : data.Possible world.tables) (storable : data.Storable world.tables) :
    data.Recorded performedBy world.tables
      (runAlone answers world (recordMovement settings data performedBy)).shared.tables := by
  rcases recordMovement_run valid settings answers data performedBy with
    ⟨_, _, refused⟩ | ⟨affected, movement, session, committed, elapsed, done, ran⟩
  · obtain ⟨prepared, after, updated, later, returned, _⟩ :=
      prepareMovement_alone healthy valid performedBy possible storable 0
    rw [returned] at refused
    exact absurd rfl (refused healthy prepared)
  · rw [runAlone, ran]
    exact done.recorded (done.announced settings answers elapsed)

/-- A movement that leaves the tables as they were has not been recorded. -/
theorem MovementCreate.not_recorded {data : MovementCreate} {performedBy : Option UUID}
    {before after : Tables} (same : after = before) : ¬ data.Recorded performedBy before after := by
  rintro ⟨movement, _, appended, _⟩
  rw [same] at appended
  simp at appended

/-- A movement request that runs alone, with quantities in range, commits exactly when it
is possible, if and only if the database takes the text of its reason or the movement is
impossible. A call that ends before a commit leaves no trace. -/
theorem movement_commits_when_possible_iff (settings : Settings) (data : MovementCreate)
    (performedBy : Option UUID) (world : World) (valid : world.Valid) (answers : Nat → Answer) :
    let done := runAlone answers world (recordMovement settings data performedBy)
    ((∀ n, (answers n).fails = false) → data.InRange world.tables →
      ((data.Recorded performedBy world.tables done.shared.tables ↔ data.Possible world.tables) ↔
        data.reason.all Text.sendable = true ∨ ¬ data.Possible world.tables) ∧
      (¬ data.Possible world.tables → done.session.commits = 0 ∧
        ∃ error, done.outcome = some (.error error) ∧ error.isAppException = true)) ∧
    (done.session.commits = 0 → world.Untouched done.shared) := by
  intro done
  refine ⟨fun healthy inRange => ⟨?_, ?_⟩, ?_⟩
  · by_cases possible : data.Possible world.tables
    · rw [iff_true_right possible, or_iff_left (not_not.mpr possible)]
      constructor
      · intro recorded
        by_contra unsendable
        obtain ⟨_, _, untouched⟩ := recordMovement_raises valid settings
          (prepareMovement_unsendable healthy valid performedBy possible inRange
            (Bool.eq_false_iff.mpr unsendable))
        exact MovementCreate.not_recorded untouched.tables recorded
      · intro sendable
        exact recordMovement_possible valid healthy settings data performedBy possible
          ⟨inRange, sendable⟩
    · obtain ⟨_, _, untouched⟩ := recordMovement_refused valid healthy settings data performedBy
        possible inRange.destination
      exact iff_of_true (iff_of_false (MovementCreate.not_recorded untouched.tables) possible)
        (.inr possible)
  · intro impossible
    obtain ⟨raised, commits, _⟩ :=
      recordMovement_refused valid healthy settings data performedBy impossible
        inRange.destination
    exact ⟨commits, raised⟩
  · exact recordMovement_traceless valid settings answers data performedBy

namespace Sample

theorem receive25_possible : receive25.Possible Sample.world.tables := by
  refine ⟨rfl, ?_, ?_⟩
  · intro id named
    rcases named with source | destination
    · cases source
    · cases destination
      rfl
  · intro source named
    cases named

theorem receive25_inRange : receive25.InRange Sample.world.tables := by
  refine ⟨by decide, ?_⟩
  intro id destination
  cases destination
  decide

theorem nul_length : ∀ text ∈ some "\x00", text.length ≤ 500 := by
  intro text named
  cases named
  decide

/-- A receipt whose reason is a NUL character. -/
def unsendable : MovementCreate where
  toMovementPayload := { receive25.toMovementPayload with reason := some "\x00" }
  quantity_positive := receive25.quantity_positive
  reason_length := nul_length
  warehouses_valid := receive25.warehouses_valid

end Sample

/-- A receipt into an empty warehouse, on a broken broker. -/
theorem movement_commits_when_possible_iff_receipt :
    Sample.receive25.Recorded none Sample.world.tables
      (runAlone (fun _ => { brokerRaises := true }) Sample.world
        (recordMovement {} Sample.receive25 none)).shared.tables :=
  ((movement_commits_when_possible_iff {} _ none Sample.world Sample.world_valid
    (fun _ => { brokerRaises := true })).1 (fun _ => rfl) Sample.receive25_inRange).1.mpr (.inl rfl)
    |>.mpr Sample.receive25_possible

/-- The product and the warehouse exist and the quantity is small, but nothing is recorded. -/
theorem nul_in_reason_raises_data_error :
    Sample.unsendable.InRange Sample.world.tables ∧
      ¬ (Sample.unsendable.Recorded none Sample.world.tables
          (runAlone (fun _ => {}) Sample.world
            (recordMovement {} Sample.unsendable none)).shared.tables ↔
        Sample.unsendable.Possible Sample.world.tables) := by
  refine ⟨⟨Sample.receive25_inRange.quantity, Sample.receive25_inRange.destination⟩, ?_⟩
  intro same
  have possible := Sample.receive25_possible
  obtain ⟨movement, values, appended, _⟩ := same.mpr ⟨possible.product, possible.warehouses, possible.stock⟩
  cases appended

end InventoryManagement
