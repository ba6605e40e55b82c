import InventoryManagement.Services.RequestConduct

/-! The ledger: under every interleaving the stored quantities are what the
committed movements add up to. -/

set_option autoImplicit false

namespace InventoryManagement

open Interleaving (Guard Program System Reachable Thread flatMap_set_perm)

def received (movements : List Movement) (pair : Pair) : Int :=
  ((movements.filter (fun movement => movement.productId = pair.1 ∧
    movement.destinationWarehouseId = some pair.2)).map (·.quantity)).sum

def shipped (movements : List Movement) (pair : Pair) : Int :=
  ((movements.filter (fun movement => movement.productId = pair.1 ∧
    movement.sourceWarehouseId = some pair.2)).map (·.quantity)).sum

structure LedgerSound (tables : Tables) : Prop where
  unique : ∀ pair, (tables.inventoriesOf pair).length ≤ 1
  balance : ∀ pair,
    tables.quantity pair = received tables.movements pair - shipped tables.movements pair
  nonnegative : ∀ pair, 0 ≤ tables.quantity pair

/-- What a request's call has recorded: nothing yet, or its one movement. -/
def Request.Records (request : Request) (recorded : List Movement) : Prop :=
  recorded = [] ∨ ∃ data performedBy movement, request = .movement data performedBy ∧
    recorded = [movement] ∧ movement.toMovementValues = data.values performedBy

/-- The committed movements are exactly those the requests recorded. -/
structure MovementsAccounted (system : Application) : Prop where
  movements : system.shared.tables.movements.Perm
    (system.threads.flatMap (fun thread => thread.session.recorded))
  requests : ∀ thread ∈ system.threads, thread.label.Records thread.session.recorded

theorem received_append (movements : List Movement) (movement : Movement) (pair : Pair) :
    received (movements ++ [movement]) pair = received movements pair +
      if movement.productId = pair.1 ∧ movement.destinationWarehouseId = some pair.2
        then movement.quantity else 0 := by
  by_cases arrives : movement.productId = pair.1 ∧ movement.destinationWarehouseId = some pair.2
  · simp [received, arrives]
  · simp only [received, List.filter_append, List.filter_cons, decide_eq_true_eq, if_neg arrives]
    simp

theorem shipped_append (movements : List Movement) (movement : Movement) (pair : Pair) :
    shipped (movements ++ [movement]) pair = shipped movements pair +
      if movement.productId = pair.1 ∧ movement.sourceWarehouseId = some pair.2
        then movement.quantity else 0 := by
  by_cases leaves : movement.productId = pair.1 ∧ movement.sourceWarehouseId = some pair.2
  · simp [shipped, leaves]
  · simp only [shipped, List.filter_append, List.filter_cons, decide_eq_true_eq, if_neg leaves]
    simp

theorem balance_append (movements : List Movement) (movement : Movement) (pair : Pair) :
    received (movements ++ [movement]) pair - shipped (movements ++ [movement]) pair =
      received movements pair - shipped movements pair + movement.change pair := by
  rw [received_append, shipped_append, MovementValues.change]
  omega

section Commit

variable {settings : Settings} {request : Request} {dirty : List (RowId × AlertChange)}
variable {session : Session} {world : World}

/-- Stored quantities, row by row or pair by pair. -/
theorem World.Valid.nonnegative_iff (valid : world.Valid) :
    (∀ pair, 0 ≤ world.tables.quantity pair) ↔
      ∀ row ∈ world.tables.inventories, 0 ≤ row.quantity := by
  constructor
  · intro nonnegative row stored
    have counted := nonnegative row.pair
    simpa [Tables.quantity, valid.inventoriesOf_of_mem stored] using counted
  · intro stock pair
    rcases valid.inventoriesOf_cases pair with none | ⟨row, one⟩
    · simp [Tables.quantity, none]
    · have stored : row ∈ world.tables.inventories :=
        (Tables.mem_inventoriesOf.mp (one ▸ List.mem_cons_self)).1
      simpa [Tables.quantity, one] using stock row stored

theorem Tables.quantity_commit (sound : session.Sound world) (pair : Pair) :
    (world.tables.commit session dirty).quantity pair =
      match session.row? pair with
      | some row => row.quantity
      | none => world.tables.quantity pair := by
  unfold Tables.quantity
  rw [Tables.inventoriesOf_commit sound]
  cases session.row? pair with
  | some row => simp
  | none => rfl

theorem MovementCommit.quantity (commits : MovementCommit request dirty session world)
    (sound : session.Sound world) : ∃ movement, session.movements = [movement] ∧ ∀ pair,
      (world.tables.commit session dirty).quantity pair =
          world.tables.quantity pair + movement.change pair ∧
        (0 ≤ world.tables.quantity pair →
          0 ≤ (world.tables.commit session dirty).quantity pair) := by
  obtain ⟨data, performedBy, movement, _, movements, _, _, applying⟩ := commits.request
  refine ⟨movement, movements, fun pair => ?_⟩
  rw [Tables.quantity_commit sound]
  cases found : session.row? pair with
  | none =>
      have unchanged := applying.unchanged pair (Session.row?_none.mp found)
      change world.tables.quantity pair = world.tables.quantity pair + _ ∧ (_ → _)
      exact ⟨by omega, id⟩
  | some row =>
      obtain ⟨member, rfl⟩ := Session.row?_some found
      exact ⟨applying.changed row member, applying.nonnegative row member⟩

theorem MovementCommit.ledger (commits : MovementCommit request dirty session world)
    (sound : session.Sound world) (valid : World.Valid { world with
      tables := world.tables.commit session dirty })
    (ledger : LedgerSound world.tables) : LedgerSound (world.tables.commit session dirty) := by
  obtain ⟨movement, movements, quantity⟩ := commits.quantity sound
  refine ⟨?_, ?_, fun pair => (quantity pair).2 (ledger.nonnegative pair)⟩
  · intro pair
    rcases valid.inventoriesOf_cases pair with none | ⟨row, one⟩
    · simp [show (world.tables.commit session dirty).inventoriesOf pair = [] from none]
    · simp [show (world.tables.commit session dirty).inventoriesOf pair = [row] from one]
  · intro pair
    have appended : (world.tables.commit session dirty).movements =
        world.tables.movements ++ [movement] := by
      simp [Tables.commit, movements]
    rw [(quantity pair).1, appended, balance_append, ledger.balance pair]

theorem Session.Unlocked.commit_stock (unlocked : session.Unlocked) (tables : Tables)
    (dirty : List (RowId × AlertChange)) :
    (tables.commit session dirty).inventories = tables.inventories ∧
      (tables.commit session dirty).movements = tables.movements := by
  simp [Tables.commit, unlocked.rows, unlocked.movements, Session.row?]

theorem LedgerSound.congr {before after : Tables} (ledger : LedgerSound before)
    (inventories : after.inventories = before.inventories)
    (movements : after.movements = before.movements) : LedgerSound after := by
  have same : ∀ pair, after.inventoriesOf pair = before.inventoriesOf pair := by
    intro pair
    rw [Tables.inventoriesOf, inventories, Tables.inventoriesOf]
  refine ⟨?_, ?_, ?_⟩ <;> intro pair <;> simp only [Tables.quantity, same, movements]
  · exact ledger.unique pair
  · exact ledger.balance pair
  · exact ledger.nonnegative pair

end Commit

/-- One step appends at most one movement, the one its own request records. -/
def Application.GrowsBy (system after : Application) (index : Nat) : Prop :=
  ∃ added thread moved, added.length ≤ 1 ∧
    system.threads[index]? = some thread ∧ after.threads[index]? = some moved ∧
    after.shared.tables.movements = system.shared.tables.movements ++ added ∧
    moved.session.recorded = thread.session.recorded ++ added

section Steps

variable {settings : Settings} {guard : Guard Statement Answer World Session}
variable {allowed : List Movement → Exception → Prop}

/-- What one request's call does to the ledger: the movements it adds, and what is
known about the stock afterwards. -/
theorem respond_ledger {request : Request} {statement : Statement} {answer : Answer}
    {others : List Session} {world after : World} {session updated : Session}
    {response : statement.Response}
    (executed : respond statement answer others world session = .done response after updated)
    (conduct : Conduct settings request statement session world)
    (sound : session.Sound world) (validAfter : after.Valid)
    (records : request.Records session.recorded) :
    ∃ added : List Movement, added.length ≤ 1 ∧
      after.tables.movements = world.tables.movements ++ added ∧
      updated.recorded = session.recorded ++ added ∧ request.Records updated.recorded ∧
      (LedgerSound world.tables → LedgerSound after.tables) := by
  by_cases commits : ∃ dirty, statement = .commit dirty
  · obtain ⟨dirty, rfl⟩ := commits
    simp only [respond, commit] at executed
    split at executed
    · cases executed
    · cases executed
      rcases conduct.commit_cases with movement | unlocked
      · obtain ⟨data, performedBy, row, request, movements, values, _, applying⟩ :=
          movement.request
        have fresh : session.recorded = [] := congrArg History.recorded applying.history
        refine ⟨session.movements, by simp [movements], rfl, rfl, ?_, ?_⟩
        · exact .inr ⟨data, performedBy, row, request, by simp [fresh, movements], values⟩
        · exact movement.ledger sound validAfter
      · obtain ⟨inventories, movements⟩ := unlocked.commit_stock world.tables dirty
        refine ⟨[], by simp, by simpa using movements, by simp [unlocked.movements], ?_, ?_⟩
        · simpa [unlocked.movements] using records
        · exact fun ledger => ledger.congr inventories movements
  · obtain ⟨tables, _, recorded, _⟩ :=
      respond_uncommitted (fun dirty same => commits ⟨dirty, same⟩) executed
    refine ⟨[], by simp, by simp [tables], by simp [recorded], ?_, ?_⟩
    · rw [recorded]
      exact records
    · rw [tables]
      exact id

variable {system : Application} {index : Nat} {label : Request} {session : Session}

private theorem MovementsAccounted.replace {program : Transaction Reply} {shared : World}
    {added : List Movement} (accounted : MovementsAccounted system)
    (found : system.threads[index]? = some ⟨label, program, session⟩)
    {moved : Thread Request Statement Statement.Response Exception Session Reply}
    (same : moved.label = label)
    (movements : shared.tables.movements = system.shared.tables.movements ++ added)
    (recorded : moved.session.recorded = session.recorded ++ added)
    (records : label.Records moved.session.recorded) :
    MovementsAccounted ⟨shared, system.threads.set index moved⟩ where
  movements := by
    have collected := flatMap_set_perm (fun thread => thread.session.recorded) found recorded
    rw [movements]
    exact (accounted.movements.append_right added).trans collected.symm
  requests := by
    intro thread member
    rcases List.mem_or_eq_of_mem_set member with old | rfl
    · exact accounted.requests thread old
    · rw [same]
      exact records

private theorem ledger_kept {start : Application}
    (initially : System.Verified databaseDiscipline guard (Conduct settings)
      (Concluded settings allowed) start)
    (ledger : LedgerSound start.shared.tables) (accounted : MovementsAccounted start)
    (reached : Reachable environment guard start system) :
    System.Verified databaseDiscipline guard (Conduct settings) (Concluded settings allowed)
        system ∧ LedgerSound system.shared.tables ∧ MovementsAccounted system := by
  refine System.Verified.invariant
    (fun system => LedgerSound system.shared.tables ∧ MovementsAccounted system)
    initially ⟨ledger, accounted⟩ ?_ ?_ reached
  · rintro system index answer label statement next session error turn ⟨ledger, accounted⟩ _ _
    have records := accounted.requests _ (List.mem_of_getElem? turn.found)
    exact ⟨ledger, accounted.replace turn.found rfl (List.append_nil _).symm
      (List.append_nil _).symm records⟩
  · intro system index answer label statement next session response shared updated turn
      ⟨ledger, accounted⟩ executed later
    obtain ⟨added, _, movements, recorded, records, kept⟩ := respond_ledger (execute_done executed)
      turn.required (turn.verified.sound _ _ turn.found) later.valid
      (accounted.requests _ (List.mem_of_getElem? turn.found))
    have settled : (Thread.settle environment ⟨label, next response, updated⟩).session.recorded =
        updated.recorded :=
      congrArg History.recorded settle_history
    refine ⟨kept ledger, accounted.replace turn.found ?_ movements (settled.trans recorded) ?_⟩
    · unfold Thread.settle
      split <;> rfl
    · rw [settled]
      exact records

end Steps

theorem Application.start_session {settings : Settings} {world : World} {requests : List Request}
    {thread : Thread Request Statement Statement.Response Exception Session Reply}
    (member : thread ∈ (Application.start settings world requests).threads) :
    thread.session = {} := by
  obtain ⟨request, _, rfl⟩ := List.mem_map.mp member
  exact Thread.settle_session (fun session : Session => session = {}) rfl rfl

/-- Ledger soundness: whatever requests run, however their statements interleave
and whichever of them fail, in every state they reach. -/
theorem ledger_sound_under_concurrency (settings : Settings) (world : World)
    (requests : List Request) (valid : world.Valid)
    (noInventories : world.tables.inventories = []) (noMovements : world.tables.movements = [])
    (system : Application)
    (reached : Reachable environment Guard.unrestricted
      (Application.start settings world requests) system) :
    LedgerSound system.shared.tables ∧ MovementsAccounted system ∧
      ∀ index answer after, System.step environment system index answer = some after →
        system.GrowsBy after index := by
  have none : ∀ pair, world.tables.inventoriesOf pair = [] := by
    intro pair
    simp [Tables.inventoriesOf, noInventories]
  have ledger : LedgerSound world.tables := by
    refine ⟨?_, ?_, ?_⟩ <;> intro pair <;>
      simp [Tables.quantity, none, received, shipped, noMovements]
  have accounted : MovementsAccounted (Application.start settings world requests) := by
    refine ⟨?_, ?_⟩
    · have nothing : (Application.start settings world requests).threads.flatMap
          (fun thread => thread.session.recorded) = [] := by
        rw [List.flatMap_eq_nil_iff]
        intro thread member
        rw [Application.start_session member]
      rw [nothing]
      exact List.Perm.of_eq noMovements
    · intro thread member
      rw [Application.start_session member]
      exact .inl rfl
  obtain ⟨verified, sound, books⟩ :=
    ledger_kept (Application.start_verified settings permits_unrestricted valid requests) ledger accounted reached
  refine ⟨sound, books, ?_⟩
  intro index answer after stepped
  have later := verified.step (fun _ _ _ _ _ => trivial) stepped
  obtain ⟨label, statement, next, session, found, outcome⟩ := System.step_cases stepped
  have bound : index < system.threads.length := (List.getElem?_eq_some_iff.mp found).1
  rcases outcome with ⟨error, _, rfl⟩ | ⟨response, shared, updated, executed, rfl⟩
  · exact ⟨[], _, _, by simp, found, List.getElem?_set_self bound, (List.append_nil _).symm,
      (List.append_nil _).symm⟩
  · obtain ⟨added, atMostOne, movements, recorded, _, _⟩ := respond_ledger
      (execute_done executed) (verified.requires found) (verified.sound _ _ found) later.valid
      (books.requests _ (List.mem_of_getElem? found))
    refine ⟨added, _, _, atMostOne, found, List.getElem?_set_self bound, movements, ?_⟩
    rw [← recorded]
    exact congrArg History.recorded settle_history

/-- Two receipts whose statements alternate. -/
theorem ledger_sound_under_concurrency_receipts :
    ∃ system : Application, LedgerSound system.shared.tables ∧
      (Application.start {} Sample.world [
        .movement (Sample.receive Sample.main 25 (by decide)) none,
        .movement (Sample.receive Sample.branch 30 (by decide)) none]).schedule environment
          ((List.range 10).flatMap (fun _ => [(0, {}), (1, {})])) = some system := by
  have completes : ((Application.start {} Sample.world [
      .movement (Sample.receive Sample.main 25 (by decide)) none,
      .movement (Sample.receive Sample.branch 30 (by decide)) none]).schedule environment
        ((List.range 10).flatMap (fun _ => [(0, {}), (1, {})]))).isSome = true := by
    decide +kernel
  obtain ⟨system, ran⟩ := Option.isSome_iff_exists.mp completes
  exact ⟨system, (ledger_sound_under_concurrency {} Sample.world _ Sample.world_valid rfl rfl _
    (System.schedule_reachable .refl ran)).1, ran⟩

end InventoryManagement
