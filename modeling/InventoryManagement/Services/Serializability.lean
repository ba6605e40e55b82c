import InventoryManagement.Postings
import InventoryManagement.Services.ActiveAlerts
import InventoryManagement.Services.ColumnRange
import Mathlib.Algebra.Order.Group.Int

/-! Movements as postings between the stock accounts of a product: interleaved movements
end in the stock that the same movements leave one after another. -/

set_option autoImplicit false

namespace InventoryManagement

open Interleaving (Guard Program Reachable System Thread flatMap_set_perm)
open Postings (Admits Levels Posting level levels_ext post post_eq_some posted postAll)

/-- The stored quantities; a pair without an inventory row has none. -/
def Tables.levels (tables : Tables) : Levels Pair Int :=
  fun pair => (tables.inventoriesOf pair).head?.map (·.quantity)

theorem levels_same {tables others : Tables} (inventories : tables.inventories = others.inventories) :
    tables.levels = others.levels := by
  funext pair
  rw [Tables.levels, Tables.levels, Tables.inventoriesOf, Tables.inventoriesOf, inventories]

theorem MovementCreate.apart (data : MovementCreate) :
    ∀ pair ∈ data.sourceWarehouseId.map (data.productId, ·),
      pair ∉ data.destinationWarehouseId.map (data.productId, ·) := by
  intro pair taken given
  obtain ⟨source, named, rfl⟩ := Option.map_eq_some_iff.mp taken
  obtain ⟨destination, namedToo, same⟩ := Option.map_eq_some_iff.mp given
  rcases data.warehouses_cases with ⟨_, none, _⟩ | ⟨_, none, _⟩ | ⟨_, _, _, first, second, different⟩
  · rw [none] at named
    cases named
  · rw [none] at namedToo
    cases namedToo
  · rw [first] at named
    rw [second] at namedToo
    cases named
    cases namedToo
    exact different (Prod.mk.inj same).2.symm

def MovementCreate.posting (data : MovementCreate) : Posting Pair Int where
  source := data.sourceWarehouseId.map (data.productId, ·)
  destination := data.destinationWarehouseId.map (data.productId, ·)
  amount := data.quantity
  positive := data.quantity_positive
  apart := data.apart

section Levels

variable {world : World} {tables : Tables} {data : MovementCreate} {pair : Pair}

theorem mem_levels {quantity : Int} (valid : world.Valid) :
    quantity ∈ world.tables.levels pair ↔
      ∃ row ∈ world.tables.inventories, row.pair = pair ∧ row.quantity = quantity := by
  rw [Tables.levels]
  constructor
  · intro stored
    obtain ⟨row, first, rfl⟩ := Option.map_eq_some_iff.mp stored
    obtain ⟨member, here⟩ := Tables.mem_inventoriesOf.mp (List.mem_of_mem_head? first)
    exact ⟨row, member, here, rfl⟩
  · rintro ⟨row, member, rfl, rfl⟩
    rw [valid.inventoriesOf_of_mem member]
    rfl

theorem isSome_levels : (tables.levels pair).isSome ↔ tables.inventoriesOf pair ≠ [] := by
  rw [Tables.levels, Option.isSome_map]
  cases tables.inventoriesOf pair <;> simp

theorem level_levels (valid : world.Valid) (pair : Pair) :
    level world.tables.levels pair = world.tables.quantity pair := by
  rw [level, Tables.levels, Tables.quantity]
  rcases valid.inventoriesOf_cases pair with none | ⟨row, one⟩
  · rw [none]
    rfl
  · rw [one]
    simp

theorem names_iff : data.posting.Names pair ↔ pair ∈ data.pairs := by
  simp only [Posting.Names, MovementCreate.posting, MovementPayload.pairs, List.map_append,
    List.mem_append, List.mem_map, Option.mem_toList, Option.map_eq_some_iff]

theorem posting_change {values : MovementValues} {performedBy : Option UUID}
    (same : values = data.values performedBy) (pair : Pair) :
    data.posting.change pair = values.change pair := by
  obtain ⟨productId, warehouseId⟩ := pair
  have named : ∀ id : Option UUID, id.map (data.productId, ·) = some (productId, warehouseId) ↔
      data.productId = productId ∧ id = some warehouseId := by
    intro id
    cases id <;> simp
  rw [same, Posting.change, MovementValues.change, MovementCreate.posting]
  simp only [named, MovementCreate.values]
  congr

/-- What a posting asks of the levels is what its movement asks of the stock. -/
theorem possible_of_admits (valid : world.Valid)
    (admits : Admits Integer.fits world.tables.levels data.posting)
    (refers : (data.values none).refers world.tables = true) : data.Possible world.tables where
  product := by
    simp only [MovementValues.refers, MovementCreate.values, Bool.and_eq_true] at refers
    exact refers.1.1
  warehouses := by
    simp only [MovementValues.refers, MovementCreate.values, Bool.and_eq_true,
      Option.all_eq_true] at refers
    intro id named
    rcases named with source | destination
    · exact refers.1.2 id source
    · exact refers.2 id destination
  stock := by
    intro source named
    obtain ⟨held, stored, enough⟩ := admits.covered (data.productId, source) (by
      simp [MovementCreate.posting, named])
    obtain ⟨row, member, here, rfl⟩ := (mem_levels valid).mp stored
    exact ⟨row, member, here, enough⟩

theorem inRange_of_admits (valid : world.Valid)
    (admits : Admits Integer.fits world.tables.levels data.posting)
    (possible : data.Possible world.tables) (nonnegative : ∀ pair, 0 ≤ world.tables.quantity pair) :
    data.InRange world.tables := by
  apply possible.inRange valid nonnegative
  intro destination named
  have room := admits.room (data.productId, destination) (by simp [MovementCreate.posting, named])
  rwa [level_levels valid] at room

end Levels

/-! A movement that runs alone. -/

section Alone

variable {settings : Settings} {answers : Nat → Answer} {world committed after : World}
variable {session updated : Session} {data : MovementCreate} {performedBy : Option UUID}
variable {affected : List Inventory} {movement : Movement}

theorem references_run {Value : Type} (answers : Nat → Answer) (program : Transaction Value)
    (world : World) :
    (runAlone answers world program).shared.tables.products = world.tables.products ∧
      (runAlone answers world program).shared.tables.warehouses = world.tables.warehouses := by
  refine Program.run_keeps environment answers
    (fun after => after.tables.products = world.tables.products ∧
      after.tables.warehouses = world.tables.warehouses) program 0 {} ⟨rfl, rfl⟩ ?_
  intro statement answer before session response after updated executed kept
  obtain ⟨products, warehouses⟩ := respond_references (execute_done executed)
  exact ⟨products.trans kept.1, warehouses.trans kept.2⟩

theorem MovementDone.posts (done : MovementDone world data performedBy affected movement session committed)
    (valid : world.Valid) :
    committed.tables.levels = Postings.posted world.tables.levels data.posting := by
  apply levels_ext
  · intro pair
    rw [Postings.isSome_posted, names_iff, isSome_levels, isSome_levels]
    by_cases named : pair ∈ data.pairs
    · obtain ⟨row, listed, rfl⟩ := List.mem_map.mp (done.posted.pairs.symm ▸ named)
      rw [done.stored row listed]
      exact iff_of_true (List.cons_ne_nil _ _) (.inr named)
    · rw [done.elsewhere pair named, or_iff_left named]
  · intro pair
    rw [Postings.level_posted, level_levels done.valid, level_levels valid, done.quantity,
      posting_change done.values]

/-- A movement that is served alone and whose posting is admitted is that posting. -/
theorem recordMovement_posts (settings : Settings) (performedBy : Option UUID) (valid : world.Valid)
    (healthy : ∀ n, (answers n).fails = false)
    (nonnegative : ∀ pair, 0 ≤ world.tables.quantity pair)
    (admits : Admits Integer.fits world.tables.levels data.posting)
    (refers : (data.values none).refers world.tables = true)
    (sendable : data.reason.all Text.sendable = true) :
    let after := (runAlone answers world (recordMovement settings data performedBy)).shared
    after.tables.levels = posted world.tables.levels data.posting ∧
      after.tables.movements.map Movement.toMovementValues =
        world.tables.movements.map Movement.toMovementValues ++ [data.values performedBy] := by
  have possible := possible_of_admits valid admits refers
  rcases recordMovement_run valid settings answers data performedBy with
    ⟨_, _, stopped⟩ | ⟨affected, movement, session, committed, elapsed, done, ran⟩
  · obtain ⟨prepared, _, _, _, ended, _⟩ := prepareMovement_alone healthy valid performedBy possible
      ⟨inRange_of_admits valid admits possible nonnegative, sendable⟩ 0
    exact absurd (by rw [ended]) (stopped healthy prepared)
  · have kept := done.announced settings answers elapsed
    rw [← ran] at kept
    refine ⟨?_, ?_⟩
    · rw [← done.posts valid, runAlone, levels_same kept.inventories]
    · rw [runAlone, kept.movements, done.movements, List.map_append, List.map_singleton, done.values]

end Alone

/-- A movement's payload and who performed it. -/
abbrev MovementCall := MovementCreate × Option UUID

/-- Movements one after another, each alone. -/
def serve (settings : Settings) (answers : Nat → Answer) (world : World)
    (calls : List MovementCall) : World :=
  calls.foldl
    (fun world call => (runAlone answers world (recordMovement settings call.1 call.2)).shared) world

def recordedValues (calls : List MovementCall) : List MovementValues :=
  calls.map (fun call => call.1.values call.2)

section Serial

variable {settings : Settings} {answers : Nat → Answer} {world : World} {calls others : List MovementCall}

variable (settings answers) in
theorem recordMovement_valid (valid : world.Valid) (call : MovementCall) :
    (runAlone answers world (recordMovement settings call.1 call.2)).shared.Valid :=
  (databaseDiscipline.run answers _ 0 valid (Session.fresh_sound world)).1

variable (settings) in
/-- Postings none of which is refused are served, whatever their handlers and the broker do. -/
theorem serve_posts (healthy : ∀ n, (answers n).fails = false) (valid : world.Valid)
    (nonnegative : ∀ pair, 0 ≤ world.tables.quantity pair)
    (refers : ∀ call ∈ calls, (call.1.values none).refers world.tables = true)
    (sendable : ∀ call ∈ calls, call.1.reason.all Text.sendable = true)
    {levels : Levels Pair Int}
    (replayed : postAll Integer.fits world.tables.levels (calls.map (·.1.posting)) = some levels) :
    (serve settings answers world calls).tables.levels = levels ∧
      (serve settings answers world calls).tables.movements.map Movement.toMovementValues =
        world.tables.movements.map Movement.toMovementValues ++ recordedValues calls := by
  induction calls generalizing world with
  | nil => exact ⟨Option.some.inj replayed, (List.append_nil _).symm⟩
  | cons call rest ih =>
      obtain ⟨middle, admitted, later⟩ := Option.bind_eq_some_iff.mp replayed
      obtain ⟨admits, rfl⟩ := post_eq_some.mp admitted
      obtain ⟨posts, recorded⟩ := recordMovement_posts settings call.2 valid healthy nonnegative admits
        (refers call (List.mem_cons_self ..)) (sendable call (List.mem_cons_self ..))
      have validAfter := recordMovement_valid settings answers valid call
      obtain ⟨products, warehouses⟩ :=
        references_run answers (recordMovement settings call.1 call.2) world
      obtain ⟨levelsAfter, movementsAfter⟩ := ih validAfter (fun pair => by
          rw [← level_levels validAfter, posts]
          exact Postings.nonneg_posted admits
            (fun pair => by rw [level_levels valid]; exact nonnegative pair) pair)
        (fun other member => (MovementValues.refers_congr products warehouses _).trans
          (refers other (List.mem_cons_of_mem _ member)))
        (fun other member => sendable other (List.mem_cons_of_mem _ member))
        (by rw [posts]; exact later)
      refine ⟨levelsAfter, ?_⟩
      rw [serve, List.foldl_cons, ← serve, movementsAfter, recorded, List.append_assoc]
      rfl

variable (settings answers) in
/-- Alone, a movement is recorded as its posting or leaves the tables as they were. -/
theorem recordMovement_tables (valid : world.Valid) (call : MovementCall) :
    let after := runAlone answers world (recordMovement settings call.1 call.2)
    after.shared.tables = world.tables ∨
      after.shared.tables.levels = posted world.tables.levels call.1.posting ∧
        after.shared.tables.movements.length = world.tables.movements.length + 1 := by
  rcases recordMovement_run valid settings answers call.1 call.2 with
    ⟨untouched, _, _⟩ | ⟨affected, movement, session, committed, elapsed, done, ran⟩
  · exact .inl untouched.tables
  · have kept := done.announced settings answers elapsed
    rw [← ran] at kept
    refine .inr ⟨?_, ?_⟩
    · rw [← done.posts valid, runAlone, levels_same kept.inventories]
    · rw [runAlone, kept.movements, done.movements, List.length_append, List.length_singleton]

variable (settings answers) in
theorem serve_length (valid : world.Valid) (calls : List MovementCall) :
    (serve settings answers world calls).tables.movements.length ≤
      world.tables.movements.length + calls.length := by
  induction calls generalizing world with
  | nil => exact le_refl _
  | cons call rest ih =>
      have later := ih (recordMovement_valid settings answers valid call)
      rw [serve, List.foldl_cons, ← serve, List.length_cons]
      rcases recordMovement_tables settings answers valid call with
        same | ⟨_, one⟩
      · rw [same] at later
        omega
      · omega

/-- Where each call is recorded, the postings say what is left, whatever else fails. -/
theorem serve_recorded (valid : world.Valid)
    (recorded : (serve settings answers world calls).tables.movements.length =
      world.tables.movements.length + calls.length) :
    (serve settings answers world calls).tables.levels =
      (calls.map (·.1.posting)).foldl posted world.tables.levels := by
  induction calls generalizing world with
  | nil => rfl
  | cons call rest ih =>
      have validAfter := recordMovement_valid settings answers valid call
      have bound := serve_length settings answers validAfter rest
      rw [serve, List.foldl_cons, ← serve, List.length_cons] at recorded
      rcases recordMovement_tables settings answers valid call with
        same | ⟨posts, one⟩
      · rw [same] at bound
        omega
      · rw [serve, List.foldl_cons, ← serve, ih validAfter (by omega), posts]
        rfl

end Serial

/-! Movements that interleave: each commit is a posting. -/

section Commit

variable {request : Request} {dirty : List (RowId × AlertChange)} {session : Session} {world : World}

theorem MovementCommit.posts (commits : MovementCommit request dirty session world)
    (sound : session.Sound world) (valid : world.Valid)
    (nonnegative : ∀ pair, 0 ≤ world.tables.quantity pair) :
    ∃ (call : MovementCall) (movement : Movement), request = .movement call.1 call.2 ∧
      session.movements = [movement] ∧ movement.toMovementValues = call.1.values call.2 ∧
      post Integer.fits world.tables.levels call.1.posting =
        some (world.tables.commit session dirty).levels := by
  have quantities := commits.quantity sound
  obtain ⟨data, performedBy, movement, asked, movements, values, rows, applying⟩ := commits.request
  obtain ⟨_, recorded, quantity⟩ := quantities
  rw [movements] at recorded
  cases recorded
  refine ⟨(data, performedBy), movement, asked, movements, values, post_eq_some.mpr ⟨⟨?_, ?_⟩, ?_⟩⟩
  · intro pair source
    obtain ⟨row, held, here⟩ := (rows pair).mpr (names_iff.mp (.inl source))
    have left := applying.nonnegative row held (nonnegative _)
    have moved := applying.changed row held
    have change : movement.change pair = -data.quantity :=
      (posting_change values pair).symm.trans (Postings.change_of_source source)
    have positive := data.quantity_positive
    have enough : data.quantity ≤ world.tables.quantity pair := by
      rw [here, change] at moved
      omega
    rcases valid.inventoriesOf_cases pair with none | ⟨base, one⟩
    · have empty : world.tables.quantity pair = 0 := by rw [Tables.quantity, none]; rfl
      omega
    · refine ⟨base.quantity, by rw [Tables.levels, one]; rfl, ?_⟩
      have stored : world.tables.quantity pair = base.quantity := by simp [Tables.quantity, one]
      rw [← stored]
      exact enough
  · intro pair destination
    obtain ⟨row, held, here⟩ := (rows pair).mpr (names_iff.mp (.inr destination))
    have moved := applying.changed row held
    have change : movement.change pair = data.quantity :=
      (posting_change values pair).symm.trans (Postings.change_of_destination destination)
    rw [here, change] at moved
    have fits := (sound.rows_fit row held).quantity
    rw [moved] at fits
    rw [level_levels valid]
    exact fits
  · apply levels_ext
    · intro pair
      rw [Postings.isSome_posted, names_iff, isSome_levels, isSome_levels,
        Tables.inventoriesOf_commit sound, ← rows pair]
      cases found : session.row? pair with
      | none =>
          have absent : ¬ ∃ row ∈ session.rows, row.pair = pair := by
            rintro ⟨row, held, here⟩
            exact Session.row?_none.mp found row held here
          simp [absent]
      | some row =>
          obtain ⟨held, here⟩ := Session.row?_some found
          exact iff_of_true (.inr ⟨row, held, here⟩) (List.cons_ne_nil _ _)
    · intro pair
      have committed : World.Valid { world with tables := world.tables.commit session dirty } :=
        valid.commit sound
      rw [Postings.level_posted, level_levels valid, level_levels committed, (quantity pair).1,
        posting_change values]

end Commit

/-- What a call has committed. -/
def committedBy (thread : Thread Request Statement Statement.Response Exception Session Reply) :
    List MovementCall :=
  match thread.label, thread.session.recorded with
  | .movement data performedBy, _ :: _ => [(data, performedBy)]
  | .movement _ _, [] | .sweep _, _ | .resolveAlert _, _ => []

/-- The movements that the calls of a state have committed, by whoever made them. -/
def Application.committedCalls (system : Application) : List MovementCall :=
  system.threads.flatMap committedBy

/-- Since `before` the stock has changed by `calls`, in the order of their commits. -/
structure Serialized (before : World) (system : Application) (calls : List MovementCall) : Prop where
  replayed : postAll Integer.fits before.tables.levels (calls.map (·.1.posting)) =
    some system.shared.tables.levels
  recorded : system.shared.tables.movements.map Movement.toMovementValues =
    before.tables.movements.map Movement.toMovementValues ++ recordedValues calls
  nonnegative : ∀ pair, 0 ≤ system.shared.tables.quantity pair
  calls : calls.Perm system.committedCalls
  products : system.shared.tables.products = before.tables.products
  warehouses : system.shared.tables.warehouses = before.tables.warehouses

section Runs

variable {settings : Settings} {world : World} {requests : List Request} {system : Application}
variable {calls : List MovementCall}

theorem Application.start_serialized (settings : Settings) (requests : List Request)
    (nonnegative : ∀ pair, 0 ≤ world.tables.quantity pair) :
    Serialized world (Application.start settings world requests) [] where
  replayed := rfl
  recorded := (List.append_nil _).symm
  nonnegative := nonnegative
  calls := by
    have nothing : (Application.start settings world requests).committedCalls = [] := by
      rw [Application.committedCalls, List.flatMap_eq_nil_iff]
      intro thread member
      rw [committedBy, Application.start_session member]
      split <;> simp_all
    rw [nothing]
  products := rfl
  warehouses := rfl

theorem committedBy_same {thread moved : Thread Request Statement Statement.Response Exception Session Reply}
    (label : moved.label = thread.label) (recorded : moved.session.recorded = thread.session.recorded) :
    committedBy moved = committedBy thread := by
  rw [committedBy, committedBy, label, recorded]

variable {index : Nat}
variable {thread moved : Thread Request Statement Statement.Response Exception Session Reply}

/-- A step that changes no stock. -/
theorem Serialized.keep {shared : World} (serialized : Serialized world system calls)
    (found : system.threads[index]? = some thread) (label : moved.label = thread.label)
    (recorded : moved.session.recorded = thread.session.recorded)
    (inventories : shared.tables.inventories = system.shared.tables.inventories)
    (movements : shared.tables.movements = system.shared.tables.movements)
    (products : shared.tables.products = system.shared.tables.products)
    (warehouses : shared.tables.warehouses = system.shared.tables.warehouses) :
    Serialized world ⟨shared, system.threads.set index moved⟩ calls where
  replayed := by rw [serialized.replayed, levels_same inventories]
  recorded := by rw [movements, serialized.recorded]
  nonnegative := by
    intro pair
    rw [Tables.quantity, Tables.inventoriesOf, inventories]
    exact serialized.nonnegative pair
  calls := by
    have collected := flatMap_set_perm committedBy found
      ((committedBy_same label recorded).trans (List.append_nil _).symm)
    rw [List.append_nil] at collected
    exact serialized.calls.trans collected.symm
  products := products.trans serialized.products
  warehouses := warehouses.trans serialized.warehouses

theorem Serialized.commit {dirty : List (RowId × AlertChange)} {label : Request}
    {program : Transaction Reply} {session : Session} {shared : World}
    (serialized : Serialized world system calls) (valid : system.shared.Valid)
    (sound : session.Sound system.shared)
    (found : system.threads[index]? = some ⟨label, program, session⟩)
    (commits : MovementCommit label dirty session system.shared)
    (committed : shared.tables = system.shared.tables.commit session dirty)
    (same : moved.label = label)
    (recorded : moved.session.recorded = session.recorded ++ session.movements) :
    ∃ call, Serialized world ⟨shared, system.threads.set index moved⟩ (calls ++ [call]) := by
  obtain ⟨call, movement, asked, movements, values, posts⟩ :=
    commits.posts sound valid serialized.nonnegative
  have unrecorded : session.recorded = [] := by
    obtain ⟨_, _, _, _, _, _, _, applying⟩ := commits.request
    exact congrArg History.recorded applying.history
  rw [unrecorded, movements, List.nil_append] at recorded
  refine ⟨call, ?_, ?_, ?_, ?_, ?_, ?_⟩
  · rw [List.map_append, List.map_singleton, Postings.postAll_concat, serialized.replayed,
      Option.bind_some, posts, committed]
  · rw [committed]
    change ((system.shared.tables.movements ++ session.movements).map _) = _
    rw [List.map_append, serialized.recorded, movements, List.map_singleton, values,
      List.append_assoc, recordedValues, recordedValues, List.map_append]
    rfl
  · intro pair
    rw [committed]
    obtain ⟨_, _, quantity⟩ := commits.quantity sound
    exact (quantity pair).2 (serialized.nonnegative pair)
  · have before : committedBy ⟨label, program, session⟩ = [] := by
      rw [committedBy, asked, unrecorded]
    have after : committedBy moved = [call] := by
      rw [committedBy, same, asked, recorded]
    have grown : committedBy moved = committedBy ⟨label, program, session⟩ ++ [call] := by
      rw [before, after]
      rfl
    have collected := flatMap_set_perm committedBy found grown
    exact (serialized.calls.append_right [call]).trans collected.symm
  · rw [committed]
    exact serialized.products
  · rw [committed]
    exact serialized.warehouses

theorem Application.serialized (valid : world.Valid) (nonnegative : ∀ pair, 0 ≤ world.tables.quantity pair)
    (reached : Reachable environment Guard.unrestricted
      (Application.start settings world requests) system) :
    ∃ calls, Serialized world system calls := by
  refine (System.Verified.invariant (fun system => ∃ calls, Serialized world system calls)
    (Application.start_verified settings permits_unrestricted valid requests)
    ⟨[], Application.start_serialized settings requests nonnegative⟩ ?_ ?_ reached).2
  · intro system index answer label statement next session error turn earlier _ _
    obtain ⟨calls, serialized⟩ := earlier
    exact ⟨calls, serialized.keep turn.found rfl rfl rfl rfl rfl rfl⟩
  · intro system index answer label statement next session response shared updated turn earlier
      executed later
    obtain ⟨calls, serialized⟩ := earlier
    have answered := execute_done executed
    have sound := turn.verified.sound _ _ turn.found
    have settled : (Thread.settle environment ⟨label, next response, updated⟩).session.recorded =
        updated.recorded :=
      congrArg History.recorded settle_history
    by_cases commits : ∃ dirty, statement = .commit dirty
    · obtain ⟨dirty, rfl⟩ := commits
      simp only [respond, commit] at answered
      split at answered
      · cases answered
      · cases answered
        rcases Conduct.commit_cases turn.required with movement | unlocked
        · refine Exists.elim (serialized.commit turn.verified.valid sound turn.found movement ?_
            Thread.settle_label settled) (fun call extended => ⟨calls ++ [call], extended⟩)
          rfl
        · obtain ⟨inventories, movements⟩ := unlocked.commit_stock system.shared.tables dirty
          exact ⟨calls, serialized.keep turn.found Thread.settle_label
            (settled.trans (by simp [unlocked.movements])) inventories movements rfl rfl⟩
    · obtain ⟨tables, _, recorded, _⟩ :=
        respond_uncommitted (fun dirty same => commits ⟨dirty, same⟩) answered
      exact ⟨calls, serialized.keep turn.found Thread.settle_label (settled.trans recorded)
        (by rw [tables]) (by rw [tables]) (by rw [tables]) (by rw [tables])⟩

/-- What interleaved movements commit is what they commit alone in the order of their
commits, and every order in which each of them is recorded leaves the same stock. -/
theorem movements_serializable (settings : Settings) (world : World) (valid : world.Valid)
    (nonnegative : ∀ pair, 0 ≤ world.tables.quantity pair) (requests : List Request)
    (system : Application)
    (reached : Reachable environment Guard.unrestricted
      (Application.start settings world requests) system) :
    ∃ calls : List MovementCall, calls.Perm system.committedCalls ∧
      (∀ answers : Nat → Answer, (∀ n, (answers n).fails = false) →
        (serve settings answers world calls).tables.levels = system.shared.tables.levels ∧
        (serve settings answers world calls).tables.movements.map Movement.toMovementValues =
          system.shared.tables.movements.map Movement.toMovementValues) ∧
      ∀ (answers : Nat → Answer) (others : List MovementCall), others.Perm calls →
        (serve settings answers world others).tables.movements.length =
          world.tables.movements.length + others.length →
        (serve settings answers world others).tables.levels = system.shared.tables.levels := by
  have validAfter :=
    ((Application.start_verified settings permits_unrestricted valid requests).reachable reached).valid
  obtain ⟨calls, serialized⟩ := Application.serialized valid nonnegative reached
  refine ⟨calls, serialized.calls, ?_, ?_⟩
  · intro answers healthy
    have stored : ∀ call ∈ calls, ∃ movement ∈ system.shared.tables.movements,
        movement.toMovementValues = call.1.values call.2 := by
      intro call member
      apply List.mem_map.mp
      rw [serialized.recorded]
      exact List.mem_append_right _ (List.mem_map.mpr ⟨call, member, rfl⟩)
    have refers : ∀ call ∈ calls, (call.1.values none).refers world.tables = true := by
      intro call member
      obtain ⟨movement, stored, same⟩ := stored call member
      have referred := validAfter.movements_refer movement stored
      rw [same, MovementValues.refers_congr serialized.products serialized.warehouses] at referred
      exact referred
    have sendable : ∀ call ∈ calls, call.1.reason.all Text.sendable = true := by
      intro call member
      obtain ⟨movement, stored, same⟩ := stored call member
      have kept := validAfter.reasons_sendable movement stored
      rwa [same] at kept
    obtain ⟨levels, movements⟩ := serve_posts settings healthy valid nonnegative refers sendable
      serialized.replayed
    exact ⟨levels, movements.trans serialized.recorded.symm⟩
  · intro answers others perm recorded
    rw [serve_recorded valid recorded, Postings.foldl_perm _ (perm.map _),
      Postings.postAll_foldl serialized.replayed]

end Runs

theorem movements_serializable_racing :
    ∃ system : Application, Sample.lowReceipts.schedule environment Sample.racing = some system ∧
      ∃ calls : List MovementCall, calls.Perm system.committedCalls ∧
        ∀ answers : Nat → Answer, (∀ n, (answers n).fails = false) →
          (serve {} answers Sample.world calls).tables.levels = system.shared.tables.levels := by
  have completes : (Sample.lowReceipts.schedule environment Sample.racing).isSome = true := by
    decide +kernel
  obtain ⟨calls, committed, served, _⟩ := movements_serializable {} Sample.world Sample.world_valid
    (fun _ => le_refl 0) _ _ (System.schedule_reachable .refl (Option.some_get completes).symm)
  exact ⟨_, (Option.some_get completes).symm, calls, committed,
    fun answers healthy => (served answers healthy).1⟩

end InventoryManagement
