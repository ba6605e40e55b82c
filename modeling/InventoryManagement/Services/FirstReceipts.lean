import InventoryManagement.Services.Books
import InventoryManagement.Services.CommittedMovements
import InventoryManagement.Services.Deadlock
import InventoryManagement.Services.MovementAlone

/-! Concurrent movements that stock and columns have room for. All of them commit, unless
two of them create the same inventory row. -/

set_option autoImplicit false

namespace InventoryManagement

open Interleaving (Guard Outcome Program Reachable System Thread)

def MovementPayload.outgoing (data : MovementPayload) (pair : Pair) : Int :=
  if some pair = data.sourceWarehouseId.map (data.productId, ·) then data.quantity else 0

def MovementPayload.incoming (data : MovementPayload) (pair : Pair) : Int :=
  if some pair = data.destinationWarehouseId.map (data.productId, ·) then data.quantity else 0

abbrev Call := MovementCreate × Option UUID

def Call.request (call : Call) : Request := .movement call.1 call.2

def outgoing (calls : List Call) (pair : Pair) : Int :=
  (calls.map (fun call => call.1.outgoing pair)).sum

def incoming (calls : List Call) (pair : Pair) : Int :=
  (calls.map (fun call => call.1.incoming pair)).sum

/-- What all the calls together ask of the state they start in: their products and
warehouses exist, the sources have enough for all of them, and the destinations room. -/
structure Affordable (calls : List Call) (tables : Tables) : Prop where
  product : ∀ call ∈ calls, tables.hasProduct call.1.productId = true
  warehouses : ∀ call ∈ calls, ∀ id,
    call.1.sourceWarehouseId = some id ∨ call.1.destinationWarehouseId = some id →
      tables.hasWarehouse id = true
  sources : ∀ call ∈ calls, ∀ source, call.1.sourceWarehouseId = some source →
    tables.inventoriesOf (call.1.productId, source) ≠ [] ∧
      outgoing calls (call.1.productId, source) ≤ tables.quantity (call.1.productId, source)
  quantities : ∀ call ∈ calls, Integer.fits call.1.quantity = true
  destinations : ∀ call ∈ calls, ∀ destination, call.1.destinationWarehouseId = some destination →
    Integer.fits (tables.quantity (call.1.productId, destination) +
      incoming calls (call.1.productId, destination)) = true

section Sums

theorem MovementCreate.outgoing_nonneg (data : MovementCreate) (pair : Pair) :
    0 ≤ data.outgoing pair := by
  have positive := data.quantity_positive
  unfold MovementPayload.outgoing
  split <;> omega

theorem MovementCreate.incoming_nonneg (data : MovementCreate) (pair : Pair) :
    0 ≤ data.incoming pair := by
  have positive := data.quantity_positive
  unfold MovementPayload.incoming
  split <;> omega

theorem change_eq (data : MovementCreate) (performedBy : Option UUID) (pair : Pair) :
    (data.values performedBy).change pair = data.incoming pair - data.outgoing pair := by
  rw [change_values]
  rfl

theorem sum_add_le {Item : Type} {items : List Item} (part whole : Item → Int)
    (bounded : ∀ item ∈ items, part item ≤ whole item) {missing : Item} (member : missing ∈ items)
    (absent : part missing = 0) :
    (items.map part).sum + whole missing ≤ (items.map whole).sum := by
  induction items with
  | nil => cases member
  | cons item rest ih =>
      rw [List.map_cons, List.map_cons, List.sum_cons, List.sum_cons]
      rcases List.mem_cons.mp member with rfl | later
      · have others : (rest.map part).sum ≤ (rest.map whole).sum :=
          List.sum_le_sum (fun other here => bounded other (List.mem_cons_of_mem _ here))
        omega
      · have others := ih (fun other here => bounded other (List.mem_cons_of_mem _ here)) later
        have first := bounded item List.mem_cons_self
        omega

theorem changes_flatMap {Item : Type} (recorded : Item → List Movement) (items : List Item)
    (pair : Pair) : changes (items.flatMap recorded) pair =
      (items.map (fun item => changes (recorded item) pair)).sum := by
  induction items with
  | nil => rfl
  | cons item rest ih => rw [List.flatMap_cons, changes_append, ih, List.map_cons, List.sum_cons]

end Sums

def Request.outgoing (pair : Pair) : Request → Int
  | .movement data _ => data.outgoing pair
  | _ => 0

def Request.incoming (pair : Pair) : Request → Int
  | .movement data _ => data.incoming pair
  | _ => 0

/-- A call contributes nothing, or what its payload says. -/
theorem Request.Records.bounds {request : Request} {recorded : List Movement}
    (records : request.Records recorded) (pair : Pair) :
    changes recorded pair ≤ request.incoming pair ∧
      -changes recorded pair ≤ request.outgoing pair := by
  rcases records with rfl | ⟨data, performedBy, movement, rfl, rfl, values⟩
  · rw [changes_nil]
    cases request with
    | movement data performedBy =>
        exact ⟨data.incoming_nonneg pair, data.outgoing_nonneg pair⟩
    | sweep fuel => exact ⟨Int.le_refl _, Int.le_refl _⟩
    | resolveAlert alertId => exact ⟨Int.le_refl _, Int.le_refl _⟩
  · have here : changes [movement] pair = data.incoming pair - data.outgoing pair := by
      rw [changes_singleton, values, change_eq]
    have incoming := data.incoming_nonneg pair
    have outgoing := data.outgoing_nonneg pair
    simp only [Request.incoming, Request.outgoing, here]
    omega

section Budget

variable {world : World} {calls : List Call} {system : Application}

theorem sum_labels (labels : system.threads.map (·.label) = calls.map Call.request)
    (measure : Request → Int) :
    (system.threads.map (fun thread => measure thread.label)).sum =
      (calls.map (fun call => measure call.request)).sum := by
  have same := congrArg (List.map measure) labels
  rw [List.map_map, List.map_map] at same
  exact congrArg List.sum same

/-- While a call has recorded nothing, the others have left its share. -/
theorem Booked.share (booked : Booked world system)
    (labels : system.threads.map (·.label) = calls.map Call.request)
    {thread : Thread Request Statement Statement.Response Exception Session Reply}
    (member : thread ∈ system.threads) (waiting : thread.session.recorded = []) (pair : Pair) :
    system.shared.tables.quantity pair + thread.label.incoming pair ≤
        world.tables.quantity pair + incoming calls pair ∧
      world.tables.quantity pair - outgoing calls pair ≤
        system.shared.tables.quantity pair - thread.label.outgoing pair := by
  have nothing : changes thread.session.recorded pair = 0 := by rw [waiting, changes_nil]
  have upper := sum_add_le (fun thread => changes thread.session.recorded pair)
    (fun thread => thread.label.incoming pair)
    (fun other here => ((booked.records other here).bounds pair).1) member nothing
  have lower := sum_add_le (fun thread => -changes thread.session.recorded pair)
    (fun thread => thread.label.outgoing pair)
    (fun other here => ((booked.records other here).bounds pair).2) member
    (by rw [nothing]; rfl)
  have negated : (system.threads.map (fun thread => -changes thread.session.recorded pair)).sum =
      -changes system.recorded pair := by
    rw [Application.recorded, changes_flatMap]
    induction system.threads with
    | nil => rfl
    | cons other rest ih =>
        simp only [List.map_cons, List.sum_cons, ih]
        omega
  have total : (system.threads.map (fun thread => changes thread.session.recorded pair)).sum =
      changes system.recorded pair := (changes_flatMap _ _ _).symm
  have quantity := booked.grown.quantity pair
  rw [sum_labels labels (Request.incoming pair), total] at upper
  rw [sum_labels labels (Request.outgoing pair), negated] at lower
  change _ ≤ incoming calls pair at upper
  change _ ≤ outgoing calls pair at lower
  omega

section Waiting

variable {index : Nat} {data : MovementCreate} {performedBy : Option UUID}
variable {program : Transaction Reply} {session : Session}

theorem mem_calls (labels : system.threads.map (·.label) = calls.map Call.request)
    (found : system.threads[index]? = some ⟨.movement data performedBy, program, session⟩) :
    (data, performedBy) ∈ calls := by
  have listed : Request.movement data performedBy ∈ calls.map Call.request := by
    rw [← labels]
    exact List.mem_map.mpr ⟨_, List.mem_of_getElem? found, rfl⟩
  obtain ⟨⟨other, performer⟩, included, same⟩ := List.mem_map.mp listed
  cases same
  exact included

/-- The sources still hold the share of a call that has recorded nothing. -/
theorem Booked.possible (booked : Booked world system)
    (labels : system.threads.map (·.label) = calls.map Call.request)
    (affordable : Affordable calls world.tables) (valid : system.shared.Valid)
    (found : system.threads[index]? = some ⟨.movement data performedBy, program, session⟩)
    (waiting : session.recorded = []) : data.Possible system.shared.tables := by
  have named := mem_calls labels found
  constructor
  · have known := affordable.product _ named
    rwa [Tables.hasProduct, Tables.product?, ← booked.grown.products] at known
  · intro id names
    have known := affordable.warehouses _ named id names
    rwa [Tables.hasWarehouse, Tables.warehouse?, ← booked.grown.warehouses] at known
  · intro source names
    obtain ⟨stored, enough⟩ := affordable.sources _ named source names
    obtain ⟨row, one⟩ := (valid.inventoriesOf_cases (data.productId, source)).resolve_left
      (booked.grown.rows _ stored)
    obtain ⟨included, here⟩ : row ∈ system.shared.tables.inventories ∧
        row.pair = (data.productId, source) :=
      Tables.mem_inventoriesOf.mp (by rw [one]; simp)
    have left := (booked.share labels (List.mem_of_getElem? found) waiting
      (data.productId, source)).2
    have quantity : system.shared.tables.quantity (data.productId, source) = row.quantity := by
      simp [Tables.quantity, one]
    have mine : Request.outgoing (data.productId, source) (.movement data performedBy) =
        data.quantity := by
      simp [Request.outgoing, MovementPayload.outgoing, names]
    change outgoing calls (data.productId, source) ≤
      world.tables.quantity (data.productId, source) at enough
    refine ⟨row, included, here, ?_⟩
    rw [mine, quantity] at left
    omega

/-- The columns still have room for the share of a call that has recorded nothing. -/
theorem Booked.inRange (booked : Booked world system)
    (labels : system.threads.map (·.label) = calls.map Call.request)
    (affordable : Affordable calls world.tables) (valid : system.shared.Valid)
    (found : system.threads[index]? = some ⟨.movement data performedBy, program, session⟩)
    (waiting : session.recorded = []) : data.InRange system.shared.tables := by
  have named := mem_calls labels found
  constructor
  · exact affordable.quantities _ named
  · intro destination names
    have room := affordable.destinations _ named destination names
    have left := (booked.share labels (List.mem_of_getElem? found) waiting
      (data.productId, destination)).1
    have mine : Request.incoming (data.productId, destination) (.movement data performedBy) =
        data.quantity := by
      simp [Request.incoming, MovementPayload.incoming, names]
    change Integer.fits (world.tables.quantity (data.productId, destination) +
      incoming calls (data.productId, destination)) = true at room
    have now := valid.quantity_fits (data.productId, destination)
    have positive := data.quantity_positive
    rw [mine] at left
    simp only [Integer.fits, Bool.and_eq_true, decide_eq_true_eq] at room now ⊢
    omega

end Waiting

end Budget

/-- Every inventory row is inserted while no row of its pair is committed, and calls
that have recorded their movement look up at most one active alert. -/
def insertsFirstRow : Guard Statement Answer World Session :=
  fun answer others world session statement =>
    looksUpOneActive answer others world session statement ∧
      ∀ inventory ∈ statement.newRow?, world.tables.inventoriesOf inventory.pair = []

instance (answer : Answer) (others : List Session) (world : World) (session : Session)
    (statement : Statement) : Decidable (insertsFirstRow answer others world session statement) :=
  inferInstanceAs (Decidable (_ ∧ ∀ inventory ∈ statement.newRow?, _ = []))

/-- The assumptions of one call: the guard, and that it can still be carried out. -/
def supported (request : Request) : Guard Statement Answer World Session :=
  fun answer others world session statement =>
    insertsFirstRow answer others world session statement ∧
      ∀ data performedBy, request = .movement data performedBy → session.recorded = [] →
        data.Possible world.tables ∧ data.Storable world.tables

section Succeeds

variable {Value Result : Type} {data : MovementCreate} {performedBy : Option UUID}
variable {session : Session} {world : World} {change : Pair → Int} {rows : List Inventory}

/-- A part of a call that raises nothing before its movement is recorded. -/
abbrev Succeeds (data : MovementCreate) (performedBy : Option UUID)
    (returns : Value → Session → World → Prop) (program : Transaction Value)
    (session : Session) (world : World) : Prop :=
  program.Verified databaseDiscipline (supported (.movement data performedBy))
    (fun _ _ _ => True) returns (fun _ updated => updated.recorded ≠ []) session world

theorem succeeds_bind {program : Transaction Value} {next : Value → Transaction Result}
    {returns : Result → Session → World → Prop} (middle : Value → Session → World → Prop)
    (first : Succeeds data performedBy middle program session world)
    (second : ∀ value session world, middle value session world →
      Succeeds data performedBy returns (next value) session world) :
    Succeeds data performedBy returns (program.bind next) session world :=
  Program.verified_bind (Program.verified_mono first second)

theorem succeeds_call {statement : Statement} {next : statement.Response → Transaction Value}
    {returns : Value → Session → World → Prop} (waiting : session.recorded = [])
    (answered : ∀ current, session.Rely world current → current.Valid → session.Sound current →
      ∀ answer others, insertsFirstRow answer others current session statement →
        data.Possible current.tables → data.Storable current.tables →
        (∀ error, respond statement answer others current session ≠ .raise error) ∧
          ∀ response after updated,
            respond statement answer others current session = .done response after updated →
            Succeeds data performedBy returns (next response) updated after) :
    Succeeds data performedBy returns (.call statement next) session world := by
  intro current relied valid sound
  refine ⟨trivial, fun answer others permitted => ?_⟩
  obtain ⟨possible, inRange⟩ := permitted.2 data performedBy rfl waiting
  obtain ⟨unraised, continues⟩ :=
    answered current relied valid sound answer others permitted.1 possible inRange
  have healthy : answer.fails = false := permitted.1.1.1
  constructor
  · intro error raised
    change execute statement answer others current session = _ at raised
    rw [execute_healthy healthy] at raised
    exact absurd raised (unraised error)
  · intro response after updated executed _ _
    exact continues response after updated (execute_done executed)

/-- What is recorded stays recorded, so whatever is raised later is raised after it. -/
theorem succeeds_recorded {program : Transaction Value} (recorded : session.recorded ≠ []) :
    Succeeds data performedBy (fun _ _ _ => True) program session world := by
  induction program generalizing session world with
  | ret value => trivial
  | raise error => exact recorded
  | call statement next ih =>
      intro current relied valid sound
      refine ⟨trivial, fun answer others _ => ⟨fun _ _ => recorded, ?_⟩⟩
      intro response after updated executed _ _
      apply ih response
      by_cases commits : ∃ dirty, statement = .commit dirty
      · obtain ⟨dirty, rfl⟩ := commits
        have answered := execute_done executed
        simp only [respond, commit] at answered
        split at answered
        · cases answered
        · cases answered
          simp [recorded]
      · have kept := (respond_uncommitted (fun dirty same => commits ⟨dirty, same⟩)
          (execute_done executed)).2.2.1
        rw [kept]
        exact recorded

/-- What the others do to a call is known from its conduct; that it raises nothing is
left to show. -/
theorem succeeds_of_conducted {program : Transaction Value}
    {returns results : Value → Session → World → Prop}
    (conducted : Conducted {} (.movement data performedBy)
      (supported (.movement data performedBy)) (fun _ _ => True) returns program session world)
    (safe : Succeeds data performedBy results program session world) :
    Succeeds data performedBy
      (fun value updated after => returns value updated after ∧ results value updated after)
      program session world :=
  Program.verified_raises (Program.verified_requires (Program.verified_and conducted safe)
    (fun _ _ _ _ => trivial)) (fun _ _ both => both.2)

theorem succeeds_of_safe {program : Transaction Value} {returns : Value → Session → World → Prop}
    (conducted : Conducted {} (.movement data performedBy)
      (supported (.movement data performedBy)) (fun _ _ => True) returns program session world)
    (safe : Succeeds data performedBy (fun _ _ _ => True) program session world) :
    Succeeds data performedBy returns program session world :=
  Program.verified_mono (succeeds_of_conducted conducted safe) (fun _ _ _ both => both.1)

theorem permits_supported (request : Request) :
    Permits (supported request) (fun _ _ => True) :=
  ⟨fun _ _ _ _ _ _ _ => trivial, fun _ _ _ _ _ _ _ _ => trivial⟩

theorem Applying.waiting (applying : Applying change rows session world) : session.recorded = [] :=
  congrArg History.recorded applying.history

theorem getProduct_succeeds (applying : Applying change rows session world) :
    Succeeds data performedBy
      (fun _ updated after => session = updated ∧ Applying change rows session after)
      (getProductByIdOrRaise data.productId) session world := by
  apply succeeds_of_safe (getProduct_conducted (permits_supported _) applying)
  apply succeeds_call applying.waiting
  intro current _ _ _ answer others _ possible _
  have known := possible.product
  constructor
  · intro error raised
    cases raised
  · intro response after updated executed
    cases response with
    | some product => trivial
    | none =>
        simp only [respond, Outcome.done.injEq] at executed
        simp [Tables.hasProduct, executed.1] at known

theorem getWarehouse_succeeds {id : UUID}
    (named : data.sourceWarehouseId = some id ∨ data.destinationWarehouseId = some id)
    (applying : Applying change rows session world) :
    Succeeds data performedBy
      (fun _ updated after => session = updated ∧ Applying change rows session after)
      (getWarehouseByIdOrRaise id) session world := by
  apply succeeds_of_safe (getWarehouse_conducted (permits_supported _) applying)
  apply succeeds_call applying.waiting
  intro current _ _ _ answer others _ possible _
  have known := possible.warehouses id named
  constructor
  · intro error raised
    cases raised
  · intro response after updated executed
    cases response with
    | some warehouse => trivial
    | none =>
        simp only [respond, Outcome.done.injEq] at executed
        simp [Tables.hasWarehouse, executed.1] at known

theorem getForUpdate_succeeds {warehouseId : UUID} (applying : Applying change rows session world)
    (fresh : ∀ row ∈ rows, row.pair ≠ (data.productId, warehouseId)) :
    Succeeds data performedBy
      (fun found updated after =>
        Locked change rows (data.productId, warehouseId) session found updated after ∧
          (data.sourceWarehouseId = some warehouseId →
            ∃ row, found = some row ∧ data.quantity ≤ row.quantity))
      (getByProductAndWarehouseForUpdate data.productId warehouseId) session world := by
  apply succeeds_of_conducted (getForUpdate_conducted (permits_supported _) applying fresh)
  apply succeeds_call applying.waiting
  intro current _ valid _ answer others _ possible _
  have absent : session.row? (data.productId, warehouseId) = none := by
    rw [Session.row?_none, applying.held]
    exact fresh
  constructor
  · intro error raised
    simp only [respond, selectInventoryForUpdate, absent] at raised
    (repeat' split at raised) <;> cases raised
  · intro response after updated executed
    have stored : current.tables.inventoriesOf (data.productId, warehouseId) = response := by
      simp only [respond, selectInventoryForUpdate, absent] at executed
      split at executed
      · next none =>
          simp only [Outcome.done.injEq] at executed
          rw [none]
          exact executed.1
      · split at executed
        · cases executed
        · simp only [Outcome.done.injEq] at executed
          exact executed.1
    rcases valid.inventoriesOf_cases (data.productId, warehouseId) with none | ⟨row, one⟩
    · rw [none] at stored
      subst stored
      intro names
      obtain ⟨row, included, here, _⟩ := possible.stock warehouseId names
      have member := Tables.mem_inventoriesOf.mpr ⟨included, here⟩
      rw [none] at member
      cases member
    · rw [one] at stored
      subst stored
      intro names
      obtain ⟨other, included, here, enough⟩ := possible.stock warehouseId names
      have member := Tables.mem_inventoriesOf.mpr ⟨included, here⟩
      rw [one, List.mem_singleton] at member
      exact ⟨row, rfl, member ▸ enough⟩

theorem createInventory_succeeds {warehouseId : UUID}
    (named : data.destinationWarehouseId = some warehouseId)
    (applying : Applying change rows session world)
    (fresh : ∀ row ∈ rows, row.pair ≠ (data.productId, warehouseId)) :
    Succeeds data performedBy
      (fun row => Locked change rows (data.productId, warehouseId) session (some row))
      (createInventory { productId := data.productId, warehouseId, quantity := 0 })
      session world := by
  apply succeeds_of_safe (createInventory_conducted (permits_supported _) applying fresh)
  apply succeeds_call applying.waiting
  intro current _ _ _ answer others permitted possible _
  have unused : current.tables.inventoriesOf (data.productId, warehouseId) = [] := permitted.2 _ rfl
  have notHeld : session.holds (data.productId, warehouseId) = false := by
    rw [Bool.eq_false_iff, ne_eq, holds_iff, applying.held]
    intro held
    obtain ⟨row, member, here⟩ := held
    exact fresh row member here
  have refers : current.tables.hasPair (data.productId, warehouseId) = true := by
    rw [Tables.hasPair, possible.product, possible.warehouses warehouseId (.inr named)]
    rfl
  have zero : Integer.fits 0 = true := by decide
  constructor
  · intro error raised
    simp only [respond, insertInventory, Inventory.pair, unused, notHeld, refers, zero,
      Option.all_none] at raised
    split at raised <;> simp at raised
  · intro response after updated _
    trivial

theorem flushQuantity_succeeds {row : Inventory} {delta : Int}
    (applying : Applying change (rows ++ [row]) session world)
    (fresh : ∀ other ∈ rows, other.pair ≠ row.pair)
    (fits : ∀ current : World, current.Valid → data.Storable current.tables →
      row.quantity = current.tables.quantity row.pair →
        Integer.fits (row.quantity + delta) = true)
    (untouched : change row.pair = 0) (nonnegative : 0 ≤ row.quantity → 0 ≤ row.quantity + delta) :
    Succeeds data performedBy
      (fun result updated after => result.pair = row.pair ∧
        updated.movements = session.movements ∧
        Applying (fun pair => change pair + if pair = row.pair then delta else 0)
          (rows ++ [result]) updated after)
      (flushQuantity row (row.quantity + delta)) session world := by
  apply succeeds_of_safe
  · apply Program.verified_mono
      (flushQuantity_conducted (permits_supported _) applying fresh nonnegative)
    intro result updated after moved
    obtain ⟨rfl, kept, later⟩ := moved
    exact ⟨rfl, kept, later⟩
  apply succeeds_call applying.waiting
  intro current relied valid _ answer others _ _ inRange
  have stored : row.quantity = current.tables.quantity row.pair := by
    have changed := (applying.stable relied).changed row (by simp)
    rw [untouched] at changed
    omega
  have found : session.row? row.pair = some row := by
    have absent : rows.find? (fun other => other.pair = row.pair) = none := by
      simpa using fresh
    rw [Session.row?, applying.held, List.find?_append, absent]
    simp
  constructor
  · intro error raised
    have same : Inventory.pair { row with quantity := row.quantity + delta } = row.pair := rfl
    simp [respond, updateInventory, fits current valid inRange stored, same, found] at raised
  · intro response after updated _
    trivial

/-- A leg of a call, as in `Moved`. -/
theorem leg_succeeds {warehouseId : UUID} {delta : Int} {before : Session} {row : Inventory}
    (locked : Locked change rows (data.productId, warehouseId) before (some row) session world)
    (fresh : ∀ row ∈ rows, row.pair ≠ (data.productId, warehouseId))
    (fits : ∀ current : World, current.Valid → data.Storable current.tables →
      row.quantity = current.tables.quantity (data.productId, warehouseId) →
        Integer.fits (row.quantity + delta) = true)
    (untouched : change (data.productId, warehouseId) = 0)
    (nonnegative : 0 ≤ row.quantity → 0 ≤ row.quantity + delta) :
    Succeeds data performedBy
      (Moved change rows (data.productId, warehouseId) delta before)
      (flushQuantity row (row.quantity + delta)) session world := by
  obtain ⟨kept, here, applying⟩ := locked
  apply Program.verified_mono (flushQuantity_succeeds applying (here ▸ fresh) (here ▸ fits)
    (here ▸ untouched) nonnegative)
  intro result updated after moved
  obtain ⟨same, movements, later⟩ := moved
  exact ⟨same.trans here, movements.trans kept, here ▸ later⟩

theorem increaseStock_succeeds {warehouseId : UUID}
    (named : data.destinationWarehouseId = some warehouseId)
    (applying : Applying change rows session world)
    (fresh : ∀ row ∈ rows, row.pair ≠ (data.productId, warehouseId)) :
    Succeeds data performedBy (Moved change rows (data.productId, warehouseId) data.quantity session)
      (increaseStock data.productId warehouseId data.quantity) session world := by
  have positive := data.quantity_positive
  apply succeeds_bind _ (getWarehouse_succeeds (.inr named) applying)
  intro _ _ _ checked
  obtain ⟨rfl, applying⟩ := checked
  apply succeeds_bind _ (getForUpdate_succeeds applying fresh)
  intro found updated after locked
  have room : ∀ row : Inventory, ∀ current : World, current.Valid → data.Storable current.tables →
      row.quantity = current.tables.quantity (data.productId, warehouseId) →
        Integer.fits (row.quantity + data.quantity) = true := by
    intro row current _ inRange stored
    rw [stored]
    exact inRange.destination warehouseId named
  have untouched := applying.unchanged _ fresh
  cases found with
  | some row => exact leg_succeeds locked.1 fresh (room row) untouched (by omega)
  | none =>
      obtain ⟨⟨kept, applying⟩, _⟩ := locked
      apply succeeds_bind _ (createInventory_succeeds named applying fresh)
      intro row final last created
      obtain ⟨same, rest⟩ := created
      exact leg_succeeds ⟨same.trans kept, rest⟩ fresh (room row) untouched (by omega)

theorem decreaseStock_succeeds {warehouseId : UUID}
    (named : data.sourceWarehouseId = some warehouseId)
    (applying : Applying change rows session world)
    (fresh : ∀ row ∈ rows, row.pair ≠ (data.productId, warehouseId)) :
    Succeeds data performedBy
      (Moved change rows (data.productId, warehouseId) (-data.quantity) session)
      (decreaseStock data.productId warehouseId data.quantity) session world := by
  have positive := data.quantity_positive
  apply succeeds_bind _ (getWarehouse_succeeds (.inl named) applying)
  intro _ _ _ checked
  obtain ⟨rfl, applying⟩ := checked
  apply succeeds_bind _ (getForUpdate_succeeds applying fresh)
  intro found updated after locked
  obtain ⟨row, rfl, enough⟩ := locked.2 named
  have notShort : ¬ row.quantity < data.quantity := by omega
  simp only [notShort, if_false, Int.sub_eq_add_neg]
  apply leg_succeeds locked.1 fresh _ (applying.unchanged _ fresh) (by omega)
  intro current valid _ stored
  have range := valid.quantity_fits (data.productId, warehouseId)
  rw [← stored] at range
  simp only [Integer.fits, Bool.and_eq_true, decide_eq_true_eq] at range ⊢
  omega

theorem transferStock_succeeds {sourceId destinationId : UUID}
    (source : data.sourceWarehouseId = some sourceId)
    (destination : data.destinationWarehouseId = some destinationId)
    (different : sourceId ≠ destinationId) (applying : Applying (fun _ => 0) [] session world) :
    Succeeds data performedBy (fun _ _ _ => True)
      (transferStock data.productId sourceId destinationId data.quantity) session world := by
  unfold transferStock
  by_cases first : (sortedByStr sourceId destinationId).1 = sourceId
  · rw [if_pos first]
    apply succeeds_bind _ (decreaseStock_succeeds source applying (by simp))
    intro row middle between moved
    apply succeeds_bind _ (increaseStock_succeeds destination moved.2.2
      (other_leg moved (by simpa using different)))
    intro target updated after _
    trivial
  · rw [if_neg first]
    apply succeeds_bind _ (increaseStock_succeeds destination applying (by simp))
    intro row middle between moved
    apply succeeds_bind _ (decreaseStock_succeeds source moved.2.2
      (other_leg moved (by simpa using different.symm)))
    intro target updated after _
    trivial

theorem applyMovement_succeeds (applying : Applying (fun _ => 0) [] session world)
    (movements : session.movements = []) :
    Succeeds data performedBy (Applied data performedBy) (applyMovement data) session world := by
  apply succeeds_of_safe (applyMovement_conducted (permits_supported _) data performedBy movements
    applying)
  rcases data.warehouses_cases with ⟨type, source, warehouse, destination⟩ |
    ⟨type, destination, warehouse, source⟩ | ⟨type, left, right, source, destination, different⟩
  · simp only [applyMovement, type, destination]
    apply succeeds_bind _ (increaseStock_succeeds destination applying (by simp))
    intro inventory updated after _
    trivial
  · simp only [applyMovement, type, source]
    apply succeeds_bind _ (decreaseStock_succeeds source applying (by simp))
    intro inventory updated after _
    trivial
  · simp only [applyMovement, type, source, destination]
    apply succeeds_bind _ (transferStock_succeeds source destination different applying)
    intro affected updated after _
    trivial

theorem createMovement_succeeds {affected : List Inventory}
    (applied : Applied data performedBy affected session world) :
    Succeeds data performedBy (Recording data performedBy affected)
      (createMovement (data.values performedBy)) session world := by
  apply succeeds_of_safe (createMovement_conducted (permits_supported _) applied)
  obtain ⟨rows, _, applying⟩ := applied.applying
  apply succeeds_call applying.waiting
  intro current _ _ _ answer others _ possible storable
  have refers := possible.refers performedBy
  have fits : Integer.fits (data.values performedBy).quantity = true := storable.quantity
  have reason : (data.values performedBy).reason.all Text.sendable = true := storable.reason
  constructor
  · intro error raised
    simp [respond, insertMovement, refers, fits, reason] at raised
  · intro response after updated _
    trivial

theorem recordMovement_succeeds (settings : Settings) (data : MovementCreate)
    (performedBy : Option UUID) :
    Succeeds data performedBy (fun _ _ _ => True) (recordMovement settings data performedBy) {}
      world := by
  apply succeeds_bind _ (getProduct_succeeds (applying_start world))
  intro _ _ _ checked
  obtain ⟨rfl, applying⟩ := checked
  apply succeeds_bind _ (applyMovement_succeeds applying rfl)
  intro affected changed between applied
  apply succeeds_bind _ (createMovement_succeeds applied)
  intro movement audited later recording
  obtain ⟨rows, _, applying⟩ := recording.applying
  apply succeeds_call applying.waiting
  intro current _ _ _ answer others _ _ _
  constructor
  · intro error raised
    cases raised
  · intro response after updated executed
    cases executed
    apply succeeds_recorded
    simp [recording.movements]

end Succeeds

section Runs

variable {settings : Settings} {world : World} {calls : List Call} {system : Application}

/-- Every call of a guarded run is supported until it has recorded its movement. -/
theorem calls_supported (valid : world.Valid) (affordable : Affordable calls world.tables)
    (sendable : ∀ call ∈ calls, call.1.reason.all Text.sendable = true)
    (reached : Reachable environment insertsFirstRow
      (Application.start settings world (calls.map Call.request)) system) :
    System.Assisted databaseDiscipline (fun _ _ _ _ => True)
      (fun _ result session => ∀ error, result = .error error → session.recorded ≠ [])
      supported system := by
  have start : System.Assisted databaseDiscipline (fun _ _ _ _ => True)
      (fun _ result session => ∀ error, result = .error error → session.recorded ≠ [])
      supported (Application.start settings world (calls.map Call.request)) := by
    apply System.start_assisted valid (Session.close_sound {} world) Session.fresh_compatible
    intro request member
    obtain ⟨⟨data, performedBy⟩, _, rfl⟩ := List.mem_map.mp member
    have succeeds : Succeeds data performedBy (fun _ _ _ => True)
        (Request.program settings (.movement data performedBy)) {} world := by
      apply succeeds_bind _ (recordMovement_succeeds settings data performedBy)
      intro movement updated after _
      trivial
    apply Program.verified_raises (Program.verified_mono succeeds ?_)
    · intro error updated recorded _ _
      exact recorded
    · intro value updated after _ error impossible
      cases impossible
  apply start.reachable ?_ reached
  intro system index answer request statement next session reached found permitted
  refine ⟨permitted, ?_⟩
  intro data performedBy same waiting
  subst same
  have booked := Application.booked valid reached.unrestricted
  have labels := reached.labels.trans (Application.start_labels settings world _)
  have verified := (Application.start_verified settings permits_unrestricted valid _).reachable
    reached.unrestricted
  exact ⟨booked.possible labels affordable verified.valid found waiting,
    booked.inRange labels affordable verified.valid found waiting,
    sendable _ (mem_calls labels found)⟩

theorem permits_committed :
    Permits insertsFirstRow (fun recorded _ => recorded = []) := by
  constructor
  · intro answer others world session statement permitted fails
    rw [permitted.1.1] at fails
    cases fails
  · intro answer others world session productId warehouseId permitted several
    by_contra committed
    have one := permitted.1.2 _ rfl committed
    omega

/-- Concurrent movements that can all be carried out raise nothing, and when none of
them has a call left to make all have committed and returned; runs are finite. The
inventory rows they create must not have been committed by another of them, and the
database must take the texts of their reasons. -/
theorem receipts_all_commit (settings : Settings) (world : World) (valid : world.Valid)
    (calls : List Call) (affordable : Affordable calls world.tables)
    (sendable : ∀ call ∈ calls, call.1.reason.all Text.sendable = true) (system : Application)
    (reached : Reachable environment insertsFirstRow
      (Application.start settings world (calls.map Call.request)) system) :
    (∀ thread ∈ system.threads, ∀ error, thread.program ≠ .raise error) ∧
      ((∀ index answer, System.step environment system index answer = none) →
        ∀ thread ∈ system.threads, Request.Returned thread) := by
  have supported := calls_supported valid affordable sendable reached
  have verified := (Application.start_verified settings permits_committed valid _).reachable reached
  have unraised : ∀ thread ∈ system.threads, ∀ error, thread.program ≠ .raise error := by
    intro thread member error raised
    obtain ⟨index, found⟩ := List.mem_iff_getElem?.mp member
    obtain ⟨label, program, session⟩ := thread
    cases raised
    have recorded : session.recorded ≠ [] := supported.threads _ _ found error rfl
    rcases verified.threads _ _ found with ⟨nothing, _⟩ | nothing
    · exact recorded nothing
    · exact recorded nothing
  refine ⟨unraised, ?_⟩
  intro stuck thread member
  obtain ⟨index, found⟩ := List.mem_iff_getElem?.mp member
  have ordered : system.Ordered :=
    (Application.start_ordered settings valid _).reachable reached.unrestricted
  have finished : ∀ index, ¬ system.Unfinished index := by
    intro index unfinished
    obtain ⟨other, _, proceeds⟩ := ordered.ready ⟨index, unfinished⟩
    obtain ⟨after, stepped⟩ := proceeds {}
    rw [stuck other {}] at stepped
    cases stepped
  obtain ⟨label, program, session⟩ := thread
  cases program with
  | call statement next => exact absurd ⟨_, found, rfl⟩ (finished index)
  | raise error => exact absurd rfl (unraised _ member error)
  | ret reply =>
      have labels := reached.labels.trans (Application.start_labels settings world _)
      have listed : label ∈ calls.map Call.request := by
        rw [← labels]
        exact List.mem_map.mpr ⟨_, member, rfl⟩
      obtain ⟨call, _, rfl⟩ := List.mem_map.mp listed
      obtain ⟨_, _, movement, rfl, recorded⟩ := verified.threads _ _ found
      exact ⟨movement, rfl, recorded⟩

end Runs

/-! Two receipts for a pair that has no inventory row yet. -/

def Sample.receipts : List Call :=
  [(Sample.receive3, none), (Sample.receive2, none)]

theorem Sample.receipts_affordable : Affordable Sample.receipts Sample.world.tables := by
  constructor <;> intro call member <;>
    simp only [Sample.receipts, List.mem_cons, List.not_mem_nil, or_false] at member <;>
    rcases member with rfl | rfl
  all_goals
    first
    | decide
    | (intro id named; simp [Sample.receive] at named; subst named; decide)

theorem Sample.receipts_sendable :
    ∀ call ∈ Sample.receipts, call.1.reason.all Text.sendable = true := by
  intro call member
  rcases List.mem_pair.mp member with rfl | rfl <;> rfl

theorem receipts_all_commit_orderly :
    ∃ system : Application, (Application.start {} Sample.world
        (Sample.receipts.map Call.request)).schedule environment Sample.orderly = some system ∧
      ∀ thread ∈ system.threads, ∀ error, thread.program ≠ .raise error := by
  have completes : ((Application.start {} Sample.world
      (Sample.receipts.map Call.request)).schedule environment Sample.orderly).isSome = true := by
    decide +kernel
  have respected : (Application.start {} Sample.world
      (Sample.receipts.map Call.request)).respects insertsFirstRow environment Sample.orderly =
        true := by decide +kernel
  exact ⟨_, (Option.some_get completes).symm, (receipts_all_commit {} Sample.world
    Sample.world_valid _ Sample.receipts_affordable Sample.receipts_sendable _
    (System.respects_get respected completes)).1⟩

/-- Both have found no row when the first one inserts it and commits. -/
def Sample.bothMissing : List (Nat × Answer) :=
  (List.replicate 3 0 ++ List.replicate 3 1 ++ List.replicate 4 0 ++ [1]).map (·, {})

theorem first_receipts_raise_integrity_error :
    ¬ ∀ (settings : Settings) (world : World) (calls : List Call) (productId destination : UUID),
      world.Valid → Affordable calls world.tables →
      (∀ call ∈ calls, call.1.productId = productId ∧
        call.1.destinationWarehouseId = some destination) →
      ∀ system, Reachable environment looksUpOneActive
        (Application.start settings world (calls.map Call.request)) system →
        ∀ thread ∈ system.threads, ∀ error, thread.program = .raise error →
          ∃ message, error = .notFoundError message ∨ error = .insufficientStockError message := by
  intro documented
  have respected : (Application.start {} Sample.world
      (Sample.receipts.map Call.request)).respects looksUpOneActive environment
        Sample.bothMissing = true := by decide +kernel
  have failed : ((Application.start {} Sample.world
      (Sample.receipts.map Call.request)).schedule environment Sample.bothMissing).any
        (fun system => system.threads.any (fun thread => match thread.program with
          | .raise .integrityError => true
          | _ => false)) = true := by decide +kernel
  obtain ⟨system, ran, some⟩ := (Option.any_eq_true _ _).mp failed
  obtain ⟨thread, member, raised⟩ := List.any_eq_true.mp some
  split at raised
  · next ended =>
      obtain ⟨message, other⟩ := documented {} Sample.world Sample.receipts Sample.product.id
        Sample.main.id Sample.world_valid Sample.receipts_affordable
        (by simp [Sample.receipts, Sample.receive]) system
        (System.respects_reachable .refl respected ran) thread member _ ended
      rcases other with other | other <;> cases other
  · cases raised

end InventoryManagement
