import InventoryManagement.Interleaving.Waiting
import InventoryManagement.Services.Sequential

/-! Movements lock and insert inventory keys in the order of their warehouses' texts,
so whatever waits for whatever, nothing waits for itself. -/

set_option autoImplicit false

namespace InventoryManagement

open Interleaving (Guard Outcome Program Reachable System Thread)

variable {Value Result : Type} {session updated : Session} {world : World}

/-- The inventory key a statement locks or inserts. -/
def Statement.key? : Statement → Option Pair
  | .selectInventoryForUpdate productId warehouseId => some (productId, warehouseId)
  | .insertInventory inventory => some inventory.pair
  | _ => none

/-- The sessions that keep a statement waiting: the one that holds the committed row
it wants to lock, and those that have inserted the key it wants to insert. -/
def Statement.WaitsFor (statement : Statement) (session : Session) (world : World)
    (other : Session) : Prop :=
  match statement with
  | .selectInventoryForUpdate productId warehouseId =>
      session.holds (productId, warehouseId) = false ∧
        world.tables.inventoriesOf (productId, warehouseId) ≠ [] ∧
        other.holds (productId, warehouseId) = true
  | .insertInventory inventory => inventory.pair ∈ other.inserted
  | _ => False

/-- Transaction `waiting` has to wait for transaction `holder`. -/
def Application.WaitsFor (system : Application) (waiting holder : Nat) : Prop :=
  ∃ label statement next session other,
    system.threads[waiting]? = some ⟨label, .call statement next, session⟩ ∧
      waiting ≠ holder ∧ system.threads[holder]? = some other ∧
      statement.WaitsFor session system.shared other.session

theorem respond_wait_iff {statement : Statement} {answer : Answer} {others : List Session} :
    respond statement answer others world session = .wait ↔
      ∃ other ∈ others, statement.WaitsFor session world other := by
  cases statement
  case selectInventoryForUpdate productId warehouseId =>
    simp only [respond, selectInventoryForUpdate, Statement.WaitsFor, Session.holds]
    cases session.row? (productId, warehouseId) with
    | some row => simp
    | none =>
        cases world.tables.inventoriesOf (productId, warehouseId) with
        | nil => simp
        | cons row rest => by_cases taken : held others (productId, warehouseId) = true <;>
            simp_all [held, Session.holds]
  case insertInventory inventory =>
    simp only [respond, insertInventory, Statement.WaitsFor]
    have here : insertedElsewhere others inventory.pair = true ↔
        ∃ other ∈ others, inventory.pair ∈ other.inserted := by
      simp [insertedElsewhere]
    rw [← here]
    constructor
    · intro waits
      by_contra free
      rw [if_neg free] at waits
      (repeat' split at waits) <;> cases waits
    · intro taken
      rw [if_pos taken]
  all_goals
    simp only [respond, updateInventory, insertMovement, insertAlert, commit, selectActiveAlerts,
      refreshAlert, selectInventories, dispatch, gather, delay, Statement.WaitsFor, and_false, exists_false,
      iff_false]
    intro waits
    (repeat' split at waits) <;> cases waits

theorem execute_wait {statement : Statement} {answer : Answer} {others : List Session}
    (waits : execute statement answer others world session = .wait) :
    respond statement answer others world session = .wait := by
  unfold execute at waits
  split at waits
  · cases waits
  · exact waits

/-- A call that has to wait waits for another transaction, and only then. -/
theorem Application.waits_iff {system : Application} {index : Nat} {label : Request}
    {statement : Statement} {next : statement.Response → Transaction Reply} {answer : Answer}
    (found : system.threads[index]? = some ⟨label, .call statement next, session⟩) :
    respond statement answer (system.others index) system.shared session = .wait ↔
      ∃ holder, system.WaitsFor index holder := by
  rw [respond_wait_iff]
  constructor
  · intro waits
    obtain ⟨other, member, here⟩ := waits
    obtain ⟨holder, thread, different, listed, rfl⟩ := System.mem_others.mp member
    exact ⟨holder, label, statement, next, session, thread, found, different.symm, listed, here⟩
  · intro waits
    obtain ⟨holder, _, _, _, _, other, same, different, listed, here⟩ := waits
    rw [found] at same
    cases same
    exact ⟨other.session, System.mem_others.mpr ⟨holder, other, different.symm, listed, rfl⟩, here⟩

theorem Statement.WaitsFor.holds {statement : Statement} {other : Session}
    (waits : statement.WaitsFor session world other) (sound : other.Sound world) :
    ∃ pair, statement.key? = some pair ∧ ∃ row ∈ other.rows, row.pair = pair := by
  cases statement
  case selectInventoryForUpdate productId warehouseId =>
    exact ⟨_, rfl, holds_iff.mp waits.2.2⟩
  case insertInventory inventory => exact ⟨_, rfl, sound.inserted_rows _ waits⟩
  all_goals exact absurd waits id

/-- The first of two warehouses that a transfer locks. -/
theorem sortedByStr_first {left right : UUID} (different : left ≠ right) :
    (sortedByStr left right).1 = left ↔ left.str < right.str := by
  unfold sortedByStr
  by_cases reversed : right.str < left.str
  · rw [if_pos reversed]
    exact ⟨fun same => absurd same.symm different, fun straight =>
      absurd straight (String.lt_asymm reversed)⟩
  · rw [if_neg reversed]
    refine ⟨fun _ => ?_, fun _ => rfl⟩
    by_contra straight
    exact different (UUID.str_injective (String.le_antisymm reversed straight))

/-- Every row the session holds belongs to an earlier warehouse than this one. -/
def Session.Below (warehouseId : UUID) (session : Session) : Prop :=
  ∀ row ∈ session.rows, row.warehouseId.str < warehouseId.str

/-- Every row the session holds belongs to this warehouse or an earlier one. -/
def Session.UpTo (warehouseId : UUID) (session : Session) : Prop :=
  ∀ row ∈ session.rows, row.warehouseId = warehouseId ∨ row.warehouseId.str < warehouseId.str

theorem Session.Below.upTo {warehouseId : UUID} (below : session.Below warehouseId) :
    session.UpTo warehouseId :=
  fun row member => .inr (below row member)

theorem Session.below_of_fresh (fresh : session.rows = []) {warehouseId : UUID} :
    session.Below warehouseId := by
  intro row member
  rw [fresh] at member
  cases member

theorem Session.UpTo.below {first second : UUID} (upTo : session.UpTo first)
    (ordered : first.str < second.str) : session.Below second := by
  intro row member
  rcases upTo row member with here | earlier
  · exact here ▸ ordered
  · exact String.lt_trans earlier ordered

/-- What holds when a request locks or inserts a key. -/
def LocksInOrder (statement : Statement) (session : Session) (_world : World) : Prop :=
  ∀ pair, statement.key? = some pair → session.Below pair.2

/-- A transaction that locks and inserts in order until it ends. -/
abbrev Ordered (returns : Value → Session → Prop) (program : Transaction Value)
    (session : Session) (world : World) : Prop :=
  program.Verified databaseDiscipline Guard.unrestricted LocksInOrder
    (fun value updated _ => returns value updated) (fun _ _ => True) session world

theorem ordered_bind {program : Transaction Value} {next : Value → Transaction Result}
    {returns : Result → Session → Prop} (middle : Value → Session → Prop)
    (first : Ordered middle program session world)
    (second : ∀ value session world, middle value session →
      Ordered returns (next value) session world) :
    Ordered returns (program.bind next) session world :=
  Program.verified_bind (Program.verified_mono first second)

theorem ordered_call {statement : Statement} {next : statement.Response → Transaction Value}
    {returns : Value → Session → Prop}
    (below : ∀ pair, statement.key? = some pair → session.Below pair.2)
    (remaining : ∀ answer others before response after updated,
      respond statement answer others before session = .done response after updated →
      Ordered returns (next response) updated after) :
    Ordered returns (.call statement next) session world := by
  intro current _ _ _
  refine ⟨below, fun answer others _ => ⟨fun _ _ => trivial, ?_⟩⟩
  intro response after updated executed _ _
  exact remaining _ _ _ _ _ _ (execute_done executed)

theorem ordered_of_only {program : Transaction Value}
    (only : program.Only (fun statement => statement.key? = none)) :
    Ordered (fun _ _ => True) program session world := by
  induction program generalizing session world with
  | ret value => trivial
  | raise error => trivial
  | call statement next ih =>
      apply ordered_call
      · intro pair named
        rw [only.1] at named
        cases named
      · intro answer others before response after updated _
        exact ih response (only.2 response)

theorem getWarehouse_ordered (id : UUID) :
    Ordered (fun _ updated => updated = session) (getWarehouseByIdOrRaise id) session world := by
  apply ordered_call
  · intro pair named
    cases named
  · intro answer others before response after updated executed
    have kept : updated = session := by
      simp only [respond, Outcome.done.injEq] at executed
      exact executed.2.2.symm
    cases response with
    | none => trivial
    | some warehouse => exact kept

theorem getForUpdate_ordered {productId warehouseId : UUID} (below : session.Below warehouseId) :
    Ordered (fun found updated => updated.UpTo warehouseId ∧ (found = none → updated = session))
      (getByProductAndWarehouseForUpdate productId warehouseId) session world := by
  apply ordered_call
  · intro pair named
    cases named
    exact below
  · intro answer others before response after updated executed
    have locked : updated.UpTo warehouseId ∧ (response = [] → updated = session) := by
      simp only [respond, selectInventoryForUpdate] at executed
      split at executed
      · cases executed
        exact ⟨below.upTo, fun _ => rfl⟩
      · split at executed
        · cases executed
          exact ⟨below.upTo, fun _ => rfl⟩
        · next visible =>
            split at executed
            · cases executed
            · cases executed
              refine ⟨?_, fun none => absurd none visible⟩
              intro row member
              rcases List.mem_append.mp member with old | added
              · exact below.upTo row old
              · exact .inl (congrArg Prod.snd (Tables.mem_inventoriesOf.mp added).2)
    cases response with
    | nil => exact ⟨locked.1, fun _ => locked.2 rfl⟩
    | cons row rest =>
        cases rest with
        | nil => exact ⟨locked.1, fun absent => by cases absent⟩
        | cons _ _ => trivial

theorem createInventory_ordered {productId warehouseId : UUID}
    (below : session.Below warehouseId) :
    Ordered (fun _ updated => updated.UpTo warehouseId)
      (createInventory { productId, warehouseId, quantity := 0 }) session world := by
  apply ordered_call
  · intro pair named
    cases named
    exact below
  · intro answer others before response after updated executed
    simp only [respond, insertInventory] at executed
    (repeat' split at executed) <;> cases executed
    intro row member
    rcases List.mem_append.mp member with old | added
    · exact below.upTo row old
    · exact .inl (congrArg Inventory.warehouseId (List.mem_singleton.mp added))

theorem flushQuantity_ordered {warehouseId : UUID} (inventory : Inventory) (quantity : Int)
    (upTo : session.UpTo warehouseId) :
    Ordered (fun _ updated => updated.UpTo warehouseId) (flushQuantity inventory quantity)
      session world := by
  apply ordered_call
  · intro pair named
    cases named
  · intro answer others before response after updated executed
    simp only [respond, updateInventory] at executed
    split at executed
    · cases executed
    · split at executed
      · cases executed
      · next stored found =>
          cases executed
          obtain ⟨held, _⟩ := Session.row?_some found
          intro row member
          rcases mem_replaceRow member with rfl | ⟨old, _⟩
          · exact upTo stored held
          · exact upTo row old

theorem increaseStock_ordered (productId : UUID) {warehouseId : UUID} (quantity : Int)
    (below : session.Below warehouseId) :
    Ordered (fun _ updated => updated.UpTo warehouseId) (increaseStock productId warehouseId quantity)
      session world := by
  apply ordered_bind _ (getWarehouse_ordered warehouseId)
  intro _ _ _ same
  subst same
  apply ordered_bind _ (getForUpdate_ordered below)
  intro found updated after locked
  cases found with
  | some row => exact flushQuantity_ordered row _ locked.1
  | none =>
      cases locked.2 rfl
      apply ordered_bind _ (createInventory_ordered below)
      intro row final last created
      exact flushQuantity_ordered row _ created

theorem decreaseStock_ordered (productId : UUID) {warehouseId : UUID} (quantity : Int)
    (below : session.Below warehouseId) :
    Ordered (fun _ updated => updated.UpTo warehouseId) (decreaseStock productId warehouseId quantity)
      session world := by
  apply ordered_bind _ (getWarehouse_ordered warehouseId)
  intro _ _ _ same
  subst same
  apply ordered_bind _ (getForUpdate_ordered below)
  intro found updated after locked
  cases found with
  | none => trivial
  | some row =>
      by_cases short : row.quantity < quantity
      · simp only [short, if_true]
        trivial
      · simp only [short, if_false]
        exact flushQuantity_ordered row _ locked.1

theorem transferStock_ordered (productId : UUID) {sourceId destinationId : UUID} (quantity : Int)
    (different : sourceId ≠ destinationId) (fresh : session.rows = []) :
    Ordered (fun _ _ => True) (transferStock productId sourceId destinationId quantity)
      session world := by
  unfold transferStock
  by_cases first : (sortedByStr sourceId destinationId).1 = sourceId
  · rw [if_pos first]
    have ordered := (sortedByStr_first different).mp first
    apply ordered_bind _ (decreaseStock_ordered productId quantity (Session.below_of_fresh fresh))
    intro source middle between upTo
    apply ordered_bind _ (increaseStock_ordered productId quantity (upTo.below ordered))
    intro destination updated after _
    trivial
  · rw [if_neg first]
    have ordered : destinationId.str < sourceId.str := by
      by_contra reversed
      apply first
      rw [sortedByStr_first different]
      by_contra straight
      exact different (UUID.str_injective (String.le_antisymm reversed straight))
    apply ordered_bind _ (increaseStock_ordered productId quantity (Session.below_of_fresh fresh))
    intro destination middle between upTo
    apply ordered_bind _ (decreaseStock_ordered productId quantity (upTo.below ordered))
    intro source updated after _
    trivial

theorem applyMovement_ordered (data : MovementCreate) (fresh : session.rows = []) :
    Ordered (fun _ _ => True) (applyMovement data) session world := by
  rcases data.warehouses_cases with ⟨type, source, warehouse, destination⟩ |
    ⟨type, destination, warehouse, source⟩ | ⟨type, left, right, source, destination, different⟩
  · simp only [applyMovement, type, destination]
    apply ordered_bind _ (increaseStock_ordered data.productId data.quantity
      (Session.below_of_fresh fresh))
    intro inventory updated after _
    trivial
  · simp only [applyMovement, type, source]
    apply ordered_bind _ (decreaseStock_ordered data.productId data.quantity
      (Session.below_of_fresh fresh))
    intro inventory updated after _
    trivial
  · simp only [applyMovement, type, source, destination]
    apply ordered_bind _ (transferStock_ordered data.productId data.quantity different fresh)
    intro affected updated after _
    trivial

theorem Statement.key?_of_keepsStock {statement : Statement} (keeps : statement.keepsStock = true) :
    statement.key? = none := by
  cases statement <;> first | rfl | cases keeps

theorem recordMovement_ordered (settings : Settings) (data : MovementCreate)
    (performedBy : Option UUID) :
    Ordered (fun _ _ => True) (recordMovement settings data performedBy) {} world := by
  apply ordered_call
  · intro pair named
    cases named
  · intro answer others before product after updated executed
    have kept : updated = {} := by
      simp only [respond, Outcome.done.injEq] at executed
      exact executed.2.2.symm
    cases product with
    | none => trivial
    | some product =>
        subst kept
        apply ordered_bind _ (applyMovement_ordered data rfl)
        intro affected updated after _
        apply ordered_of_only
        refine ⟨rfl, fun movement => ⟨rfl, fun _ => ?_⟩⟩
        exact ((announceMovement_keepsStock settings data affected).mono
          (fun _ => Statement.key?_of_keepsStock)).bind (fun _ => trivial)

theorem Request.ordered (settings : Settings) (request : Request) :
    Ordered (fun _ _ => True) (request.program settings) {} world := by
  by_cases moves : ∃ data performedBy, request = .movement data performedBy
  · obtain ⟨data, performedBy, rfl⟩ := moves
    apply ordered_bind _ (recordMovement_ordered settings data performedBy)
    intro movement updated after _
    trivial
  · apply ordered_of_only
    exact (request_concernsAlerts settings request (fun data performedBy same =>
      moves ⟨data, performedBy, same⟩)).mono (fun _ concerns =>
        Statement.key?_of_keepsStock (Statement.keepsStock_of_concernsAlerts concerns))

section Runs

variable {settings : Settings} {requests : List Request} {system : Application}

/-- Every request locks in order, and holds nothing once it has ended. -/
abbrev Application.Ordered (system : Application) : Prop :=
  System.Verified databaseDiscipline Guard.unrestricted (fun _ => LocksInOrder)
    (fun _ _ session => session.rows = []) system

theorem Application.start_ordered (settings : Settings) (valid : world.Valid)
    (requests : List Request) : (Application.start settings world requests).Ordered := by
  apply System.start_verified valid (Session.close_sound {} world) Session.fresh_compatible
  intro request _
  exact Program.verified_raises (Program.verified_mono (request.ordered settings)
    (fun _ _ _ _ => rfl)) (fun _ _ _ => rfl)

theorem Application.Ordered.holder_unfinished (ordered : system.Ordered) {waiting holder : Nat}
    (waits : system.WaitsFor waiting holder) : system.Unfinished holder := by
  obtain ⟨label, statement, next, session, other, _, _, listed, here⟩ := waits
  obtain ⟨pair, _, row, member, _⟩ := here.holds (ordered.sound _ _ listed)
  refine ⟨other, listed, ?_⟩
  have ended := ordered.threads _ _ listed
  obtain ⟨otherLabel, program, otherSession⟩ := other
  cases program with
  | call statement next => rfl
  | ret value => simp [show otherSession.rows = [] from ended] at member
  | raise error => simp [show otherSession.rows = [] from ended] at member

/-- The warehouse of the key a thread is about to lock or insert. -/
def Application.Awaits (system : Application) (index : Nat) (key : String) : Prop :=
  ∃ label statement next session pair,
    system.threads[index]? = some ⟨label, .call statement next, session⟩ ∧
      statement.key? = some pair ∧ pair.2.str = key

theorem Application.Ordered.acyclic (ordered : system.Ordered) (index : Nat) :
    ¬ Relation.TransGen system.WaitsFor index index := by
  have transitive : IsTrans String (· < ·) := ⟨fun _ _ _ => String.lt_trans⟩
  have irreflexive : Std.Irrefl (fun left right : String => left < right) := ⟨String.lt_irrefl⟩
  apply Interleaving.acyclic_of_ascending system.Awaits (· < ·)
  · intro waiting holder waits
    obtain ⟨label, statement, next, session, other, found, _, listed, here⟩ := waits
    obtain ⟨pair, named, _⟩ := here.holds (ordered.sound _ _ listed)
    exact ⟨_, label, statement, next, session, pair, found, named, rfl⟩
  · intro waiting holder key later waits awaited awaitedToo
    obtain ⟨label, statement, next, session, other, found, _, listed, here⟩ := waits
    obtain ⟨pair, named, row, member, same⟩ := here.holds (ordered.sound _ _ listed)
    obtain ⟨_, _, _, _, first, foundToo, namedToo, rfl⟩ := awaited
    obtain ⟨_, _, _, _, second, listedToo, namedLater, rfl⟩ := awaitedToo
    rw [found] at foundToo
    cases foundToo
    rw [listed] at listedToo
    cases listedToo
    rw [named] at namedToo
    cases namedToo
    have below := ordered.requires listed second namedLater row member
    rwa [← same]

/-- Some unfinished request can always make its next call. -/
theorem Application.Ordered.ready (ordered : system.Ordered)
    (unfinished : ∃ index, system.Unfinished index) :
    ∃ index, system.Unfinished index ∧
      ∀ answer, ∃ after, System.step environment system index answer = some after := by
  apply System.ready_of_acyclic ordered.acyclic
  · intro index label statement next session answer found waits
    obtain ⟨holder, here⟩ := (Application.waits_iff found).mp (execute_wait waits)
    exact ⟨holder, here, ordered.holder_unfinished here⟩
  · exact unfinished

end Runs

/-- Whatever movements, sweeps and resolutions run side by side, no set of them waits
for each other, so one that has not ended can go on. -/
theorem movements_deadlock_free (settings : Settings) (world : World) (valid : world.Valid)
    (requests : List Request) (system : Application)
    (reached : Reachable environment Guard.unrestricted
      (Application.start settings world requests) system) :
    (∀ index, ¬ Relation.TransGen system.WaitsFor index index) ∧
      ((∃ index, system.Unfinished index) → ∃ index, system.Unfinished index ∧
        ∀ answer, ∃ after, System.step environment system index answer = some after) := by
  have ordered : system.Ordered :=
    (Application.start_ordered settings valid requests).reachable reached
  exact ⟨ordered.acyclic, ordered.ready⟩

/-! One receipt has inserted the row of a pair, another is about to insert it too. -/

def Sample.bothInserting : List (Nat × Answer) :=
  (List.replicate 4 0 ++ List.replicate 3 1).map (·, {})

theorem movements_deadlock_free_inserting :
    ∃ system : Application,
      Sample.lowReceipts.schedule environment Sample.bothInserting = some system ∧
      (∀ index, ¬ Relation.TransGen system.WaitsFor index index) ∧
      ∃ index, system.Unfinished index ∧
        ∀ answer, ∃ after, System.step environment system index answer = some after := by
  have completes : (Sample.lowReceipts.schedule environment Sample.bothInserting).isSome = true := by
    decide +kernel
  have going : (Sample.lowReceipts.schedule environment Sample.bothInserting).any (fun system =>
      system.threads[1]?.any (fun thread => !thread.finished)) = true := by
    decide +kernel
  obtain ⟨system, ran⟩ := Option.isSome_iff_exists.mp completes
  have free := movements_deadlock_free {} Sample.world Sample.world_valid _ system
    (System.schedule_reachable .refl ran)
  refine ⟨system, ran, free.1, free.2 ⟨1, ?_⟩⟩
  rw [ran, Option.any_some] at going
  obtain ⟨thread, found, running⟩ := (Option.any_eq_true _ _).mp going
  exact ⟨thread, found, by simpa using running⟩

end InventoryManagement
