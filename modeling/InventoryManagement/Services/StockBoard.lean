import InventoryManagement.Alarms
import InventoryManagement.Services.Evaluation
import InventoryManagement.Services.Replay
import InventoryManagement.Services.Serializability
import InventoryManagement.Services.Thresholds
import InventoryManagement.Tasks.PageOrder

/-! The service, one request at a time, is a board of stock levels and alarms: movements
are its postings, a sweep is its survey, and a manual resolution silences an alarm. -/

set_option autoImplicit false

namespace InventoryManagement

open Alarms (Board Instruction called)
open Interleaving (Program)
open Postings (Admits Levels level post post_eq_some posted)

/-- The stored quantities and the types of the active alerts. -/
def Tables.board (tables : Tables) : Board Pair Int AlertType where
  levels := tables.levels
  alarms pair := (tables.activeAlerts pair).head?.map (·.alertType)

/-- The alarm for a stock level under configured thresholds. -/
def stockAlarm (settings : Settings) (thresholds : Pair → Option Int) (pair : Pair)
    (quantity : Int) : Option AlertType :=
  if quantity > (thresholds pair).getD settings.lowStockAlertThresholdDefault then none
  else some (if quantity = 0 then .OUT_OF_STOCK else .LOW_STOCK)

/-- What a request does to the board; a movement that names something unknown or whose
reason the database refuses, and a resolution of an unknown or resolved alert, do nothing. -/
def Request.instruction (tables : Tables) : Request → Option (Instruction Pair Int)
  | .movement data _ =>
      if (data.values none).refers tables ∧ data.reason.all Text.sendable then
        some (.post data.posting)
      else none
  | .sweep _ => some .survey
  | .resolveAlert alertId =>
      match tables.alert? alertId with
      | some alert => if alert.status = .RESOLVED then none else some (.silence alert.pair)
      | none => none

/-! One request alone is one instruction. -/

/-- A request that nobody disturbs: the database works, and a sweep has pages enough for
the rows and gets none of them on two pages. -/
structure Undisturbed (request : Request) (answers : Nat → Answer) (world : World) : Prop where
  healthy : ∀ n, (answers n).fails = false
  disjoint : ∀ fuel, request = .sweep fuel → ∃ orders, (∀ n, (answers n).order = orders) ∧
    PagesDisjoint orders world.tables
  enough : ∀ fuel, request = .sweep fuel →
    world.tables.inventories.length + batchSize ≤ fuel * batchSize

section Instructions

variable {settings : Settings} {answers : Nat → Answer} {world after : World}
variable {session : Session} {rows : List Inventory}

theorem called_stored (valid : world.Valid) {row : Inventory}
    (stored : row ∈ world.tables.inventories) :
    called (stockAlarm settings world.tables.thresholds) world.tables.levels row.pair =
      stockCondition settings row := by
  rw [called, (mem_levels valid).mpr ⟨row, stored, rfl, rfl⟩, Option.bind_some, stockAlarm,
    stored_threshold valid stored]
  rfl

theorem alarms_of_agrees {condition : Option AlertType} {alerts : List Alert}
    (agrees : Agrees condition alerts) : alerts.head?.map (·.alertType) = condition := by
  cases condition with
  | none => rw [show alerts = [] from agrees]; rfl
  | some alertType =>
      obtain ⟨used, same⟩ := agrees
      cases alerts with
      | nil => exact absurd rfl used
      | cons alert rest => exact congrArg some (same alert List.mem_cons_self)

/-- Rows whose alerts have been reconciled have been assessed. -/
theorem Reconciled.board (reconciled : Reconciled settings rows world after) (valid : world.Valid)
    (stored : ∀ row ∈ rows, row ∈ world.tables.inventories) (accounts : Pair → Prop)
    [DecidablePred accounts] (all : ∀ pair, accounts pair ↔ pair ∈ rows.map Inventory.pair) :
    after.tables.board = world.tables.board.assess
      (stockAlarm settings world.tables.thresholds) accounts := by
  apply Board.ext
  · exact levels_same reconciled.inventories
  · intro pair
    simp only [Board.assess]
    split
    · next named =>
        obtain ⟨row, member, rfl⟩ := List.mem_map.mp ((all pair).mp named)
        exact (alarms_of_agrees (reconciled.agrees row member).1).trans
          (called_stored valid (stored row member)).symm
    · next unnamed =>
        have same := reconciled.elsewhere pair (fun named => unnamed ((all pair).mpr named))
        simp only [Tables.board, same]

theorem sweep_board (valid : world.Valid) (atMostOne : AtMostOneActive world.tables) {fuel : Nat}
    (undisturbed : Undisturbed (.sweep fuel) answers world) :
    (runAlone answers world (Request.program settings (.sweep fuel))).shared.tables.board =
      world.tables.board.step (stockAlarm settings world.tables.thresholds) Integer.fits .survey := by
  obtain ⟨orders, ordered, disjoint⟩ := undisturbed.disjoint fuel rfl
  obtain ⟨rows, all, returns⟩ := sweep_disjoint settings valid undisturbed.healthy ordered disjoint
    (fun row _ => atMostOne row.pair) (undisturbed.enough fuel rfl)
  obtain ⟨summary, after, updated, later, ran, swept⟩ := returns 0
  have ended : (runAlone answers world (Request.program settings (.sweep fuel))).shared = after := by
    simp only [runAlone, Request.program, Program.bind_eq, Program.run_bind, ran]
    rfl
  rw [ended]
  apply swept.reconciled.board valid (fun row member => all.mem_iff.mp member)
  intro pair
  rw [(all.map Inventory.pair).mem_iff]
  change (world.tables.levels pair).isSome ↔ _
  rw [isSome_levels, Ne, Tables.inventoriesOf_eq_nil, not_not]

theorem activeAlerts_of_active (atMostOne : AtMostOneActive world.tables) {alert : Alert}
    (stored : alert ∈ world.tables.alerts) (active : alert.isActive = true) :
    world.tables.activeAlerts alert.pair = [alert] := by
  have member : alert ∈ world.tables.activeAlerts alert.pair :=
    List.mem_filter.mpr ⟨stored, by simp [active]⟩
  obtain ⟨only, one⟩ := List.length_eq_one_iff.mp
    (Nat.le_antisymm (atMostOne alert.pair) (List.length_pos_of_mem member))
  rw [one, List.mem_singleton] at member
  rw [one, member]

theorem resolve_commit (valid : world.Valid) (atMostOne : AtMostOneActive world.tables)
    {alert : Alert} (stored : alert ∈ world.tables.alerts) (active : alert.isActive = true)
    (now : Nat) (condition : Pair → Int → Option AlertType) :
    (world.tables.commit {} [(alert.id, .resolve now)]).board =
      world.tables.board.step condition Integer.fits (.silence alert.pair) := by
  have unlocked : Session.Unlocked {} := ⟨rfl, rfl, rfl⟩
  apply Board.ext
  · exact levels_same (unlocked.commit_stock world.tables _).1
  · intro pair
    have committed : ((world.tables.commit {} [(alert.id, .resolve now)]).activeAlerts pair) =
        ((world.tables.activeAlerts pair).map (applyChanges [(alert.id, .resolve now)])).filter
          Alert.isActive := by
      rw [Tables.activeAlerts_commit]
      simp
    simp only [Tables.board, committed, Board.step]
    by_cases same : pair = alert.pair
    · subst same
      rw [activeAlerts_of_active atMostOne stored active, Function.update_self]
      simp [applyChanges_single, AlertChange.apply, Alert.isActive]
    · have kept : (world.tables.activeAlerts pair).map (applyChanges [(alert.id, .resolve now)]) =
          world.tables.activeAlerts pair := by
        have untouched : ∀ other ∈ world.tables.activeAlerts pair,
            applyChanges [(alert.id, .resolve now)] other = other := by
          intro other among
          obtain ⟨listed, here⟩ := List.mem_filter.mp among
          apply applyChanges_other valid stored listed
          rintro rfl
          simp only [Bool.and_eq_true, decide_eq_true_eq] at here
          exact same here.1.symm
        exact (List.map_congr_left untouched).trans (List.map_id' _)
      have actives : (world.tables.activeAlerts pair).filter Alert.isActive =
          world.tables.activeAlerts pair := by
        apply List.filter_eq_self.mpr
        intro other among
        have here := (List.mem_filter.mp among).2
        simp only [Bool.and_eq_true] at here
        exact here.2
      rw [kept, actives, Function.update_of_ne same]

theorem alert?_active {alertId : RowId} {alert : Alert}
    (found : world.tables.alert? alertId = some alert) (open_ : alert.status ≠ .RESOLVED) :
    alert ∈ world.tables.alerts ∧ alert.id = alertId ∧ alert.isActive = true := by
  refine ⟨List.mem_of_find?_eq_some found, by simpa using List.find?_some found, ?_⟩
  rw [Alert.isActive, decide_eq_true_eq]
  cases status : alert.status with
  | ACTIVE => rfl
  | RESOLVED => exact absurd status open_

theorem resolveAlert_returns (healthy : ∀ n, (answers n).fails = false) (valid : world.Valid)
    {alertId : RowId} {alert : Alert} (found : world.tables.alert? alertId = some alert)
    (open_ : alert.status ≠ .RESOLVED) :
    (resolveAlert alertId).Returns environment answers world {} (fun _ after _ =>
      ∃ now, after.tables = world.tables.commit {} [(alert.id, .resolve now)]) := by
  obtain ⟨stored, _, _⟩ := alert?_active found open_
  refine returns_statement healthy (fun n => ⟨_, _, _, rfl, ?_⟩)
  rw [found]
  simp only [getByIdOrRaise, Program.ret_bind, if_neg open_]
  refine returns_statement healthy (fun n => ⟨_, _, _, rfl, ?_⟩)
  refine (commitSession_alone healthy rfl).bind ?_
  intro _ _ resolved ensured
  obtain ⟨rfl, _⟩ := ensured
  have unlocked : Session.Unlocked {} := ⟨rfl, rfl, rfl⟩
  have kept : AlertChange.apply (.resolve (answers n).now) alert ∈
      (world.tables.commit {} [(alert.id, .resolve (answers n).now)]).alerts :=
    mem_commit_alerts.mpr ⟨alert, .inl stored, (applyChanges_single _ _ _).trans (if_pos rfl)⟩
  refine (refreshAlert_alone healthy (valid.commit (Session.fresh_sound world)) kept rfl).mono ?_
  intro _ _ _ ensured
  obtain ⟨_, rfl, rfl⟩ := ensured
  exact ⟨_, rfl⟩

theorem resolveAlert_raises (healthy : ∀ n, (answers n).fails = false) {alertId : RowId}
    (refused : ∀ alert, world.tables.alert? alertId = some alert → alert.status = .RESOLVED) :
    (resolveAlert alertId).Raises environment answers world {} (fun _ after _ => world = after) := by
  refine raises_statement healthy (fun n => ⟨_, _, _, rfl, ?_⟩)
  cases found : world.tables.alert? alertId with
  | none => exact Program.raises_raise rfl
  | some alert =>
      simp only [getByIdOrRaise, Program.ret_bind, if_pos (refused alert found)]
      exact Program.raises_raise rfl

theorem resolve_board (valid : world.Valid) (atMostOne : AtMostOneActive world.tables)
    (healthy : ∀ n, (answers n).fails = false) (alertId : RowId)
    (condition : Pair → Int → Option AlertType) :
    (runAlone answers world (Request.program settings (.resolveAlert alertId))).shared.tables.board =
      ((Request.resolveAlert alertId).instruction world.tables).toList.foldl
        (Board.step condition Integer.fits) world.tables.board := by
  have wrapped : Request.program settings (.resolveAlert alertId) =
      (resolveAlert alertId).bind (fun alert => .ret (.alert alert)) := rfl
  rw [runAlone, wrapped, Program.run_bind]
  by_cases refused : ∀ alert, world.tables.alert? alertId = some alert → alert.status = .RESOLVED
  · obtain ⟨_, _, _, _, ran, rfl⟩ := resolveAlert_raises healthy refused 0
    rw [ran, Request.instruction]
    cases found : world.tables.alert? alertId with
    | none => rfl
    | some alert =>
        simp only [if_pos (refused alert found)]
        rfl
  · push Not at refused
    obtain ⟨alert, found, open_⟩ := refused
    obtain ⟨stored, _, active⟩ := alert?_active found open_
    obtain ⟨_, after, _, _, ran, now, committed⟩ := resolveAlert_returns healthy valid found open_ 0
    simp only [ran, Request.instruction, found, if_neg open_]
    exact (congrArg Tables.board committed).trans
      (resolve_commit valid atMostOne stored active now condition)

section Movement

variable {data : MovementCreate} {performedBy : Option UUID} {affected : List Inventory}
variable {movement : Movement} {request : Request} {updated : Session} {committed : World}

theorem evaluate_reconciles (healthy : ∀ n, (answers n).fails = false) (valid : world.Valid)
    {inventory : Inventory} (unambiguous : (world.tables.activeAlerts inventory.pair).length ≤ 1)
    {done : List Pair} (resting : Resting settings session done updated)
    (evaluates : request.Evaluates updated) (known : Known updated world inventory) :
    (evaluateStockLevel settings inventory).Returns environment answers world updated
      (fun _ after later => Reconciled settings [inventory] world after ∧
        Resting settings session (done ++ [inventory.pair]) later ∧
        later.objects = updated.objects ∧ request.Evaluates later ∧ after.Valid) := by
  intro elapsed
  obtain ⟨result, after, last, later, ran, evaluated, ⟨rested, objects, evaluatesToo, products,
    warehouses⟩, validAfter, _⟩ := evaluate_alone healthy valid unambiguous resting evaluates known
      elapsed
  have kept := keepsStock_run answers world
    ((evaluateStockLevel_concernsAlerts settings inventory).mono
      (fun _ => Statement.keepsStock_of_concernsAlerts)) resting.clean.toUnlocked elapsed
  rw [ran] at kept
  exact ⟨result, after, last, later, ran,
    evaluated.reconciled kept.inventories products warehouses, rested, objects, evaluatesToo,
    validAfter⟩

variable (settings) in
/-- The evaluations that follow a movement's commit reconcile the rows that it moved. -/
theorem evaluateAffected_reconciles (healthy : ∀ n, (answers n).fails = false) (valid : world.Valid)
    (atMostOne : AtMostOneActive world.tables) {done : List Pair}
    (resting : Resting settings session done updated) (evaluates : request.Evaluates updated)
    (known : ∀ inventory ∈ affected, Known updated world inventory)
    (stored : ∀ inventory ∈ affected, inventory ∈ world.tables.inventories) :
    (evaluateAffected settings affected).Returns environment answers world updated
      (fun _ after _ => Reconciled settings affected world after) := by
  induction affected generalizing world updated done with
  | nil => exact Program.returns_ret (Reconciled.nothing settings world)
  | cons inventory rest ih =>
      refine (evaluate_reconciles healthy valid (atMostOne _) resting evaluates
        (known inventory List.mem_cons_self)).bind ?_
      rintro _ after later ⟨first, rested, objects, evaluatesToo, validAfter⟩
      refine (ih validAfter (fun pair => first.unambiguous (atMostOne pair)) rested evaluatesToo
        ?_ ?_).mono ?_
      · intro other member
        exact (known other (List.mem_cons_of_mem _ member)).congr objects first.products
          first.warehouses
      · intro other member
        rw [first.inventories]
        exact stored other (List.mem_cons_of_mem _ member)
      · intro _ final _ second
        exact first.trans second valid stored

variable (settings) in
theorem announce_board (healthy : ∀ n, (answers n).fails = false)
    (atMostOne : AtMostOneActive world.tables)
    (done : MovementDone world data performedBy affected movement session committed)
    (elapsed : Nat) :
    (((announceMovement settings data affected).bind (fun _ => .ret movement)).run environment
      answers elapsed committed session).shared.tables.board =
        committed.tables.board.assess (stockAlarm settings committed.tables.thresholds)
          data.posting.Names := by
  obtain ⟨event, built, _⟩ := buildMovementEvent_announces affected done.values
  have evaluates : Request.Evaluates (.movement data performedBy) session := by
    change session.recorded ≠ []
    rw [done.posted.recorded]
    exact List.cons_ne_nil _ _
  have unique : AtMostOneActive committed.tables := by
    intro pair
    rw [Tables.activeAlerts, done.alerts]
    exact atMostOne pair
  have stored : ∀ row ∈ affected, row ∈ committed.tables.inventories := by
    intro row member
    exact (Tables.mem_inventoriesOf.mp ((done.stored row member).symm ▸ List.mem_cons_self)).1
  obtain ⟨_, evaluated, _, later, ran, reconciled⟩ := evaluateAffected_reconciles settings healthy
    done.valid unique (posted_resting done.posted) evaluates done.posted.known stored elapsed
  have ended : (((announceMovement settings data affected).bind (fun _ => .ret movement)).run
      environment answers elapsed committed session).shared =
        { evaluated with published := evaluated.published ++ [event] } := by
    simp only [announceMovement, Program.bind_eq, built, Program.ret_bind, Program.bind_assoc,
      Program.run_bind, ran]
    rfl
  rw [ended]
  apply reconciled.board done.valid stored
  intro pair
  rw [names_iff, done.posted.pairs]

/-- A refused posting is a movement that leaves no trace. -/
theorem untouched_refused (healthy : ∀ n, (answers n).fails = false) (valid : world.Valid)
    (nonnegative : ∀ pair, 0 ≤ world.tables.quantity pair)
    (refers : (data.values none).refers world.tables = true)
    (sendable : data.reason.all Text.sendable = true)
    (stopped : (∀ n, (answers n).fails = false) → ∀ prepared,
      ((prepareMovement data performedBy).run environment answers 0 world {}).outcome ≠
        some (.ok prepared)) :
    post Integer.fits world.tables.levels data.posting = none := by
  rw [Option.eq_none_iff_forall_ne_some]
  intro levels admitted
  obtain ⟨admits, rfl⟩ := post_eq_some.mp admitted
  have possible := possible_of_admits valid admits refers
  obtain ⟨prepared, _, _, _, ended, _⟩ := prepareMovement_alone healthy valid performedBy possible
    ⟨inRange_of_admits valid admits possible nonnegative, sendable⟩ 0
  exact stopped healthy prepared (by rw [ended])

variable (settings) in
/-- A movement that commits was possible, and the posting admits it. -/
theorem MovementDone.admits (healthy : ∀ n, (answers n).fails = false) (valid : world.Valid)
    (done : MovementDone world data performedBy affected movement session committed)
    (commits : (runAlone answers world
      (recordMovement settings data performedBy)).session.commits ≠ 0) :
    ((data.values none).refers world.tables = true ∧ data.reason.all Text.sendable = true) ∧
      Admits Integer.fits world.tables.levels data.posting := by
  have room : ∀ destination, data.destinationWarehouseId = some destination →
      Integer.fits (world.tables.quantity (data.productId, destination) + data.quantity) = true := by
    intro destination named
    have fits := done.valid.quantity_fits (data.productId, destination)
    rw [done.quantity, ← posting_change done.values, Postings.change_of_destination (by
      simp [MovementCreate.posting, named])] at fits
    exact fits
  have possible : data.Possible world.tables := by
    by_contra impossible
    exact commits
      (recordMovement_refused valid healthy settings data performedBy impossible room).2.1
  refine ⟨⟨possible.refers none, ?_⟩, ?_, ?_⟩
  · have stored : movement ∈ committed.tables.movements := by
      rw [done.movements]
      exact List.mem_append_right _ List.mem_cons_self
    have sent := done.valid.reasons_sendable movement stored
    rwa [done.values] at sent
  · intro pair source
    obtain ⟨id, named, rfl⟩ := Option.map_eq_some_iff.mp source
    obtain ⟨row, stored, here, enough⟩ := possible.stock id named
    exact ⟨row.quantity, (mem_levels valid).mpr ⟨row, stored, here, rfl⟩, enough⟩
  · intro pair destination
    obtain ⟨id, named, rfl⟩ := Option.map_eq_some_iff.mp destination
    rw [level_levels valid]
    exact room id named

theorem movement_board (valid : world.Valid) (atMostOne : AtMostOneActive world.tables)
    (nonnegative : ∀ pair, 0 ≤ world.tables.quantity pair)
    (healthy : ∀ n, (answers n).fails = false) (data : MovementCreate) (performedBy : Option UUID) :
    (runAlone answers world
        (Request.program settings (.movement data performedBy))).shared.tables.board =
      ((Request.movement data performedBy).instruction world.tables).toList.foldl
        (Board.step (stockAlarm settings world.tables.thresholds) Integer.fits)
        world.tables.board := by
  have thresholds := request_thresholds settings answers (.movement data performedBy) valid
  have same := (movement_alone settings answers world data performedBy).1
  rw [same] at thresholds ⊢
  rcases recordMovement_run valid settings answers data performedBy with
    ⟨untouched, _, stopped⟩ | ⟨affected, movement, session, committed, elapsed, done, ran⟩
  · rw [runAlone, untouched.tables, Request.instruction]
    split
    · next storable =>
        have refused := untouched_refused healthy valid nonnegative storable.1 storable.2 stopped
        simp only [Option.toList_some, List.foldl_cons, List.foldl_nil, Board.step]
        rw [show world.tables.board.levels = world.tables.levels from rfl, refused]
    · rfl
  · have kept := done.announced settings answers elapsed
    obtain ⟨storable, admits⟩ := done.admits settings healthy valid (by
      rw [runAlone, ran]
      have some_ := done.posted.commits
      have later := kept.commits
      omega)
    rw [runAlone, ran] at thresholds ⊢
    have configured : committed.tables.thresholds = world.tables.thresholds := by
      rw [← thresholds]
      exact (thresholds_same kept.inventories).symm
    have moved : committed.tables.board = { world.tables.board with
        levels := posted world.tables.levels data.posting } := by
      apply Board.ext
      · exact done.posts valid
      · intro pair
        simp only [Tables.board, Tables.activeAlerts, done.alerts]
    rw [announce_board settings healthy atMostOne done elapsed, configured, moved,
      Request.instruction, if_pos storable, Option.toList_some, List.foldl_cons, List.foldl_nil, Board.step,
      show world.tables.board.levels = world.tables.levels from rfl, post_eq_some.mpr ⟨admits, rfl⟩]

end Movement

end Instructions

/-! Requests one after another are instructions one after another. -/

/-- Requests that nobody disturbs, with what they do to the board. -/
inductive InTurn (settings : Settings) (start : World) : List (Instruction Pair Int) → World → Prop
  | start : InTurn settings start [] start
  | next {instructions : List (Instruction Pair Int)} {world : World}
      (inTurn : InTurn settings start instructions world) (request : Request)
      (answers : Nat → Answer) (undisturbed : Undisturbed request answers world) :
      InTurn settings start (instructions ++ (request.instruction world.tables).toList)
        (runAlone answers world (request.program settings)).shared

/-- What the requests keep, and that the board has gone the same way. -/
structure Boarded (settings : Settings) (start : World) (instructions : List (Instruction Pair Int))
    (world : World) : Prop where
  valid : world.Valid
  atMostOne : AtMostOneActive world.tables
  nonnegative : ∀ pair, 0 ≤ world.tables.quantity pair
  thresholds : world.tables.thresholds = start.tables.thresholds
  board : world.tables.board = instructions.foldl
    (Board.step (stockAlarm settings start.tables.thresholds) Integer.fits) start.tables.board

section Runs

variable {settings : Settings} {start world : World} {instructions : List (Instruction Pair Int)}

theorem step_nonnegative {condition : Pair → Int → Option AlertType}
    {board : Board Pair Int AlertType}
    (nonnegative : ∀ pair, 0 ≤ Postings.level board.levels pair)
    (instruction : Instruction Pair Int) (pair : Pair) :
    0 ≤ Postings.level (board.step condition Integer.fits instruction).levels pair := by
  cases instruction with
  | post posting =>
      rw [Board.step]
      split
      · exact nonnegative pair
      · next admitted =>
          obtain ⟨admits, rfl⟩ := post_eq_some.mp admitted
          exact Postings.nonneg_posted admits nonnegative pair
  | survey => exact nonnegative pair
  | silence account => exact nonnegative pair

variable (settings) in
theorem request_board {answers : Nat → Answer} (valid : world.Valid)
    (atMostOne : AtMostOneActive world.tables)
    (nonnegative : ∀ pair, 0 ≤ world.tables.quantity pair) (request : Request)
    (undisturbed : Undisturbed request answers world) :
    (runAlone answers world (request.program settings)).shared.tables.board =
      (request.instruction world.tables).toList.foldl
        (Board.step (stockAlarm settings world.tables.thresholds) Integer.fits)
        world.tables.board := by
  cases request with
  | movement data performedBy =>
      exact movement_board valid atMostOne nonnegative undisturbed.healthy data performedBy
  | sweep fuel => exact sweep_board valid atMostOne undisturbed
  | resolveAlert alertId => exact resolve_board valid atMostOne undisturbed.healthy alertId _

theorem Boarded.next {answers : Nat → Answer} (boarded : Boarded settings start instructions world)
    (request : Request) (undisturbed : Undisturbed request answers world) :
    Boarded settings start (instructions ++ (request.instruction world.tables).toList)
      (runAlone answers world (request.program settings)).shared := by
  obtain ⟨valid, atMostOne⟩ :=
    request_alone settings answers request boarded.valid boarded.atMostOne
  have moved := request_board settings boarded.valid boarded.atMostOne boarded.nonnegative request
    undisturbed
  refine ⟨valid, atMostOne, ?_, ?_, ?_⟩
  · intro pair
    rw [← level_levels valid]
    change 0 ≤ Postings.level (Tables.board _).levels pair
    rw [moved]
    have before : ∀ pair, 0 ≤ Postings.level world.tables.board.levels pair := by
      intro pair
      exact (level_levels boarded.valid pair).symm ▸ boarded.nonnegative pair
    cases request.instruction world.tables with
    | none => exact before pair
    | some instruction => exact step_nonnegative before instruction pair
  · exact (request_thresholds settings answers request boarded.valid).trans boarded.thresholds
  · rw [moved, boarded.thresholds, boarded.board, List.foldl_append]

theorem InTurn.boarded (valid : start.Valid) (atMostOne : AtMostOneActive start.tables)
    (nonnegative : ∀ pair, 0 ≤ start.tables.quantity pair)
    (inTurn : InTurn settings start instructions world) :
    Boarded settings start instructions world := by
  induction inTurn with
  | start => exact ⟨valid, atMostOne, nonnegative, rfl, rfl⟩
  | next inTurn request answers undisturbed ih => exact ih.next request undisturbed

theorem agrees_of_alarms {condition : Option AlertType} {alerts : List Alert}
    (unique : alerts.length ≤ 1) (same : alerts.head?.map (·.alertType) = condition) :
    Agrees condition alerts := by
  subst same
  match alerts, unique with
  | [], _ => rfl
  | [alert], _ => exact ⟨List.cons_ne_nil _ _, fun other among => List.mem_singleton.mp among ▸ rfl⟩

theorem right_agrees (valid : world.Valid) (atMostOne : AtMostOneActive world.tables)
    (right : world.tables.board.Right (stockAlarm settings world.tables.thresholds)) :
    AlertsAgree settings world.tables := by
  intro row stored
  have used : (world.tables.levels row.pair).isSome :=
    Option.isSome_iff_exists.mpr ⟨row.quantity, (mem_levels valid).mpr ⟨row, stored, rfl, rfl⟩⟩
  have alarm := (right row.pair used).trans (called_stored valid stored)
  exact agrees_iff.mp (agrees_of_alarms (atMostOne row.pair) alarm)

/-- Requests that are served one after another post, survey and silence on a board of
stock levels and alarms. -/
theorem service_refines_board (settings : Settings) (start : World) (valid : start.Valid)
    (atMostOne : AtMostOneActive start.tables)
    (nonnegative : ∀ pair, 0 ≤ start.tables.quantity pair)
    (instructions : List (Instruction Pair Int)) (world : World)
    (inTurn : InTurn settings start instructions world) :
    world.tables.board = instructions.foldl
      (Board.step (stockAlarm settings start.tables.thresholds) Integer.fits) start.tables.board :=
  (inTurn.boarded valid atMostOne nonnegative).board

/-- From a sweep on the alerts agree with the stock, whether they did before it or not,
until somebody resolves one of them by hand. No pair has two active alerts at the start. -/
theorem alerts_agree_since_sweep (settings : Settings) (start : World) (valid : start.Valid)
    (atMostOne : AtMostOneActive start.tables)
    (nonnegative : ∀ pair, 0 ≤ start.tables.quantity pair)
    (earlier later : List (Instruction Pair Int)) (world : World)
    (inTurn : InTurn settings start (earlier ++ .survey :: later) world)
    (unresolved : ∀ pair, .silence pair ∉ later) :
    AlertsAgree settings world.tables ∧ AtMostOneActive world.tables := by
  have boarded := inTurn.boarded valid atMostOne nonnegative
  refine ⟨right_agrees boarded.valid boarded.atMostOne ?_, boarded.atMostOne⟩
  rw [boarded.board, boarded.thresholds]
  exact Board.right_since_survey start.tables.board earlier later unresolved

end Runs

/-! A sweep of unreported stock, and a shipment of all of it. -/

def Sample.swept : World :=
  (runAlone (fun _ => {}) Sample.stocked (Request.program {} (.sweep 2))).shared

theorem Sample.five_positive : (0 : Int) < 5 := by decide

def Sample.ship5 : MovementCreate := Sample.ship Sample.main 5 Sample.five_positive

def Sample.shipped : World :=
  (runAlone (fun _ => {}) Sample.swept (Request.program {} (.movement Sample.ship5 none))).shared

theorem Sample.undisturbed (request : Request) {world : World} (valid : world.Valid)
    (enough : ∀ fuel, request = .sweep fuel →
      world.tables.inventories.length + batchSize ≤ fuel * batchSize) :
    Undisturbed request (fun _ => {}) world where
  healthy := fun _ => rfl
  disjoint := fun _ _ => ⟨fun _ => .stored, fun _ => rfl,
    Paging.disjoint_fixed valid.inventories_unique.of_map⟩
  enough := enough

theorem Sample.shipped_inTurn :
    InTurn {} Sample.stocked ([] ++ .survey :: [.post Sample.ship5.posting]) Sample.shipped := by
  have swept : InTurn {} Sample.stocked [.survey] Sample.swept :=
    .next .start (.sweep 2) (fun _ => {}) (Sample.undisturbed _ Sample.stocked_valid (by
      intro fuel same
      cases same
      decide))
  obtain ⟨products, warehouses⟩ :=
    references_run (fun _ => {}) (Request.program {} (.sweep 2)) Sample.stocked
  have refers : (Sample.ship5.values none).refers Sample.swept.tables = true :=
    (MovementValues.refers_congr products warehouses _).trans (by decide)
  have sweptValid := (request_alone {} (fun _ => {}) (.sweep 2) Sample.stocked_valid
    Sample.stocked_atMostOne).1
  have shipped := swept.next (.movement Sample.ship5 none) (fun _ => {})
    (Sample.undisturbed _ sweptValid (by intro fuel same; cases same))
  rw [Request.instruction, if_pos ⟨refers, rfl⟩] at shipped
  exact shipped

theorem Sample.stocked_nonnegative : ∀ pair, 0 ≤ Sample.stocked.tables.quantity pair :=
  Sample.stocked_valid.nonnegative_iff.mpr (by decide)

theorem service_refines_board_shipped :
    Sample.shipped.tables.board = [Instruction.survey, .post Sample.ship5.posting].foldl
      (Board.step (stockAlarm {} Sample.stocked.tables.thresholds) Integer.fits)
      Sample.stocked.tables.board :=
  service_refines_board {} Sample.stocked Sample.stocked_valid Sample.stocked_atMostOne
    Sample.stocked_nonnegative _ _ Sample.shipped_inTurn

theorem alerts_agree_since_sweep_shipped :
    AlertsAgree {} Sample.shipped.tables ∧ AtMostOneActive Sample.shipped.tables :=
  alerts_agree_since_sweep {} Sample.stocked Sample.stocked_valid Sample.stocked_atMostOne
    Sample.stocked_nonnegative [] [.post Sample.ship5.posting] _ Sample.shipped_inTurn (by simp)

end InventoryManagement
