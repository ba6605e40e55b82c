import InventoryManagement.Services.Replay
import InventoryManagement.Tasks.Reconciliation

/-! What evaluations announce: the detection events and the enqueues of every one of them,
over sequential runs. -/

set_option autoImplicit false

namespace InventoryManagement

open Interleaving (Moment Program)

/-- One evaluation as an observer sees it: the stock and the active alerts it starts from,
what it writes, and what it announces. -/
structure Evaluation where
  pair : Pair
  stored : List Inventory
  found : List Alert
  created : List Alert := []
  changes : List (RowId × AlertChange) := []
  detections : List InventoryEvent := []
  enqueues : List RowId := []

/-- The evaluations of a request, and how often it announced something outside of one. -/
structure Watch where
  past : List Evaluation := []
  current : Option Evaluation := none
  unprompted : Nat := 0

def Watch.evaluations (watch : Watch) : List Evaluation := watch.past ++ watch.current.toList

def Watch.announce (watch : Watch) (record : Evaluation → Evaluation) : Watch :=
  match watch.current with
  | some evaluation => { watch with current := some (record evaluation) }
  | none => { watch with unprompted := watch.unprompted + 1 }

/-- An evaluation begins with its lookup, and owns the commits, the detection events and
the enqueues that follow. -/
def watchReactions (watch : Watch) (moment : Moment Statement Answer World Session) : Watch :=
  match moment.statement with
  | .selectActiveAlerts productId warehouseId =>
      { watch with
        past := watch.evaluations
        current := some {
          pair := (productId, warehouseId)
          stored := moment.shared.tables.inventoriesOf (productId, warehouseId)
          found := moment.shared.tables.activeAlerts (productId, warehouseId) } }
  | .commit dirty =>
      { watch with current := watch.current.map (fun evaluation => { evaluation with
          created := evaluation.created ++ moment.session.alerts
          changes := evaluation.changes ++ dirty }) }
  | .dispatch event =>
      if event.isMovement then watch
      else watch.announce (fun evaluation =>
        { evaluation with detections := evaluation.detections ++ [event] })
  | .delay alertId =>
      watch.announce (fun evaluation =>
        { evaluation with enqueues := evaluation.enqueues ++ [alertId] })
  | _ => watch

/-- The alert type and the pair that a detection event is about. -/
def InventoryEvent.detected? : InventoryEvent → Option (AlertType × Pair)
  | .lowStockDetected productId warehouseId _ _ => some (.LOW_STOCK, (productId, warehouseId))
  | .outOfStockDetected productId warehouseId => some (.OUT_OF_STOCK, (productId, warehouseId))
  | .stockReceived .. | .stockRemoved .. | .stockTransferred .. => none

namespace Evaluation

/-- A change that turns a `LOW_STOCK` alert into `OUT_OF_STOCK`. -/
def escalation? (evaluation : Evaluation) : RowId × AlertChange → Option (RowId × AlertType)
  | (id, .retype .OUT_OF_STOCK _) =>
      if evaluation.found.any (fun alert => alert.id = id ∧ alert.alertType = .LOW_STOCK) then
        some (id, .OUT_OF_STOCK)
      else none
  | (_, .retype .LOW_STOCK _) | (_, .resolve _) => none

/-- The alerts created and escalated, with their new types. -/
def reactions (evaluation : Evaluation) : List (RowId × AlertType) :=
  evaluation.created.map (fun alert => (alert.id, alert.alertType)) ++
    evaluation.changes.filterMap evaluation.escalation?

/-- One detection event and one enqueue for the alert that was created or escalated, and
none if there was none. -/
structure Exact (evaluation : Evaluation) : Prop where
  once : evaluation.reactions.length ≤ 1
  detections : evaluation.detections.map InventoryEvent.detected? =
    evaluation.reactions.map (fun reaction => some (reaction.2, evaluation.pair))
  enqueues : evaluation.enqueues = evaluation.reactions.map Prod.fst

/-- The alert says that the stock has run out, and the stock is low but not gone. -/
def PartialRecovery (settings : Settings) (evaluation : Evaluation) : Prop :=
  (∃ alert ∈ evaluation.found, alert.alertType = .OUT_OF_STOCK) ∧
    ∃ row ∈ evaluation.stored, row.quantity ≠ 0 ∧ row.quantity ≤ effectiveThreshold settings row

end Evaluation

variable {settings : Settings} {answers : Nat → Answer}
variable {world before middle after : World} {session updated : Session}
variable {row inventory : Inventory} {result : Option Alert} {watch later : Watch}

section Evaluations

/-- What an observer sees of an evaluation that ends with `result`. -/
inductive Recorded (settings : Settings) (inventory : Inventory) (stored : List Inventory) :
    Option Alert → Evaluation → Prop where
  | rest (condition : stockCondition settings inventory = none) :
      Recorded settings inventory stored none { pair := inventory.pair, stored, found := [] }
  | keep {alert : Alert} (condition : stockCondition settings inventory = some alert.alertType) :
      Recorded settings inventory stored (some alert)
        { pair := inventory.pair, stored, found := [alert] }
  | resolve {alert : Alert} {now : Nat} (condition : stockCondition settings inventory = none) :
      Recorded settings inventory stored none
        { pair := inventory.pair, stored, found := [alert], changes := [(alert.id, .resolve now)] }
  | retype {alert refreshed : Alert} {alertType : AlertType}
      (condition : stockCondition settings inventory = some alertType)
      (different : alert.alertType ≠ alertType) (same : refreshed.id = alert.id) :
      Recorded settings inventory stored (some refreshed)
        { pair := inventory.pair, stored, found := [alert]
          changes := [(alert.id, .retype alertType inventory.quantity)]
          detections := [alertEvent refreshed]
          enqueues := [refreshed.id] }
  | raise {alert : Alert} (condition : stockCondition settings inventory = some alert.alertType) :
      Recorded settings inventory stored (some alert)
        { pair := inventory.pair, stored, found := [], created := [alert]
          detections := [alertEvent alert]
          enqueues := [alert.id] }

theorem alertEvent_detected (alert : Alert) :
    (alertEvent alert).detected? = some (alert.alertType, alert.pair) := by
  cases type : alert.alertType <;> simp [alertEvent, type, InventoryEvent.detected?] <;> rfl

/-- What the result of an evaluation is about. -/
theorem Evaluated.of_some {alert : Alert}
    (evaluated : Evaluated settings inventory before session (some alert) after updated) :
    alert.pair = inventory.pair ∧ stockCondition settings inventory = some alert.alertType := by
  have member : alert ∈ after.tables.activeAlerts inventory.pair := by
    rw [evaluated.active]
    exact List.mem_singleton_self _
  have agrees := evaluated.agrees
  refine ⟨(mem_activeAlerts.mp member).2.1, ?_⟩
  cases condition : stockCondition settings inventory with
  | none =>
      rw [condition] at agrees
      cases agrees
  | some alertType =>
      rw [condition] at agrees
      rw [agrees.2 alert (by simp)]

theorem stockCondition_low {alertType : AlertType}
    (condition : stockCondition settings inventory = some alertType) :
    alertType = .LOW_STOCK ↔
      inventory.quantity ≠ 0 ∧ inventory.quantity ≤ effectiveThreshold settings inventory := by
  obtain ⟨low, rfl⟩ := stockCondition_some condition
  by_cases empty : inventory.quantity = 0 <;> simp [empty, low]

/-- An evaluation announces what it should, unless the stock has partly recovered. -/
theorem Recorded.exact_iff {evaluation : Evaluation}
    (recorded : Recorded settings inventory [inventory] result evaluation)
    (evaluated : Evaluated settings inventory before session result after updated) :
    evaluation.Exact ↔ ¬ evaluation.PartialRecovery settings := by
  have quiet : ∀ {found : List Alert} {changes : List (RowId × AlertChange)},
      changes.filterMap (Evaluation.escalation?
        { pair := inventory.pair, stored := [inventory], found, changes }) = [] →
      Evaluation.Exact { pair := inventory.pair, stored := [inventory], found, changes } := by
    intro found changes none
    constructor <;> simp [Evaluation.reactions, none]
  cases recorded with
  | rest condition =>
      refine iff_of_true (quiet rfl) ?_
      simp [Evaluation.PartialRecovery]
  | @keep alert condition =>
      refine iff_of_true (quiet rfl) ?_
      intro recovery
      obtain ⟨⟨other, found, out⟩, row, stored, partly⟩ := recovery
      rw [List.mem_singleton.mp stored, ← stockCondition_low condition] at partly
      rw [List.mem_singleton.mp found, partly] at out
      cases out
  | resolve condition =>
      refine iff_of_true (quiet rfl) ?_
      intro recovery
      obtain ⟨_, row, stored, _, low⟩ := recovery
      rw [List.mem_singleton.mp stored] at low
      rw [stockCondition, if_neg (by omega)] at condition
      cases condition
  | @retype alert refreshed alertType condition different same =>
      obtain ⟨pair, type⟩ := evaluated.of_some
      rw [condition, Option.some.injEq] at type
      cases alertType with
      | OUT_OF_STOCK =>
          have low : alert.alertType = .LOW_STOCK := by
            cases found : alert.alertType with
            | LOW_STOCK => rfl
            | OUT_OF_STOCK => exact absurd found different
          refine iff_of_true ?_ ?_
          · constructor <;> simp [Evaluation.reactions, Evaluation.escalation?, low,
              alertEvent_detected, ← type, pair, same]
          · intro recovery
            obtain ⟨⟨other, found, out⟩, _⟩ := recovery
            rw [List.mem_singleton.mp found, low] at out
            cases out
      | LOW_STOCK =>
          have out : alert.alertType = .OUT_OF_STOCK := by
            cases found : alert.alertType with
            | LOW_STOCK => exact absurd found different
            | OUT_OF_STOCK => rfl
          refine iff_of_false ?_ ?_
          · intro announced
            have unprompted : [refreshed.id] = [] := announced.enqueues
            cases unprompted
          · exact not_not.mpr ⟨⟨alert, List.mem_singleton_self _, out⟩, inventory,
              List.mem_singleton_self _, (stockCondition_low condition).mp rfl⟩
  | @raise alert condition =>
      obtain ⟨pair, _⟩ := evaluated.of_some
      refine iff_of_true ?_ ?_
      · constructor <;> simp [Evaluation.reactions, alertEvent_detected, pair]
      · intro recovery
        obtain ⟨⟨other, found, _⟩, _⟩ := recovery
        cases found

/-- The watch of an evaluation that is under way. -/
def Watch.during (watch : Watch) (evaluation : Evaluation) : Watch :=
  { watch with past := watch.evaluations, current := some evaluation }

@[simp] theorem Watch.during_commit {answer : Answer} {evaluation : Evaluation}
    {dirty : List (RowId × AlertChange)} :
    watchReactions (watch.during evaluation) ⟨answer, world, session, .commit dirty⟩ =
      watch.during { evaluation with
        created := evaluation.created ++ session.alerts
        changes := evaluation.changes ++ dirty } := rfl

theorem reactToAlert_recorded (alert : Alert) (evaluation : Evaluation) :
    (reactToAlert alert).Leaves watchReactions environment answers world session
      (watch.during evaluation) (fun _ _ _ later => later = watch.during { evaluation with
        detections := evaluation.detections ++ [alertEvent alert]
        enqueues := evaluation.enqueues ++ [alert.id] }) := by
  apply leaves_statement
  intro _ _ handed waiting _
  apply leaves_statement
  intro gathers _ middle between _
  apply leaves_statement
  intro n response after updated _
  have seen : watchReactions (watchReactions (watchReactions (watch.during evaluation)
        ⟨answers n, world, session, .dispatch (alertEvent alert)⟩)
        ⟨answers gathers, handed, waiting, .gather⟩)
        ⟨answers n, middle, between, .delay alert.id⟩ = watch.during { evaluation with
          detections := evaluation.detections ++ [alertEvent alert]
          enqueues := evaluation.enqueues ++ [alert.id] } := by
    simp [watchReactions, alertEvent_isMovement, Watch.announce, Watch.during]
  cases response <;> exact Program.leaves_ret seen

theorem announced_recorded {seen : Watch} {evaluation : Evaluation} (alert : Alert)
    (opened : seen = watch.during evaluation) :
    ((reactToAlert alert).bind (fun _ => .ret (some alert))).Leaves watchReactions environment
      answers world session seen (fun result _ _ later =>
        result = some alert ∧ later = watch.during { evaluation with
          detections := evaluation.detections ++ [alertEvent alert]
          enqueues := evaluation.enqueues ++ [alert.id] }) := by
  rw [opened]
  exact (reactToAlert_recorded alert evaluation).bind
    (fun _ _ _ _ announced => Program.leaves_ret ⟨rfl, announced⟩)

theorem resolve_recorded (clean : session.Clean) (alert : Alert) (evaluation : Evaluation) :
    (resolve alert).Leaves watchReactions environment answers world session
      (watch.during evaluation) (fun _ _ _ later => ∃ now, later = watch.during { evaluation with
        changes := evaluation.changes ++ [(alert.id, .resolve now)] }) := by
  apply leaves_statement
  intro n now _ _ clocked
  cases clocked
  apply leaves_statement
  intro m _ _ _ _
  apply leaves_statement
  intro _ _ _ _ _
  apply Program.leaves_ret
  have seen : watchReactions (watch.during evaluation)
      ⟨answers m, world, session, .commit [(alert.id, .resolve (answers n).now)]⟩ =
        watch.during { evaluation with
          changes := evaluation.changes ++ [(alert.id, .resolve (answers n).now)] } := by
    rw [Watch.during_commit, clean.alerts, List.append_nil]
  exact ⟨(answers n).now, seen⟩

theorem retype_recorded (clean : session.Clean) (alert : Alert) (alertType : AlertType)
    (quantity : Int) (evaluation : Evaluation) :
    (retypeAlert alert alertType quantity).Leaves watchReactions environment answers world session
      (watch.during evaluation) (fun result _ _ later => ∃ refreshed : Alert,
        refreshed.id = alert.id ∧ result = some refreshed ∧ later = watch.during { evaluation with
          changes := evaluation.changes ++ [(alert.id, .retype alertType quantity)]
          detections := evaluation.detections ++ [alertEvent refreshed]
          enqueues := evaluation.enqueues ++ [refreshed.id] }) := by
  apply leaves_statement
  intro n _ _ _ _
  apply leaves_statement
  intro _ refreshed after _ reread
  have same : refreshed.id = alert.id := by
    simp only [respond, refreshAlert] at reread
    split at reread
    · cases reread
    · next found =>
        cases reread
        simpa using List.find?_some found
  have seen : watchReactions (watch.during evaluation)
      ⟨answers n, world, session, .commit [(alert.id, .retype alertType quantity)]⟩ =
        watch.during { evaluation with
          changes := evaluation.changes ++ [(alert.id, .retype alertType quantity)] } := by
    rw [Watch.during_commit, clean.alerts, List.append_nil]
  exact (announced_recorded refreshed seen).mono
    (fun _ _ _ _ announced => ⟨refreshed, same, announced⟩)

theorem raise_recorded (clean : session.Clean) (values : AlertValues) (evaluation : Evaluation) :
    (raiseAlert values).Leaves watchReactions environment answers world session
      (watch.during evaluation) (fun result _ _ later => ∃ alert : Alert,
        alert.toAlertValues = values ∧ result = some alert ∧ later = watch.during { evaluation with
          created := evaluation.created ++ [alert]
          detections := evaluation.detections ++ [alertEvent alert]
          enqueues := evaluation.enqueues ++ [alert.id] }) := by
  apply leaves_statement
  intro _ alert middle between inserted
  have flushed : between.alerts = [alert] ∧ alert.toAlertValues = values := by
    simp only [respond, insertAlert] at inserted
    (repeat' split at inserted) <;> cases inserted
    rw [clean.alerts]
    exact ⟨rfl, rfl⟩
  apply leaves_statement
  intro n _ _ _ _
  have seen : watchReactions (watch.during evaluation) ⟨answers n, middle, between, .commit []⟩ =
      watch.during { evaluation with created := evaluation.created ++ [alert] } := by
    rw [Watch.during_commit, flushed.1, List.append_nil]
  exact (announced_recorded alert seen).mono
    (fun _ _ _ _ announced => ⟨alert, flushed.2, announced⟩)

theorem evaluateStockLevel_recorded (clean : session.Clean)
    (unambiguous : (world.tables.activeAlerts inventory.pair).length ≤ 1) :
    (evaluateStockLevel settings inventory).Leaves watchReactions environment answers world session
      watch (fun result _ _ later => ∃ evaluation, later = watch.during evaluation ∧
        Recorded settings inventory (world.tables.inventoriesOf inventory.pair) result evaluation) := by
  obtain ⟨next, evaluates, reconciles⟩ := evaluateStockLevel_cases settings inventory
  rw [evaluates]
  apply leaves_statement
  intro n response after looking looked
  have still : looking.Clean := by
    cases looked
    exact ⟨⟨clean.rows, clean.inserted, clean.movements⟩, clean.alerts⟩
  have known : response = world.tables.activeAlerts inventory.pair := by
    cases looked
    rfl
  obtain ⟨existing, looksUp, found⟩ := scalarOneOrNone_unique unambiguous
  rw [← known] at looksUp
  have opened : watchReactions watch
      ⟨answers n, world, session, .selectActiveAlerts inventory.productId inventory.warehouseId⟩ =
        watch.during {
          pair := inventory.pair
          stored := world.tables.inventoriesOf inventory.pair
          found := existing.toList } := by
    rw [← found]
    rfl
  change Program.Leaves _ _ _ ((scalarOneOrNone response).bind next) _ _ _ _
  rw [looksUp, Program.ret_bind, opened]
  have branch := reconciles existing
  generalize next existing = program at branch ⊢
  cases branch with
  | rest condition => exact Program.leaves_ret ⟨_, rfl, .rest condition⟩
  | keep condition => exact Program.leaves_ret ⟨_, rfl, .keep condition⟩
  | @resolve alert condition =>
      refine (resolve_recorded still alert _).bind ?_
      intro _ _ _ later resolved
      obtain ⟨now, rfl⟩ := resolved
      exact Program.leaves_ret ⟨_, rfl, .resolve condition⟩
  | @retype alert alertType condition different =>
      refine (retype_recorded still alert alertType _ _).mono ?_
      intro result _ _ later retyped
      obtain ⟨refreshed, same, rfl, rfl⟩ := retyped
      exact ⟨_, rfl, .retype condition different same⟩
  | @raise alertType condition =>
      refine (raise_recorded still _ _).mono ?_
      intro result _ _ later raised
      obtain ⟨alert, values, rfl, rfl⟩ := raised
      refine ⟨_, rfl, .raise (condition.trans ?_)⟩
      rw [values]

theorem Recorded.stored_eq {stored : List Inventory} {evaluation : Evaluation}
    (recorded : Recorded settings inventory stored result evaluation) :
    evaluation.stored = stored := by cases recorded <;> rfl

end Evaluations

section Requests

variable {rows more affected : List Inventory} {seen sofar : Watch}

/-- What an observer sees of a part of a request that evaluates some rows. -/
structure Accounted (settings : Settings) (rows : List Inventory) (before : World) (seen : Watch)
    (after : World) (later : Watch) : Prop where
  inventories : after.tables.inventories = before.tables.inventories
  unprompted : later.unprompted = seen.unprompted
  evaluations : ∃ added, later.evaluations = seen.evaluations ++ added ∧
    ∀ evaluation ∈ added, ∃ row ∈ rows,
      evaluation.stored = before.tables.inventoriesOf row.pair ∧
        (evaluation.stored = [row] →
          (evaluation.Exact ↔ ¬ evaluation.PartialRecovery settings))

theorem Accounted.trans (first : Accounted settings rows before seen middle sofar)
    (second : Accounted settings more middle sofar after later) :
    Accounted settings (rows ++ more) before seen after later where
  inventories := second.inventories.trans first.inventories
  unprompted := second.unprompted.trans first.unprompted
  evaluations := by
    obtain ⟨added, early, holds⟩ := first.evaluations
    obtain ⟨others, late, holdsToo⟩ := second.evaluations
    refine ⟨added ++ others, by rw [late, early, List.append_assoc], ?_⟩
    intro evaluation member
    rcases List.mem_append.mp member with old | new
    · obtain ⟨row, listed, facts⟩ := holds evaluation old
      exact ⟨row, List.mem_append_left _ listed, facts⟩
    · obtain ⟨row, listed, stored, facts⟩ := holdsToo evaluation new
      refine ⟨row, List.mem_append_right _ listed, ?_, facts⟩
      rw [stored, Tables.inventoriesOf, first.inventories, Tables.inventoriesOf]

theorem tracks_accounted (settings : Settings) (answers : Nat → Answer) :
    Tracks watchReactions (Accounted settings) settings answers where
  nothing := fun _ _ => ⟨rfl, rfl, [], (List.append_nil _).symm, by simp⟩
  page := fun _ _ _ _ _ _ => rfl
  evaluation := by
    intro world session row seen _ clean unambiguous elapsed result after updated steps ran
      evaluated _
    obtain ⟨evaluation, rest, recorded⟩ :=
      evaluateStockLevel_recorded clean unambiguous elapsed _ _ _ _ ran
    have kept := keepsStock_run answers world ((evaluateStockLevel_concernsAlerts settings row).mono
      (fun _ => Statement.keepsStock_of_concernsAlerts)) clean.toUnlocked elapsed
    rw [ran] at kept
    rw [rest]
    refine ⟨kept.inventories, rfl, [evaluation], rfl, ?_⟩
    intro other member
    rw [List.mem_singleton.mp member]
    refine ⟨row, List.mem_singleton_self _, recorded.stored_eq, fun one => ?_⟩
    rw [recorded.stored_eq] at one
    exact Recorded.exact_iff (one ▸ recorded) evaluated
  trans := fun _ _ _ _ _ _ _ _ first second => first.trans second

/-- What an observer sees of a whole request. -/
structure Watch.Faithful (settings : Settings) (watch : Watch) : Prop where
  unprompted : watch.unprompted = 0
  evaluations : ∀ evaluation ∈ watch.evaluations,
    (evaluation.Exact ↔ ¬ evaluation.PartialRecovery settings)

theorem Watch.faithful_start (settings : Settings) : Watch.Faithful settings {} :=
  ⟨rfl, fun _ member => (by cases member)⟩

theorem Accounted.faithful (accounted : Accounted settings rows before {} after later)
    (stored : ∀ row ∈ rows, before.tables.inventoriesOf row.pair = [row]) :
    later.Faithful settings := by
  obtain ⟨added, same, holds⟩ := accounted.evaluations
  refine ⟨accounted.unprompted, fun evaluation member => ?_⟩
  rw [same] at member
  obtain ⟨row, listed, found, facts⟩ := holds evaluation member
  exact facts (found.trans (stored row listed))

variable (healthy : ∀ n, (answers n).fails = false)
include healthy

theorem evaluateAffected_accounted (valid : world.Valid) (atMostOne : AtMostOneActive world.tables)
    {request : Request} {start : Session} {done : List Pair}
    (resting : Resting settings start done session) (evaluates : request.Evaluates session)
    (known : ∀ inventory ∈ affected, Known session world inventory) :
    (evaluateAffected settings affected).Yields watchReactions environment answers world session
      seen (fun _ after _ later => Accounted settings affected world seen after later) := by
  induction affected generalizing world session done seen with
  | nil => exact Program.yields_ret ((tracks_accounted settings answers).nothing world seen)
  | cons inventory rest ih =>
      refine ((evaluate_alone healthy valid (atMostOne _) resting evaluates
        (known inventory (by simp))).yields ((tracks_accounted settings answers).evaluation world
          session inventory seen valid resting.clean (atMostOne _))).bind ?_
      intro result after updated sofar ended
      obtain ⟨⟨evaluated, ⟨restingLater, objects, evaluatesLater, products, warehouses⟩,
        validAfter, _⟩, observed⟩ := ended
      refine (ih validAfter (evaluated.atMostOne atMostOne) restingLater evaluatesLater
        (fun other member => (known other (List.mem_cons_of_mem _ member)).congr objects products
          warehouses)).mono ?_
      intro _ final _ later accounted
      exact (observed evaluated validAfter).trans accounted

/-- What follows the commit of a movement. -/
theorem announceMovement_faithful (atMostOne : AtMostOneActive before.tables)
    {data : MovementCreate} {performedBy : Option UUID} {movement : Movement}
    (done : MovementDone before data performedBy affected movement session world) :
    ((announceMovement settings data affected).bind (fun _ => .ret movement)).Yields watchReactions
      environment answers world session {} (fun _ _ _ later => later.Faithful settings) := by
  obtain ⟨event, built, announces⟩ := buildMovementEvent_announces affected done.values
  have evaluates : Request.Evaluates (.movement data performedBy) session := by
    change session.recorded ≠ []
    rw [done.posted.recorded]
    exact List.cons_ne_nil _ _
  have unique : AtMostOneActive world.tables := by
    intro pair
    rw [Tables.activeAlerts, done.alerts]
    exact atMostOne pair
  have parts : (announceMovement settings data affected).bind (fun _ => .ret movement) =
      (evaluateAffected settings affected).bind
        (fun _ => (publish event).bind (fun _ => .ret movement)) := by
    simp only [announceMovement, Program.bind_eq, built, Program.ret_bind, Program.bind_assoc]
  rw [parts]
  refine (evaluateAffected_accounted healthy done.valid unique (posted_resting done.posted)
    evaluates done.posted.known).bind ?_
  intro _ after updated later accounted
  refine Program.yields_call (fun n => ⟨_, _, _,
    execute_healthy (healthy n) (.dispatch event) [] after updated, ?_⟩)
  have ignored : watchReactions later ⟨answers n, after, updated, .dispatch event⟩ = later :=
    if_pos announces.isMovement
  refine Program.yields_call (fun n => ⟨_, _, _, execute_healthy (healthy n) .gather [] _ updated, ?_⟩)
  refine Program.yields_ret ?_
  rw [ignored]
  exact accounted.faithful done.stored

end Requests

section Recording

variable {data : MovementCreate} {performedBy : Option UUID}

theorem Early.unnoticed {moment : Moment Statement Answer World Session}
    (early : Early world moment) : watchReactions {} moment = {} := by
  obtain ⟨answer, shared, session, statement⟩ := moment
  rcases early.statement with prepares | committing
  · cases statement <;> first | rfl | cases prepares
  · cases committing
    rfl

/-- Before its commit, a movement evaluates and announces nothing. -/
theorem recordMovement_observed (valid : world.Valid) (settings : Settings)
    (answers : Nat → Answer) (data : MovementCreate) (performedBy : Option UUID) :
    (recordMovement settings data performedBy).observed watchReactions environment answers 0 world
        {} {} = {} ∨
      ∃ affected movement session committed elapsed,
        MovementDone world data performedBy affected movement session committed ∧
        (recordMovement settings data performedBy).run environment answers 0 world {} =
          ((announceMovement settings data affected).bind (fun _ => .ret movement)).run environment
            answers elapsed committed session ∧
        (recordMovement settings data performedBy).observed watchReactions environment answers 0
            world {} {} =
          ((announceMovement settings data affected).bind (fun _ => .ret movement)).observed
            watchReactions environment answers elapsed committed session {} := by
  obtain ⟨early, quiet, traced⟩ := recordMovement_trace valid settings answers data performedBy
  have unnoticed : early.foldl watchReactions {} = {} := by
    clear traced
    induction early with
    | nil => rfl
    | cons moment rest ih =>
        obtain ⟨here, later⟩ := List.forall_mem_cons.mp quiet
        rw [List.foldl_cons, here.unnoticed, ih later]
  rcases traced with ⟨ended, _⟩ | ⟨affected, movement, session, committed, elapsed, done, ran, ended⟩
  · left
    rw [Program.observed, ended, unnoticed]
  · refine .inr ⟨affected, movement, session, committed, elapsed, done, ran, ?_⟩
    rw [Program.observed, ended, List.foldl_append, unnoticed]
    rfl

end Recording

/-- A request that is not cut short by the database: a movement either commits and
is served to its end or commits nothing, and a sweep reaches the end of its pages. -/
def Request.Whole (settings : Settings) (answers : Nat → Answer) (world : World) : Request → Prop
  | .movement data performedBy => (∀ n, (answers n).fails = false) ∨
      (runAlone answers world (recordMovement settings data performedBy)).session.commits = 0
  | .sweep fuel => (∀ n, (answers n).fails = false) ∧ (∃ orders, ∀ n, (answers n).order = orders) ∧
      world.tables.inventories.length + batchSize ≤ fuel * batchSize
  | .resolveAlert _ => True

/-- What an observer sees of a request that is served alone. -/
def Request.watched (settings : Settings) (answers : Nat → Answer) (world : World)
    (request : Request) : Watch :=
  (request.program settings).observed watchReactions environment answers 0 world {} {}

section Served

theorem movement_faithful (valid : world.Valid) (atMostOne : AtMostOneActive world.tables)
    (data : MovementCreate) (performedBy : Option UUID)
    (whole : Request.Whole settings answers world (.movement data performedBy)) :
    (Request.watched settings answers world (.movement data performedBy)).Faithful settings := by
  have wrapped : Request.watched settings answers world (.movement data performedBy) =
      (recordMovement settings data performedBy).observed watchReactions environment answers 0
        world {} {} :=
    congrArg (List.foldl watchReactions {}) (Program.trace_bind_ret _ Reply.movement)
  rw [wrapped]
  rcases recordMovement_observed valid settings answers data performedBy with
    nothing | ⟨affected, movement, session, committed, elapsed, done, ran, seen⟩
  · rw [nothing]
    exact Watch.faithful_start settings
  · rcases whole with healthy | uncommitted
    · rw [seen]
      obtain ⟨_, _, _, _, _, faithful⟩ := announceMovement_faithful healthy atMostOne done elapsed
      exact faithful
    · have grown := (done.announced settings answers elapsed).commits
      have made := done.posted.commits
      rw [runAlone, ran] at uncommitted
      omega

theorem sweep_faithful (valid : world.Valid) (atMostOne : AtMostOneActive world.tables)
    (fuel : Nat) (whole : Request.Whole settings answers world (.sweep fuel)) :
    (Request.watched settings answers world (.sweep fuel)).Faithful settings := by
  obtain ⟨healthy, ⟨orders, ordered⟩, enough⟩ := whole
  obtain ⟨pages, rfl, enough⟩ := sweep_pages enough
  have wrapped : Request.watched settings answers world (.sweep (pages + 1)) =
      (sweepPages settings (pages + 1) 0 {}).observed watchReactions environment answers 0
        world {} {} :=
    congrArg (List.foldl watchReactions {}) (Program.trace_bind_ret _ Reply.summary)
  rw [wrapped]
  have sweeps : (sweepPages settings (pages + 1) 0 {}).Yields watchReactions environment answers
      world {} {} (fun _ after _ later =>
        Accounted settings (sweptRows orders world.tables pages 0) world {} after later) :=
    (sweepPages_tracked healthy ordered (tracks_accounted settings answers) valid
      (sweeping_start settings) (by simp) (fun row _ => atMostOne row.pair) (by omega)).mono
        (fun _ _ _ _ ended => ended.2)
  obtain ⟨_, _, _, _, _, accounted⟩ := sweeps 0
  exact accounted.faithful (fun row swept => valid.inventoriesOf_of_mem (mem_sweptRows swept))

def Statement.unremarked : Statement → Prop
  | .getAlert _ | .utcNow | .commit _ | .refreshAlert _ => True
  | _ => False

theorem resolveAlert_unremarked (alertId : RowId) :
    (resolveAlert alertId).Only Statement.unremarked := by
  refine Program.Only.bind ⟨trivial, fun entity => getByIdOrRaise_only _ _ _ entity⟩ ?_
  intro alert
  by_cases closed : alert.status = .RESOLVED
  · simp only [if_pos closed]
    trivial
  · simp only [if_neg closed]
    exact ⟨trivial, fun _ => ⟨trivial, fun _ => ⟨trivial, fun _ => trivial⟩⟩⟩

theorem resolveAlert_faithful (alertId : RowId) :
    (Request.watched settings answers world (.resolveAlert alertId)).Faithful settings := by
  have wrapped : Request.watched settings answers world (.resolveAlert alertId) =
      (resolveAlert alertId).observed watchReactions environment answers 0 world {} {} :=
    congrArg (List.foldl watchReactions {}) (Program.trace_bind_ret _ Reply.alert)
  rw [wrapped, (resolveAlert_unremarked alertId).observed]
  · exact Watch.faithful_start settings
  · intro moment unremarked
    obtain ⟨answer, shared, session, statement⟩ := moment
    cases statement <;> first | rfl | cases unremarked

theorem request_faithful (valid : world.Valid) (atMostOne : AtMostOneActive world.tables)
    (request : Request) (whole : request.Whole settings answers world) :
    (request.watched settings answers world).Faithful settings := by
  cases request with
  | movement data performedBy => exact movement_faithful valid atMostOne data performedBy whole
  | sweep fuel => exact sweep_faithful valid atMostOne fuel whole
  | resolveAlert alertId => exact resolveAlert_faithful alertId

/-- Requests served one after another, the evaluations they made, and how often they
announced something outside of an evaluation. -/
inductive Reacted (settings : Settings) (start : World) : World → List Evaluation → Nat → Prop
  | start : Reacted settings start start [] 0
  | next {world : World} {record : List Evaluation} {unprompted : Nat}
      (reacted : Reacted settings start world record unprompted) (request : Request)
      (answers : Nat → Answer) (whole : request.Whole settings answers world) :
      Reacted settings start (runAlone answers world (request.program settings)).shared
        (record ++ (request.watched settings answers world).evaluations)
        (unprompted + (request.watched settings answers world).unprompted)

/-- An evaluation announces the alert it created or escalated, exactly once, and nothing
else, unless the stock has partly recovered. Nothing else announces anything. No movement
that commits and no sweep of the run meets a database failure. -/
theorem reactions_exact_iff (settings : Settings) (start : World) (valid : start.Valid)
    (atMostOne : AtMostOneActive start.tables) (world : World) (record : List Evaluation)
    (unprompted : Nat) (reacted : Reacted settings start world record unprompted) :
    unprompted = 0 ∧
      ∀ evaluation ∈ record, (evaluation.Exact ↔ ¬ evaluation.PartialRecovery settings) := by
  have invariant : (world.Valid ∧ AtMostOneActive world.tables) ∧ unprompted = 0 ∧
      ∀ evaluation ∈ record, (evaluation.Exact ↔ ¬ evaluation.PartialRecovery settings) := by
    induction reacted with
    | start => exact ⟨⟨valid, atMostOne⟩, rfl, by simp⟩
    | @next middle earlier _ reacted request answers whole ih =>
        obtain ⟨⟨validBefore, uniqueBefore⟩, none, holds⟩ := ih
        have faithful := request_faithful validBefore uniqueBefore request whole
        refine ⟨request_alone settings answers request validBefore uniqueBefore, ?_, ?_⟩
        · rw [none, faithful.unprompted]
        · intro evaluation member
          rcases List.mem_append.mp member with old | new
          · exact holds evaluation old
          · exact faithful.evaluations evaluation new
  exact invariant.2

/-- A receipt above the threshold, and a shipment of all of it. -/
def Sample.emptied : World :=
  (runAlone (fun _ => {})
    (runAlone (fun _ => {}) Sample.world
      (Request.program {} (.movement Sample.receive20 none))).shared
    (Request.program {} (.movement Sample.ship20 none))).shared

theorem Sample.emptied_reacted :
    ∃ record unprompted, Reacted {} Sample.world Sample.emptied record unprompted :=
  ⟨_, _, (Reacted.start.next (.movement Sample.receive20 none) (fun _ => {})
    (.inl (fun _ => rfl))).next (.movement Sample.ship20 none) (fun _ => {}) (.inl (fun _ => rfl))⟩

theorem reactions_exact_iff_emptied : ∃ record : List Evaluation, record.length = 2 ∧
    ∀ evaluation ∈ record, (evaluation.Exact ↔ ¬ evaluation.PartialRecovery {}) := by
  obtain ⟨_, exact⟩ := reactions_exact_iff {} Sample.world Sample.world_valid
    Sample.world_atMostOne Sample.emptied _ _ ((Reacted.start.next
      (.movement Sample.receive20 none) (fun _ => {}) (.inl (fun _ => rfl))).next
      (.movement Sample.ship20 none) (fun _ => {}) (.inl (fun _ => rfl)))
  exact ⟨_, by decide +kernel, exact⟩

/-- A few pieces arrive where the stock had run out: the alert is retyped to `LOW_STOCK`,
and announced again. -/
theorem partial_recovery_announced :
    ¬ ∀ (settings : Settings) (start : World), start.Valid → AtMostOneActive start.tables →
      ∀ (world : World) (record : List Evaluation) (unprompted : Nat),
        Reacted settings start world record unprompted →
          unprompted = 0 ∧ ∀ evaluation ∈ record, evaluation.Exact := by
  intro always
  obtain ⟨record, unprompted, emptied⟩ := Sample.emptied_reacted
  obtain ⟨_, exact⟩ := always {} Sample.world Sample.world_valid Sample.world_atMostOne _ _ _
    (emptied.next (.movement Sample.receive3 none) (fun _ => {}) (.inl (fun _ => rfl)))
  have balanced : ∀ evaluation ∈ (Request.watched {} (fun _ => {}) Sample.emptied
      (.movement Sample.receive3 none)).evaluations,
      evaluation.enqueues.length = evaluation.reactions.length := by
    intro evaluation member
    rw [(exact evaluation (List.mem_append_right _ member)).enqueues, List.length_map]
  exact absurd balanced (by decide +kernel)

end Served

end InventoryManagement
