import InventoryManagement.Interleaving.Trace
import InventoryManagement.Services.LowStockListing

/-! What alerts record about the stock that triggered them, and what is announced of
them, while thresholds are edited between the evaluations. -/

set_option autoImplicit false

namespace InventoryManagement

open Interleaving (Guard Moment Program)

/-- The recorded quantity breaches the recorded threshold, and the type says how. -/
structure AlertValues.Consistent (values : AlertValues) : Prop where
  nonnegative : 0 ≤ values.quantityAtTrigger
  breached : values.quantityAtTrigger ≤ values.threshold
  outOfStock : values.alertType = .OUT_OF_STOCK ↔ values.quantityAtTrigger = 0

def InventoryEvent.Consistent : InventoryEvent → Prop
  | .lowStockDetected _ _ quantity threshold => 0 < quantity ∧ quantity ≤ threshold
  | _ => True

structure World.Consistent (world : World) : Prop where
  alerts : ∀ alert ∈ world.tables.alerts, alert.toAlertValues.Consistent
  events : ∀ event ∈ world.published, event.Consistent

/-- An evaluation of low stock whose alert still says that the stock has run out finds no
more units than the threshold recorded in that alert. -/
def recoversWithinThreshold (settings : Settings) : Guard Statement Answer World Session :=
  fun _ _ world _ statement => ∀ pair ∈ statement.lookup?,
    ∀ row ∈ world.tables.inventoriesOf pair, row.isLow settings = true →
    ∀ alert ∈ world.tables.activeAlerts pair,
      alert.alertType = .OUT_OF_STOCK → row.quantity ≤ alert.threshold

instance (settings : Settings) (answer : Answer) (others : List Session) (world : World)
    (session : Session) (statement : Statement) :
    Decidable (recoversWithinThreshold settings answer others world session statement) :=
  inferInstanceAs (Decidable (∀ pair ∈ statement.lookup?, ∀ row ∈ world.tables.inventoriesOf pair,
    _ → ∀ alert ∈ world.tables.activeAlerts pair, _ → _ ≤ _))

/-- The states of sequential runs of requests and threshold edits. -/
inductive Operated (settings : Settings) (guard : Guard Statement Answer World Session)
    (start : World) : World → Prop where
  | start : Operated settings guard start start
  | request {world : World} (earlier : Operated settings guard start world) (request : Request)
      (answers : Nat → Answer)
      (obeys : (request.program settings).Obeys environment guard answers 0 world {}) :
      Operated settings guard start (runAlone answers world (request.program settings)).shared
  | threshold {world : World} (earlier : Operated settings guard start world) (pair : Pair)
      (threshold : Option Int)
      (accepted : ∀ value ∈ threshold, 0 ≤ value ∧ Integer.fits value = true) :
      Operated settings guard start (world.setThreshold pair threshold)

variable {settings : Settings} {guard : Guard Statement Answer World Session}
variable {start world after : World} {session updated : Session} {inventory : Inventory}
variable {rows : List Inventory}

/-- Consistent records while no stock changes: the stored rows are `rows`, none of them
negative. -/
structure Truthful (rows : List Inventory) (world : World) (session : Session) : Prop
    extends world.Consistent where
  valid : world.Valid
  sound : session.Sound world
  unlocked : session.Unlocked
  stored : world.tables.inventories = rows
  stock : ∀ row ∈ rows, 0 ≤ row.quantity
  flushed : ∀ alert ∈ session.alerts, alert.toAlertValues.Consistent

/-- What a statement may write for the records to stay truthful. -/
def Statement.Tells (statement : Statement) (world : World) (session : Session) : Prop :=
  match statement with
  | .insertAlert values => values.Consistent
  | .commit dirty => ∀ change ∈ dirty, ∀ alertType quantity,
      change.2 = .retype alertType quantity →
      0 ≤ quantity ∧ (alertType = .OUT_OF_STOCK ↔ quantity = 0) ∧
        ∀ alert ∈ world.tables.alerts ++ session.alerts, alert.id = change.1 →
          quantity ≤ alert.threshold
  | .dispatch event => event.Consistent
  | statement => statement.keepsStock = true

section Statements

theorem Statement.Tells.keepsStock {statement : Statement} (tells : statement.Tells world session) :
    statement.keepsStock = true := by
  cases statement <;> first | rfl | exact tells

theorem applyChanges_consistent {dirty : List (RowId × AlertChange)} {alert : Alert}
    (consistent : alert.toAlertValues.Consistent)
    (told : ∀ change ∈ dirty, ∀ alertType quantity, change.2 = .retype alertType quantity →
      0 ≤ quantity ∧ (alertType = .OUT_OF_STOCK ↔ quantity = 0) ∧
        (alert.id = change.1 → quantity ≤ alert.threshold)) :
    (applyChanges dirty alert).toAlertValues.Consistent := by
  induction dirty generalizing alert with
  | nil => exact consistent
  | cons change rest ih =>
      obtain ⟨here, others⟩ := List.forall_mem_cons.mp told
      simp only [applyChanges, List.foldl_cons]
      split
      · next same =>
          obtain ⟨id, change⟩ := change
          cases change with
          | resolve resolvedAt => exact ih consistent others
          | retype alertType quantity =>
              obtain ⟨nonnegative, outOfStock, breached⟩ := here _ _ rfl
              exact ih ⟨nonnegative, breached same.symm, outOfStock⟩ others
      · exact ih consistent others

theorem Truthful.commit {dirty : List (RowId × AlertChange)} (truthful : Truthful rows world session)
    (tells : Statement.Tells (.commit dirty) world session) :
    ∀ alert ∈ (world.tables.commit session dirty).alerts, alert.toAlertValues.Consistent := by
  intro alert member
  obtain ⟨before, origin, rfl⟩ := mem_commit_alerts.mp member
  apply applyChanges_consistent
  · rcases origin with stored | flushed
    · exact truthful.alerts before stored
    · exact truthful.flushed before flushed
  · intro change included alertType quantity retyped
    obtain ⟨nonnegative, outOfStock, breached⟩ := tells change included _ _ retyped
    exact ⟨nonnegative, outOfStock, breached before (List.mem_append.mpr origin)⟩

/-- Every statement that tells the truth keeps the records truthful. -/
theorem execute_truthful {statement : Statement} {answer : Answer} {response : statement.Response}
    (truthful : Truthful rows world session) (tells : statement.Tells world session)
    (executed : execute statement answer [] world session = .done response after updated) :
    Truthful rows after updated := by
  obtain ⟨valid, sound, _⟩ := databaseDiscipline.execute_done _ _ _ _ _ _ _ _ executed
    truthful.valid truthful.sound (by simp)
  have answered := execute_done executed
  have kept := respond_keepsStock tells.keepsStock truthful.unlocked answered
  have told : after.Consistent ∧ ∀ alert ∈ updated.alerts, alert.toAlertValues.Consistent := by
    cases statement
    case commit dirty =>
      simp only [respond, InventoryManagement.commit] at answered
      split at answered <;> cases answered
      exact ⟨⟨truthful.commit tells, truthful.events⟩, fun alert none => by cases none⟩
    case insertAlert values =>
      simp only [respond, insertAlert] at answered
      (repeat' split at answered) <;> cases answered
      exact ⟨⟨truthful.alerts, truthful.events⟩,
        List.forall_mem_append.mpr ⟨truthful.flushed, List.forall_mem_singleton.mpr tells⟩⟩
    case dispatch event =>
      cases answered
      exact ⟨⟨truthful.alerts,
        List.forall_mem_append.mpr ⟨truthful.events, List.forall_mem_singleton.mpr tells⟩⟩,
        truthful.flushed⟩
    case selectInventoryForUpdate | insertInventory | updateInventory | insertMovement => cases tells
    all_goals
      simp only [respond, selectActiveAlerts, refreshAlert, selectInventories, gather, delay] at answered
      (repeat' split at answered) <;> cases answered <;>
        exact ⟨⟨truthful.alerts, truthful.events⟩, truthful.flushed⟩
  exact ⟨told.1, valid, sound, kept.unlocked, kept.inventories.trans truthful.stored,
    truthful.stock, told.2⟩

/-- Statements that flush no alert and load no inventory object. -/
def Statement.framed : Statement → Bool
  | .insertAlert _ | .selectInventories _ _ => false
  | statement => statement.keepsStock

theorem respond_framed {statement : Statement} {answer : Answer} {response : statement.Response}
    (framed : statement.framed = true) (clean : session.alerts = [])
    (answered : respond statement answer [] world session = .done response after updated) :
    updated.alerts = [] ∧ updated.objects = session.objects := by
  cases statement <;> simp only [Statement.framed, Statement.keepsStock, Bool.false_eq_true] at framed
  all_goals
    simp only [respond, InventoryManagement.commit, selectActiveAlerts, refreshAlert, dispatch, gather,
      delay] at answered
    (repeat' split at answered) <;> cases answered <;> first | exact ⟨clean, rfl⟩ | exact ⟨rfl, rfl⟩

end Statements

section Programs

variable {Value Result : Type}

/-- Run alone under the condition, the program keeps the records truthful; what it returns
comes with a session that has flushed no alert and loaded no object. -/
abbrev Truthfully (settings : Settings) (rows : List Inventory) (returns : Value → Prop)
    (program : Transaction Value) (world : World) (session : Session) : Prop :=
  Truthful rows world session → session.alerts = [] →
    program.Preserves environment (recoversWithinThreshold settings) (Truthful rows)
      (fun value after updated => Truthful rows after updated ∧ updated.alerts = [] ∧
        updated.objects = session.objects ∧ returns value) world session

theorem truthfully_ret {returns : Value → Prop} {value : Value} (holds : returns value) :
    Truthfully settings rows returns (.ret value) world session :=
  fun truthful clean => ⟨truthful, clean, rfl, holds⟩

theorem truthfully_bind {program : Transaction Value} {next : Value → Transaction Result}
    {returns : Result → Prop} (middle : Value → Prop)
    (first : Truthfully settings rows middle program world session)
    (second : ∀ value after updated, middle value →
      Truthfully settings rows returns (next value) after updated) :
    Truthfully settings rows returns (program.bind next) world session := by
  intro truthful clean
  apply Program.preserves_bind (first truthful clean)
  intro value after updated ended
  obtain ⟨truthfulAfter, cleanAfter, objects, holds⟩ := ended
  rw [← objects]
  exact second value after updated holds truthfulAfter cleanAfter

theorem preserves_call {statement : Statement} {next : statement.Response → Transaction Value}
    {returns : Value → World → Session → Prop} (truthful : Truthful rows world session)
    (tells : statement.Tells world session)
    (remaining : ∀ answer response after updated,
      recoversWithinThreshold settings answer [] world session statement →
      respond statement answer [] world session = .done response after updated →
      Truthful rows after updated →
      (next response).Preserves environment (recoversWithinThreshold settings) (Truthful rows)
        returns after updated) :
    (Program.call statement next).Preserves environment (recoversWithinThreshold settings)
      (Truthful rows) returns world session := by
  intro answer permitted response after updated executed
  have kept := execute_truthful truthful tells executed
  exact ⟨kept, remaining answer response after updated permitted (execute_done executed) kept⟩

theorem truthfully_call {statement : Statement} {next : statement.Response → Transaction Value}
    {returns : Value → Prop} (framed : statement.framed = true)
    (tells : Truthful rows world session → session.alerts = [] → statement.Tells world session)
    (remaining : ∀ answer response after updated,
      recoversWithinThreshold settings answer [] world session statement →
      respond statement answer [] world session = .done response after updated →
      Truthful rows world session → Truthful rows after updated →
      Truthfully settings rows returns (next response) after updated) :
    Truthfully settings rows returns (.call statement next) world session := by
  intro truthful clean
  apply preserves_call truthful (tells truthful clean)
  intro answer response after updated permitted answered kept
  obtain ⟨cleanAfter, objects⟩ := respond_framed framed clean answered
  rw [← objects]
  exact remaining answer response after updated permitted answered truthful kept kept cleanAfter

theorem truthfully_scalar {Row : Type} {returns : Value → Prop} {found : List Row}
    {next : Option Row → Transaction Value}
    (none : Truthfully settings rows returns (next none) world session)
    (one : ∀ row ∈ found, Truthfully settings rows returns (next (some row)) world session) :
    Truthfully settings rows returns ((scalarOneOrNone found).bind next) world session := by
  match found with
  | [] => exact none
  | [row] => exact one row List.mem_cons_self
  | _ :: _ :: _ => exact fun _ _ => trivial

theorem publish_truthfully {event : InventoryEvent} (consistent : event.Consistent) :
    Truthfully settings rows (fun _ => True) (publish event) world session := by
  refine truthfully_call rfl (fun _ _ => consistent) ?_
  intro _ _ _ _ _ _ _ _
  exact truthfully_call rfl (fun _ _ => rfl) (fun _ _ _ _ _ _ _ _ => truthfully_ret trivial)

theorem reactToAlert_truthfully {alert : Alert} (consistent : alert.toAlertValues.Consistent) :
    Truthfully settings rows (fun _ => True) (reactToAlert alert) world session := by
  have announced : (alertEvent alert).Consistent := by
    unfold alertEvent
    split
    · trivial
    · next low =>
        have stock : alert.quantityAtTrigger ≠ 0 := fun none => low (consistent.outOfStock.mpr none)
        have nonnegative := consistent.nonnegative
        exact ⟨by omega, consistent.breached⟩
  apply truthfully_bind _ (publish_truthfully announced)
  intro _ after updated _
  refine truthfully_call rfl (fun _ _ => rfl) ?_
  intro answer response after updated _ _ _ _
  cases response <;> exact truthfully_ret trivial

theorem resolve_truthfully (alert : Alert) :
    Truthfully settings rows (fun _ => True) (resolve alert) world session := by
  refine truthfully_call rfl (fun _ _ => rfl) ?_
  intro answer now after updated _ _ _ _
  apply truthfully_call rfl
  · intro _ _ change member alertType quantity retyped
    rw [List.mem_singleton.mp member] at retyped
    cases retyped
  · intro answer response after updated _ _ _ _
    exact truthfully_call rfl (fun _ _ => rfl) (fun _ _ _ _ _ _ _ _ => truthfully_ret trivial)

theorem alerts_unique_id (valid : world.Valid) {alert other : Alert}
    (stored : alert ∈ world.tables.alerts) (storedToo : other ∈ world.tables.alerts)
    (same : other.id = alert.id) : other = alert := by
  have found := valid.alert?_of_mem storedToo
  rw [same, valid.alert?_of_mem stored] at found
  exact (Option.some.inj found).symm

/-- A retyped alert records at least the new quantity: an empty stock breaches every
threshold, and the condition covers the other stocks. -/
theorem retype_truthfully {alert : Alert} {alertType : AlertType} {quantity : Int}
    (nonnegative : 0 ≤ quantity)
    (type : alertType = if quantity = 0 then .OUT_OF_STOCK else .LOW_STOCK)
    (stored : alert ∈ world.tables.alerts) (recorded : quantity = 0 ∨ quantity ≤ alert.threshold) :
    Truthfully settings rows (fun _ => True) (retypeAlert alert alertType quantity) world
      session := by
  apply truthfully_call rfl
  · intro truthful clean change member other amount retyped
    obtain rfl := List.mem_singleton.mp member
    cases retyped
    refine ⟨nonnegative, by rw [type]; split <;> simp_all, ?_⟩
    intro listed origin same
    rw [clean, List.append_nil] at origin
    obtain rfl := alerts_unique_id truthful.valid stored origin same
    rcases recorded with empty | breached
    · have consistent := truthful.alerts listed origin
      have triggered := consistent.nonnegative
      have threshold := consistent.breached
      omega
    · exact breached
  · intro answer response after updated _ _ _ _
    refine truthfully_call rfl (fun _ _ => rfl) ?_
    intro answer refreshed after updated _ responded truthful _
    have consistent : refreshed.toAlertValues.Consistent := by
      simp only [respond, refreshAlert] at responded
      split at responded
      · cases responded
      · next alert found =>
          cases responded
          exact truthful.alerts _ (List.mem_of_find?_eq_some found)
    apply truthfully_bind _ (reactToAlert_truthfully consistent)
    exact fun _ _ _ _ => truthfully_ret trivial

theorem raise_truthfully {values : AlertValues} (consistent : values.Consistent) :
    Truthfully settings rows (fun _ => True) (raiseAlert values) world session := by
  intro truthful _
  refine preserves_call truthful consistent ?_
  intro answer alert after updated _ inserted truthful
  have recorded : alert.toAlertValues = values ∧ updated.objects = session.objects := by
    simp only [respond, insertAlert] at inserted
    (repeat' split at inserted) <;> cases inserted
    exact ⟨rfl, rfl⟩
  refine preserves_call truthful (fun change none => by cases none) ?_
  intro answer response after last _ committed truthful
  have clean : last.alerts = [] ∧ last.objects = updated.objects := by
    simp only [respond, InventoryManagement.commit] at committed
    split at committed <;> cases committed
    exact ⟨rfl, rfl⟩
  rw [Program.ret_bind, ← recorded.2, ← clean.2]
  refine truthfully_bind _ (reactToAlert_truthfully (recorded.1.symm ▸ consistent)) ?_ truthful
    clean.1
  exact fun _ _ _ _ => truthfully_ret trivial

theorem evaluateStockLevel_truthfully (settings : Settings) (stored : inventory ∈ rows)
    (nonnegative : 0 ≤ inventory.quantity) :
    Truthfully settings rows (fun _ => True) (evaluateStockLevel settings inventory) world
      session := by
  obtain ⟨next, evaluates, reconciles⟩ := evaluateStockLevel_cases settings inventory
  rw [evaluates]
  intro truthful
  have row : inventory ∈ world.tables.inventoriesOf inventory.pair :=
    Tables.mem_inventoriesOf.mpr ⟨truthful.stored ▸ stored, rfl⟩
  refine truthfully_call rfl (fun _ _ => rfl) ?_ truthful
  intro answer found after updated permitted looked _ _
  have recovers := permitted _ rfl inventory row
  cases looked
  apply truthfully_scalar
  · have branch := reconciles none
    generalize next none = program at branch ⊢
    cases branch with
    | rest => exact truthfully_ret trivial
    | raise condition =>
        obtain ⟨low, rfl⟩ := stockCondition_some condition
        apply raise_truthfully
        constructor
        · exact nonnegative
        · exact low
        · by_cases zero : inventory.quantity = 0 <;> simp [zero]
  · intro alert active
    have listed := mem_activeAlerts.mp active
    have branch := reconciles (some alert)
    generalize next (some alert) = program at branch ⊢
    cases branch with
    | keep => exact truthfully_ret trivial
    | resolve =>
        apply truthfully_bind _ (resolve_truthfully alert)
        exact fun _ _ _ _ => truthfully_ret trivial
    | retype condition different =>
        obtain ⟨low, type⟩ := stockCondition_some condition
        apply retype_truthfully nonnegative type listed.1
        by_cases empty : inventory.quantity = 0
        · exact .inl empty
        · -- the alert is no low-stock alert, so it says that the stock has run out
          have ranOut : alert.alertType = .OUT_OF_STOCK := by
            rw [type, if_neg empty] at different
            cases kind : alert.alertType with
            | OUT_OF_STOCK => rfl
            | LOW_STOCK => exact absurd kind different
          exact .inr (recovers (decide_eq_true low) alert active ranOut)

/-! Whole requests. -/

theorem evaluateAffected_truthfully (settings : Settings) (affected : List Inventory)
    (stored : ∀ inventory ∈ affected, inventory ∈ rows ∧ 0 ≤ inventory.quantity) :
    Truthfully settings rows (fun _ => True) (evaluateAffected settings affected) world
      session := by
  induction affected generalizing world session with
  | nil => exact truthfully_ret trivial
  | cons inventory rest ih =>
      obtain ⟨here, others⟩ := List.forall_mem_cons.mp stored
      apply truthfully_bind _ (evaluateStockLevel_truthfully settings here.1 here.2)
      exact fun _ _ _ _ => ih others

theorem buildMovementEvent_truthfully (data : MovementCreate) (affected : List Inventory) :
    Truthfully settings rows InventoryEvent.Consistent (buildMovementEvent data affected) world
      session := by
  unfold buildMovementEvent
  split
  case h_4 => exact fun _ _ => trivial
  all_goals exact truthfully_ret trivial

theorem announceMovement_truthfully (settings : Settings) (data : MovementCreate)
    (affected : List Inventory)
    (stored : ∀ inventory ∈ affected, inventory ∈ rows ∧ 0 ≤ inventory.quantity) :
    Truthfully settings rows (fun _ => True) (announceMovement settings data affected) world
      session := by
  apply truthfully_bind _ (evaluateAffected_truthfully settings affected stored)
  intro _ _ _ _
  apply truthfully_bind _ (buildMovementEvent_truthfully data affected)
  exact fun _ _ _ consistent => publish_truthfully consistent

theorem sweepBatch_truthfully (settings : Settings) (batch : List Inventory)
    (summary : SweepSummary)
    (stored : ∀ inventory ∈ batch, inventory ∈ rows ∧ 0 ≤ inventory.quantity) :
    Truthfully settings rows (fun _ => True) (sweepBatch settings batch summary) world
      session := by
  induction batch generalizing world session summary with
  | nil => exact truthfully_ret trivial
  | cons inventory rest ih =>
      obtain ⟨here, others⟩ := List.forall_mem_cons.mp stored
      apply truthfully_bind _ (evaluateStockLevel_truthfully settings here.1 here.2)
      exact fun _ _ _ _ => ih _ others

/-- The objects of a sweep are the stored rows, as nobody else writes. -/
theorem sweepPages_truthfully (settings : Settings) (fuel skip : Nat) (summary : SweepSummary)
    (truthful : Truthful rows world session) (clean : session.alerts = [])
    (current : ∀ object ∈ session.objects, object ∈ rows) :
    (sweepPages settings fuel skip summary).Preserves environment
      (recoversWithinThreshold settings) (Truthful rows) (fun _ => Truthful rows) world session := by
  induction fuel generalizing world session skip summary with
  | zero => trivial
  | succ fuel ih =>
      refine preserves_call truthful rfl ?_
      intro answer batch after updated _ responded kept
      have loaded : (∀ object ∈ batch, object ∈ rows) ∧ updated.alerts = [] ∧
          updated.objects = batch := by
        cases responded
        refine ⟨?_, clean, rfl⟩
        intro object member
        obtain ⟨row, paged, rfl⟩ := List.mem_map.mp member
        have stored : row ∈ rows := truthful.stored ▸
          ((answer.order skip).perm _).mem_iff.mp (List.mem_of_mem_drop (List.mem_of_mem_take paged))
        cases found : session.object? row.pair with
        | none => exact stored
        | some object => exact current object (List.mem_of_find?_eq_some found)
      obtain ⟨stored, cleanAfter, objects⟩ := loaded
      rw [Program.ret_bind]
      by_cases empty : batch = []
      · rw [if_pos empty]
        exact kept
      · rw [if_neg empty]
        have evaluated : Truthfully settings rows (fun _ => True)
            (sweepBatch settings batch summary) after updated :=
          sweepBatch_truthfully settings batch summary
            (fun row member => ⟨stored row member, kept.stock row (stored row member)⟩)
        refine Program.preserves_bind (evaluated kept cleanAfter) ?_
        intro summary later last ended
        obtain ⟨truthfulLater, cleanLater, same, _⟩ := ended
        exact ih (skip + batchSize) summary truthfulLater cleanLater (same.trans objects ▸ stored)

theorem resolveAlert_truthfully (settings : Settings) (alertId : RowId) :
    Truthfully settings rows (fun _ => True) (resolveAlert alertId) world session := by
  refine truthfully_call rfl (fun _ _ => rfl) ?_
  intro answer found after updated _ _ _ _
  cases found with
  | none => exact fun _ _ => trivial
  | some alert =>
      change Truthfully settings rows (fun _ => True)
        (if alert.status = .RESOLVED then Program.raise _ else resolve alert) after updated
      split
      · exact fun _ _ => trivial
      · exact resolve_truthfully alert

end Programs

section Runs

/-- A state in which requests and threshold edits start and end. -/
structure World.Truthful (world : World) : Prop extends world.Consistent where
  valid : world.Valid
  stock : ∀ row ∈ world.tables.inventories, 0 ≤ row.quantity

theorem World.Truthful.fresh (truthful : world.Truthful) :
    InventoryManagement.Truthful world.tables.inventories world {} :=
  ⟨truthful.toConsistent, truthful.valid, Session.fresh_sound world, ⟨rfl, rfl, rfl⟩, rfl,
    truthful.stock, fun _ none => by cases none⟩

theorem Truthful.between (truthful : Truthful rows world session) : world.Truthful :=
  ⟨truthful.toConsistent, truthful.valid, truthful.stored ▸ truthful.stock⟩

theorem World.Untouched.consistent (untouched : world.Untouched after)
    (consistent : world.Consistent) : after.Consistent :=
  ⟨untouched.tables ▸ consistent.alerts, untouched.published ▸ consistent.events⟩

/-- What a program that is served alone does to the records. -/
structure KeptTruthful {Value : Type} (answers : Nat → Answer) (program : Transaction Value)
    (world : World) : Prop where
  during : ∀ moment ∈ program.trace environment answers 0 world {}, moment.shared.Consistent
  afterwards : (runAlone answers world program).shared.Truthful

theorem KeptTruthful.map {Value Result : Type} {answers : Nat → Answer} {program : Transaction Value}
    {wrap : Value → Result} (told : KeptTruthful answers program world) :
    KeptTruthful answers (program.bind (fun value => .ret (wrap value))) world where
  during := by
    rw [Program.trace_bind_ret]
    exact told.during
  afterwards := by
    have same : (runAlone answers world (program.bind (fun value => .ret (wrap value)))).shared =
        (runAlone answers world program).shared := by
      simp only [runAlone, Program.run_bind]
      rcases program.run environment answers 0 world {} with ⟨_ | _ | _, _, _, _⟩ <;> rfl
    exact same ▸ told.afterwards

theorem told_of_preserves {Value : Type} {answers : Nat → Answer} {program : Transaction Value}
    {returns : Value → World → Session → Prop} (truthful : world.Truthful)
    (preserves : program.Preserves environment (recoversWithinThreshold settings)
      (Truthful world.tables.inventories) returns world {})
    (obeys : program.Obeys environment (recoversWithinThreshold settings) answers 0 world {}) :
    KeptTruthful answers program world := by
  obtain ⟨during, afterwards⟩ := preserves.run truthful.fresh obeys
  exact ⟨fun moment member => (during moment member).toConsistent, afterwards.between⟩

theorem MovementDone.truthful {data : MovementCreate} {performedBy : Option UUID}
    {affected : List Inventory} {movement : Movement}
    (done : MovementDone world data performedBy affected movement session after)
    (truthful : world.Truthful) : Truthful after.tables.inventories after session := by
  have stock : ∀ row ∈ after.tables.inventories, 0 ≤ row.quantity :=
    done.valid.nonnegative_iff.mp
      fun pair => done.nonnegative pair (truthful.valid.nonnegative_iff.mpr truthful.stock pair)
  refine ⟨⟨done.alerts ▸ truthful.alerts, done.published ▸ truthful.events⟩, done.valid,
    done.sound, done.posted.clean.toUnlocked, rfl, stock, ?_⟩
  intro alert flushed
  rw [done.posted.clean.alerts] at flushed
  cases flushed

theorem recordMovement_told (settings : Settings) (answers : Nat → Answer) (data : MovementCreate)
    (performedBy : Option UUID) (truthful : world.Truthful)
    (obeys : (recordMovement settings data performedBy).Obeys environment
      (recoversWithinThreshold settings) answers 0 world {}) :
    KeptTruthful answers (recordMovement settings data performedBy) world := by
  obtain ⟨early, quiet, ended | ⟨affected, movement, session, committed, elapsed, done, ran, traced⟩⟩ :=
    recordMovement_trace truthful.valid settings answers data performedBy
  · obtain ⟨traced, untouched⟩ := ended
    constructor
    · rw [traced]
      exact fun moment member => (quiet moment member).untouched.consistent truthful.toConsistent
    · have kept := databaseDiscipline.run answers (recordMovement settings data performedBy) 0
        truthful.valid (Session.fresh_sound world)
      exact ⟨untouched.consistent truthful.toConsistent, kept.1, untouched.tables ▸ truthful.stock⟩
  · have started := done.truthful truthful
    have stored : ∀ inventory ∈ affected,
        inventory ∈ committed.tables.inventories ∧ 0 ≤ inventory.quantity := by
      intro inventory member
      have row := (Tables.mem_inventoriesOf.mp (done.stored inventory member ▸ List.mem_cons_self)).1
      exact ⟨row, started.stock inventory row⟩
    have announced : Truthfully settings committed.tables.inventories (fun _ => True)
        ((announceMovement settings data affected).bind (fun _ => .ret movement)) committed session :=
      truthfully_bind _ (announceMovement_truthfully settings data affected stored)
        (fun _ _ _ _ => truthfully_ret trivial)
    obtain ⟨during, afterwards⟩ := (announced started done.posted.clean.alerts).run started
      (fun moment member => obeys moment (traced ▸ List.mem_append_right early member))
    constructor
    · rw [traced]
      intro moment member
      rcases List.mem_append.mp member with before | later
      · exact (quiet moment before).untouched.consistent truthful.toConsistent
      · exact (during moment later).toConsistent
    · rw [runAlone, ran]
      exact afterwards.between

theorem request_told (settings : Settings) (answers : Nat → Answer) (request : Request)
    (truthful : world.Truthful)
    (obeys : (request.program settings).Obeys environment (recoversWithinThreshold settings)
      answers 0 world {}) : KeptTruthful answers (request.program settings) world := by
  cases request with
  | movement data performedBy =>
      apply KeptTruthful.map
      apply recordMovement_told settings answers data performedBy truthful
      exact fun moment member => obeys moment ((Program.trace_bind_ret _ _).symm ▸ member)
  | sweep fuel =>
      apply KeptTruthful.map
      apply told_of_preserves truthful (sweepPages_truthfully settings fuel 0 {} truthful.fresh rfl
        (fun object none => by cases none))
      exact fun moment member => obeys moment ((Program.trace_bind_ret _ _).symm ▸ member)
  | resolveAlert alertId =>
      apply KeptTruthful.map
      apply told_of_preserves truthful (resolveAlert_truthfully settings alertId truthful.fresh rfl)
      exact fun moment member => obeys moment ((Program.trace_bind_ret _ _).symm ▸ member)

theorem World.Truthful.setThreshold (truthful : world.Truthful) (pair : Pair)
    {threshold : Option Int} (fits : ∀ value ∈ threshold, Integer.fits value = true) :
    (world.setThreshold pair threshold).Truthful := by
  refine ⟨⟨truthful.alerts, truthful.events⟩, truthful.valid.setThreshold pair fits, ?_⟩
  intro row member
  obtain ⟨before, stored, rfl⟩ := List.mem_map.mp member
  have nonnegative := truthful.stock before stored
  split
  · exact nonnegative
  · exact nonnegative

theorem Operated.truthful
    (reached : Operated settings (recoversWithinThreshold settings) start world)
    (truthful : start.Truthful) : world.Truthful := by
  induction reached with
  | start => exact truthful
  | request _ request answers obeys ih =>
      exact (request_told settings answers request ih obeys).afterwards
  | threshold _ pair threshold accepted ih =>
      exact ih.setThreshold pair (fun value given => (accepted value given).2)

end Runs

/-- When every evaluation of low stock that finds its alert saying that the stock has run
out finds no more units than that alert's threshold, recorded alert data and announcements
stay consistent, during every request and after it. -/
theorem alert_data_consistent (settings : Settings) (start : World) (valid : start.Valid)
    (consistent : start.Consistent) (stock : ∀ row ∈ start.tables.inventories, 0 ≤ row.quantity)
    (world : World)
    (reached : Operated settings (recoversWithinThreshold settings) start world) :
    world.Consistent ∧ ∀ (request : Request) (answers : Nat → Answer),
      (request.program settings).Obeys environment (recoversWithinThreshold settings) answers 0
        world {} →
      ∀ moment ∈ (request.program settings).trace environment answers 0 world {},
        moment.shared.Consistent := by
  have truthful := reached.truthful ⟨consistent, valid, stock⟩
  exact ⟨truthful.toConsistent, fun request answers obeys =>
    (request_told settings answers request truthful obeys).during⟩

/-! Five units arrive and leave again, the threshold is raised to 30, and new units
arrive: the pair's alert becomes a low-stock alert again. -/

def Sample.serve (world : World) (request : Request) : World :=
  (runAlone (fun _ => {}) world (request.program {})).shared

def Sample.in5 : Request := .movement (Sample.receive Sample.main 5 (by decide)) none

def Sample.out5 : Request := .movement (Sample.ship Sample.main 5 (by decide)) none

def Sample.raised : World :=
  (Sample.serve (Sample.serve Sample.world Sample.in5) Sample.out5).setThreshold
    (Sample.product.id, Sample.main.id) (some 30)

theorem Sample.raised_operated {guard : Guard Statement Answer World Session}
    (received : (Sample.in5.program {}).Obeys environment guard (fun _ => {}) 0 Sample.world {})
    (shipped : (Sample.out5.program {}).Obeys environment guard (fun _ => {}) 0
      (Sample.serve Sample.world Sample.in5) {}) : Operated {} guard Sample.world Sample.raised :=
  .threshold (.request (.request .start _ _ received) _ _ shipped) _ _ (by simp; decide)

theorem Sample.world_consistent : Sample.world.Consistent := by
  constructor
  · intro alert stored
    cases stored
  · intro event published
    cases published

theorem alert_data_consistent_raised : (Sample.serve Sample.raised
    (.movement (Sample.receive Sample.main 8 (by decide)) none)).Consistent := by
  have reached : Operated {} (recoversWithinThreshold {}) Sample.world (Sample.serve Sample.raised
      (.movement (Sample.receive Sample.main 8 (by decide)) none)) := by
    refine .request (Sample.raised_operated ?_ ?_) _ _ ?_
    all_goals
      unfold Program.Obeys
      decide +kernel
  exact (alert_data_consistent {} Sample.world Sample.world_valid Sample.world_consistent
    (fun row none => by cases none) _ reached).1

/-- Twenty new units breach the new threshold, not the recorded one. -/
theorem raised_threshold_not_recorded :
    ¬ ∀ (settings : Settings) (start : World), start.Valid → start.Consistent →
      (∀ row ∈ start.tables.inventories, 0 ≤ row.quantity) → ∀ world,
        Operated settings healthy start world → world.Consistent := by
  intro consistent
  have reached : Operated {} healthy Sample.world (Sample.serve Sample.raised
      (.movement (Sample.receive Sample.main 20 (by decide)) none)) := by
    refine .request (Sample.raised_operated ?_ ?_) _ _ ?_
    all_goals
      unfold Program.Obeys
      decide +kernel
  have announced : InventoryEvent.lowStockDetected Sample.product.id Sample.main.id 20 10 ∈
      (Sample.serve Sample.raised
        (.movement (Sample.receive Sample.main 20 (by decide)) none)).published := by
    decide +kernel
  have breached := ((consistent {} Sample.world Sample.world_valid Sample.world_consistent
    (fun row none => by cases none) _ reached).events _ announced).2
  omega

end InventoryManagement
