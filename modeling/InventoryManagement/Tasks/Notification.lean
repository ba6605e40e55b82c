import InventoryManagement.Tasks.Reconciliation

/-! Alerts whose e-mail task was never enqueued, and what a later sweep does for them. -/

set_option autoImplicit false

namespace InventoryManagement

open Interleaving (Moment Program)

def AlertChange.retypes : AlertChange → Bool
  | .retype _ _ => true
  | .resolve _ => false

/-- Follow the alerts that have had no successful enqueue since they were created or
last changed their type. -/
def watchEnqueues (lacking : List RowId) (moment : Moment Statement Answer World Session) :
    List RowId :=
  match moment.statement with
  | .commit dirty => lacking ++ moment.session.alerts.map (·.id) ++
      (dirty.filter (fun change => change.2.retypes)).map (·.1)
  | .delay alertId =>
      if moment.answer.brokerRaises then lacking else lacking.filter (fun id => id ≠ alertId)
  | _ => lacking

/-- Sequential runs of requests on a database that does not fail, and the alerts they
leave without an enqueue. -/
inductive Watched (settings : Settings) (start : World) (unnotified : List RowId) :
    World → List RowId → Prop where
  | start : Watched settings start unnotified start unnotified
  | request {world : World} {lacking : List RowId}
      (earlier : Watched settings start unnotified world lacking) (request : Request)
      (answers : Nat → Answer) (healthy : ∀ n, (answers n).fails = false) :
      Watched settings start unnotified (runAlone answers world (request.program settings)).shared
        ((request.program settings).observed watchEnqueues environment answers 0 world {} lacking)

def Notified (tables : Tables) (lacking : List RowId) : Prop :=
  ∀ alert ∈ tables.alerts, alert.status = .ACTIVE → alert.id ∉ lacking

/-- A sweep alone on a healthy database, whose pages show every row. -/
structure CompleteSweep (answers : Nat → Answer) (orders : Nat → RowOrder) (world : World)
    (fuel : Nat) : Prop where
  healthy : ∀ n, (answers n).fails = false
  ordered : ∀ n, (answers n).order = orders
  enough : world.tables.inventories.length + batchSize ≤ fuel * batchSize
  complete : ∀ row ∈ world.tables.inventories, row ∈ sweptRows orders world.tables (fuel - 1) 0

variable {settings : Settings} {answers : Nat → Answer} {start world after : World}
variable {session updated : Session} {row inventory : Inventory} {lacking : List RowId}

section Evaluation

/-- What an evaluation leaves lacking when the broker accepts every task: a right alert
is left alone, and an alert that was written has been enqueued. -/
structure Told (settings : Settings) (inventory : Inventory) (before : World)
    (lacking : List RowId) (result : Option Alert) (later : List RowId) : Prop where
  kept : Agrees (stockCondition settings inventory) (before.tables.activeAlerts inventory.pair) →
    later = lacking
  written : ¬ Agrees (stockCondition settings inventory)
      (before.tables.activeAlerts inventory.pair) →
    ∀ id, id ∈ later ↔ id ∈ lacking ∧ ∀ alert ∈ result, alert.id ≠ id

theorem reactToAlert_leaves (delivered : ∀ n, (answers n).brokerRaises = false) (alert : Alert) :
    (reactToAlert alert).Leaves watchEnqueues environment answers world session lacking
      (fun _ _ _ later => later = lacking.filter (fun id => id ≠ alert.id)) := by
  apply leaves_statement
  intro _ _ _ _ _
  apply leaves_statement
  intro _ _ middle between _
  apply leaves_statement
  intro n response after updated _
  have enqueued : watchEnqueues lacking ⟨answers n, middle, between, .delay alert.id⟩ =
      lacking.filter (fun id => id ≠ alert.id) := by
    simp [watchEnqueues, delivered n]
  cases response <;> exact Program.leaves_ret enqueued

theorem announced_leaves (delivered : ∀ n, (answers n).brokerRaises = false) {alert : Alert}
    (wrong : ¬ Agrees (stockCondition settings inventory)
      (start.tables.activeAlerts inventory.pair)) :
    ((reactToAlert alert).bind (fun _ => .ret (some alert))).Leaves watchEnqueues environment
      answers world session (lacking ++ [alert.id])
      (fun result _ _ later => Told settings inventory start lacking result later) := by
  refine (reactToAlert_leaves delivered alert).bind ?_
  intro _ after updated later filtered
  apply Program.leaves_ret
  constructor
  · intro agrees
    exact absurd agrees wrong
  · intro _ other
    rw [filtered]
    by_cases here : other = alert.id
    · simp [here]
    · simp [here, Ne.symm here]

theorem resolve_leaves (clean : session.Clean) (alert : Alert) :
    (resolve alert).Leaves watchEnqueues environment answers world session lacking
      (fun _ _ _ later => later = lacking) := by
  apply leaves_statement
  intro _ now _ _ clocked
  cases clocked
  apply leaves_statement
  intro _ _ _ _ _
  apply leaves_statement
  intro _ _ _ _ _
  apply Program.leaves_ret
  simp [watchEnqueues, AlertChange.retypes, clean.alerts]

theorem retype_leaves (delivered : ∀ n, (answers n).brokerRaises = false) (clean : session.Clean)
    {alert : Alert} {alertType : AlertType} {quantity : Int}
    (wrong : ¬ Agrees (stockCondition settings inventory)
      (start.tables.activeAlerts inventory.pair)) :
    (retypeAlert alert alertType quantity).Leaves watchEnqueues environment answers world session
      lacking (fun result _ _ later => Told settings inventory start lacking result later) := by
  apply leaves_statement
  intro n _ _ _ _
  apply leaves_statement
  intro _ refreshed after _ reread
  have same : refreshed.id = alert.id := by
    simp only [respond, refreshAlert] at reread
    split at reread
    · cases reread
    · next found =>
        cases reread
        simpa using List.find?_some found
  have pending : watchEnqueues lacking
      ⟨answers n, world, session, .commit [(alert.id, .retype alertType quantity)]⟩ =
        lacking ++ [refreshed.id] := by
    simp [watchEnqueues, AlertChange.retypes, clean.alerts, same]
  rw [pending]
  exact announced_leaves delivered wrong

theorem raise_leaves (delivered : ∀ n, (answers n).brokerRaises = false) (clean : session.Clean)
    {values : AlertValues}
    (wrong : ¬ Agrees (stockCondition settings inventory)
      (start.tables.activeAlerts inventory.pair)) :
    (raiseAlert values).Leaves watchEnqueues environment answers world session lacking
      (fun result _ _ later => Told settings inventory start lacking result later) := by
  apply leaves_statement
  intro _ alert middle between inserted
  have flushed : between.alerts = [alert] := by
    simp only [respond, insertAlert] at inserted
    (repeat' split at inserted) <;> cases inserted
    rw [clean.alerts]
    rfl
  apply leaves_statement
  intro n _ _ _ _
  have pending : watchEnqueues lacking ⟨answers n, middle, between, .commit []⟩ =
      lacking ++ [alert.id] := by
    simp [watchEnqueues, flushed]
  exact pending ▸ announced_leaves delivered wrong

theorem evaluateStockLevel_leaves (delivered : ∀ n, (answers n).brokerRaises = false)
    (clean : session.Clean) (unambiguous : (world.tables.activeAlerts inventory.pair).length ≤ 1) :
    (evaluateStockLevel settings inventory).Leaves watchEnqueues environment answers world session
      lacking (fun result _ _ later => Told settings inventory world lacking result later) := by
  have unwritten : ∀ {result : Option Alert},
      Agrees (stockCondition settings inventory) (world.tables.activeAlerts inventory.pair) →
      Told settings inventory world lacking result lacking :=
    fun agrees => ⟨fun _ => rfl, fun wrong => absurd agrees wrong⟩
  obtain ⟨next, evaluates, reconciles⟩ := evaluateStockLevel_cases settings inventory
  rw [evaluates]
  apply leaves_statement
  intro _ response after looking looked
  have still : looking.Clean := by
    cases looked
    exact ⟨⟨clean.rows, clean.inserted, clean.movements⟩, clean.alerts⟩
  have known : response = world.tables.activeAlerts inventory.pair := by
    cases looked
    rfl
  obtain ⟨existing, looksUp, found⟩ := scalarOneOrNone_unique unambiguous
  rw [← known] at looksUp
  change Program.Leaves _ _ _ ((scalarOneOrNone response).bind next) _ _ lacking _
  rw [looksUp, Program.ret_bind]
  have branch := reconciles existing
  generalize next existing = program at branch ⊢
  cases branch with
  | rest condition =>
      apply Program.leaves_ret
      apply unwritten
      rw [condition, found]
      rfl
  | @resolve alert condition =>
      refine (resolve_leaves still alert).bind ?_
      intro _ _ _ later same
      apply Program.leaves_ret
      constructor
      · exact fun _ => same
      · intro _ id
        simp [same]
  | retype condition different =>
      apply retype_leaves delivered still
      rw [found, condition]
      exact fun agrees => different (agrees.2 _ (by simp))
  | keep condition =>
      apply Program.leaves_ret
      apply unwritten
      rw [found, condition]
      exact ⟨by simp, by simp⟩
  | raise condition =>
      apply raise_leaves delivered still
      rw [found, condition]
      exact fun agrees => agrees.1 rfl

end Evaluation

section Sweeps

variable {rows more : List Inventory} {before middle : World} {later : List RowId}

/-- The rows call for the alert as it is, so evaluating them leaves it alone. -/
def CalledFor (settings : Settings) (rows : List Inventory) (alert : Alert) : Prop :=
  ∀ row ∈ rows, row.pair = alert.pair → stockCondition settings row = some alert.alertType

/-- After a part of a sweep, an active alert lacks an enqueue only if it did before and
was left alone. -/
structure Caught (settings : Settings) (rows : List Inventory) (before : World)
    (lacking : List RowId) (after : World) (later : List RowId) : Prop where
  kept : ∀ alert ∈ before.tables.alerts, alert.status = .ACTIVE → CalledFor settings rows alert →
    alert ∈ after.tables.alerts
  lacking : ∀ alert ∈ after.tables.alerts, alert.status = .ACTIVE →
    (alert.id ∈ later ↔
      alert.id ∈ lacking ∧ alert ∈ before.tables.alerts ∧ CalledFor settings rows alert)

theorem Caught.trans {sofar : List RowId} (first : Caught settings rows before lacking middle sofar)
    (second : Caught settings more middle sofar after later) :
    Caught settings (rows ++ more) before lacking after later := by
  have both : ∀ alert, CalledFor settings (rows ++ more) alert ↔
      CalledFor settings rows alert ∧ CalledFor settings more alert :=
    fun _ => List.forall_mem_append
  constructor
  · intro alert stored active calledFor
    obtain ⟨early, late⟩ := (both alert).mp calledFor
    exact second.kept alert (first.kept alert stored active early) active late
  · intro alert stored active
    rw [second.lacking alert stored active, both]
    constructor
    · intro holds
      obtain ⟨lacks, between, late⟩ := holds
      obtain ⟨lacked, earlier, early⟩ := (first.lacking alert between active).mp lacks
      exact ⟨lacked, earlier, early, late⟩
    · intro holds
      obtain ⟨lacked, earlier, early, late⟩ := holds
      have between := first.kept alert earlier active early
      exact ⟨(first.lacking alert between active).mpr ⟨lacked, earlier, early⟩, between, late⟩

/-- An alert that the row calls for is the only one, and right. -/
theorem CalledFor.agrees {alert : Alert} (calledFor : CalledFor settings [row] alert)
    (unambiguous : (world.tables.activeAlerts row.pair).length ≤ 1)
    (stored : alert ∈ world.tables.activeAlerts row.pair) :
    Agrees (stockCondition settings row) (world.tables.activeAlerts row.pair) := by
  have condition := calledFor row List.mem_cons_self (mem_activeAlerts.mp stored).2.1.symm
  match found : world.tables.activeAlerts row.pair, unambiguous with
  | [only], _ =>
      rw [found, List.mem_singleton] at stored
      subst stored
      rw [condition]
      exact ⟨by simp, by simp⟩
  | [], _ =>
      rw [found] at stored
      cases stored

/-- Nothing is written, and the row calls for the alerts as they are. -/
theorem caught_settled (right : Agrees (stockCondition settings row)
    (before.tables.activeAlerts row.pair)) : Caught settings [row] before lacking before lacking := by
  have calledFor : ∀ alert ∈ before.tables.alerts, alert.status = .ACTIVE →
      CalledFor settings [row] alert := by
    intro alert stored active other member same
    rw [List.mem_singleton.mp member] at same ⊢
    have mine := mem_activeAlerts.mpr ⟨stored, same.symm, active⟩
    cases condition : stockCondition settings row with
    | none =>
        rw [condition] at right
        rw [show before.tables.activeAlerts row.pair = [] from right] at mine
        cases mine
    | some alertType =>
        rw [condition] at right
        rw [right.2 alert mine]
  constructor
  · exact fun alert stored _ _ => stored
  · intro alert stored active
    simp [stored, calledFor alert stored active]

/-- The alert written is announced, and the row called for no other. -/
theorem Evaluated.caught_written {result : Option Alert}
    (evaluated : Evaluated settings row before session result after updated)
    (told : Told settings row before lacking result later) (valid : after.Valid)
    (unambiguous : (before.tables.activeAlerts row.pair).length ≤ 1)
    (wrong : ¬ Agrees (stockCondition settings row) (before.tables.activeAlerts row.pair)) :
    Caught settings [row] before lacking after later := by
  have elsewhere : ∀ alert : Alert, alert.status = .ACTIVE → alert.pair ≠ row.pair →
      (alert ∈ after.tables.alerts ↔ alert ∈ before.tables.alerts) := by
    intro alert active other
    have same := evaluated.elsewhere alert.pair other.symm
    have mine : alert ∈ after.tables.activeAlerts alert.pair ↔
        alert ∈ before.tables.activeAlerts alert.pair := by rw [same]
    simpa [mem_activeAlerts, active] using mine
  have uncalled : ∀ alert ∈ before.tables.alerts, alert.status = .ACTIVE →
      CalledFor settings [row] alert → alert.pair ≠ row.pair :=
    fun alert stored active calledFor same => wrong
      (calledFor.agrees unambiguous (mem_activeAlerts.mpr ⟨stored, same, active⟩))
  constructor
  · intro alert stored active calledFor
    exact (elsewhere alert active (uncalled alert stored active calledFor)).mpr stored
  · intro alert stored active
    rw [told.written wrong]
    by_cases here : alert.pair = row.pair
    · have mine := mem_activeAlerts.mpr ⟨stored, here, active⟩
      rw [evaluated.active, Option.mem_toList] at mine
      constructor
      · intro holds
        obtain ⟨_, others⟩ := holds
        exact absurd rfl (others alert mine)
      · intro holds
        obtain ⟨_, before, calledFor⟩ := holds
        exact absurd here (uncalled alert before active calledFor)
    · have unrelated : CalledFor settings [row] alert := by
        intro other member same
        rw [List.mem_singleton.mp member] at same
        exact absurd same.symm here
      have others : ∀ other ∈ result, other.id ≠ alert.id := by
        intro other written same
        have listed := Option.mem_toList.mpr written
        rw [← evaluated.active, mem_activeAlerts] at listed
        obtain ⟨storedToo, pair, _⟩ := listed
        obtain rfl := List.inj_on_of_nodup_map valid.alerts_unique storedToo stored same
        exact here pair
      simp only [(elsewhere alert active here).mp stored, unrelated, and_true,
        and_iff_left_iff_imp]
      exact fun _ => others

theorem Evaluated.caught {result : Option Alert}
    (evaluated : Evaluated settings row before session result after updated)
    (told : Told settings row before lacking result later) (valid : after.Valid)
    (unambiguous : (before.tables.activeAlerts row.pair).length ≤ 1) :
    Caught settings [row] before lacking after later := by
  by_cases right : Agrees (stockCondition settings row) (before.tables.activeAlerts row.pair)
  · obtain ⟨rfl, _⟩ := evaluated.settled right
    rw [told.kept right]
    exact caught_settled right
  · exact evaluated.caught_written told valid unambiguous right

/-- What a sweep whose enqueues all succeed can be observed to do. -/
theorem tracks_caught (settings : Settings) (delivered : ∀ n, (answers n).brokerRaises = false) :
    Tracks watchEnqueues (Caught settings) settings answers where
  nothing := fun world lacking =>
    ⟨fun alert stored _ _ => stored, fun alert stored _ => by simp [stored, CalledFor]⟩
  page := fun _ _ _ _ _ _ => rfl
  evaluation := by
    intro world session row lacking _ clean unambiguous elapsed result after updated steps ran
      evaluated valid
    exact evaluated.caught
      (evaluateStockLevel_leaves delivered clean unambiguous elapsed _ _ _ _ ran) valid unambiguous
  trans := fun _ _ _ _ _ _ _ _ first second => first.trans second

end Sweeps

theorem Watched.invariant {unnotified : List RowId}
    (reached : Watched settings start unnotified world lacking) (valid : start.Valid)
    (atMostOne : AtMostOneActive start.tables) : world.Valid ∧ AtMostOneActive world.tables := by
  induction reached with
  | start => exact ⟨valid, atMostOne⟩
  | request _ request answers _ ih => exact request_alone settings answers request ih.1 ih.2

/-- A later complete sweep leaves no active alert without an enqueue if and only if the
stock of every one of them that lacks it calls for something else. -/
theorem notified_after_sweep_iff (settings : Settings) (start : World) (valid : start.Valid)
    (atMostOne : AtMostOneActive start.tables) (unnotified : List RowId) (world : World)
    (lacking : List RowId) (reached : Watched settings start unnotified world lacking)
    (answers : Nat → Answer) (orders : Nat → RowOrder) (fuel : Nat)
    (sweep : CompleteSweep answers orders world fuel)
    (delivered : ∀ n, (answers n).brokerRaises = false) :
    Notified (runAlone answers world (checkLowStockLevels settings fuel)).shared.tables
        ((checkLowStockLevels settings fuel).observed watchEnqueues environment answers 0 world {}
          lacking) ↔
      ∀ alert ∈ world.tables.alerts, alert.status = .ACTIVE → alert.id ∈ lacking →
        ∃ row ∈ world.tables.inventories, row.pair = alert.pair ∧
          stockCondition settings row ≠ some alert.alertType := by
  obtain ⟨validNow, uniqueNow⟩ := reached.invariant valid atMostOne
  obtain ⟨pages, rfl, enough⟩ := sweep_pages sweep.enough
  have yields : (checkLowStockLevels settings (pages + 1)).Yields watchEnqueues environment answers
      world {} lacking _ :=
    sweepPages_tracked sweep.healthy sweep.ordered (tracks_caught settings delivered) validNow
      (sweeping_start settings) (by simp) (fun row _ => uniqueNow row.pair) (by omega)
  obtain ⟨summary, after, updated, steps, ran, _, caught⟩ := yields 0
  rw [runAlone, ran]
  constructor
  · intro notified alert stored active lacks
    by_contra none
    have calledFor : CalledFor settings (sweptRows orders world.tables pages 0) alert := by
      intro row seen same
      by_contra other
      exact none ⟨row, mem_sweptRows seen, same, other⟩
    have still := caught.kept alert stored active calledFor
    exact notified alert still active
      ((caught.lacking alert still active).mpr ⟨lacks, stored, calledFor⟩)
  · intro uncalled alert stored active lacks
    obtain ⟨lacked, before, calledFor⟩ := (caught.lacking alert stored active).mp lacks
    obtain ⟨row, member, same, other⟩ := uncalled alert before active lacked
    exact other (calledFor row (sweep.complete row member) same)

/-! A receipt of three units raises an alert, and the broker refuses its task or not; a
sweep follows. -/

def Sample.receipt : Transaction Reply :=
  Request.program {} (.movement Sample.receive3 none)

def Sample.notifiedBy (accepts : Bool) : Nat → Answer := fun _ => { brokerRaises := !accepts }

def Sample.lowAfter (accepts : Bool) : World :=
  (runAlone (Sample.notifiedBy accepts) Sample.world Sample.receipt).shared

def Sample.lackingAfter (accepts : Bool) : List RowId :=
  Sample.receipt.observed watchEnqueues environment (Sample.notifiedBy accepts) 0 Sample.world {} []

theorem Sample.lowAfter_watched (accepts : Bool) :
    Watched {} Sample.world [] (Sample.lowAfter accepts) (Sample.lackingAfter accepts) :=
  .request .start _ _ (fun _ => rfl)

theorem Sample.lowAfter_sweep (accepts : Bool) :
    CompleteSweep (fun _ => {}) (fun _ => .stored) (Sample.lowAfter accepts) 2 where
  healthy := fun _ => rfl
  ordered := fun _ => rfl
  enough := by cases accepts <;> decide +kernel
  complete := by cases accepts <;> decide +kernel

theorem notified_after_sweep_iff_accepted :
    Notified (runAlone (fun _ => {}) (Sample.lowAfter true) (checkLowStockLevels {} 2)).shared.tables
      ((checkLowStockLevels {} 2).observed watchEnqueues environment (fun _ => {}) 0
        (Sample.lowAfter true) {} (Sample.lackingAfter true)) := by
  have nothing : Sample.lackingAfter true = [] := by decide +kernel
  apply (notified_after_sweep_iff {} Sample.world Sample.world_valid Sample.world_atMostOne [] _ _
    (Sample.lowAfter_watched true) _ _ _ (Sample.lowAfter_sweep true) (fun _ => rfl)).mpr
  rw [nothing]
  intro alert _ _ lacks
  cases lacks

/-- The sweep finds the right alert and leaves it alone. -/
theorem refused_notification_never_repeated :
    ¬ ∀ (settings : Settings) (start : World), start.Valid → AtMostOneActive start.tables →
      ∀ (unnotified : List RowId) world lacking, Watched settings start unnotified world lacking →
        ∀ answers orders fuel, CompleteSweep answers orders world fuel →
          (∀ n, (answers n).brokerRaises = false) →
          Notified (runAlone answers world (checkLowStockLevels settings fuel)).shared.tables
            ((checkLowStockLevels settings fuel).observed watchEnqueues environment answers 0 world
              {} lacking) := by
  intro notified
  have told := notified {} Sample.world Sample.world_valid Sample.world_atMostOne [] _ _
    (Sample.lowAfter_watched false) _ _ _ (Sample.lowAfter_sweep false) (fun _ => rfl)
  revert told
  unfold Notified
  decide +kernel

end InventoryManagement
