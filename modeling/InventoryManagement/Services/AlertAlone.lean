import InventoryManagement.Services.Atomicity
import InventoryManagement.Services.Quiescence

/-! One evaluation with nobody else active: it brings the alerts of its pair in
line with the stock level and touches nothing else. -/

set_option autoImplicit false

namespace InventoryManagement

open Interleaving (Guard Program)

variable {settings : Settings} {answers : Nat → Answer}
variable {world : World} {session : Session} {inventory : Inventory}

theorem Session.Clean.sound (clean : session.Clean) (world : World) : session.Sound world := by
  constructor <;> simp [clean.rows, clean.inserted, clean.movements, clean.alerts]

theorem World.Valid.alert?_of_mem (valid : world.Valid) {alert : Alert}
    (member : alert ∈ world.tables.alerts) : world.tables.alert? alert.id = some alert := by
  cases found : world.tables.alert? alert.id with
  | none =>
      have absent := List.find?_eq_none.mp found alert member
      simp at absent
  | some other =>
      have same : other.id = alert.id := by simpa using List.find?_some found
      rw [List.inj_on_of_nodup_map valid.alerts_unique (List.mem_of_find?_eq_some found) member same]

theorem scalarOneOrNone_unique {Row : Type} {rows : List Row} (unique : rows.length ≤ 1) :
    ∃ found, scalarOneOrNone rows = .ret found ∧ rows = found.toList := by
  match rows, unique with
  | [], _ => exact ⟨none, rfl, rfl⟩
  | [row], _ => exact ⟨some row, rfl, rfl⟩

/-- What an evaluation alone does: afterwards its result is the pair's only active
alert, and when nothing was wrong nothing has happened. -/
structure Evaluated (settings : Settings) (inventory : Inventory) (before : World)
    (session : Session) (result : Option Alert) (after : World) (updated : Session) : Prop where
  active : after.tables.activeAlerts inventory.pair = result.toList
  agrees : Agrees (stockCondition settings inventory) result.toList
  elsewhere : ∀ pair, inventory.pair ≠ pair →
    after.tables.activeAlerts pair = before.tables.activeAlerts pair
  settled : Agrees (stockCondition settings inventory) (before.tables.activeAlerts inventory.pair) →
    after = before ∧ updated.commits = session.commits

/-- What an evaluation does to the tables: nothing when its alert is right, and else the
write that it decides on. -/
inductive Effect (settings : Settings) (inventory : Inventory) (before : World) :
    Option Alert → World → Prop where
  | rest {result : Option Alert}
      (found : before.tables.activeAlerts inventory.pair = result.toList)
      (agrees : Agrees (stockCondition settings inventory) result.toList) :
      Effect settings inventory before result before
  | write {found : List Alert} {dirty : List (RowId × AlertChange)} {result : Option Alert}
      {middle : Session} {after : World} (unlocked : middle.Unlocked)
      (decision : Decision settings inventory found dirty middle.alerts)
      (accurate : found = before.tables.activeAlerts inventory.pair)
      (tables : after.tables = before.tables.commit middle dirty)
      (active : after.tables.activeAlerts inventory.pair = result.toList) :
      Effect settings inventory before result after

/-- A decision is taken only when something is wrong. -/
theorem Decision.wrong {dirty : List (RowId × AlertChange)} {found created : List Alert}
    (decision : Decision settings inventory found dirty created) :
    ¬ Agrees (stockCondition settings inventory) found := by
  cases decision with
  | resolve condition => simp [condition, Agrees]
  | retype condition different => simpa [condition, Agrees] using different
  | create pair active condition => simp [condition, Agrees]

theorem Effect.evaluated {result : Option Alert} {after : World} {updated : Session}
    (effect : Effect settings inventory world result after) (valid : world.Valid)
    (commits : Agrees (stockCondition settings inventory)
      (world.tables.activeAlerts inventory.pair) → updated.commits = session.commits) :
    Evaluated settings inventory world session result after updated := by
  cases effect with
  | rest found agrees => exact ⟨found, agrees, fun _ _ => rfl, fun right => ⟨rfl, commits right⟩⟩
  | write unlocked decision accurate tables active =>
      refine ⟨active, ?_, ?_, fun right => absurd (accurate ▸ right) decision.wrong⟩
      · rw [← active, tables]
        exact decision.agrees accurate
      · intro pair other
        rw [tables]
        exact decision.elsewhere valid accurate other

private theorem changed {alert : Alert} {middle : Session} (valid : world.Valid)
    (clean : middle.Clean) (found : world.tables.activeAlerts inventory.pair = [alert])
    (change : AlertChange) :
    change.apply alert ∈ (world.tables.commit middle [(alert.id, change)]).alerts ∧
      (world.tables.commit middle [(alert.id, change)]).activeAlerts inventory.pair =
        [change.apply alert].filter Alert.isActive ∧
      World.Valid { world with tables := world.tables.commit middle [(alert.id, change)] } := by
  have applied : applyChanges [(alert.id, change)] alert = change.apply alert := by
    simp [applyChanges]
  have stored : alert ∈ world.tables.alerts := by
    have member : alert ∈ world.tables.activeAlerts inventory.pair := by rw [found]; simp
    exact (List.mem_filter.mp member).1
  refine ⟨mem_commit_alerts.mpr ⟨alert, .inl stored, applied⟩, ?_, valid.commit (clean.sound world)⟩
  rw [Tables.activeAlerts_commit, found, clean.alerts]
  simp [applied]

section Alone

variable (healthy : ∀ n, (answers n).fails = false)
include healthy

theorem publish_alone (event : InventoryEvent) :
    (publish event).Returns environment answers world session (fun _ after updated =>
      { world with published := world.published ++ [event] } = after ∧ session = updated) :=
  returns_statement healthy (fun _ => ⟨_, _, _, rfl,
    returns_statement healthy (fun _ => ⟨_, _, _, rfl, Program.returns_ret ⟨rfl, rfl⟩⟩)⟩)

theorem reactToAlert_alone (alert : Alert) :
    (reactToAlert alert).Returns environment answers world session (fun _ after updated =>
      after.tables = world.tables ∧ session = updated) := by
  refine (publish_alone healthy (alertEvent alert)).bind ?_
  intro _ _ _ ensured
  obtain ⟨rfl, rfl⟩ := ensured
  refine returns_statement healthy (fun n => ⟨_, _, _, rfl, ?_⟩)
  cases (answers n).brokerRaises <;> exact Program.returns_ret ⟨rfl, rfl⟩

theorem commitSession_alone {dirty : List (RowId × AlertChange)}
    (fits : dirty.all (fun change => change.2.fits) = true) :
    (commitSession dirty).Returns environment answers world session (fun _ after updated =>
      { world with tables := world.tables.commit session dirty } = after ∧ updated.Clean) := by
  refine returns_statement healthy (fun n => ?_)
  simp only [respond, commit, fits]
  exact ⟨_, _, _, rfl, Program.returns_ret ⟨rfl, ⟨rfl, rfl, rfl⟩, rfl⟩⟩

theorem refreshAlert_alone {alert : Alert} {id : RowId} (valid : world.Valid)
    (stored : alert ∈ world.tables.alerts) (same : alert.id = id) :
    (send (.refreshAlert id)).Returns environment answers world session
      (fun refreshed after updated => refreshed = alert ∧ world = after ∧ session = updated) := by
  subst same
  refine returns_statement healthy (fun n => ?_)
  simp only [respond, refreshAlert, valid.alert?_of_mem stored]
  exact ⟨_, _, _, rfl, Program.returns_ret ⟨rfl, rfl, rfl⟩⟩

theorem getActive_alone
    (unambiguous : (world.tables.activeAlerts inventory.pair).length ≤ 1) (clean : session.Clean) :
    (getActiveByProductAndWarehouse inventory.productId inventory.warehouseId).Returns environment
      answers world session (fun existing after updated => world = after ∧ updated.Clean ∧
        updated.commits = session.commits ∧
        world.tables.activeAlerts inventory.pair = existing.toList) := by
  refine returns_statement healthy (fun n => ⟨_, _, _, rfl, ?_⟩)
  obtain ⟨existing, looksUp, found⟩ := scalarOneOrNone_unique unambiguous
  change Program.Returns environment answers (scalarOneOrNone
    (world.tables.activeAlerts inventory.pair)) _ _ _
  rw [looksUp]
  exact Program.returns_ret
    ⟨rfl, ⟨⟨clean.rows, clean.inserted, clean.movements⟩, clean.alerts⟩, rfl, found⟩

theorem createAlert_alone {alertType : AlertType} {threshold : Int}
    (threshold_fits : Integer.fits threshold = true)
    (quantity_fits : Integer.fits inventory.quantity = true)
    (refers : world.tables.hasPair inventory.pair = true) (clean : session.Clean) :
    (createAlert {
        productId := inventory.productId, warehouseId := inventory.warehouseId, alertType, threshold
        quantityAtTrigger := inventory.quantity }).Returns environment answers world session
      (fun alert after updated => { world with nextId := world.nextId + 1 } = after ∧
        updated.Unlocked ∧ updated.alerts = [alert] ∧ alert.pair = inventory.pair ∧
        alert.isActive = true ∧ alert.alertType = alertType) := by
  refine returns_statement healthy (fun n => ?_)
  have refersToo : world.tables.hasPair (AlertValues.pair {
      productId := inventory.productId, warehouseId := inventory.warehouseId, alertType, threshold
      quantityAtTrigger := inventory.quantity }) = true := refers
  simp only [respond, insertAlert, refersToo, threshold_fits, quantity_fits]
  refine ⟨_, _, _, rfl, Program.returns_ret
    ⟨rfl, ⟨clean.rows, clean.inserted, clean.movements⟩, ?_, rfl, rfl, rfl⟩⟩
  rw [clean.alerts]
  rfl

theorem resolve_alone {alert : Alert} (valid : world.Valid)
    (clean : session.Clean) (found : world.tables.activeAlerts inventory.pair = [alert])
    (condition : stockCondition settings inventory = none) :
    (resolve alert).Returns environment answers world session
      (fun _ after updated => Effect settings inventory world none after ∧ updated.Clean) := by
  refine returns_statement healthy (fun n => ⟨_, _, _, rfl, ?_⟩)
  refine (commitSession_alone healthy rfl).bind ?_
  intro _ _ resolved ensured
  obtain ⟨rfl, cleanAfter⟩ := ensured
  obtain ⟨stored, active, validAfter⟩ := changed valid clean found (.resolve (answers n).now)
  refine (refreshAlert_alone healthy validAfter stored rfl).mono ?_
  intro refreshed _ _ ensured
  obtain ⟨_, rfl, rfl⟩ := ensured
  have decision : Decision settings inventory [alert] [(alert.id, .resolve (answers n).now)]
      session.alerts := by
    rw [clean.alerts]
    exact .resolve condition
  exact ⟨.write clean.toUnlocked decision found.symm rfl active, cleanAfter⟩

theorem retype_alone {alert : Alert} {alertType : AlertType}
    (valid : world.Valid) (clean : session.Clean) (fits : inventory.Fits)
    (found : world.tables.activeAlerts inventory.pair = [alert])
    (condition : stockCondition settings inventory = some alertType)
    (different : alert.alertType ≠ alertType) :
    (retypeAlert alert alertType inventory.quantity).Returns environment answers world session
      (fun result after updated => Effect settings inventory world result after ∧
        updated.Clean) := by
  refine (commitSession_alone healthy (by simp [AlertChange.fits, fits.quantity])).bind ?_
  intro _ _ retyped ensured
  obtain ⟨rfl, cleanAfter⟩ := ensured
  obtain ⟨stored, active, validAfter⟩ :=
    changed valid clean found (.retype alertType inventory.quantity)
  refine (refreshAlert_alone healthy validAfter stored rfl).bind ?_
  intro refreshed _ _ ensured
  obtain ⟨rfl, rfl, rfl⟩ := ensured
  refine (reactToAlert_alone healthy _).bind ?_
  intro _ after _ ensured
  obtain ⟨tables, rfl⟩ := ensured
  have decision : Decision settings inventory [alert]
      [(alert.id, .retype alertType inventory.quantity)] session.alerts := by
    rw [clean.alerts]
    exact .retype condition different
  refine Program.returns_ret ⟨.write clean.toUnlocked decision found.symm tables ?_, cleanAfter⟩
  have activeBefore : alert.isActive = true := by
    have member : alert ∈ world.tables.activeAlerts inventory.pair := by rw [found]; simp
    exact (Bool.and_eq_true_iff.mp (List.mem_filter.mp member).2).2
  rw [tables, active]
  refine List.filter_eq_self.mpr ?_
  intro other member
  rw [List.mem_singleton.mp member]
  exact activeBefore

theorem raise_alone {alertType : AlertType} (clean : session.Clean) (fits : inventory.Fits)
    (refers : world.tables.hasPair inventory.pair = true)
    (found : world.tables.activeAlerts inventory.pair = [])
    (condition : stockCondition settings inventory = some alertType) :
    (raiseAlert {
        productId := inventory.productId, warehouseId := inventory.warehouseId, alertType
        threshold := effectiveThreshold settings inventory
        quantityAtTrigger := inventory.quantity }).Returns environment answers world session
      (fun result after updated => Effect settings inventory world result after ∧
        updated.Clean) := by
  refine (createAlert_alone healthy (effectiveThreshold_fits settings fits) fits.quantity
    refers clean).bind ?_
  intro alert _ inserted ensured
  obtain ⟨rfl, unlocked, flushed, pair, active, type⟩ := ensured
  refine (commitSession_alone healthy rfl).bind ?_
  intro _ _ committed ensured
  obtain ⟨rfl, cleanAfter⟩ := ensured
  refine (reactToAlert_alone healthy _).bind ?_
  intro _ after _ ensured
  obtain ⟨tables, rfl⟩ := ensured
  have decision : Decision settings inventory [] [] inserted.alerts := by
    rw [flushed]
    exact .create pair active (condition.trans (congrArg some type.symm))
  refine Program.returns_ret ⟨.write unlocked decision found.symm tables ?_, cleanAfter⟩
  rw [tables]
  simp [Tables.activeAlerts_commit, found, flushed, pair, active, applyChanges_nil]

/-- With at most one active alert of its pair, an evaluation returns. -/
theorem evaluateStockLevel_effect (valid : world.Valid) (clean : session.Clean)
    (fits : inventory.Fits) (refers : world.tables.hasPair inventory.pair = true)
    (unambiguous : (world.tables.activeAlerts inventory.pair).length ≤ 1) :
    (evaluateStockLevel settings inventory).Returns environment answers world session
      (fun result after updated => Effect settings inventory world result after ∧
        updated.Clean ∧ (Agrees (stockCondition settings inventory)
          (world.tables.activeAlerts inventory.pair) → updated.commits = session.commits)) := by
  obtain ⟨next, evaluates, reconciles⟩ := evaluateStockLevel_cases settings inventory
  rw [evaluates]
  refine (getActive_alone healthy unambiguous clean).bind ?_
  intro existing _ middle ensured
  obtain ⟨rfl, still, commits, found⟩ := ensured
  have branch := reconciles existing
  generalize next existing = program at branch ⊢
  cases branch with
  | rest condition =>
      refine Program.returns_ret ⟨.rest found ?_, still, fun _ => commits⟩
      rw [condition]
      rfl
  | @resolve alert condition =>
      refine (resolve_alone healthy valid still found condition).bind ?_
      intro _ after updated ensured
      refine Program.returns_ret ⟨ensured.1, ensured.2, fun right => ?_⟩
      rw [found, condition] at right
      cases right
  | retype condition different =>
      refine (retype_alone healthy valid still fits found condition different).mono ?_
      intro result after updated ensured
      refine ⟨ensured.1, ensured.2, fun right => ?_⟩
      rw [found, condition] at right
      exact absurd (right.2 _ (by simp)) different
  | keep condition =>
      refine Program.returns_ret ⟨.rest found ?_, still, fun _ => commits⟩
      rw [condition]
      exact ⟨by simp, by simp⟩
  | raise condition =>
      refine (raise_alone healthy still fits refers found condition).mono ?_
      intro result after updated ensured
      refine ⟨ensured.1, ensured.2, fun right => ?_⟩
      rw [found, condition] at right
      exact absurd rfl right.1

theorem evaluateStockLevel_alone (valid : world.Valid) (clean : session.Clean)
    (fits : inventory.Fits) (refers : world.tables.hasPair inventory.pair = true)
    (unambiguous : (world.tables.activeAlerts inventory.pair).length ≤ 1) :
    (evaluateStockLevel settings inventory).Returns environment answers world session
      (Evaluated settings inventory world session) :=
  (evaluateStockLevel_effect healthy valid clean fits refers unambiguous).mono
    (fun _ _ _ ensured => ensured.1.evaluated valid ensured.2.2)

end Alone

end InventoryManagement
