import InventoryManagement.Services.AlertAlone

/-! One call of `evaluate_stock_level` alone: the alert it leaves, everything it leaves as
it was, and the second call that has nothing left to do. -/

set_option autoImplicit false

namespace InventoryManagement

open Interleaving (Program)

variable {settings : Settings} {inventory : Inventory} {world after : World} {session : Session}
variable {tables : Tables} {dirty : List (RowId × AlertChange)} {target : Alert}
variable {change : AlertChange}

/-- What an evaluation leaves of the tables. -/
structure InLine (settings : Settings) (inventory : Inventory) (before : Tables)
    (result : Option Alert) (after : Tables) : Prop where
  active : after.activeAlerts inventory.pair = result.toList
  isSome_iff : result.isSome = true ↔ inventory.quantity ≤ effectiveThreshold settings inventory
  outOfStock : ∀ alert ∈ result, (alert.alertType = .OUT_OF_STOCK ↔ inventory.quantity = 0)
  existing : ∀ existing ∈ before.activeAlerts inventory.pair,
    after.alerts.map (·.id) = before.alerts.map (·.id) ∧
      (result = some existing ∨
        (∃ alertType, result =
          some (AlertChange.apply (.retype alertType inventory.quantity) existing)) ∨
        result = none ∧ ∃ now, AlertChange.apply (.resolve now) existing ∈ after.alerts)
  elsewhere : after.alerts.filter (fun alert => alert.pair ≠ inventory.pair) =
    before.alerts.filter (fun alert => alert.pair ≠ inventory.pair)
  resolved : ∀ alert ∈ before.alerts, alert.status = .RESOLVED → alert ∈ after.alerts
  inventories : after.inventories = before.inventories
  movements : after.movements = before.movements
  products : after.products = before.products
  warehouses : after.warehouses = before.warehouses

/-- Without stock in its transaction a session commits alerts only. -/
theorem Tables.commit_unlocked (unlocked : session.Unlocked) : tables.commit session dirty =
    { tables with alerts := (tables.alerts ++ session.alerts).map (applyChanges dirty) } := by
  have stock : tables.inventories.map (fun row => (session.row? row.pair).getD row) =
      tables.inventories := by
    conv_rhs => rw [← List.map_id tables.inventories]
    apply List.map_congr_left
    intro row _
    simp [Session.row?, unlocked.rows]
  rw [Tables.commit, stock]
  simp [unlocked.rows, unlocked.movements]

theorem applyChanges_other (valid : world.Valid) (stored : target ∈ world.tables.alerts)
    {alert : Alert} (member : alert ∈ world.tables.alerts) (different : alert ≠ target) :
    applyChanges [(target.id, change)] alert = alert := by
  rw [applyChanges_single, if_neg]
  intro same
  exact different (List.inj_on_of_nodup_map valid.alerts_unique member stored same.symm)

/-- A change of one alert of a pair is none of another pair's alerts. -/
theorem filter_applyChanges (valid : world.Valid)
    (found : target ∈ world.tables.activeAlerts inventory.pair) :
    (world.tables.alerts.map (applyChanges [(target.id, change)])).filter
        (fun alert => alert.pair ≠ inventory.pair) =
      world.tables.alerts.filter (fun alert => alert.pair ≠ inventory.pair) := by
  obtain ⟨stored, here, _⟩ := mem_activeAlerts.mp found
  rw [List.filter_map]
  have pairs : (fun alert : Alert => decide (alert.pair ≠ inventory.pair)) ∘
      applyChanges [(target.id, change)] = fun alert => decide (alert.pair ≠ inventory.pair) := by
    funext alert
    rw [Function.comp_apply, applyChanges_pair]
  rw [pairs]
  conv_rhs => rw [← List.map_id (world.tables.alerts.filter _)]
  apply List.map_congr_left
  intro alert member
  obtain ⟨included, elsewhere⟩ := List.mem_filter.mp member
  apply applyChanges_other valid stored included
  intro same
  rw [same] at elsewhere
  exact of_decide_eq_true elsewhere here

section Written

variable {result : Option Alert}

/-- What is right of the alerts of the pair, and untouched elsewhere. -/
theorem InLine.of_agrees (active : after.tables.activeAlerts inventory.pair = result.toList)
    (agrees : Agrees (stockCondition settings inventory) result.toList)
    (existing : ∀ existing ∈ tables.activeAlerts inventory.pair,
      after.tables.alerts.map (·.id) = tables.alerts.map (·.id) ∧
        (result = some existing ∨
          (∃ alertType, result =
            some (AlertChange.apply (.retype alertType inventory.quantity) existing)) ∨
          result = none ∧ ∃ now, AlertChange.apply (.resolve now) existing ∈ after.tables.alerts))
    (elsewhere : after.tables.alerts.filter (fun alert => alert.pair ≠ inventory.pair) =
      tables.alerts.filter (fun alert => alert.pair ≠ inventory.pair))
    (resolved : ∀ alert ∈ tables.alerts, alert.status = .RESOLVED → alert ∈ after.tables.alerts)
    (same : after.tables = { tables with alerts := after.tables.alerts }) :
    InLine settings inventory tables result after.tables := by
  obtain ⟨exists_iff, types⟩ := agrees_iff.mp agrees
  refine ⟨active, ?_, ?_, existing, elsewhere, resolved, ?_, ?_, ?_, ?_⟩
  · rw [← exists_iff, Option.isSome_iff_exists]
    simp only [Option.mem_toList]
  · exact fun alert member => types alert (Option.mem_toList.mpr member)
  all_goals rw [same]

/-- An evaluation that changes the alert it found. -/
theorem InLine.changed (valid : world.Valid) (unlocked : session.Unlocked)
    (found : world.tables.activeAlerts inventory.pair = [target]) (created : session.alerts = [])
    (committed : after.tables = world.tables.commit session [(target.id, change)])
    (active : after.tables.activeAlerts inventory.pair = result.toList)
    (agrees : Agrees (stockCondition settings inventory) result.toList)
    (same : (∃ alertType, result =
        some (AlertChange.apply (.retype alertType inventory.quantity) target)) ∨
      result = none ∧ ∃ now, change = .resolve now) :
    InLine settings inventory world.tables result after.tables := by
  have member : target ∈ world.tables.activeAlerts inventory.pair := by
    rw [found]
    exact List.mem_singleton_self _
  obtain ⟨stored, _, isActive⟩ := mem_activeAlerts.mp member
  rw [Tables.commit_unlocked unlocked, created, List.append_nil] at committed
  have alerts : after.tables.alerts =
      world.tables.alerts.map (applyChanges [(target.id, change)]) := by rw [committed]
  refine .of_agrees active agrees ?_ ?_ ?_ ?_
  · intro existing here
    rw [found, List.mem_singleton] at here
    subst here
    refine ⟨?_, .inr (same.imp_right ?_)⟩
    · rw [alerts, List.map_map]
      exact List.map_congr_left (fun alert _ => applyChanges_id alert)
    · intro resolves
      obtain ⟨none, now, rfl⟩ := resolves
      refine ⟨none, now, alerts ▸ List.mem_map.mpr ⟨existing, stored, ?_⟩⟩
      rw [applyChanges_single, if_pos rfl]
  · rw [alerts, filter_applyChanges valid member]
  · intro alert old closed
    rw [alerts]
    refine List.mem_map.mpr ⟨alert, old, applyChanges_other valid stored old ?_⟩
    rintro rfl
    rw [isActive] at closed
    cases closed
  · rw [committed]

/-- An evaluation that creates an alert. -/
theorem InLine.created (unlocked : session.Unlocked)
    (found : world.tables.activeAlerts inventory.pair = []) (created : session.alerts = [target])
    (here : target.pair = inventory.pair)
    (committed : after.tables = world.tables.commit session [])
    (active : after.tables.activeAlerts inventory.pair = result.toList)
    (agrees : Agrees (stockCondition settings inventory) result.toList) :
    InLine settings inventory world.tables result after.tables := by
  rw [Tables.commit_unlocked unlocked, created, applyChanges_nil, List.map_id] at committed
  have alerts : after.tables.alerts = world.tables.alerts ++ [target] := by rw [committed]
  refine .of_agrees active agrees ?_ ?_ ?_ ?_
  · intro existing member
    rw [found] at member
    cases member
  · simp [alerts, here]
  · intro alert old _
    rw [alerts]
    exact List.mem_append_left _ old
  · rw [committed]

/-- Every effect of an evaluation brings its pair in line. -/
theorem Effect.inLine (effect : Effect settings inventory world result after) (valid : world.Valid) :
    InLine settings inventory world.tables result after.tables := by
  have evaluated : Evaluated settings inventory world {} result after {} :=
    effect.evaluated valid (fun _ => rfl)
  have agrees := evaluated.agrees
  cases effect with
  | rest found _ =>
      refine .of_agrees found agrees ?_ rfl (fun _ stored _ => stored) rfl
      intro existing member
      rw [found, Option.mem_toList] at member
      exact ⟨rfl, .inl member⟩
  | @write found dirty _ middle _ unlocked decision accurate committed active =>
      generalize created : middle.alerts = alerts at decision
      cases decision with
      | @resolve alert now condition =>
          rw [condition] at agrees
          have none : result = none := by simpa [Agrees] using agrees
          exact .changed valid unlocked accurate.symm created committed active
            (by rw [condition]; exact agrees) (.inr ⟨none, now, rfl⟩)
      | @retype alert alertType condition different =>
          refine .changed valid unlocked accurate.symm created committed active agrees
            (.inl ⟨alertType, ?_⟩)
          have kept : (AlertChange.apply (.retype alertType inventory.quantity) alert).isActive =
              true := by
            have member : alert ∈ world.tables.activeAlerts inventory.pair := by
              rw [← accurate]
              exact List.mem_singleton_self _
            exact (Bool.and_eq_true_iff.mp (List.mem_filter.mp member).2).2
          rw [committed, Tables.activeAlerts_commit, ← accurate, created] at active
          have one : [AlertChange.apply (.retype alertType inventory.quantity) alert] =
              result.toList := by
            simpa [applyChanges_single, kept] using active
          rw [← Option.toList_eq_singleton_iff, one]
      | create here _ _ =>
          exact .created unlocked accurate.symm created here committed active agrees

end Written

/-- A right alert is left alone. -/
theorem evaluate_again {answers : Nat → Answer} (healthy : ∀ n, (answers n).fails = false)
    {result : Option Alert} (valid : world.Valid) (stored : inventory ∈ world.tables.inventories)
    (clean : session.Clean)
    (active : world.tables.activeAlerts inventory.pair = result.toList)
    (agrees : Agrees (stockCondition settings inventory) result.toList) :
    (evaluateStockLevel settings inventory).Returns environment answers world session
      (fun again after updated => again = result ∧ after = world ∧
        updated.commits = session.commits) := by
  refine (evaluateStockLevel_alone healthy valid clean (valid.inventories_fit _ stored)
    (valid.inventories_refer _ stored) ?_).mono ?_
  · rw [active]
    cases result <;> simp
  · intro again after updated evaluated
    obtain ⟨rfl, commits⟩ := evaluated.settled (active ▸ agrees)
    have same : again.toList = result.toList := evaluated.active.symm.trans active
    have mem_iff : ∀ alert, alert ∈ again ↔ alert ∈ result := fun alert =>
      Option.mem_toList.symm.trans (Iff.trans (by rw [same]) Option.mem_toList)
    exact ⟨Option.ext mem_iff, rfl, commits⟩

/-- One evaluation alone brings the alerts of its pair in line and leaves the rest as it
was; a second one does nothing. -/
theorem evaluation_in_line (settings : Settings) (world : World) (valid : world.Valid)
    (atMostOne : AtMostOneActive world.tables) (inventory : Inventory)
    (stored : inventory ∈ world.tables.inventories) (answers : Nat → Answer)
    (healthy : ∀ n, (answers n).fails = false) (session : Session) (clean : session.Clean) :
    (evaluateStockLevel settings inventory).Returns environment answers world session
      (fun result after _ => InLine settings inventory world.tables result after.tables ∧
        ∀ (answers : Nat → Answer) (session : Session), (∀ n, (answers n).fails = false) →
          session.Clean → (evaluateStockLevel settings inventory).Returns environment answers after
            session (fun again later updated => again = result ∧ later = after ∧
              updated.commits = session.commits)) := by
  refine ((evaluateStockLevel_effect healthy valid clean (valid.inventories_fit _ stored)
    (valid.inventories_refer _ stored) (atMostOne _)).disciplined databaseDiscipline valid
      (clean.sound world)).mono ?_
  intro result after updated ensured
  obtain ⟨⟨effect, _, commits⟩, validAfter, _⟩ := ensured
  have evaluated := effect.evaluated valid commits
  have inLine := effect.inLine valid
  refine ⟨inLine, fun answers session healthy clean => ?_⟩
  exact evaluate_again healthy validAfter (inLine.inventories ▸ stored) clean evaluated.active
    evaluated.agrees

def Sample.lowRow : Inventory where
  productId := Sample.product.id
  warehouseId := Sample.main.id
  quantity := 5

theorem evaluation_in_line_low :
    (evaluateStockLevel {} Sample.lowRow).Returns environment (fun _ => {}) Sample.stocked {}
      (fun result after _ => result.isSome = true ∧
        after.tables.activeAlerts Sample.lowRow.pair = result.toList ∧
        (evaluateStockLevel {} Sample.lowRow).Returns environment (fun _ => {}) after {}
          (fun again later _ => again = result ∧ later = after)) := by
  refine (evaluation_in_line {} Sample.stocked Sample.stocked_valid Sample.stocked_atMostOne
    Sample.lowRow List.mem_cons_self (fun _ => {}) (fun _ => rfl) {} ⟨⟨rfl, rfl, rfl⟩, rfl⟩).mono ?_
  intro result after _ ensured
  obtain ⟨inLine, again⟩ := ensured
  refine ⟨inLine.isSome_iff.mpr (by decide), inLine.active, ?_⟩
  exact (again (fun _ => {}) {} (fun _ => rfl) ⟨⟨rfl, rfl, rfl⟩, rfl⟩).mono
    (fun _ _ _ same => ⟨same.1, same.2.1⟩)

end InventoryManagement
