import InventoryManagement.Services.ConductProperties

/-! The evaluation of one stock level, from its lookup to its announcements. -/

set_option autoImplicit false

namespace InventoryManagement

open Interleaving (Guard Outcome Program)

variable {settings : Settings} {request : Request}
variable {guard : Guard Statement Answer World Session}
variable {allowed : List Movement → Exception → Prop}
variable {session : Session} {world : World}

theorem stockCondition_some {inventory : Inventory} {alertType : AlertType}
    (condition : stockCondition settings inventory = some alertType) :
    inventory.quantity ≤ effectiveThreshold settings inventory ∧
      alertType = if inventory.quantity = 0 then .OUT_OF_STOCK else .LOW_STOCK := by
  unfold stockCondition at condition
  split at condition
  · cases condition
  · next low =>
      cases condition
      exact ⟨Int.not_lt.mp low, rfl⟩

/-- What an evaluation does once it knows the active alert of its pair. -/
inductive Reconciles (settings : Settings) (inventory : Inventory) :
    Option Alert → Transaction (Option Alert) → Prop where
  | rest (condition : stockCondition settings inventory = none) :
      Reconciles settings inventory none (.ret none)
  | resolve {alert : Alert} (condition : stockCondition settings inventory = none) :
      Reconciles settings inventory (some alert) ((resolve alert).bind (fun _ => .ret none))
  | retype {alert : Alert} {alertType : AlertType}
      (condition : stockCondition settings inventory = some alertType)
      (different : alert.alertType ≠ alertType) :
      Reconciles settings inventory (some alert) (retypeAlert alert alertType inventory.quantity)
  | keep {alert : Alert} (condition : stockCondition settings inventory = some alert.alertType) :
      Reconciles settings inventory (some alert) (.ret (some alert))
  | raise {alertType : AlertType} (condition : stockCondition settings inventory = some alertType) :
      Reconciles settings inventory none (raiseAlert {
        productId := inventory.productId, warehouseId := inventory.warehouseId, alertType
        threshold := effectiveThreshold settings inventory
        quantityAtTrigger := inventory.quantity })

/-- An evaluation is a lookup and one of five reactions to it. -/
theorem evaluateStockLevel_cases (settings : Settings) (inventory : Inventory) :
    ∃ next : Option Alert → Transaction (Option Alert),
      evaluateStockLevel settings inventory =
        (getActiveByProductAndWarehouse inventory.productId inventory.warehouseId).bind next ∧
      ∀ existing, Reconciles settings inventory existing (next existing) := by
  refine ⟨_, rfl, ?_⟩
  intro existing
  by_cases enough : inventory.quantity > effectiveThreshold settings inventory
  · have condition : stockCondition settings inventory = none := if_pos enough
    simp only [if_pos enough]
    cases existing with
    | none => exact .rest condition
    | some alert => exact .resolve condition
  · have condition : stockCondition settings inventory =
        some (if inventory.quantity = 0 then .OUT_OF_STOCK else .LOW_STOCK) := if_neg enough
    simp only [if_neg enough]
    cases existing with
    | none => exact .raise condition
    | some alert =>
        by_cases different :
            alert.alertType ≠ if inventory.quantity = 0 then .OUT_OF_STOCK else .LOW_STOCK
        · simp only [if_pos different]
          exact .retype condition different
        · simp only [if_neg different]
          exact .keep (condition.trans (congrArg some (not_not.mp different).symm))

/-- A session between two evaluations, or after the last one. -/
structure Resting (settings : Settings) (before : Session) (evaluated : List Pair)
    (session : Session) : Prop where
  clean : session.Clean
  settled : session.Settled settings
  objects : session.objects = before.objects
  commits : before.commits ≤ session.commits
  recorded : session.recorded = before.recorded
  touched : session.touched = before.touched
  lookups : session.lookups.map (·.pair) = before.lookups.map (·.pair) ++ evaluated

/-- A session that has looked up the alerts of `inventory` and not yet written. -/
structure Deciding (before : Session) (inventory : Inventory) (found : List Alert)
    (session : Session) (world : World) : Prop where
  unlocked : session.Unlocked
  objects : session.objects = before.objects
  commits : session.commits = before.commits
  recorded : session.recorded = before.recorded
  touched : session.touched = before.touched
  lookups : session.lookups.map (·.pair) = before.lookups.map (·.pair) ++ [inventory.pair]
  pending : session.pending = some ⟨inventory.pair, some inventory, found⟩
  known : ∀ alert ∈ found, ∃ stored ∈ world.tables.alerts, stored.id = alert.id
  refers : world.tables.hasPair inventory.pair = true

section Evaluation

variable {before : Session} {inventory : Inventory} {found : List Alert}

theorem known_stable {before after : World} {id : RowId} (relied : session.Rely before after)
    (known : ∃ stored ∈ before.tables.alerts, stored.id = id) :
    ∃ stored ∈ after.tables.alerts, stored.id = id := by
  obtain ⟨stored, member, rfl⟩ := known
  obtain ⟨later, kept, same, _⟩ := relied.alerts_kept stored member
  exact ⟨later, kept, same⟩

theorem Deciding.stable {earlier later : World}
    (deciding : Deciding before inventory found session earlier)
    (relied : session.Rely earlier later) : Deciding before inventory found session later :=
  { deciding with
    known := fun alert member => known_stable relied (deciding.known alert member)
    refers := by
      rw [Tables.hasPair_congr relied.products relied.warehouses]
      exact deciding.refers }

theorem Deciding.resting (deciding : Deciding before inventory found session world)
    (alerts : session.alerts = [])
    (agrees : Agrees (stockCondition settings inventory) found) :
    Resting settings before [inventory.pair] session where
  clean := ⟨deciding.unlocked, alerts⟩
  settled := by
    intro lookup object pending same
    rw [deciding.pending] at pending
    cases pending
    cases same
    exact agrees
  objects := deciding.objects
  commits := deciding.commits.ge
  recorded := deciding.recorded
  touched := deciding.touched
  lookups := deciding.lookups

/-- The commit an evaluation decided on. -/
theorem decision_conducted (permits : Permits guard allowed) {dirty : List (RowId × AlertChange)}
    (deciding : Deciding before inventory found session world)
    (decision : Decision settings inventory found dirty session.alerts)
    (fits : dirty.all (fun change => change.2.fits) = true) :
    Conducted settings request guard allowed
      (fun _ updated after => Resting settings before [inventory.pair] updated ∧
        updated.commits ≠ 0 ∧ ∀ alert ∈ found, ∃ stored ∈ after.tables.alerts, stored.id = alert.id)
      (commitSession dirty) session world := by
  refine conducted_call permits ?_
  intro current relied valid sound
  have deciding := deciding.stable relied
  refine ⟨.inr (.inl ⟨deciding.unlocked, _, inventory, deciding.pending, rfl, rfl, decision⟩), ?_⟩
  intro answer others _
  simp only [respond, commit, fits]
  refine ⟨fun error raised => (by cases raised), ?_⟩
  intro response after updated executed _ _
  cases executed
  refine ⟨⟨⟨⟨rfl, rfl, rfl⟩, rfl⟩, ?_, deciding.objects, ?_, ?_, ?_, deciding.lookups⟩,
    Nat.succ_ne_zero _, ?_⟩
  · intro lookup object pending
    cases pending
  · exact deciding.commits ▸ Nat.le_succ _
  · simp [deciding.unlocked.movements, deciding.recorded]
  · simp [deciding.unlocked.rows, deciding.touched]
  · intro alert member
    obtain ⟨stored, committed, same⟩ := deciding.known alert member
    exact ⟨applyChanges dirty stored, mem_commit_alerts.mpr ⟨stored, .inl committed, rfl⟩,
      (applyChanges_id stored).trans same⟩

theorem refreshAlert_conducted (permits : Permits guard allowed) {id : RowId}
    (clean : session.Clean) (settled : session.Settled settings)
    (known : ∃ stored ∈ world.tables.alerts, stored.id = id) :
    Conducted settings request guard allowed (fun _ updated _ => session = updated)
      (send (.refreshAlert id)) session world := by
  refine conducted_call permits ?_
  intro current relied valid sound
  refine ⟨⟨clean, settled⟩, fun answer others _ => ?_⟩
  obtain ⟨stored, member, same⟩ := known_stable relied known
  have present : (current.tables.alert? id).isSome = true := by
    simp only [Tables.alert?, List.find?_isSome]
    exact ⟨stored, member, by simpa using same⟩
  obtain ⟨alert, refreshed⟩ := Option.isSome_iff_exists.mp present
  simp only [respond, refreshAlert, refreshed]
  refine ⟨fun error raised => (by cases raised), ?_⟩
  intro response after updated executed _ _
  cases executed
  rfl

theorem publish_conducted (permits : Permits guard allowed) {event : InventoryEvent}
    (clean : session.Clean) (settled : session.Settled settings) (committed : session.commits ≠ 0) :
    Conducted settings request guard allowed (fun _ updated _ => session = updated)
      (publish event) session world := by
  refine conducted_quiet permits (fun _ => ⟨clean, settled, committed⟩)
    (fun _ _ _ => ⟨_, _, rfl, rfl, rfl⟩) ?_
  intro _ after _
  exact conducted_quiet permits (fun _ => ⟨clean, settled, committed⟩)
    (fun _ _ _ => ⟨_, _, rfl, rfl, rfl⟩) (fun _ _ _ => rfl)

/-- Whatever the handlers and the broker do, announcing an alert returns. -/
theorem reactToAlert_conducted (permits : Permits guard allowed) {alert : Alert}
    (clean : session.Clean) (settled : session.Settled settings) (committed : session.commits ≠ 0) :
    Conducted settings request guard allowed (fun _ updated _ => session = updated)
      (reactToAlert alert) session world := by
  refine conducted_bind _ (publish_conducted permits clean settled committed) ?_
  intro _ _ after same
  subst same
  refine conducted_quiet permits (fun _ => ⟨clean, settled, committed⟩)
    (fun _ _ _ => ⟨_, _, rfl, rfl, rfl⟩) ?_
  intro response last _
  cases response <;> rfl

/-- A request that is about to evaluate `inventory`, the object its session knows. -/
structure Evaluating (settings : Settings) (request : Request) (inventory : Inventory)
    (session : Session) (world : World) : Prop where
  clean : session.Clean
  settled : session.Settled settings
  evaluates : request.Evaluates session
  object : session.object? inventory.pair = some inventory
  fits : inventory.Fits
  refers : world.tables.hasPair inventory.pair = true

theorem effectiveThreshold_fits (settings : Settings) (fits : inventory.Fits) :
    Integer.fits (effectiveThreshold settings inventory) = true := by
  unfold effectiveThreshold
  cases threshold : inventory.lowStockThreshold with
  | none => exact settings.lowStockAlertThresholdDefault_fits
  | some value => exact fits.lowStockThreshold value threshold

/-- The lookup: several active alerts raise, one or none is what the rest acts on. -/
private theorem getActive_conducted (permits : Permits guard allowed)
    (evaluating : Evaluating settings request inventory session world) :
    Conducted settings request guard allowed
      (fun existing updated after => updated.alerts = [] ∧
        Deciding session inventory existing.toList updated after)
      (getActiveByProductAndWarehouse inventory.productId inventory.warehouseId) session world := by
  refine conducted_call permits ?_
  intro current relied valid sound
  refine ⟨⟨evaluating.clean, evaluating.settled, evaluating.evaluates, inventory,
    evaluating.object⟩, fun answer others permitted => ⟨fun error raised => (by cases raised), ?_⟩⟩
  intro response after updated executed _ _
  simp only [respond, selectActiveAlerts, Outcome.done.injEq] at executed
  obtain ⟨rfl, rfl, rfl⟩ := executed
  have object : session.object? (inventory.productId, inventory.warehouseId) = some inventory :=
    evaluating.object
  have refers : current.tables.hasPair inventory.pair = true := by
    rw [Tables.hasPair_congr relied.products relied.warehouses]
    exact evaluating.refers
  have found : ∀ existing : List Alert,
      current.tables.activeAlerts (inventory.productId, inventory.warehouseId) = existing →
      Deciding session inventory existing { session with
        lookups := session.lookups ++ [⟨inventory.pair, some inventory, existing⟩]
        pending := some ⟨inventory.pair, some inventory, existing⟩ } current := by
    intro existing same
    refine ⟨⟨evaluating.clean.rows, evaluating.clean.inserted, evaluating.clean.movements⟩,
      rfl, rfl, rfl, rfl, ?_, rfl, ?_, refers⟩
    · simp
    · intro alert member
      rw [← same] at member
      exact ⟨alert, (List.mem_filter.mp member).1, rfl⟩
  rw [object]
  cases active : current.tables.activeAlerts (inventory.productId, inventory.warehouseId) with
  | nil => exact ⟨evaluating.clean.alerts, found [] active⟩
  | cons first rest =>
      cases rest with
      | nil => exact ⟨evaluating.clean.alerts, found [first] active⟩
      | cons second remaining =>
          refine .inr (permits.ambiguous answer others current session _ _ permitted ?_)
          simp [active]

private theorem createAlert_conducted (permits : Permits guard allowed) {values : AlertValues}
    (deciding : Deciding before inventory found session world) (alerts : session.alerts = [])
    (pair : values.pair = inventory.pair) (threshold : Integer.fits values.threshold = true)
    (quantity : Integer.fits values.quantityAtTrigger = true) :
    Conducted settings request guard allowed
      (fun alert updated after => Deciding before inventory found updated after ∧
        updated.alerts = [alert] ∧ alert.pair = inventory.pair ∧ alert.isActive = true ∧
        alert.alertType = values.alertType)
      (createAlert values) session world := by
  refine conducted_call permits ?_
  intro current relied valid sound
  have deciding := deciding.stable relied
  refine ⟨⟨deciding.unlocked, alerts⟩, fun answer others _ => ?_⟩
  have refers : current.tables.hasPair values.pair = true := by
    rw [pair]
    exact deciding.refers
  simp only [respond, insertAlert, refers, threshold, quantity]
  refine ⟨fun error raised => (by cases raised), ?_⟩
  intro response after updated executed _ _
  cases executed
  refine ⟨⟨?_, deciding.objects, deciding.commits, deciding.recorded, deciding.touched, deciding.lookups,
    deciding.pending, deciding.known, deciding.refers⟩, ?_, pair, rfl, rfl⟩
  · exact ⟨deciding.unlocked.rows, deciding.unlocked.inserted, deciding.unlocked.movements⟩
  · rw [alerts]
    rfl

private theorem resolve_conducted (permits : Permits guard allowed) {alert : Alert}
    (deciding : Deciding before inventory [alert] session world) (alerts : session.alerts = [])
    (condition : stockCondition settings inventory = none) :
    Conducted settings request guard allowed
      (fun _ updated _ => Resting settings before [inventory.pair] updated)
      (resolve alert) session world := by
  refine conducted_bind (fun _ updated after => session = updated ∧ session.Rely world after)
    (conducted_quiet permits (fun _ => ⟨deciding.unlocked, alerts⟩)
      (fun _ _ _ => ⟨_, _, rfl, rfl, rfl⟩) (fun _ _ relied => ⟨rfl, relied⟩)) ?_
  intro now _ later ensured
  obtain ⟨rfl, relied⟩ := ensured
  have decision : Decision settings inventory [alert] [(alert.id, .resolve now)]
      session.alerts := by
    rw [alerts]
    exact .resolve condition
  refine conducted_bind _
    (decision_conducted permits (deciding.stable relied) decision rfl) ?_
  intro _ resolved final ensured
  obtain ⟨resting, _, known⟩ := ensured
  refine Program.verified_mono (refreshAlert_conducted permits resting.clean resting.settled
    (known alert (by simp))) ?_
  intro _ _ _ same
  subst same
  exact resting

private theorem retype_conducted (permits : Permits guard allowed) {alert : Alert}
    {alertType : AlertType} (deciding : Deciding before inventory [alert] session world)
    (alerts : session.alerts = []) (fits : inventory.Fits)
    (condition : stockCondition settings inventory = some alertType)
    (different : alert.alertType ≠ alertType) :
    Conducted settings request guard allowed
      (fun _ updated _ => Resting settings before [inventory.pair] updated)
      (retypeAlert alert alertType inventory.quantity) session world := by
  have decision : Decision settings inventory [alert]
      [(alert.id, .retype alertType inventory.quantity)] session.alerts := by
    rw [alerts]
    exact .retype condition different
  refine conducted_bind _ (decision_conducted permits deciding decision
    (by simp [AlertChange.fits, fits.quantity])) ?_
  intro _ retyped final ensured
  obtain ⟨resting, committed, known⟩ := ensured
  refine conducted_bind _ (refreshAlert_conducted permits resting.clean resting.settled
    (known alert (by simp))) ?_
  intro refreshed _ last same
  subst same
  refine conducted_bind _ (reactToAlert_conducted permits resting.clean resting.settled
    committed) ?_
  intro _ _ _ same
  subst same
  exact resting

private theorem raise_conducted (permits : Permits guard allowed) {values : AlertValues}
    (deciding : Deciding before inventory [] session world) (alerts : session.alerts = [])
    (pair : values.pair = inventory.pair) (threshold : Integer.fits values.threshold = true)
    (quantity : Integer.fits values.quantityAtTrigger = true)
    (condition : stockCondition settings inventory = some values.alertType) :
    Conducted settings request guard allowed
      (fun _ updated _ => Resting settings before [inventory.pair] updated)
      (raiseAlert values) session world := by
  refine conducted_bind _
    (createAlert_conducted permits deciding alerts pair threshold quantity) ?_
  intro alert inserted middle ensured
  obtain ⟨deciding, flushed, pair, active, type⟩ := ensured
  have decision : Decision settings inventory [] [] inserted.alerts := by
    rw [flushed]
    exact .create pair active (condition.trans (congrArg some type.symm))
  refine conducted_bind _ (decision_conducted permits deciding decision rfl) ?_
  intro _ created final ensured
  obtain ⟨resting, committed, _⟩ := ensured
  refine conducted_bind _ (reactToAlert_conducted permits resting.clean resting.settled
    committed) ?_
  intro _ _ _ same
  subst same
  exact resting

theorem evaluateStockLevel_conducted (permits : Permits guard allowed)
    (evaluating : Evaluating settings request inventory session world) :
    Conducted settings request guard allowed
      (fun _ updated _ => Resting settings session [inventory.pair] updated)
      (evaluateStockLevel settings inventory) session world := by
  obtain ⟨next, evaluates, reconciles⟩ := evaluateStockLevel_cases settings inventory
  rw [evaluates]
  refine conducted_bind _ (getActive_conducted permits evaluating) ?_
  intro existing updated after ensured
  obtain ⟨alerts, deciding⟩ := ensured
  have branch := reconciles existing
  generalize next existing = program at branch ⊢
  cases branch with
  | rest condition => exact deciding.resting alerts (by rw [condition]; rfl)
  | resolve condition =>
      exact conducted_bind _ (resolve_conducted permits deciding alerts condition)
        (fun _ _ _ resting => resting)
  | retype condition different =>
      exact retype_conducted permits deciding alerts evaluating.fits condition different
  | keep condition =>
      refine deciding.resting alerts ?_
      rw [condition]
      exact ⟨by simp, by simp⟩
  | raise condition =>
      exact raise_conducted permits deciding alerts rfl
        (effectiveThreshold_fits settings evaluating.fits) evaluating.fits.quantity condition

end Evaluation

end InventoryManagement
