import InventoryManagement.Services.ActiveAlerts

/-! Alerts against stock once every request has finished. A stock change leaves a
debt: some session that still has to evaluate the pair. The invariant says that a
pair's alerts agree with its stock or that its debt is in good hands. -/

set_option autoImplicit false

namespace InventoryManagement

open Interleaving (Guard Program System Reachable Thread)

/-- For every inventory row: an active alert exists exactly when the stock is at or
below its threshold, and active alerts say whether it has run out. -/
def AlertsAgree (settings : Settings) (tables : Tables) : Prop :=
  ∀ row ∈ tables.inventories,
    ((∃ alert, alert ∈ tables.activeAlerts row.pair) ↔
      row.quantity ≤ effectiveThreshold settings row) ∧
    ∀ alert ∈ tables.activeAlerts row.pair,
      (alert.alertType = .OUT_OF_STOCK ↔ row.quantity = 0)

/-- An inventory object that calls for the same alert as the stored row. -/
def Fresh (settings : Settings) (tables : Tables) (object : Option Inventory) (pair : Pair) :
    Prop :=
  ∀ row ∈ tables.inventoriesOf pair,
    object.map (stockCondition settings) = some (stockCondition settings row)

/-- A session that committed stock of a pair, has not looked up its alerts yet, and
still has the stored stock in hand. -/
structure Session.WillEvaluate (settings : Settings) (tables : Tables) (pair : Pair)
    (session : Session) : Prop where
  touched : pair ∈ session.touched
  ahead : pair ∉ session.lookups.map (·.pair)
  fresh : Fresh settings tables (session.object? pair) pair

/-- No failures; lookups are unambiguous; and an evaluation commits only while its
lookup is accurate and either its stock is the stored one or somebody else is still
going to evaluate the stored stock. -/
def evaluatesCurrentStock (settings : Settings) : Guard Statement Answer World Session :=
  fun answer others world session statement => answer.fails = false ∧
    (∀ pair ∈ statement.lookup?, (world.tables.activeAlerts pair).length ≤ 1) ∧
    ∀ _dirty ∈ statement.dirty?, ∀ lookup ∈ session.pending,
      lookup.found = world.tables.activeAlerts lookup.pair ∧
      (Fresh settings world.tables lookup.object lookup.pair ∨
        ∃ other ∈ others, other.WillEvaluate settings world.tables lookup.pair)

/-- A session that has looked up a pair accurately and is about to write. -/
structure Session.Decides (settings : Settings) (tables : Tables) (pair : Pair)
    (session : Session) : Prop where
  lookup : ∃ lookup, session.pending = some lookup ∧ lookup.pair = pair ∧
    Fresh settings tables lookup.object pair ∧ lookup.found = tables.activeAlerts pair
  unsettled : ¬ session.Settled settings

def PairAgrees (settings : Settings) (tables : Tables) (pair : Pair) : Prop :=
  ∀ row ∈ tables.inventoriesOf pair,
    Agrees (stockCondition settings row) (tables.activeAlerts pair)

section Agreement

variable {settings : Settings} {tables : Tables}

theorem agrees_iff {row : Inventory} {alerts : List Alert} :
    Agrees (stockCondition settings row) alerts ↔
      ((∃ alert, alert ∈ alerts) ↔ row.quantity ≤ effectiveThreshold settings row) ∧
        ∀ alert ∈ alerts, (alert.alertType = .OUT_OF_STOCK ↔ row.quantity = 0) := by
  by_cases enough : row.quantity > effectiveThreshold settings row
  · have few : ¬ row.quantity ≤ effectiveThreshold settings row := by omega
    simp only [stockCondition, if_pos enough, Agrees, few, iff_false]
    constructor
    · intro same
      subst same
      simp
    · intro given
      obtain ⟨none, _⟩ := given
      exact List.eq_nil_iff_forall_not_mem.mpr (fun alert member => none ⟨alert, member⟩)
  · have few : row.quantity ≤ effectiveThreshold settings row := by omega
    simp only [stockCondition, if_neg enough, Agrees, few, iff_true]
    have type : ∀ alert : Alert,
        (alert.alertType = if row.quantity = 0 then .OUT_OF_STOCK else .LOW_STOCK) ↔
          (alert.alertType = .OUT_OF_STOCK ↔ row.quantity = 0) := by
      intro alert
      by_cases zero : row.quantity = 0
      · simp [zero]
      · cases alert.alertType <;> simp [zero]
    have present : alerts ≠ [] ↔ ∃ alert, alert ∈ alerts :=
      ⟨List.exists_mem_of_ne_nil _, fun some => some.elim (fun _ => List.ne_nil_of_mem)⟩
    simp only [type, present]

theorem alertsAgree_iff : AlertsAgree settings tables ↔ ∀ pair, PairAgrees settings tables pair := by
  constructor
  · intro agree pair row member
    obtain ⟨stored, rfl⟩ := Tables.mem_inventoriesOf.mp member
    exact agrees_iff.mpr (agree row stored)
  · intro agree row stored
    exact agrees_iff.mp (agree row.pair row (Tables.mem_inventoriesOf.mpr ⟨stored, rfl⟩))

end Agreement

section Commit

variable {settings : Settings} {request : Request} {dirty : List (RowId × AlertChange)}
variable {session : Session} {world : World} {pair : Pair}

theorem applyChanges_single (id : RowId) (change : AlertChange) (alert : Alert) :
    applyChanges [(id, change)] alert = if id = alert.id then change.apply alert else alert := rfl

private theorem activeAlerts_elsewhere (valid : world.Valid) {target : Alert}
    {change : AlertChange} (stored : target ∈ world.tables.alerts) (elsewhere : target.pair ≠ pair)
    (nothing : session.alerts = []) :
    (world.tables.commit session [(target.id, change)]).activeAlerts pair =
      world.tables.activeAlerts pair := by
  have kept : (world.tables.activeAlerts pair).map (applyChanges [(target.id, change)]) =
      world.tables.activeAlerts pair := by
    conv_rhs => rw [← List.map_id (world.tables.activeAlerts pair)]
    apply List.map_congr_left
    intro alert member
    obtain ⟨included, here⟩ := List.mem_filter.mp member
    simp only [Bool.and_eq_true, decide_eq_true_eq] at here
    rw [applyChanges_single, if_neg, id]
    intro same
    have equal := List.inj_on_of_nodup_map valid.alerts_unique stored included same
    exact elsewhere (equal ▸ here.1)
  rw [Tables.activeAlerts_commit, nothing, List.filter_nil, List.append_nil, kept,
    List.filter_eq_self]
  intro alert member
  exact (Bool.and_eq_true_iff.mp (List.mem_filter.mp member).2).2

theorem Decision.agrees {inventory : Inventory} {found : List Alert}
    (decision : Decision settings inventory found dirty session.alerts)
    (accurate : found = world.tables.activeAlerts inventory.pair) :
    Agrees (stockCondition settings inventory)
      ((world.tables.commit session dirty).activeAlerts inventory.pair) := by
  rw [Tables.activeAlerts_commit, ← accurate]
  generalize created : session.alerts = alerts at decision
  cases decision with
  | resolve condition =>
      rw [condition]
      simp [Agrees, applyChanges_single, AlertChange.apply, Alert.isActive]
  | @retype alert alertType condition different =>
      have active : alert.isActive = true := by
        have member : alert ∈ world.tables.activeAlerts inventory.pair := by
          rw [← accurate]
          exact List.mem_singleton_self _
        exact (Bool.and_eq_true_iff.mp (List.mem_filter.mp member).2).2
      rw [condition]
      have kept : (AlertChange.apply (.retype alertType inventory.quantity) alert).isActive = true :=
        active
      have retyped : (AlertChange.apply (.retype alertType inventory.quantity) alert).alertType =
        alertType := rfl
      simp [Agrees, applyChanges_single, kept, retyped]
  | create here active condition =>
      rw [condition]
      simp [Agrees, applyChanges_nil, here, active]

theorem Decision.elsewhere {inventory : Inventory} {found : List Alert} (valid : world.Valid)
    (decision : Decision settings inventory found dirty session.alerts)
    (accurate : found = world.tables.activeAlerts inventory.pair) (other : inventory.pair ≠ pair) :
    (world.tables.commit session dirty).activeAlerts pair = world.tables.activeAlerts pair := by
  have stored : ∀ alert, found = [alert] →
      alert ∈ world.tables.alerts ∧ alert.pair = inventory.pair := by
    intro alert one
    have member : alert ∈ world.tables.activeAlerts inventory.pair := by
      rw [← accurate, one]
      exact List.mem_singleton_self _
    obtain ⟨included, here⟩ := List.mem_filter.mp member
    exact ⟨included, of_decide_eq_true (Bool.and_eq_true_iff.mp here).1⟩
  generalize created : session.alerts = alerts at decision
  cases decision with
  | resolve condition =>
      obtain ⟨included, here⟩ := stored _ rfl
      exact activeAlerts_elsewhere valid included (here ▸ other) created
  | retype condition different =>
      obtain ⟨included, here⟩ := stored _ rfl
      exact activeAlerts_elsewhere valid included (here ▸ other) created
  | create here active condition =>
      have absent : session.alerts.filter (fun alert => alert.pair = pair && alert.isActive) = [] := by
        rw [created]
        simp [here, other]
      rw [Tables.activeAlerts_commit, absent, List.append_nil, applyChanges_nil, List.map_id,
        List.filter_eq_self]
      intro alert member
      exact (Bool.and_eq_true_iff.mp (List.mem_filter.mp member).2).2

end Commit

/-- A pair is tended when its alerts agree with its stock, or some session is going
to see to it. -/
def Tended (settings : Settings) (tables : Tables) (sessions : List Session) (pair : Pair) : Prop :=
  PairAgrees settings tables pair ∨ ∃ session ∈ sessions,
    session.WillEvaluate settings tables pair ∨ session.Decides settings tables pair

/-- What is stored about one pair. -/
structure SamePair (before after : Tables) (pair : Pair) : Prop where
  inventories : after.inventoriesOf pair = before.inventoriesOf pair
  alerts : after.activeAlerts pair = before.activeAlerts pair

section Tending

variable {settings : Settings} {request : Request} {dirty : List (RowId × AlertChange)}
variable {before after : Tables} {session updated : Session} {others : List Session}
variable {world : World} {pair : Pair}

theorem PairAgrees.congr (agrees : PairAgrees settings before pair)
    (same : SamePair before after pair) : PairAgrees settings after pair := by
  intro row member
  rw [same.inventories] at member
  rw [same.alerts]
  exact agrees row member

theorem Fresh.congr {object : Option Inventory} (fresh : Fresh settings before object pair)
    (same : after.inventoriesOf pair = before.inventoriesOf pair) :
    Fresh settings after object pair := by
  intro row member
  exact fresh row (same ▸ member)

theorem Session.WillEvaluate.congr (will : session.WillEvaluate settings before pair)
    (same : after.inventoriesOf pair = before.inventoriesOf pair) :
    session.WillEvaluate settings after pair :=
  ⟨will.touched, will.ahead, will.fresh.congr same⟩

theorem Session.Decides.congr (decides : session.Decides settings before pair)
    (same : SamePair before after pair) (history : updated.toHistory = session.toHistory) :
    updated.Decides settings after pair := by
  have pending : updated.pending = session.pending := congrArg History.pending history
  obtain ⟨lookup, found, here, fresh, accurate⟩ := decides.lookup
  refine ⟨⟨lookup, pending.trans found, here, fresh.congr same.inventories,
    accurate.trans same.alerts.symm⟩, ?_⟩
  intro settled
  apply decides.unsettled
  intro lookup object waits
  exact settled lookup object (pending.trans waits)

theorem Agrees.of_fresh {object : Inventory} {alerts : List Alert}
    (agrees : Agrees (stockCondition settings object) alerts)
    (fresh : Fresh settings after (some object) pair)
    (stored : after.activeAlerts pair = alerts) : PairAgrees settings after pair := by
  intro row member
  have same := Option.some.inj (fresh row member)
  rw [stored, ← same]
  exact agrees

/-- A statement about other pairs, or about none, keeps a pair tended. -/
theorem Tended.congr (tended : Tended settings before (session :: others) pair)
    (same : SamePair before after pair)
    (will : session.WillEvaluate settings before pair → updated.WillEvaluate settings after pair)
    (decides : session.Decides settings before pair → updated.Decides settings after pair) :
    Tended settings after (updated :: others) pair := by
  rcases tended with agrees | ⟨tending, member, witness⟩
  · exact .inl (agrees.congr same)
  · rcases List.mem_cons.mp member with rfl | other
    · exact .inr ⟨updated, List.mem_cons_self, witness.imp will decides⟩
    · exact .inr ⟨tending, List.mem_cons_of_mem _ other, witness.imp
        (fun holds => holds.congr same.inventories) (fun holds => holds.congr same rfl)⟩

/-- The commit of a movement leaves the debts of its own pairs to its own session. -/
private theorem MovementCommit.tended (commits : MovementCommit request dirty session world)
    (sound : session.Sound world)
    (rows : updated.objects = session.objects)
    (touched : updated.touched = session.touched ++ session.rows.map Inventory.pair)
    (lookups : updated.lookups = session.lookups)
    (tended : Tended settings world.tables (session :: others) pair) :
    Tended settings (world.tables.commit session dirty) (updated :: others) pair := by
  obtain ⟨_, _, _, _, _, _, _, applying⟩ := commits.request
  have history : session.toHistory = {} := applying.history
  have none : session.touched = [] := congrArg History.touched history
  cases found : session.row? pair with
  | some row =>
      obtain ⟨member, here⟩ := Session.row?_some found
      refine .inr ⟨updated, List.mem_cons_self, .inl ⟨?_, ?_, ?_⟩⟩
      · rw [touched, ← here]
        exact List.mem_append_right _ (List.mem_map_of_mem member)
      · rw [lookups, show session.lookups = [] from congrArg History.lookups history]
        simp
      · intro stored listed
        have object : updated.object? pair = session.row? pair := by
          rw [Session.object?, rows, applying.objects]
          rfl
        rw [Tables.inventoriesOf_commit sound, found] at listed
        rw [object, found, List.mem_singleton.mp listed]
        rfl
  | none =>
      refine tended.congr ⟨?_, ?_⟩ ?_ ?_
      · rw [Tables.inventoriesOf_commit sound, found]
      · rw [Tables.activeAlerts_commit, applying.alerts, commits.dirty, applyChanges_nil]
        simp only [List.filter_nil, List.append_nil, List.map_id, List.filter_eq_self]
        intro alert member
        exact (Bool.and_eq_true_iff.mp (List.mem_filter.mp member).2).2
      · intro will
        have impossible := will.touched
        rw [none] at impossible
        cases impossible
      · intro decides
        obtain ⟨lookup, waits, _⟩ := decides.lookup
        rw [show session.pending = Option.none from congrArg History.pending history] at waits
        cases waits

/-- The commit of an evaluation pays its pair's debt, or leaves it to somebody who
still has the stored stock in hand. -/
private theorem AlertCommit.tended (commits : AlertCommit settings dirty session)
    (valid : world.Valid) (sound : session.Sound world)
    (permitted : ∀ lookup ∈ session.pending, lookup.found = world.tables.activeAlerts lookup.pair ∧
      (Fresh settings world.tables lookup.object lookup.pair ∨
        ∃ other ∈ others, other.WillEvaluate settings world.tables lookup.pair))
    (objects : updated.objects = session.objects) (touched : updated.touched = session.touched)
    (lookups : updated.lookups = session.lookups)
    (tended : Tended settings world.tables (session :: others) pair) :
    Tended settings (world.tables.commit session dirty) (updated :: others) pair := by
  obtain ⟨lookup, inventory, waits, object, about, decision⟩ := commits.decision
  obtain ⟨accurate, current⟩ := permitted lookup waits
  rw [about] at accurate current
  have stock : (world.tables.commit session dirty).inventoriesOf pair =
      world.tables.inventoriesOf pair := by
    have none : session.row? pair = none := by
      simp [Session.row?, commits.unlocked.rows]
    rw [Tables.inventoriesOf_commit sound, none]
  by_cases here : inventory.pair = pair
  · subst here
    rcases current with fresh | ⟨other, member, will⟩
    · rw [object] at fresh
      exact .inl ((decision.agrees accurate).of_fresh (fresh.congr stock) rfl)
    · exact .inr ⟨other, List.mem_cons_of_mem _ member, .inl (will.congr stock)⟩
  · refine tended.congr ⟨stock, decision.elsewhere valid accurate here⟩ ?_ ?_
    · intro will
      refine ⟨touched ▸ will.touched, lookups ▸ will.ahead, ?_⟩
      rw [Session.object?, objects]
      exact will.fresh.congr stock
    · intro decides
      obtain ⟨other, pending, same, _⟩ := decides.lookup
      rw [waits] at pending
      cases pending
      exact absurd (about.symm.trans same) here

/-- A lookup turns the intention to evaluate into a decision, unless none is needed. -/
private theorem lookup_tended {productId warehouseId : UUID}
    (conduct : session.Settled settings)
    (looked : updated = { session with
      lookups := session.lookups ++ [⟨(productId, warehouseId),
        session.object? (productId, warehouseId), before.activeAlerts (productId, warehouseId)⟩]
      pending := some ⟨(productId, warehouseId),
        session.object? (productId, warehouseId), before.activeAlerts (productId, warehouseId)⟩ })
    (tended : Tended settings before (session :: others) pair) :
    Tended settings before (updated :: others) pair := by
  subst looked
  rcases tended with agrees | ⟨tending, member, witness⟩
  · exact .inl agrees
  · rcases List.mem_cons.mp member with rfl | other
    · rcases witness with will | decides
      · by_cases here : (productId, warehouseId) = pair
        · subst here
          by_cases settled : Session.Settled settings { tending with
              lookups := tending.lookups ++ [⟨(productId, warehouseId),
                tending.object? (productId, warehouseId),
                before.activeAlerts (productId, warehouseId)⟩]
              pending := some ⟨(productId, warehouseId),
                tending.object? (productId, warehouseId),
                before.activeAlerts (productId, warehouseId)⟩ }
          · left
            intro row stored
            cases known : tending.object? (productId, warehouseId) with
            | none =>
                have impossible := will.fresh row stored
                rw [known] at impossible
                cases impossible
            | some object =>
                have fresh := will.fresh
                rw [known] at fresh
                exact (settled _ object rfl known).of_fresh fresh rfl row stored
          · exact .inr ⟨_, List.mem_cons_self, .inr ⟨⟨_, rfl, rfl, will.fresh, rfl⟩, settled⟩⟩
        · refine .inr ⟨_, List.mem_cons_self, .inl ⟨will.touched, ?_, will.fresh⟩⟩
          simp only [List.map_append, List.mem_append, List.map_cons, List.map_nil,
            List.mem_singleton, not_or]
          exact ⟨will.ahead, fun same => here same.symm⟩
      · exact absurd conduct decides.unsettled
    · exact .inr ⟨tending, List.mem_cons_of_mem _ other, witness⟩

/-- Statements that change objects belong to sessions without committed stock. -/
private theorem untouched {statement : Statement}
    (conduct : Conduct settings request statement session world)
    (loads : (∃ productId warehouseId, statement = .selectInventoryForUpdate productId warehouseId) ∨
      (∃ inventory, statement = .insertInventory inventory) ∨
      (∃ inventory, statement = .updateInventory inventory) ∨
      ∃ skip limit, statement = .selectInventories skip limit) : session.touched = [] := by
  rcases loads with ⟨_, _, rfl⟩ | ⟨_, rfl⟩ | ⟨_, rfl⟩ | ⟨_, _, rfl⟩
  · exact congrArg History.touched conduct.1
  · exact congrArg History.touched conduct.1
  · exact congrArg History.touched conduct.1
  · exact conduct.2.2.2

theorem respond_tended {statement : Statement} {answer : Answer} {after : World}
    {response : statement.Response}
    (executed : execute statement answer others world session = .done response after updated)
    (conduct : Conduct settings request statement session world)
    (automatic : ∀ alertId, request ≠ .resolveAlert alertId)
    (permitted : evaluatesCurrentStock settings answer others world session statement)
    (valid : world.Valid) (sound : session.Sound world)
    (tended : Tended settings world.tables (session :: others) pair) :
    Tended settings after.tables (updated :: others) pair := by
  have answered := execute_done executed
  by_cases commits : ∃ dirty, statement = .commit dirty
  · obtain ⟨dirty, rfl⟩ := commits
    simp only [respond, commit] at answered
    split at answered
    · cases answered
    · cases answered
      rcases conduct with movement | alert | resolve
      · exact movement.tended sound rfl rfl rfl tended
      · refine alert.tended valid sound (permitted.2.2 dirty rfl) rfl ?_ rfl tended
        simp [alert.unlocked.rows]
      · obtain ⟨alertId, _, manual, _⟩ := resolve.request
        exact absurd manual (automatic alertId)
  · by_cases reads : ∃ productId warehouseId, statement = .selectActiveAlerts productId warehouseId
    · obtain ⟨productId, warehouseId, rfl⟩ := reads
      simp only [respond, selectActiveAlerts, Interleaving.Outcome.done.injEq] at answered
      obtain ⟨_, rfl, same⟩ := answered
      exact lookup_tended conduct.2.1 same.symm tended
    · have uncommitted : ∀ dirty, statement ≠ .commit dirty :=
        fun dirty same => commits ⟨dirty, same⟩
      have history := respond_history uncommitted
        (fun productId warehouseId same => reads ⟨productId, warehouseId, same⟩) answered
      have tables := (respond_uncommitted uncommitted answered).1
      rw [tables]
      refine tended.congr ⟨rfl, rfl⟩ ?_ (fun decides => decides.congr ⟨rfl, rfl⟩ history)
      intro will
      by_cases loads : (∃ productId warehouseId,
          statement = .selectInventoryForUpdate productId warehouseId) ∨
        (∃ inventory, statement = .insertInventory inventory) ∨
        (∃ inventory, statement = .updateInventory inventory) ∨
        ∃ skip limit, statement = .selectInventories skip limit
      · have touched := will.touched
        rw [untouched conduct loads] at touched
        cases touched
      · simp only [not_or, not_exists] at loads
        obtain ⟨select, insert, flush, page⟩ := loads
        have objects := respond_objects select insert flush page answered
        refine ⟨?_, ?_, ?_⟩
        · rw [show updated.touched = session.touched from congrArg History.touched history]
          exact will.touched
        · rw [show updated.lookups = session.lookups from congrArg History.lookups history]
          exact will.ahead
        · rw [Session.object?, objects]
          exact will.fresh

theorem Concluded.paid {result : Except Exception Reply}
    (concluded : Concluded settings (fun _ _ => False) request result session) :
    session.touched ⊆ session.lookups.map (·.pair) ∧ session.Settled settings := by
  cases result with
  | ok reply => exact ⟨concluded.2.1, concluded.1⟩
  | error error =>
      rcases concluded with ⟨_, touched, settled⟩ | impossible
      · rw [touched]
        exact ⟨List.nil_subset _, settled⟩
      · cases impossible

theorem idle_of_paid
    (paid : session.touched ⊆ session.lookups.map (·.pair) ∧ session.Settled settings) :
    ¬ (session.WillEvaluate settings before pair ∨ session.Decides settings before pair) := by
  intro given
  rcases given with will | decides
  · exact will.ahead (paid.1 will.touched)
  · exact decides.unsettled paid.2

theorem Tended.mono {sessions larger : List Session} (tended : Tended settings before sessions pair)
    (included : ∀ session ∈ sessions,
      session.WillEvaluate settings before pair ∨ session.Decides settings before pair →
        session ∈ larger) :
    Tended settings before larger pair := by
  rcases tended with agrees | ⟨session, member, witness⟩
  · exact .inl agrees
  · exact .inr ⟨session, included session member witness, witness⟩

end Tending

section Runs

variable {settings : Settings}

/-- Every request is a movement or a sweep, and every pair is tended. -/
structure Application.Tends (settings : Settings) (system : Application) : Prop where
  automatic : ∀ thread ∈ system.threads, ∀ alertId, thread.label ≠ .resolveAlert alertId
  tended : ∀ pair, Tended settings system.shared.tables (system.threads.map (·.session)) pair

private theorem permits_nothing : Permits (evaluatesCurrentStock settings) (fun _ _ => False) := by
  refine ⟨?_, ?_⟩
  · intro answer others world session statement permitted fails
    rw [permitted.1] at fails
    cases fails
  · intro answer others world session productId warehouseId permitted several
    have one := permitted.2.1 _ rfl
    omega

/-- A thread that ended with its last statement has no debts to take along. -/
private theorem Tended.settled {system : Application} {index : Nat} {label : Request}
    {program : Transaction Reply} {updated : Session} {shared : World} {pair : Pair}
    (bound : index < system.threads.length)
    (verified : System.Verified databaseDiscipline (evaluatesCurrentStock settings)
      (Conduct settings) (Concluded settings fun _ _ => False) ⟨shared, system.threads.set index
        (Thread.settle environment ⟨label, program, updated⟩)⟩)
    (tended : Tended settings shared.tables (updated :: system.others index) pair) :
    Tended settings shared.tables ((system.threads.set index
      (Thread.settle environment ⟨label, program, updated⟩)).map (·.session)) pair := by
  have found : (⟨shared, system.threads.set index
      (Thread.settle environment ⟨label, program, updated⟩)⟩ : Application).threads[index]? =
      some (Thread.settle environment ⟨label, program, updated⟩) := List.getElem?_set_self bound
  refine tended.mono ?_
  intro session member witness
  refine (System.mem_sessions found).mpr ?_
  rw [System.others_set]
  rcases List.mem_cons.mp member with rfl | other
  · have concluded := verified.threads index _ found
    cases program with
    | call statement next => exact List.mem_cons_self
    | ret reply =>
        have ended : Concluded settings (fun _ _ => False) label (.ok reply) session.close :=
          concluded
        exact absurd witness (idle_of_paid ended.paid)
    | raise error =>
        have ended : Concluded settings (fun _ _ => False) label (.error error) session.close :=
          concluded
        exact absurd witness (idle_of_paid ended.paid)
  · exact List.mem_cons_of_mem _ other

private theorem automatic_set {system : Application} {index : Nat} {label : Request}
    {statement : Statement} {next : statement.Response → Transaction Reply} {session : Session}
    (automatic : ∀ thread ∈ system.threads, ∀ alertId, thread.label ≠ .resolveAlert alertId)
    (found : system.threads[index]? = some ⟨label, .call statement next, session⟩)
    (moved : Thread Request Statement Statement.Response Exception Session Reply)
    (same : moved.label = label) :
    ∀ thread ∈ system.threads.set index moved, ∀ alertId, thread.label ≠ .resolveAlert alertId := by
  intro thread member
  rcases List.mem_or_eq_of_mem_set member with old | rfl
  · exact automatic thread old
  · rw [same]
    exact automatic _ (List.mem_of_getElem? found)

private theorem Application.Tends.set {system : Application} {index : Nat} {label : Request}
    {statement : Statement} {next : statement.Response → Transaction Reply}
    {session updated : Session} {shared : World} (program : Transaction Reply)
    (tends : system.Tends settings)
    (found : system.threads[index]? = some ⟨label, .call statement next, session⟩)
    (kept : ∀ pair, Tended settings system.shared.tables (session :: system.others index) pair →
      Tended settings shared.tables (updated :: system.others index) pair)
    (verified : System.Verified databaseDiscipline (evaluatesCurrentStock settings)
      (Conduct settings) (Concluded settings fun _ _ => False) ⟨shared, system.threads.set index
        (Thread.settle environment ⟨label, program, updated⟩)⟩) :
    Application.Tends settings ⟨shared, system.threads.set index
      (Thread.settle environment ⟨label, program, updated⟩)⟩ where
  automatic := automatic_set tends.automatic found _ Thread.settle_label
  tended := by
    intro pair
    have bound : index < system.threads.length := (List.getElem?_eq_some_iff.mp found).1
    have before : Tended settings system.shared.tables (session :: system.others index) pair :=
      (tends.tended pair).mono (fun other member _ => (System.mem_sessions found).mp member)
    exact (kept pair before).settled bound verified

private theorem Application.Tends.reachable {start system : Application}
    (initially : System.Verified databaseDiscipline (evaluatesCurrentStock settings)
      (Conduct settings) (Concluded settings fun _ _ => False) start)
    (tends : start.Tends settings)
    (reached : Reachable environment (evaluatesCurrentStock settings) start system) :
    System.Verified databaseDiscipline (evaluatesCurrentStock settings)
      (Conduct settings) (Concluded settings fun _ _ => False) system ∧ system.Tends settings := by
  refine System.Verified.invariant (Application.Tends settings) initially tends ?_ ?_ reached
  · intro system index answer label statement next session error turn tends raised later
    exact tends.set (.raise error) turn.found (fun _ tended => tended) later
  · intro system index answer label statement next session response shared updated turn tends
      executed later
    have automatic := tends.automatic _ (List.mem_of_getElem? turn.found)
    have sound := turn.verified.sound _ _ turn.found
    exact tends.set (next response) turn.found (fun _ tended => respond_tended executed turn.required automatic
      turn.allowed turn.verified.valid sound tended) later

/-- Alerts agree with stock when every request has finished, provided evaluations act
on current stock. -/
theorem alerts_agree_at_quiescence (settings : Settings) (world : World)
    (requests : List Request) (valid : world.Valid)
    (automatic : ∀ request ∈ requests, ∀ alertId, request ≠ .resolveAlert alertId)
    (agree : AlertsAgree settings world.tables) (system : Application)
    (reached : Reachable environment (evaluatesCurrentStock settings)
      (Application.start settings world requests) system)
    (finished : ∀ thread ∈ system.threads, thread.finished = true) :
    AlertsAgree settings system.shared.tables := by
  have initially : (Application.start settings world requests).Tends settings := by
    refine ⟨?_, fun pair => .inl (alertsAgree_iff.mp agree pair)⟩
    intro thread member
    obtain ⟨request, listed, rfl⟩ := List.mem_map.mp member
    rw [Thread.settle_label]
    exact automatic request listed
  obtain ⟨verified, tends⟩ := Application.Tends.reachable
    (Application.start_verified settings permits_nothing valid requests) initially reached
  rw [alertsAgree_iff]
  intro pair
  rcases tends.tended pair with agrees | ⟨session, member, witness⟩
  · exact agrees
  · obtain ⟨thread, listed, rfl⟩ := List.mem_map.mp member
    obtain ⟨index, found⟩ := List.mem_iff_getElem?.mp listed
    have ended := finished thread listed
    have concluded := verified.threads index thread found
    obtain ⟨label, program, session⟩ := thread
    cases program with
    | call statement next => cases ended
    | ret reply =>
        have done : Concluded settings (fun _ _ => False) label (.ok reply) session := concluded
        exact absurd witness (idle_of_paid done.paid)
    | raise error =>
        have done : Concluded settings (fun _ _ => False) label (.error error) session := concluded
        exact absurd witness (idle_of_paid done.paid)

instance (tables : Tables) (object : Option Inventory) (pair : Pair) :
    Decidable (Fresh settings tables object pair) :=
  inferInstanceAs (Decidable (∀ row ∈ tables.inventoriesOf pair, _))

instance (tables : Tables) (pair : Pair) (session : Session) :
    Decidable (session.WillEvaluate settings tables pair) :=
  decidable_of_iff (pair ∈ session.touched ∧ pair ∉ session.lookups.map (·.pair) ∧
      Fresh settings tables (session.object? pair) pair)
    ⟨fun ⟨touched, ahead, fresh⟩ => ⟨touched, ahead, fresh⟩,
      fun will => ⟨will.touched, will.ahead, will.fresh⟩⟩

instance (answer : Answer) (others : List Session) (world : World) (session : Session)
    (statement : Statement) :
    Decidable (evaluatesCurrentStock settings answer others world session statement) :=
  inferInstanceAs (Decidable (_ ∧ (∀ pair ∈ statement.lookup?, _ ≤ 1) ∧
    ∀ _dirty ∈ statement.dirty?, ∀ lookup ∈ session.pending,
      lookup.found = _ ∧ (Fresh _ _ _ _ ∨ ∃ other ∈ others, _)))

end Runs

/-! A receipt, then a shipment that runs the stock down and a receipt that fills it
up again: evaluated in the order of the commits, and the other way round. -/

def Sample.fluctuation : Application :=
  Application.start {} Sample.world [
    .movement Sample.receive25 none,
    .movement Sample.ship20 none,
    .movement Sample.receive20 none]

def Sample.inOrder : List (Nat × Answer) :=
  (List.replicate 10 0 ++ List.replicate 14 1 ++ List.replicate 12 2).map (·, {})

def Sample.outOfOrder : List (Nat × Answer) :=
  (List.replicate 10 0 ++ List.replicate 6 1 ++ List.replicate 9 2 ++ List.replicate 8 1).map (·, {})

theorem Sample.world_agrees : AlertsAgree {} Sample.world.tables := by
  intro row member
  simp [Sample.world] at member

theorem alerts_agree_at_quiescence_in_order :
    ∃ system, Sample.fluctuation.schedule environment Sample.inOrder = some system ∧
      AlertsAgree {} system.shared.tables := by
  have respected : Sample.fluctuation.respects (evaluatesCurrentStock {}) environment
      Sample.inOrder = true := by decide +kernel
  have ends : (Sample.fluctuation.schedule environment Sample.inOrder).any (fun system =>
      system.threads.all (·.finished)) = true := by decide +kernel
  cases ran : Sample.fluctuation.schedule environment Sample.inOrder with
  | none =>
      rw [ran] at ends
      cases ends
  | some system =>
      rw [ran] at ends
      exact ⟨system, rfl, alerts_agree_at_quiescence {} Sample.world _ Sample.world_valid (by simp)
        Sample.world_agrees system (System.respects_reachable .refl respected ran)
        (List.all_eq_true.mp ends)⟩

theorem stale_evaluation_leaves_alert :
    ¬ ∀ (settings : Settings) (world : World) (requests : List Request), world.Valid →
      (∀ request ∈ requests, ∀ alertId, request ≠ .resolveAlert alertId) →
      AlertsAgree settings world.tables → ∀ system, Reachable environment healthy
        (Application.start settings world requests) system →
      (∀ thread ∈ system.threads, thread.finished = true) →
        AlertsAgree settings system.shared.tables := by
  intro agree
  have respected : Sample.fluctuation.respects healthy environment Sample.outOfOrder = true := by
    decide +kernel
  have leaves : (Sample.fluctuation.schedule environment Sample.outOfOrder).any (fun system =>
      system.threads.all (·.finished) && system.shared.tables.inventories.any (fun row =>
        decide (row.quantity = 25) && !(system.shared.tables.activeAlerts row.pair).isEmpty &&
          decide (effectiveThreshold {} row = 10))) = true := by
    decide +kernel
  cases ran : Sample.fluctuation.schedule environment Sample.outOfOrder with
  | none =>
      rw [ran] at leaves
      cases leaves
  | some system =>
      rw [ran, Option.any_some, Bool.and_eq_true] at leaves
      obtain ⟨row, stored, wrong⟩ := List.any_eq_true.mp leaves.2
      simp only [Bool.and_eq_true, decide_eq_true_eq, Bool.not_eq_true', List.isEmpty_eq_false_iff]
        at wrong
      obtain ⟨⟨plenty, alerts⟩, threshold⟩ := wrong
      have final := agree {} Sample.world _ Sample.world_valid (by simp) Sample.world_agrees system
        (System.respects_reachable .refl respected ran) (List.all_eq_true.mp leaves.1) row stored
      have low := final.1.mp (List.exists_mem_of_ne_nil _ alerts)
      omega

end InventoryManagement
