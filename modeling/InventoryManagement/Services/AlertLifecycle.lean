import InventoryManagement.Services.AlertAlone

/-! The lifecycle of alert rows when resolutions and evaluations of any number of
sessions interleave: what is resolved stays as it is. -/

set_option autoImplicit false

namespace InventoryManagement

open Interleaving (Guard Outcome Program Reachable System Thread)

inductive AlertCall where
  | resolve (alertId : RowId)
  | evaluate (inventory : Inventory)

def AlertCall.program (settings : Settings) : AlertCall → Transaction (Option Alert)
  | .resolve alertId => do
      let alert ← resolveAlert alertId
      pure (some alert)
  | .evaluate inventory => evaluateStockLevel settings inventory

abbrev AlertSystem :=
  System AlertCall Statement Statement.Response Exception World Session (Option Alert)

abbrev AlertThread :=
  Thread AlertCall Statement Statement.Response Exception Session (Option Alert)

/-- Every call gets a session of its own. -/
def AlertSystem.start (settings : Settings) (world : World) (calls : List AlertCall) :
    AlertSystem :=
  System.start environment (AlertCall.program settings) world {} calls

/-- The resolution time is set when, and only when, the alert is resolved. -/
def Alert.Stamped (alert : Alert) : Prop :=
  alert.resolvedAt.isSome = true ↔ alert.status = .RESOLVED

/-- The database does not fail, and alerts change only while they are active. -/
def changesActive : Guard Statement Answer World Session :=
  fun answer _ world _ statement => answer.fails = false ∧
    ∀ dirty ∈ statement.dirty?, ∀ change ∈ dirty,
      ∃ alert ∈ world.tables.alert? change.1, alert.status = .ACTIVE

instance (answer : Answer) (others : List Session) (world : World) (session : Session)
    (statement : Statement) : Decidable (changesActive answer others world session statement) :=
  inferInstanceAs (Decidable (_ ∧ ∀ dirty ∈ statement.dirty?, ∀ change ∈ dirty,
    ∃ alert ∈ world.tables.alert? change.1, _))

variable {settings : Settings} {world after : World} {session updated : Session}
variable {statement : Statement} {answer : Answer} {others : List Session}
variable {response : statement.Response}

section Stamps

theorem AlertChange.apply_stamped {alert : Alert} (change : AlertChange)
    (stamped : alert.Stamped) : (change.apply alert).Stamped := by
  cases change with
  | retype alertType quantityAtTrigger => exact stamped
  | resolve resolvedAt => simp [Alert.Stamped, AlertChange.apply]

theorem applyChanges_stamped {alert : Alert} (dirty : List (RowId × AlertChange))
    (stamped : alert.Stamped) : (applyChanges dirty alert).Stamped := by
  induction dirty generalizing alert with
  | nil => exact stamped
  | cons change rest ih =>
      simp only [applyChanges, List.foldl_cons]
      split
      · exact ih (change.2.apply_stamped stamped)
      · exact ih stamped

/-- Only commits and inserts of alerts touch the alerts a session has flushed. -/
theorem respond_flushed (uncommitted : ∀ dirty, statement ≠ .commit dirty)
    (executed : respond statement answer others world session = .done response after updated)
    {alert : Alert} (flushed : alert ∈ updated.alerts) :
    alert ∈ session.alerts ∨ (alert.status = .ACTIVE ∧ alert.resolvedAt = none) := by
  cases statement
  case commit dirty => exact absurd rfl (uncommitted dirty)
  case insertAlert values =>
    simp only [respond, insertAlert] at executed
    split at executed
    · cases executed
    · split at executed
      · cases executed
      · cases executed
        rcases List.mem_append.mp flushed with old | added
        · exact .inl old
        · rw [List.mem_singleton.mp added]
          exact .inr ⟨rfl, rfl⟩
  all_goals
    simp only [respond, selectInventoryForUpdate, insertInventory, updateInventory, insertMovement,
      selectActiveAlerts, refreshAlert, selectInventories, dispatch, gather, delay] at executed
    (repeat' split at executed) <;> cases executed <;> exact .inl flushed

theorem respond_stamped
    (executed : respond statement answer others world session = .done response after updated)
    (stored : ∀ alert ∈ world.tables.alerts, alert.Stamped)
    (flushed : ∀ alert ∈ session.alerts, alert.Stamped) :
    (∀ alert ∈ after.tables.alerts, alert.Stamped) ∧ ∀ alert ∈ updated.alerts, alert.Stamped := by
  by_cases commits : ∃ dirty, statement = .commit dirty
  · obtain ⟨dirty, rfl⟩ := commits
    simp only [respond, commit] at executed
    split at executed
    · cases executed
    · cases executed
      constructor
      · intro alert member
        obtain ⟨before, old | mine, rfl⟩ := mem_commit_alerts.mp member
        · exact applyChanges_stamped dirty (stored before old)
        · exact applyChanges_stamped dirty (flushed before mine)
      · intro alert member
        cases member
  · have uncommitted : ∀ dirty, statement ≠ .commit dirty := fun dirty same => commits ⟨dirty, same⟩
    constructor
    · rw [(respond_uncommitted uncommitted executed).1]
      exact stored
    · intro alert member
      rcases respond_flushed uncommitted executed member with old | ⟨active, unstamped⟩
      · exact flushed alert old
      · simp [Alert.Stamped, active, unstamped]

/-- Stored alerts and those that open transactions have flushed are stamped. -/
structure AlertSystem.Stamped (system : AlertSystem) : Prop where
  stored : ∀ alert ∈ system.shared.tables.alerts, alert.Stamped
  flushed : ∀ thread ∈ system.threads, ∀ alert ∈ thread.session.alerts, alert.Stamped

theorem AlertSystem.Stamped.step {system later : AlertSystem} {index : Nat}
    (stamped : AlertSystem.Stamped system)
    (stepped : System.step environment system index answer = some later) :
    AlertSystem.Stamped later := by
  obtain ⟨label, statement, next, session, found, outcome⟩ := System.step_cases stepped
  have mine := stamped.flushed _ (List.mem_of_getElem? found)
  rcases outcome with ⟨error, _, rfl⟩ | ⟨response, shared, updated, executed, rfl⟩
  · refine ⟨stamped.stored, ?_⟩
    intro thread member alert flushed
    rcases List.mem_or_eq_of_mem_set member with old | rfl
    · exact stamped.flushed thread old alert flushed
    · cases flushed
  · obtain ⟨stored, flushed⟩ := respond_stamped (execute_done executed) stamped.stored mine
    refine ⟨stored, ?_⟩
    intro thread member
    rcases List.mem_or_eq_of_mem_set member with old | rfl
    · exact stamped.flushed thread old
    · exact Thread.settle_session
        (fun session : Session => ∀ alert ∈ session.alerts, alert.Stamped) flushed
        (fun alert member => by cases member)

end Stamps

section Frozen

theorem applyChanges_unnamed {dirty : List (RowId × AlertChange)} {alert : Alert}
    (unnamed : ∀ change ∈ dirty, change.1 ≠ alert.id) : applyChanges dirty alert = alert := by
  induction dirty with
  | nil => rfl
  | cons change rest ih =>
      have here := unnamed change List.mem_cons_self
      simp only [applyChanges, List.foldl_cons, if_neg here]
      exact ih (fun other member => unnamed other (List.mem_cons_of_mem _ member))

theorem respond_frozen (permitted : changesActive answer others world session statement)
    (executed : respond statement answer others world session = .done response after updated)
    (valid : world.Valid) {alert : Alert} (stored : alert ∈ world.tables.alerts)
    (resolved : alert.status = .RESOLVED) : alert ∈ after.tables.alerts := by
  by_cases commits : ∃ dirty, statement = .commit dirty
  · obtain ⟨dirty, rfl⟩ := commits
    simp only [respond, commit] at executed
    split at executed
    · cases executed
    · cases executed
      refine mem_commit_alerts.mpr ⟨alert, .inl stored, applyChanges_unnamed ?_⟩
      intro change member same
      obtain ⟨other, found, active⟩ := permitted.2 _ rfl change member
      rw [same, valid.alert?_of_mem stored] at found
      cases found
      rw [resolved] at active
      cases active
  · rw [(respond_uncommitted (fun dirty same => commits ⟨dirty, same⟩) executed).1]
    exact stored

end Frozen

section Resolution

/-- The commit of a resolution resolves its own alert. -/
def AlertCall.Demands (call : AlertCall) (statement : Statement) (_ : Session) (_ : World) : Prop :=
  match call, statement with
  | .resolve alertId, .commit dirty => ∃ now, dirty = [(alertId, .resolve now)]
  | _, _ => True

/-- A resolution has committed, has lost, or its alert was not there at the start. -/
def AlertCall.Ensures (start : World) (call : AlertCall)
    (result : Except Exception (Option Alert)) (session : Session) : Prop :=
  match call, result with
  | .evaluate _, _ => True
  | .resolve _, .ok _ => session.commits ≠ 0
  | .resolve alertId, .error error => (∃ message, error = .conflictError message) ∨
      ((∃ message, error = .notFoundError message) ∧ start.tables.alert? alertId = none)

abbrev Resolving {Value : Type} (start : World) (alertId : RowId)
    (returns : Value → Session → World → Prop) (program : Transaction Value) (session : Session)
    (world : World) : Prop :=
  program.Verified databaseDiscipline changesActive (AlertCall.Demands (.resolve alertId)) returns
    (fun error session => AlertCall.Ensures start (.resolve alertId) (.error error) session.close)
    session world

variable {Value Result : Type} {start : World} {alertId : RowId}

theorem resolving_bind {program : Transaction Value} {next : Value → Transaction Result}
    {returns : Result → Session → World → Prop} (middle : Value → Session → World → Prop)
    (first : Resolving start alertId middle program session world)
    (second : ∀ value session world, middle value session world →
      Resolving start alertId returns (next value) session world) :
    Resolving start alertId returns (program.bind next) session world :=
  Program.verified_bind (Program.verified_mono first second)

theorem resolving_answered {statement : Statement} {next : statement.Response → Transaction Value}
    {returns : Value → Session → World → Prop}
    (demanded : ∀ current, AlertCall.Demands (.resolve alertId) statement session current)
    (answered : ∀ current, session.Rely world current → ∀ answer others,
      ∃ response after updated,
        respond statement answer others current session = .done response after updated ∧
          Resolving start alertId returns (next response) updated after) :
    Resolving start alertId returns (.call statement next) session world := by
  intro current relied _ _
  refine ⟨demanded current, fun answer others permitted => ?_⟩
  obtain ⟨response, after, updated, responded, remaining⟩ := answered current relied answer others
  constructor
  · intro error raised
    change execute statement answer others current session = _ at raised
    rw [execute_healthy permitted.1, responded] at raised
    cases raised
  · intro other later final executed _ _
    have same := execute_done executed
    rw [responded] at same
    cases same
    exact remaining

theorem resolve_resolving {alert : Alert} (same : alert.id = alertId)
    (known : ∃ stored ∈ world.tables.alerts, stored.id = alertId) :
    Resolving start alertId (fun _ updated _ => updated.commits ≠ 0) (resolve alert) session
      world := by
  subst same
  refine resolving_answered (fun _ => trivial) ?_
  intro clocked relied clock _
  refine ⟨clock.now, clocked, session, rfl, ?_⟩
  have known := known_stable relied known
  refine resolving_answered (fun _ => ⟨clock.now, rfl⟩) ?_
  intro current relied _ _
  refine ⟨_, _, _, rfl, ?_⟩
  obtain ⟨stored, member, same⟩ := known_stable relied known
  have known : ∃ stored ∈ (current.tables.commit session [(alert.id, .resolve clock.now)]).alerts,
      stored.id = alert.id :=
    ⟨_, mem_commit_alerts.mpr ⟨stored, .inl member, rfl⟩, (applyChanges_id stored).trans same⟩
  refine resolving_answered (fun _ => trivial) ?_
  intro last relied _ _
  obtain ⟨stored, member, same⟩ := known_stable relied known
  have present : (last.tables.alert? alert.id).isSome = true := by
    simp only [Tables.alert?, List.find?_isSome]
    exact ⟨stored, member, by simpa using same⟩
  obtain ⟨row, refreshed⟩ := Option.isSome_iff_exists.mp present
  simp only [respond, refreshAlert, refreshed]
  exact ⟨_, _, _, rfl, Nat.succ_ne_zero _⟩

/-- Alerts are never deleted, so one that is missing was never there. -/
theorem alert?_before {before after : World} (relied : session.Rely before after)
    (missing : after.tables.alert? alertId = none) : before.tables.alert? alertId = none := by
  cases present : before.tables.alert? alertId with
  | none => rfl
  | some alert =>
      have same : alert.id = alertId := by simpa using List.find?_some present
      obtain ⟨later, kept, sameLater, _⟩ :=
        relied.alerts_kept alert (List.mem_of_find?_eq_some present)
      have absent := List.find?_eq_none.mp missing later kept
      simp [sameLater, same] at absent

theorem resolveAlert_resolving (start : World) (alertId : RowId) :
    Resolving start alertId (fun _ updated _ => updated.commits ≠ 0)
      (resolveAlert alertId) session start := by
  refine resolving_answered (fun _ => trivial) ?_
  intro current relied _ _
  refine ⟨_, _, _, rfl, ?_⟩
  cases found : current.tables.alert? alertId with
  | none => exact .inr ⟨⟨_, rfl⟩, alert?_before relied found⟩
  | some alert =>
      have same : alert.id = alertId := by simpa using List.find?_some found
      simp only [getByIdOrRaise, Program.ret_bind]
      by_cases resolved : alert.status = .RESOLVED
      · rw [if_pos resolved]
        exact .inl ⟨_, rfl⟩
      · rw [if_neg resolved]
        exact resolve_resolving same ⟨alert, List.mem_of_find?_eq_some found, same⟩

theorem AlertSystem.start_verified (settings : Settings) (valid : world.Valid)
    (calls : List AlertCall) :
    System.Verified databaseDiscipline changesActive AlertCall.Demands (AlertCall.Ensures world)
      (AlertSystem.start settings world calls) := by
  apply System.start_verified valid (Session.close_sound {} world) Session.fresh_compatible
  intro call _
  cases call with
  | resolve alertId =>
      apply resolving_bind _ (resolveAlert_resolving world alertId)
      intro alert updated after committed
      exact committed
  | evaluate inventory =>
      apply Program.verified_trivially
      · intro statement session shared
        trivial
      · intro value session shared
        trivial
      · intro error session
        trivial

end Resolution

section Runs

/-- Thread `index` is a resolution of the alert that has committed. -/
def AlertSystem.ResolvedBy (system : AlertSystem) (index : Nat) (alertId : RowId) : Prop :=
  ∃ thread, system.threads[index]? = some thread ∧ thread.label = .resolve alertId ∧
    thread.session.commits ≠ 0

/-- A resolution that has committed has resolved its alert, and no other one has. -/
structure AlertSystem.Resolved (system : AlertSystem) : Prop where
  resolved : ∀ index alertId, system.ResolvedBy index alertId →
    ∃ alert ∈ system.shared.tables.alerts, alert.id = alertId ∧ alert.status = .RESOLVED
  once : ∀ left right alertId, system.ResolvedBy left alertId → system.ResolvedBy right alertId →
    left = right

variable {calls : List AlertCall} {system : AlertSystem} {index : Nat} {alertId : RowId}

theorem AlertSystem.ResolvedBy.of_set {moved : AlertThread} {position : Nat}
    (resolved : AlertSystem.ResolvedBy ⟨after, system.threads.set index moved⟩ position alertId) :
    (position = index ∧ moved.label = .resolve alertId ∧ moved.session.commits ≠ 0) ∨
      system.ResolvedBy position alertId := by
  obtain ⟨thread, listed, labelled, committed⟩ := resolved
  rcases System.step_threads listed with ⟨here, rfl⟩ | ⟨_, elsewhere⟩
  · exact .inl ⟨here, labelled, committed⟩
  · exact .inr ⟨thread, elsewhere, labelled, committed⟩

/-- A step that makes no new resolution and freezes the resolved alerts. -/
theorem AlertSystem.Resolved.kept {later : AlertSystem} (resolved : system.Resolved)
    (back : ∀ position alertId, later.ResolvedBy position alertId →
      system.ResolvedBy position alertId)
    (frozen : ∀ alert ∈ system.shared.tables.alerts, alert.status = .RESOLVED →
      alert ∈ later.shared.tables.alerts) : later.Resolved where
  resolved := by
    intro position alertId here
    obtain ⟨alert, stored, same, status⟩ := resolved.resolved _ _ (back _ _ here)
    exact ⟨alert, frozen alert stored status, same, status⟩
  once := fun left right alertId one other =>
    resolved.once _ _ _ (back left alertId one) (back right alertId other)

/-- The permitted commit of a resolution finds its alert active, so it is the first. -/
theorem AlertSystem.Resolved.committed {now : Nat} {moved : AlertThread}
    (resolved : system.Resolved) (valid : system.shared.Valid)
    (labelled : moved.label = .resolve alertId)
    (active : ∃ alert ∈ system.shared.tables.alert? alertId, alert.status = .ACTIVE)
    (tables : after.tables = system.shared.tables.commit session [(alertId, .resolve now)])
    (frozen : ∀ alert ∈ system.shared.tables.alerts, alert.status = .RESOLVED →
      alert ∈ after.tables.alerts) :
    AlertSystem.Resolved ⟨after, system.threads.set index moved⟩ := by
  obtain ⟨alert, stored, status⟩ := active
  have unresolved : ∀ position, ¬ system.ResolvedBy position alertId := by
    intro position earlier
    obtain ⟨other, member, rfl, resolvedStatus⟩ := resolved.resolved _ _ earlier
    rw [valid.alert?_of_mem member] at stored
    cases stored
    rw [resolvedStatus] at status
    cases status
  constructor
  · intro position other here
    rcases here.of_set with ⟨_, sameLabel, _⟩ | earlier
    · rw [labelled] at sameLabel
      cases sameLabel
      have sameId : alert.id = alertId := by simpa using List.find?_some stored
      refine ⟨applyChanges [(alertId, .resolve now)] alert, ?_, ?_, ?_⟩
      · rw [tables]
        exact mem_commit_alerts.mpr ⟨alert, .inl (List.mem_of_find?_eq_some stored), rfl⟩
      · exact (applyChanges_id alert).trans sameId
      · simp [applyChanges, sameId, AlertChange.apply]
    · obtain ⟨row, member, sameRow, resolvedStatus⟩ := resolved.resolved _ _ earlier
      exact ⟨row, frozen row member resolvedStatus, sameRow, resolvedStatus⟩
  · intro left right other one another
    rcases one.of_set with ⟨rfl, sameLabel, _⟩ | first
    · rcases another.of_set with ⟨rfl, _, _⟩ | second
      · rfl
      · rw [labelled] at sameLabel
        cases sameLabel
        exact absurd second (unresolved right)
    · rcases another.of_set with ⟨rfl, sameLabel, _⟩ | second
      · rw [labelled] at sameLabel
        cases sameLabel
        exact absurd first (unresolved left)
      · exact resolved.once _ _ _ first second

theorem resolved_kept (valid : world.Valid)
    (reached : Reachable environment changesActive (AlertSystem.start settings world calls) system) :
    system.Resolved := by
  refine ((AlertSystem.start_verified settings valid calls).invariant AlertSystem.Resolved
    ?_ ?_ ?_ reached).2
  · have unresolved : ∀ index alertId,
        ¬ (AlertSystem.start settings world calls).ResolvedBy index alertId := by
      intro index alertId resolved
      obtain ⟨thread, listed, _, committed⟩ := resolved
      obtain ⟨call, _, rfl⟩ := List.mem_map.mp (List.mem_of_getElem? listed)
      apply committed
      exact congrArg History.commits settle_history
    constructor
    · intro index alertId resolved
      exact absurd resolved (unresolved index alertId)
    · intro left right alertId resolved _
      exact absurd resolved (unresolved left alertId)
  · intro system index answer label statement next session error turn resolved _ _
    apply resolved.kept
    · intro position alertId here
      rcases here.of_set with ⟨rfl, labelled, committed⟩ | earlier
      · exact ⟨_, turn.found, labelled, committed⟩
      · exact earlier
    · intro alert stored _
      exact stored
  · intro system index answer label statement next session response after updated turn resolved
      executed _
    have answered := execute_done executed
    have frozen : ∀ alert ∈ system.shared.tables.alerts, alert.status = .RESOLVED →
        alert ∈ after.tables.alerts :=
      fun alert stored => respond_frozen turn.allowed answered turn.verified.valid stored
    have commits : (Thread.settle environment ⟨label, next response, updated⟩).session.commits =
        updated.commits :=
      congrArg History.commits settle_history
    by_cases resolving : ∃ dirty alertId, statement = .commit dirty ∧ label = .resolve alertId
    · obtain ⟨dirty, alertId, rfl, rfl⟩ := resolving
      obtain ⟨now, rfl⟩ := turn.required
      have active := turn.allowed.2 _ rfl _ List.mem_cons_self
      have tables : after.tables =
          system.shared.tables.commit session [(alertId, .resolve now)] := by
        simp only [respond, commit] at answered
        split at answered
        · cases answered
        · cases answered
          rfl
      exact resolved.committed turn.verified.valid Thread.settle_label active tables frozen
    · apply resolved.kept _ frozen
      intro position alertId here
      rcases here.of_set with ⟨rfl, labelled, committed⟩ | earlier
      · rw [Thread.settle_label] at labelled
        refine ⟨_, turn.found, labelled, ?_⟩
        rw [commits] at committed
        have uncommitted : ∀ dirty, statement ≠ .commit dirty :=
          fun dirty same => resolving ⟨dirty, alertId, same, labelled⟩
        rwa [(respond_uncommitted uncommitted answered).2.1] at committed
      · exact earlier

theorem AlertSystem.Stamped.reachable {guard : Guard Statement Answer World Session}
    (stamped : ∀ alert ∈ world.tables.alerts, alert.Stamped)
    (reached : Reachable environment guard (AlertSystem.start settings world calls) system) :
    AlertSystem.Stamped system := by
  apply reached.invariant
  · constructor
    · exact stamped
    · intro thread member
      obtain ⟨call, _, rfl⟩ := List.mem_map.mp member
      apply Thread.settle_session (fun session : Session => ∀ alert ∈ session.alerts, alert.Stamped)
      · intro alert flushed
        cases flushed
      · intro alert flushed
        cases flushed
  · intro before after index answer sofar _ stepped
    exact sofar.step stepped

theorem resolved_frozen {later : AlertSystem}
    (verified : System.Verified databaseDiscipline changesActive AlertCall.Demands
      (AlertCall.Ensures world) system)
    (reached : Reachable environment changesActive system later) {alert : Alert}
    (stored : alert ∈ system.shared.tables.alerts) (resolved : alert.status = .RESOLVED) :
    alert ∈ later.shared.tables.alerts := by
  refine (verified.invariant (fun system => alert ∈ system.shared.tables.alerts) stored
    ?_ ?_ reached).2
  · intro system index answer label statement next session error _ stored _ _
    exact stored
  · intro system index answer label statement next session response after updated turn stored
      executed _
    exact respond_frozen turn.allowed (execute_done executed) turn.verified.valid stored resolved

/-- What the lifecycle of alerts promises of one state of a run that obeys `guard`. -/
structure AlertSystem.Lifecycle (guard : Guard Statement Answer World Session) (start : World)
    (system : AlertSystem) : Prop where
  stamped : ∀ alert ∈ system.shared.tables.alerts, alert.Stamped
  frozen : ∀ later, Reachable environment guard system later →
    ∀ alert ∈ system.shared.tables.alerts, alert.status = .RESOLVED →
      later.shared.tables.alert? alert.id = some alert
  once : ∀ alertId (left right : Nat) first second firstSession secondSession,
    system.threads[left]? = some ⟨.resolve alertId, .ret first, firstSession⟩ →
    system.threads[right]? = some ⟨.resolve alertId, .ret second, secondSession⟩ → left = right
  losers : ∀ alertId (index : Nat) error session,
    system.threads[index]? = some ⟨.resolve alertId, .raise error, session⟩ →
    (∃ message, error = .conflictError message) ∨
      ((∃ message, error = .notFoundError message) ∧ start.tables.alert? alertId = none)

end Runs

/-- Alerts that change only while they are active live one-way lives, and each is
resolved by one call at most. -/
theorem alert_lifecycle (settings : Settings) (world : World) (valid : world.Valid)
    (stamped : ∀ alert ∈ world.tables.alerts, alert.Stamped) (calls : List AlertCall)
    (system : AlertSystem)
    (reached : Reachable environment changesActive (AlertSystem.start settings world calls) system) :
    system.Lifecycle changesActive world := by
  have verified := (AlertSystem.start_verified settings valid calls).reachable reached
  constructor
  · exact (AlertSystem.Stamped.reachable stamped reached).stored
  · intro later onwards alert stored resolved
    exact (verified.reachable onwards).valid.alert?_of_mem
      (resolved_frozen verified onwards stored resolved)
  · intro alertId left right first second firstSession secondSession listed listedToo
    apply (resolved_kept valid reached).once left right alertId
    · exact ⟨_, listed, rfl, verified.threads _ _ listed⟩
    · exact ⟨_, listedToo, rfl, verified.threads _ _ listedToo⟩
  · intro alertId index error session listed
    exact verified.threads _ _ listed

/-! An evaluation raises an alert, and two calls resolve it: one after the other, and
both having read it while it was active. -/

def Sample.resolvedTwice : AlertSystem :=
  AlertSystem.start {} Sample.world [
    .evaluate { productId := Sample.product.id, warehouseId := Sample.main.id, quantity := 3 },
    .resolve 0, .resolve 0]

def Sample.oneByOne : List (Nat × Answer) :=
  (List.replicate 6 0 ++ List.replicate 4 1 ++ [2]).map (·, {})

def Sample.bothActive : List (Nat × Answer) :=
  (List.replicate 6 0 ++ [1, 2, 1, 2, 1, 2, 1, 2]).map (·, {})

theorem alert_lifecycle_one_by_one :
    ∃ system : AlertSystem,
      Sample.resolvedTwice.schedule environment Sample.oneByOne = some system ∧
        system.Lifecycle changesActive Sample.world := by
  have completes : (Sample.resolvedTwice.schedule environment Sample.oneByOne).isSome = true := by
    decide +kernel
  have respected : Sample.resolvedTwice.respects changesActive environment Sample.oneByOne =
      true := by decide +kernel
  exact ⟨_, (Option.some_get completes).symm, alert_lifecycle {} Sample.world Sample.world_valid
    (fun _ stored => by cases stored) _ _ (System.respects_get respected completes)⟩

theorem racing_resolutions_both_succeed :
    ¬ ∀ (settings : Settings) (world : World) (calls : List AlertCall), world.Valid →
      (∀ alert ∈ world.tables.alerts, alert.Stamped) → ∀ system : AlertSystem,
        Reachable environment healthy (AlertSystem.start settings world calls) system →
          system.Lifecycle healthy world := by
  intro lifecycle
  have completes : (Sample.resolvedTwice.schedule environment Sample.bothActive).isSome = true := by
    decide +kernel
  have respected : Sample.resolvedTwice.respects healthy environment Sample.bothActive = true := by
    decide +kernel
  have one := lifecycle {} Sample.world _ Sample.world_valid (fun _ stored => by cases stored) _
    (System.respects_get respected completes)
  have apart : (1 : Nat) = 2 := by
    apply one.once 0 1 2
    · rfl
    · rfl
  omega

end InventoryManagement
