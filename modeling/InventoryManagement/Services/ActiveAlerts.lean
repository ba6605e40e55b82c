import InventoryManagement.Services.RequestConduct

/-! At most one active alert per pair: what the services do about it, and the
commits that decide it. -/

set_option autoImplicit false

namespace InventoryManagement

open Interleaving (Guard Program System Reachable Thread)

def AtMostOneActive (tables : Tables) : Prop :=
  ∀ pair, (tables.activeAlerts pair).length ≤ 1

/-- A commit that creates an alert finds none active for its pair: the lookup the
evaluation acted on is still accurate. -/
def createsOnCurrentLookup : Guard Statement Answer World Session :=
  fun answer _ world session statement => ∀ _dirty ∈ statement.dirty?, answer.fails = false →
    ∀ alert ∈ session.alerts, world.tables.activeAlerts alert.pair = []

instance (answer : Answer) (others : List Session) (world : World) (session : Session)
    (statement : Statement) :
    Decidable (createsOnCurrentLookup answer others world session statement) :=
  inferInstanceAs (Decidable (∀ _dirty ∈ statement.dirty?, _ → ∀ alert ∈ session.alerts, _))

section Commit

variable {settings : Settings} {request : Request} {dirty : List (RowId × AlertChange)}
variable {tables : Tables} {session : Session} {world : World} {pair : Pair}

theorem mem_activeAlerts {alert : Alert} {tables : Tables} {pair : Pair} :
    alert ∈ tables.activeAlerts pair ↔
      alert ∈ tables.alerts ∧ alert.pair = pair ∧ alert.status = .ACTIVE := by
  simp [Tables.activeAlerts, Alert.isActive]

theorem AlertChange.apply_isActive {change : AlertChange} {alert : Alert}
    (active : (change.apply alert).isActive = true) : alert.isActive = true := by
  cases change with
  | retype alertType quantity => exact active
  | resolve now => simp [AlertChange.apply, Alert.isActive] at active

theorem applyChanges_isActive {alert : Alert}
    (active : (applyChanges dirty alert).isActive = true) : alert.isActive = true := by
  induction dirty generalizing alert with
  | nil => exact active
  | cons change rest ih =>
      simp only [applyChanges, List.foldl_cons] at active
      split at active
      · exact AlertChange.apply_isActive (ih active)
      · exact ih active

theorem applyChanges_nil : applyChanges [] = id := rfl

/-- A commit changes the active alerts of a pair in place, drops those it resolves
and adds the ones it inserted. -/
theorem Tables.activeAlerts_commit :
    (tables.commit session dirty).activeAlerts pair =
      ((tables.activeAlerts pair ++
        session.alerts.filter (fun alert => alert.pair = pair && alert.isActive)).map
          (applyChanges dirty)).filter Alert.isActive := by
  rw [Tables.activeAlerts, Tables.activeAlerts, Tables.commit, ← List.filter_append,
    List.filter_map, List.filter_map, List.filter_filter]
  congr 1
  apply List.filter_congr
  intro alert _
  simp only [Function.comp_apply, applyChanges_pair]
  cases active : (applyChanges dirty alert).isActive with
  | false => simp
  | true => simp [applyChanges_isActive active]

theorem Tables.activeAlerts_commit_le :
    ((tables.commit session dirty).activeAlerts pair).length ≤
      (tables.activeAlerts pair).length +
        (session.alerts.filter (fun alert => alert.pair = pair && alert.isActive)).length := by
  rw [Tables.activeAlerts_commit]
  refine Nat.le_trans (List.length_filter_le _ _) ?_
  rw [List.length_map, List.length_append]

/-- An evaluation creates at most one alert, an active one and with no other write. -/
theorem Conduct.created (conduct : Conduct settings request (.commit dirty) session world) :
    session.alerts = [] ∨
      ∃ alert, session.alerts = [alert] ∧ alert.isActive = true ∧ dirty = [] := by
  rcases conduct with movement | alert | resolve
  · obtain ⟨_, _, _, _, _, _, _, applying⟩ := movement.request
    exact .inl applying.alerts
  · obtain ⟨lookup, inventory, _, _, _, decision⟩ := alert.decision
    generalize created : session.alerts = alerts at decision
    generalize lookup.found = found at decision
    cases decision with
    | resolve condition => exact .inl rfl
    | retype condition different => exact .inl rfl
    | create pair active condition => exact .inr ⟨_, rfl, active, rfl⟩
  · exact .inl resolve.clean.alerts

theorem AtMostOneActive.commit (atMostOne : AtMostOneActive tables)
    (conduct : Conduct settings request (.commit dirty) session world)
    (current : ∀ alert ∈ session.alerts, tables.activeAlerts alert.pair = []) :
    AtMostOneActive (tables.commit session dirty) := by
  intro pair
  refine Nat.le_trans Tables.activeAlerts_commit_le ?_
  rcases conduct.created with none | ⟨alert, one, _, _⟩
  · simpa [none] using atMostOne pair
  · by_cases here : alert.pair = pair
    · have found := current alert (by simp [one])
      rw [here] at found
      simpa [found, one] using List.length_filter_le _ [alert]
    · simpa [one, here] using atMostOne pair

/-- A commit that creates an alert next to an active one makes two. -/
theorem two_active_of_stale_lookup
    (conduct : Conduct settings request (.commit dirty) session world) {alert : Alert}
    (created : alert ∈ session.alerts) (stale : tables.activeAlerts alert.pair ≠ []) :
    ¬ AtMostOneActive (tables.commit session dirty) := by
  intro atMostOne
  have bound := atMostOne alert.pair
  rcases conduct.created with none | ⟨only, one, active, rfl⟩
  · simp [none] at created
  · obtain rfl : alert = only := by simpa [one] using created
    have kept : ((tables.commit session []).activeAlerts alert.pair) =
        tables.activeAlerts alert.pair ++ [alert] := by
      simp [Tables.activeAlerts, Tables.commit, applyChanges_nil, one, active]
    have present := List.length_pos_iff.mpr stale
    rw [kept, List.length_append] at bound
    change _ + 1 ≤ 1 at bound
    omega

end Commit

section Runs

variable {settings : Settings} {world : World} {requests : List Request}
variable {allowed : List Movement → Exception → Prop}

/-- One statement and the guard decide together whether alerts stay unique. -/
theorem respond_atMostOne {request : Request} {statement : Statement} {answer : Answer}
    {others : List Session} {after : World} {session updated : Session}
    {response : statement.Response}
    (executed : execute statement answer others world session = .done response after updated)
    (conduct : Conduct settings request statement session world)
    (atMostOne : AtMostOneActive world.tables) :
    AtMostOneActive after.tables ↔
      createsOnCurrentLookup answer others world session statement := by
  by_cases commits : ∃ dirty, statement = .commit dirty
  · obtain ⟨dirty, rfl⟩ := commits
    have healthy : answer.fails = false := by
      by_contra failing
      have fails : answer.fails = true := by simpa using failing
      simp [execute, Statement.usesDatabase, fails] at executed
    have committed := execute_done executed
    simp only [respond, commit] at committed
    split at committed
    · cases committed
    · cases committed
      constructor
      · intro unique _ _ _ alert created
        by_contra stale
        exact two_active_of_stale_lookup conduct created stale unique
      · intro current
        exact atMostOne.commit conduct (current dirty rfl healthy)
  · obtain ⟨tables, _⟩ :=
      respond_uncommitted (fun dirty same => commits ⟨dirty, same⟩) (execute_done executed)
    constructor
    · intro _ dirty flushed
      exact absurd ⟨dirty, Statement.eq_commit flushed⟩ commits
    · intro _
      rw [tables]
      exact atMostOne

theorem raised_creates_nothing {request : Request} {statement : Statement} {answer : Answer}
    {others : List Session} {session : Session} {error : Exception}
    (raised : execute statement answer others world session = .raise error)
    (conduct : Conduct settings request statement session world) :
    createsOnCurrentLookup answer others world session statement := by
  intro dirty flushed healthy alert created
  obtain rfl := Statement.eq_commit flushed
  rcases conduct.created with none | ⟨_, _, _, rfl⟩
  · simp [none] at created
  · simp [execute, healthy, respond, commit] at raised

/-- As long as alerts are only created on an accurate lookup, no pair ever has two
active ones, and the first step that creates one on a stale lookup makes two. -/
theorem at_most_one_active_while_lookups_current (settings : Settings) (world : World)
    (requests : List Request) (valid : world.Valid) (noAlerts : world.tables.alerts = [])
    (system : Application)
    (reached : Reachable environment createsOnCurrentLookup
      (Application.start settings world requests) system) :
    AtMostOneActive system.shared.tables ∧
      ∀ index answer after, System.step environment system index answer = some after →
        (AtMostOneActive after.shared.tables ↔
          system.allows createsOnCurrentLookup index answer) := by
  have permits : Permits createsOnCurrentLookup (fun _ _ => True) :=
    ⟨fun _ _ _ _ _ _ _ => trivial, fun _ _ _ _ _ _ _ _ => trivial⟩
  have initially : AtMostOneActive world.tables := by
    intro pair
    simp [Tables.activeAlerts, noAlerts]
  obtain ⟨verified, atMostOne⟩ := System.Verified.invariant
    (fun system : Application => AtMostOneActive system.shared.tables)
    (Application.start_verified settings permits valid requests) initially
    (fun _ _ _ _ _ _ _ _ _ atMostOne _ _ => atMostOne)
    (fun _ _ _ _ _ _ _ _ _ _ turn atMostOne executed _ =>
      (respond_atMostOne executed turn.required atMostOne).mpr turn.allowed) reached
  refine ⟨atMostOne, ?_⟩
  intro index answer after stepped
  obtain ⟨label, statement, next, session, found, outcome⟩ := System.step_cases stepped
  have conduct := verified.requires found
  rw [System.allows_iff found]
  rcases outcome with ⟨error, raised, rfl⟩ | ⟨response, shared, updated, executed, rfl⟩
  · exact ⟨fun _ => raised_creates_nothing raised conduct, fun _ => atMostOne⟩
  · exact respond_atMostOne executed conduct atMostOne

/-! Two receipts for one pair, under two schedules: one after the other, and both
committed before either evaluates. -/

theorem Sample.stocked_atMostOne : AtMostOneActive Sample.stocked.tables := by
  intro pair
  simp [Tables.activeAlerts, Sample.stocked, Sample.world]

theorem Sample.world_atMostOne : AtMostOneActive Sample.world.tables := by
  intro pair
  simp [Tables.activeAlerts, Sample.world]

def Sample.lowReceipts : Application :=
  Application.start {} Sample.world [
    .movement Sample.receive3 none,
    .movement Sample.receive2 none]

def Sample.orderly : List (Nat × Answer) :=
  (List.replicate 15 0 ++ List.replicate 9 1).map (·, {})

def Sample.racing : List (Nat × Answer) :=
  (List.replicate 7 0 ++ List.replicate 6 1 ++ [0, 1, 0, 0, 1, 1]).map (·, {})

theorem at_most_one_active_while_lookups_current_orderly :
    ∃ system, AtMostOneActive system.shared.tables ∧
      Sample.lowReceipts.schedule environment Sample.orderly = some system := by
  have completes : (Sample.lowReceipts.schedule environment Sample.orderly).isSome = true := by
    decide +kernel
  have respected : Sample.lowReceipts.respects createsOnCurrentLookup environment Sample.orderly =
      true := by decide +kernel
  exact ⟨_, (at_most_one_active_while_lookups_current {} Sample.world _ Sample.world_valid rfl _
    (System.respects_get respected completes)).1, (Option.some_get completes).symm⟩

theorem racing_receipts_make_two_active :
    ¬ ∀ (settings : Settings) (world : World) (requests : List Request), world.Valid →
      world.tables.alerts = [] → ∀ system, Reachable environment Guard.unrestricted
        (Application.start settings world requests) system → AtMostOneActive system.shared.tables := by
  intro unique
  have completes : (Sample.lowReceipts.schedule environment Sample.racing).isSome = true := by
    decide +kernel
  have two : (Sample.lowReceipts.schedule environment Sample.racing).map (fun system =>
      (system.shared.tables.activeAlerts (Sample.product.id, Sample.main.id)).length) = some 2 := by
    decide +kernel
  obtain ⟨system, ran⟩ := Option.isSome_iff_exists.mp completes
  have bound := unique {} Sample.world _ Sample.world_valid rfl system
    (System.schedule_reachable .refl ran) (Sample.product.id, Sample.main.id)
  rw [ran, Option.map_some, Option.some.injEq] at two
  omega

end Runs

end InventoryManagement
