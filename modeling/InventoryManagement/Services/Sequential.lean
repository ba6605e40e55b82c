import InventoryManagement.Interleaving.Trace
import InventoryManagement.Services.AlertAlone

/-! Requests served one after another: what a whole request that runs alone keeps,
and what its evaluations leave behind. -/

set_option autoImplicit false

namespace InventoryManagement

open Interleaving (Guard Moment Program)

variable {settings : Settings} {answers : Nat → Answer} {request : Request}
variable {world before after : World} {session updated : Session} {inventory : Inventory}

def Session.Accurate (session : Session) (tables : Tables) : Prop :=
  ∀ lookup ∈ session.pending, lookup.found = tables.activeAlerts lookup.pair

/-- With nobody else active lookups stay accurate, so no commit creates a second
active alert of a pair. -/
theorem respond_accurate {statement : Statement} {answer : Answer} {response : statement.Response}
    (executed : respond statement answer [] world session = .done response after updated)
    (conduct : Conduct settings request statement session world)
    (atMostOne : AtMostOneActive world.tables) (accurate : session.Accurate world.tables) :
    AtMostOneActive after.tables ∧ updated.Accurate after.tables := by
  by_cases commits : ∃ dirty, statement = .commit dirty
  · obtain ⟨dirty, rfl⟩ := commits
    simp only [respond, commit] at executed
    split at executed
    · cases executed
    · cases executed
      refine ⟨atMostOne.commit conduct ?_, fun lookup pending => (by cases pending)⟩
      intro alert created
      rcases conduct with movement | evaluation | resolution
      · obtain ⟨_, _, _, _, _, _, _, applying⟩ := movement.request
        simp [applying.alerts] at created
      · obtain ⟨lookup, inventory, pending, _, here, decision⟩ := evaluation.decision
        have found := accurate lookup pending
        rw [here] at found
        generalize session.alerts = alerts at created decision
        generalize lookup.found = alertsFound at found decision
        cases decision with
        | resolve condition => cases created
        | retype condition different => cases created
        | create pair active condition =>
            rw [List.mem_singleton.mp created, pair]
            exact found.symm
      · simp [resolution.clean.alerts] at created
  · obtain ⟨tables, _⟩ := respond_uncommitted (fun dirty same => commits ⟨dirty, same⟩) executed
    rw [tables]
    refine ⟨atMostOne, ?_⟩
    by_cases reads : ∃ productId warehouseId, statement = .selectActiveAlerts productId warehouseId
    · obtain ⟨productId, warehouseId, rfl⟩ := reads
      cases executed
      intro lookup pending
      cases pending
      rfl
    · have history := respond_history (fun dirty same => commits ⟨dirty, same⟩)
        (fun productId warehouseId same => reads ⟨productId, warehouseId, same⟩) executed
      intro lookup pending
      rw [congrArg History.pending history] at pending
      exact accurate lookup pending

/-- A request that runs alone, whatever fails, keeps every constraint and keeps
active alerts unique. -/
theorem request_alone (settings : Settings) (answers : Nat → Answer) (request : Request)
    (valid : world.Valid) (atMostOne : AtMostOneActive world.tables) :
    (runAlone answers world (request.program settings)).shared.Valid ∧
      AtMostOneActive (runAlone answers world (request.program settings)).shared.tables := by
  have kept := databaseDiscipline.run answers (request.program settings) 0 valid
    (Session.fresh_sound world)
  have conducted : Conducted settings request Guard.unrestricted (fun _ _ => True) _
      (request.program settings) {} world := Request.conducted permits_unrestricted request
  have ended := conducted.run answers (fun session world => AtMostOneActive world.tables ∧
    session.Accurate world.tables) 0 valid (Session.fresh_sound world) (fun _ _ _ _ => trivial)
    ⟨atMostOne, fun lookup pending => (by cases pending)⟩
    (fun _ _ _ _ _ _ _ executed conduct _ holds =>
      respond_accurate (execute_done executed) conduct holds.1 holds.2)
  exact ⟨kept.1, ended.1.1⟩

theorem concernsAlerts_run (answers : Nat → Answer) (world : World) (session : Session)
    {Value : Type} {program : Transaction Value}
    (only : ConcernsAlerts program) (elapsed : Nat) :
    ∃ events, (program.run environment answers elapsed world session).shared.published =
      world.published ++ events ∧ ∀ event ∈ events, event.isMovement = false := by
  refine only.run environment answers (fun after _ => ∃ events,
    after.published = world.published ++ events ∧ ∀ event ∈ events, event.isMovement = false)
    elapsed ⟨[], by simp, by simp⟩ ?_
  intro statement answer earlier middle response later last concerns executed ensured
  obtain ⟨events, sofar, quiet⟩ := ensured
  have responded := execute_done executed
  cases statement
  case dispatch event =>
    cases responded
    refine ⟨events ++ [event], by simp [sofar], ?_⟩
    simp only [Statement.concernsAlerts, Bool.not_eq_true'] at concerns
    simpa [or_imp, forall_and, concerns] using quiet
  all_goals
    refine ⟨events, ?_, quiet⟩
    rw [← sofar]
    simp only [respond, selectInventoryForUpdate, insertInventory, updateInventory, insertMovement,
      insertAlert, commit, selectActiveAlerts, refreshAlert, selectInventories, gather, delay] at responded
    (repeat' split at responded) <;> cases responded <;> rfl

theorem Evaluated.atMostOne {result : Option Alert}
    (evaluated : Evaluated settings inventory before session result after updated)
    (atMostOne : AtMostOneActive before.tables) : AtMostOneActive after.tables := by
  intro pair
  by_cases here : inventory.pair = pair
  · rw [← here, evaluated.active]
    cases result <;> simp
  · rw [evaluated.elsewhere pair here]
    exact atMostOne pair

theorem evaluate_alone (healthy : ∀ n, (answers n).fails = false) (valid : world.Valid)
    (unambiguous : (world.tables.activeAlerts inventory.pair).length ≤ 1) {done : List Pair}
    (resting : Resting settings session done updated) (evaluates : request.Evaluates updated)
    (known : Known updated world inventory) :
    (evaluateStockLevel settings inventory).Returns environment answers world updated
      (fun result after later => Evaluated settings inventory world updated result after later ∧
        (Resting settings session (done ++ [inventory.pair]) later ∧
          later.objects = updated.objects ∧ request.Evaluates later ∧
          after.tables.products = world.tables.products ∧
          after.tables.warehouses = world.tables.warehouses) ∧
        after.Valid ∧ later.Sound after) :=
  (evaluateStockLevel_alone healthy valid resting.clean known.fits known.refers
    unambiguous).verified (evaluate_known permits_unrestricted resting evaluates known)
    (fun _ _ _ _ => trivial) valid (resting.clean.sound world)

/-- The evaluations that follow a movement's commit never raise. -/
theorem evaluateAffected_alone (settings : Settings) (healthy : ∀ n, (answers n).fails = false) (valid : world.Valid)
    (atMostOne : AtMostOneActive world.tables) {done : List Pair} {affected : List Inventory}
    (resting : Resting settings session done updated) (evaluates : request.Evaluates updated)
    (known : ∀ inventory ∈ affected, Known updated world inventory) :
    (evaluateAffected settings affected).Returns environment answers world updated
      (fun _ _ _ => True) := by
  induction affected generalizing world updated done with
  | nil => exact Program.returns_ret trivial
  | cons inventory rest ih =>
      refine (evaluate_alone healthy valid (atMostOne _) resting evaluates
        (known inventory (by simp))).bind ?_
      rintro result after later ⟨evaluated, ⟨restingLater, objects, evaluatesLater, products,
        warehouses⟩, validAfter, _⟩
      exact ih validAfter (evaluated.atMostOne atMostOne) restingLater evaluatesLater
        (fun other member =>
          (known other (List.mem_cons_of_mem _ member)).congr objects products warehouses)

theorem sweepBatch_concernsAlerts (settings : Settings) (batch : List Inventory)
    (summary : SweepSummary) : ConcernsAlerts (sweepBatch settings batch summary) := by
  induction batch generalizing summary with
  | nil => trivial
  | cons inventory rest ih =>
      exact (evaluateStockLevel_concernsAlerts settings inventory).bind (fun _ => ih _)

theorem sweepPages_concernsAlerts (settings : Settings) (fuel skip : Nat)
    (summary : SweepSummary) : ConcernsAlerts (sweepPages settings fuel skip summary) := by
  induction fuel generalizing skip summary with
  | zero => trivial
  | succ fuel ih =>
      refine ⟨rfl, fun batch => ?_⟩
      by_cases empty : batch = []
      · simp only [Program.ret_bind, if_pos empty]
        trivial
      · simp only [Program.ret_bind, if_neg empty]
        exact (sweepBatch_concernsAlerts settings batch summary).bind (fun _ => ih _ _)

theorem resolveAlert_concernsAlerts (alertId : RowId) : ConcernsAlerts (resolveAlert alertId) := by
  refine Program.Only.bind ⟨rfl, fun entity => getByIdOrRaise_only _ _ _ entity⟩ (fun alert => ?_)
  by_cases closed : alert.status = .RESOLVED
  · simp only [if_pos closed]
    trivial
  · simp only [if_neg closed]
    exact ⟨rfl, fun _ => ⟨rfl, fun _ => ⟨rfl, fun _ => trivial⟩⟩⟩

theorem request_concernsAlerts (settings : Settings) (request : Request)
    (other : ∀ data performedBy, request ≠ .movement data performedBy) :
    ConcernsAlerts (request.program settings) := by
  cases request with
  | movement data performedBy => exact absurd rfl (other data performedBy)
  | sweep fuel => exact (sweepPages_concernsAlerts settings fuel 0 {}).bind (fun _ => trivial)
  | resolveAlert alertId => exact (resolveAlert_concernsAlerts alertId).bind (fun _ => trivial)

theorem movement_alone (settings : Settings) (answers : Nat → Answer) (world : World)
    (data : MovementCreate) (performedBy : Option UUID) :
    (runAlone answers world (Request.program settings (.movement data performedBy))).shared =
        (runAlone answers world (recordMovement settings data performedBy)).shared ∧
      (runAlone answers world (Request.program settings (.movement data performedBy))).session =
        (runAlone answers world (recordMovement settings data performedBy)).session := by
  have wrapped : Request.program settings (.movement data performedBy) =
      (recordMovement settings data performedBy).bind (fun movement => .ret (.movement movement)) :=
    rfl
  simp only [runAlone, wrapped, Program.run_bind]
  rcases (recordMovement settings data performedBy).run environment answers 0 world {} with
    ⟨_ | _ | _, _, _, _⟩ <;> exact ⟨rfl, rfl⟩

/-! The calls of a movement that runs alone. -/

section Calls

variable {data : MovementCreate} {performedBy : Option UUID}

/-- The movement has not been committed, and nothing can be seen of it. -/
structure Early (before : World) (moment : Moment Statement Answer World Session) : Prop where
  statement : moment.statement.prepares = true ∨ moment.statement = .commit []
  untouched : before.Untouched moment.shared

theorem prepareMovement_early (answers : Nat → Answer) (world : World) (data : MovementCreate)
    (performedBy : Option UUID) :
    ∀ moment ∈ (prepareMovement data performedBy).trace environment answers 0 world {},
      Early world moment := by
  have prepares := prepareMovement_prepares data performedBy
  have untouched : ∀ moment ∈
      (prepareMovement data performedBy).trace environment answers 0 world {},
      world.Untouched moment.shared := by
    apply Program.Only.trace_keeps (fun after _ => world.Untouched after) prepares (.refl world)
    intro statement answer before session response after updated prepares executed sofar
    exact sofar.trans (respond_prepares prepares (execute_done executed)).1
  intro moment member
  exact ⟨.inl (prepares.trace moment member), untouched moment member⟩

theorem commitSession_trace {Value : Type} (dirty : List (RowId × AlertChange))
    (next : Unit → Transaction Value) (elapsed : Nat) (world : World) (session : Session) :
    ((commitSession dirty).bind next).trace environment answers elapsed world session =
      match execute (.commit dirty) (answers elapsed) [] world session with
      | .wait => []
      | .raise _ => []
      | .done response after updated => ⟨answers elapsed, world, session, .commit dirty⟩ ::
          (next response).trace environment answers (elapsed + 1) after updated := by
  rw [show (commitSession dirty).bind next = .call (.commit dirty) next from rfl,
    Program.trace_call]
  cases executed : execute (.commit dirty) (answers elapsed) [] world session <;>
    simp only [environment, executed]

/-- A movement request makes early calls only, or commits after them and announces. -/
theorem recordMovement_trace (valid : world.Valid) (settings : Settings)
    (answers : Nat → Answer) (data : MovementCreate) (performedBy : Option UUID) :
    ∃ early : List (Moment Statement Answer World Session), (∀ moment ∈ early, Early world moment) ∧
      (((recordMovement settings data performedBy).trace environment answers 0 world {} = early ∧
          world.Untouched ((recordMovement settings data performedBy).run environment answers 0
            world {}).shared) ∨
        ∃ affected movement session committed elapsed,
          MovementDone world data performedBy affected movement session committed ∧
          (recordMovement settings data performedBy).run environment answers 0 world {} =
            ((announceMovement settings data affected).bind (fun _ => .ret movement)).run
              environment answers elapsed committed session ∧
          (recordMovement settings data performedBy).trace environment answers 0 world {} = early ++
            ((announceMovement settings data affected).bind (fun _ => .ret movement)).trace
              environment answers elapsed committed session) := by
  have early := prepareMovement_early answers world data performedBy
  have ran := prepareMovement_run answers valid data performedBy 0
  rw [recordMovement_eq, Program.run_bind]
  cases returned : (prepareMovement data performedBy).run environment answers 0 world {} with
  | mk outcome after updated later =>
      rw [returned] at ran
      obtain ⟨untouched, _, prepared⟩ := ran
      rcases outcome with _ | error | ⟨affected, movement⟩
      · rw [Program.trace_bind_stopped _ (by simp [returned])]
        exact ⟨_, early, .inl ⟨rfl, untouched⟩⟩
      · rw [Program.trace_bind_stopped _ (by simp [returned])]
        exact ⟨_, early, .inl ⟨rfl, untouched⟩⟩
      · rw [Program.trace_bind _ returned]
        dsimp only
        rw [commitSession_run, commitSession_trace]
        cases executed : execute (.commit []) (answers later) [] after updated with
        | wait => exact ⟨_, early, .inl ⟨List.append_nil _, untouched⟩⟩
        | raise error => exact ⟨_, early, .inl ⟨List.append_nil _, untouched⟩⟩
        | done response committed session =>
            have committing : Early world ⟨answers later, after, updated, .commit []⟩ :=
              ⟨.inr rfl, untouched⟩
            have allEarly := List.forall_mem_append.mpr
              ⟨early, List.forall_mem_singleton.mpr committing⟩
            refine ⟨_, allEarly, .inr ⟨affected, movement, session, committed, later + 1,
              (prepared _ rfl).commit executed, rfl, ?_⟩⟩
            exact (List.append_assoc _ [_] _).symm

end Calls

end InventoryManagement
