import InventoryManagement.Interleaving.Termination
import InventoryManagement.Services.ActiveAlerts

/-! What a client can rely on once its movement is committed. -/

set_option autoImplicit false

namespace InventoryManagement

open Interleaving (Guard Program System Reachable Thread Outcome)

/-- The database does not fail, and no call that has recorded its movement looks up
a pair with several active alerts. -/
def looksUpOneActive : Guard Statement Answer World Session :=
  fun answer _ world session statement => answer.fails = false ∧
    ∀ pair ∈ statement.lookup?, session.recorded ≠ [] →
      (world.tables.activeAlerts pair).length ≤ 1

instance (answer : Answer) (others : List Session) (world : World) (session : Session)
    (statement : Statement) : Decidable (looksUpOneActive answer others world session statement) :=
  inferInstanceAs (Decidable (_ ∧ ∀ pair ∈ statement.lookup?, _ → _ ≤ 1))

/-- A call that has committed its movement and has returned it. -/
def Request.Returned
    (thread : Thread Request Statement Statement.Response Exception Session Reply) : Prop :=
  ∃ movement, thread.program = .ret (.movement movement) ∧ thread.session.recorded = [movement]

/-- Only the statements of an open movement transaction have to wait. -/
theorem waits_uncommitted {settings : Settings} {request : Request} {statement : Statement}
    {answer : Answer} {others : List Session} {world : World} {session : Session}
    (waits : execute statement answer others world session = .wait)
    (conduct : Conduct settings request statement session world) : session.recorded = [] := by
  unfold execute at waits
  split at waits
  · cases waits
  · cases statement
    case selectInventoryForUpdate => exact congrArg History.recorded conduct.1
    case insertInventory => exact congrArg History.recorded conduct.1
    all_goals
      simp only [respond, updateInventory, insertMovement, insertAlert, commit,
        selectActiveAlerts, refreshAlert, selectInventories, dispatch, gather, delay] at waits
      (repeat' split at waits) <;> cases waits

theorem recorded_kept {settings : Settings} {request : Request} {statement : Statement}
    {answer : Answer} {others : List Session} {world after : World} {session updated : Session}
    {response : statement.Response}
    (executed : execute statement answer others world session = .done response after updated)
    (conduct : Conduct settings request statement session world)
    (committed : session.recorded ≠ []) : updated.recorded = session.recorded := by
  have answered := execute_done executed
  by_cases commits : ∃ dirty, statement = .commit dirty
  · obtain ⟨dirty, rfl⟩ := commits
    rcases Conduct.commit_cases conduct with movement | unlocked
    · obtain ⟨_, _, _, _, _, _, _, applying⟩ := movement.request
      exact absurd (congrArg History.recorded applying.history) committed
    · simp only [respond, commit] at answered
      split at answered
      · cases answered
      · cases answered
        simp [unlocked.movements]
  · exact (respond_uncommitted (fun dirty same => commits ⟨dirty, same⟩) answered).2.2.1

section Runs

variable {settings : Settings} {world : World} {requests : List Request} {system : Application}
variable {index : Nat}

/-- Under the guard, a call that has recorded its movement meets no error. -/
private theorem permits_before_commit :
    Permits looksUpOneActive (fun recorded _ => recorded = []) := by
  refine ⟨?_, ?_⟩
  · intro answer others world session statement permitted fails
    rw [permitted.1] at fails
    cases fails
  · intro answer others world session productId warehouseId permitted several
    by_contra committed
    have one := permitted.2 _ rfl committed
    omega

private theorem raises_nothing
    (verified : System.Verified databaseDiscipline looksUpOneActive (Conduct settings)
      (Concluded settings fun recorded _ => recorded = []) system)
    {thread : Thread Request Statement Statement.Response Exception Session Reply}
    (found : system.threads[index]? = some thread) (committed : thread.session.recorded ≠ [])
    (error : Exception) : thread.program ≠ .raise error := by
  intro raised
  obtain ⟨label, program, session⟩ := thread
  cases raised
  rcases verified.threads _ _ found with ⟨nothing, _⟩ | nothing
  · exact committed nothing
  · exact committed nothing

/-- A call that has recorded its movement has returned it, or its next call is
answered whatever the answer. -/
private theorem committed_progress
    (verified : System.Verified databaseDiscipline looksUpOneActive (Conduct settings)
      (Concluded settings fun recorded _ => recorded = []) system)
    {thread : Thread Request Statement Statement.Response Exception Session Reply}
    (found : system.threads[index]? = some thread) (committed : thread.session.recorded ≠ []) :
    Request.Returned thread ∨ ∃ label statement next session,
      system.threads[index]? = some ⟨label, .call statement next, session⟩ ∧
      ∀ answer, looksUpOneActive answer (system.others index) system.shared session statement →
        ∃ after, System.step environment system index answer = some after := by
  obtain ⟨label, program, session⟩ := thread
  cases program with
  | raise error => exact absurd rfl (raises_nothing verified found committed error)
  | ret reply =>
      obtain ⟨_, _, ends⟩ := verified.threads _ _ found
      cases label with
      | movement data performedBy =>
          obtain ⟨movement, rfl, recorded⟩ := ends
          exact .inl ⟨movement, rfl, recorded⟩
      | sweep fuel => exact absurd ends.1 committed
      | resolveAlert alertId => exact absurd ends.1 committed
  | call statement next =>
      refine .inr ⟨label, statement, next, session, found, ?_⟩
      intro answer permitted
      exact System.step_of_answered found (fun waits =>
        committed (waits_uncommitted waits (verified.requires found)))

private theorem committed_kept {after : Application} {position : Nat} {answer : Answer}
    (verified : System.Verified databaseDiscipline looksUpOneActive (Conduct settings)
      (Concluded settings fun recorded _ => recorded = []) system)
    (stepped : System.step environment system position answer = some after)
    {thread : Thread Request Statement Statement.Response Exception Session Reply}
    (found : system.threads[index]? = some thread) (committed : thread.session.recorded ≠ []) :
    ∃ moved, after.threads[index]? = some moved ∧ moved.session.recorded ≠ [] := by
  obtain ⟨label, statement, next, session, mover, outcome⟩ := System.step_cases stepped
  have bound : position < system.threads.length := (List.getElem?_eq_some_iff.mp mover).1
  by_cases here : position = index
  · subst here
    rw [found] at mover
    cases mover
    rcases outcome with ⟨error, _, rfl⟩ | ⟨response, shared, updated, executed, rfl⟩
    · exact ⟨_, List.getElem?_set_self bound, committed⟩
    · refine ⟨_, List.getElem?_set_self bound, ?_⟩
      have kept := recorded_kept executed (verified.requires found) committed
      rw [settle_history, kept]
      exact committed
  · rcases outcome with ⟨error, _, rfl⟩ | ⟨response, shared, updated, _, rfl⟩
    · exact ⟨thread, (List.getElem?_set_ne here).trans found, committed⟩
    · exact ⟨thread, (List.getElem?_set_ne here).trans found, committed⟩

/-- A committed movement is reported as committed, whatever the handlers and the
broker do, as long as its own alert lookups are unambiguous: every maximal run
leads to its return. -/
theorem committed_movement_returns (settings : Settings) (world : World)
    (requests : List Request) (valid : world.Valid) (system : Application)
    (reached : Reachable environment looksUpOneActive
      (Application.start settings world requests) system) :
    ∀ (index : Nat) thread, system.threads[index]? = some thread → thread.session.recorded ≠ [] →
      System.Leads environment looksUpOneActive index (fun final =>
        ∃ moved, final.threads[index]? = some moved ∧ Request.Returned moved) system := by
  intro index thread found committed
  have verified : ∀ {current}, Reachable environment looksUpOneActive
      (Application.start settings world requests) current → System.Verified databaseDiscipline
        looksUpOneActive (Conduct settings) (Concluded settings fun recorded _ => recorded = [])
        current :=
    fun reached => (Application.start_verified settings permits_before_commit valid
      requests).reachable reached
  refine System.leads_of_invariant
    (fun current : Application => Reachable environment looksUpOneActive
      (Application.start settings world requests) current ∧
      ∃ thread, current.threads[index]? = some thread ∧ thread.session.recorded ≠ [])
    ?_ ?_ ⟨reached, thread, found, committed⟩
  · rintro current after position answer ⟨reached, thread, found, committed⟩ allowed stepped
    exact ⟨.step reached allowed stepped, committed_kept (verified reached) stepped found committed⟩
  · intro current ensured
    obtain ⟨reached, thread, found, committed⟩ := ensured
    rcases committed_progress (verified reached) found committed with returned | proceeds
    · exact .inl ⟨thread, found, returned⟩
    · exact .inr proceeds

end Runs

/-! After two racing receipts a third one finds two active alerts. -/

def Sample.threeReceipts : Application :=
  Application.start {} Sample.world [
    .movement Sample.receive3 none,
    .movement Sample.receive2 none,
    .movement Sample.receive1 none]

def Sample.thirdReceipt : List (Nat × Answer) :=
  Sample.racing ++ (List.replicate 7 2).map (·, ({} : Answer))

theorem committed_movement_returns_orderly :
    ∃ system, Sample.lowReceipts.schedule environment Sample.orderly = some system ∧
      ∀ (index : Nat) thread, system.threads[index]? = some thread → thread.session.recorded ≠ [] →
        System.Leads environment looksUpOneActive index (fun final =>
          ∃ moved, final.threads[index]? = some moved ∧ Request.Returned moved) system := by
  have completes : (Sample.lowReceipts.schedule environment Sample.orderly).isSome = true := by
    decide +kernel
  have respected : Sample.lowReceipts.respects looksUpOneActive environment Sample.orderly =
      true := by decide +kernel
  exact ⟨_, (Option.some_get completes).symm,
    committed_movement_returns {} Sample.world _ Sample.world_valid _
      (System.respects_get respected completes)⟩

theorem third_receipt_reported_as_failed :
    ¬ ∀ (settings : Settings) (world : World) (requests : List Request), world.Valid →
      ∀ system, Reachable environment healthy (Application.start settings world requests) system →
        ∀ thread ∈ system.threads, thread.session.recorded ≠ [] →
          ∀ error, thread.program ≠ .raise error := by
  intro reliable
  have respected : Sample.threeReceipts.respects healthy environment Sample.thirdReceipt = true := by
    decide +kernel
  have failed : (Sample.threeReceipts.schedule environment Sample.thirdReceipt).any (fun system =>
      system.threads.any (fun thread => !thread.session.recorded.isEmpty &&
        match thread.program with
        | .raise _ => true
        | _ => false)) = true := by
    decide +kernel
  cases ran : Sample.threeReceipts.schedule environment Sample.thirdReceipt with
  | none =>
      rw [ran] at failed
      cases failed
  | some system =>
      rw [ran] at failed
      obtain ⟨thread, member, both⟩ := List.any_eq_true.mp failed
      obtain ⟨committed, raised⟩ := Bool.and_eq_true_iff.mp both
      split at raised
      · next error ended =>
          exact reliable {} Sample.world _ Sample.world_valid system
            (System.respects_reachable .refl respected ran) thread member (by simpa using committed)
            error ended
      · cases raised

end InventoryManagement
