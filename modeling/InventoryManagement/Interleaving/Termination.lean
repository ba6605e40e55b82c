import InventoryManagement.Interleaving.System
import Mathlib.Data.List.Perm.Basic
import Mathlib.Logic.Hydra

/-! Every run ends: a step replaces one thread's program by one of its subprograms.
Together with progress this makes a thread's goal inevitable. -/

set_option autoImplicit false

namespace InventoryManagement.Interleaving

variable {Label Statement : Type} {Response : Statement → Type}
variable {Error Answer Shared Session Value : Type}

/-- What can be left of a program after its next call. -/
inductive Program.Follows : Program Statement Response Error Value →
    Program Statement Response Error Value → Prop where
  | raised {statement : Statement}
      {next : Response statement → Program Statement Response Error Value} (error : Error) :
      Follows (.raise error) (.call statement next)
  | answered {statement : Statement}
      {next : Response statement → Program Statement Response Error Value}
      (response : Response statement) : Follows (next response) (.call statement next)

theorem Program.follows_wellFounded :
    WellFounded (fun later earlier : Program Statement Response Error Value =>
      later.Follows earlier) := by
  have ended : ∀ error : Error,
      Acc Program.Follows (.raise error : Program Statement Response Error Value) :=
    fun error => .intro _ (fun _ follows => by cases follows)
  refine ⟨fun program => ?_⟩
  induction program with
  | ret value => exact .intro _ (fun _ follows => by cases follows)
  | raise error => exact ended error
  | call statement next ih =>
      refine .intro _ (fun later follows => ?_)
      cases follows with
      | raised error => exact ended error
      | answered response => exact ih response

/-- What is left to do, whoever does it. -/
def System.programs (system : System Label Statement Response Error Shared Session Value) :
    Multiset (Program Statement Response Error Value) :=
  (system.threads.map (·.program) : List (Program Statement Response Error Value))

theorem System.programs_set {system : System Label Statement Response Error Shared Session Value}
    {index : Nat} {old moved : Thread Label Statement Response Error Session Value}
    {shared : Shared} (found : system.threads[index]? = some old) :
    System.programs ⟨shared, system.threads.set index moved⟩ + {old.program} =
      system.programs + {moved.program} := by
  obtain ⟨bound, value⟩ := List.getElem?_eq_some_iff.mp found
  have after := (List.set_perm_cons_eraseIdx bound moved).map (·.program)
  have before := (List.getElem_cons_eraseIdx_perm bound).map (·.program)
  rw [value] at before
  have swapped : ((system.threads.set index moved).map (·.program) ++ [old.program]).Perm
      (system.threads.map (·.program) ++ [moved.program]) := by
    refine (after.append_right _).trans (.trans ?_ (before.append_right _))
    simp only [List.map_cons, List.cons_append]
    exact (List.perm_append_singleton _ _).cons _ |>.trans
      ((List.Perm.swap _ _ _).trans ((List.perm_append_singleton _ _).symm.cons _))
  exact Multiset.coe_eq_coe.mpr swapped

section Runs

variable {semantics : Semantics Statement Response Error Answer Shared Session}
variable {guard : Guard Statement Answer Shared Session}
variable {system after : System Label Statement Response Error Shared Session Value}
variable {index : Nat} {answer : Answer}

theorem System.step_programs (stepped : system.step semantics index answer = some after) :
    Relation.CutExpand Program.Follows after.programs system.programs := by
  obtain ⟨label, statement, next, session, found, outcome⟩ := System.step_cases stepped
  rcases outcome with ⟨error, _, rfl⟩ | ⟨response, shared, updated, _, rfl⟩
  · refine ⟨{.raise error}, .call statement next, ?_, System.programs_set found⟩
    intro program member
    rw [Multiset.mem_singleton.mp member]
    exact .raised error
  · have kept : (Thread.settle semantics ⟨label, next response, updated⟩).program =
        next response := by
      unfold Thread.settle
      split <;> rfl
    refine ⟨{next response}, .call statement next, ?_, ?_⟩
    · intro program member
      rw [Multiset.mem_singleton.mp member]
      exact .answered response
    · have replaced : System.programs ⟨shared, system.threads.set index
          (Thread.settle semantics ⟨label, next response, updated⟩)⟩ + {.call statement next} =
          system.programs +
            {(Thread.settle semantics ⟨label, next response, updated⟩).program} :=
        System.programs_set found
      rw [kept] at replaced
      exact replaced

variable (semantics) in
/-- There is no infinite run. -/
theorem System.steps_wellFounded :
    WellFounded (fun after before : System Label Statement Response Error Shared Session Value =>
      ∃ index answer, before.step semantics index answer = some after) :=
  Subrelation.wf (fun later =>
    later.elim (fun _ answered => answered.elim (fun _ stepped => System.step_programs stepped)))
    (InvImage.wf System.programs Program.follows_wellFounded.cutExpand)

variable (semantics guard) in
/-- Every maximal guarded run reaches the goal: until then thread `index` is at a call
that is answered, whatever the answer, so the run cannot end before. -/
inductive System.Leads (index : Nat)
    (goal : System Label Statement Response Error Shared Session Value → Prop) :
    System Label Statement Response Error Shared Session Value → Prop where
  | reached {system : System Label Statement Response Error Shared Session Value}
      (holds : goal system) : Leads index goal system
  | onward {system : System Label Statement Response Error Shared Session Value}
      {label : Label} {statement : Statement}
      {next : Response statement → Program Statement Response Error Value} {session : Session}
      (found : system.threads[index]? = some ⟨label, .call statement next, session⟩)
      (proceeds : ∀ answer, guard answer (system.others index) system.shared session statement →
        ∃ after, system.step semantics index answer = some after)
      (remaining : ∀ position answer after, system.allows guard position answer →
        system.step semantics position answer = some after → Leads index goal after) :
      Leads index goal system

/-- The progress rule: an invariant of guarded steps under which the thread has its
goal or proceeds leads to the goal. -/
theorem System.leads_of_invariant
    (property : System Label Statement Response Error Shared Session Value → Prop)
    {goal : System Label Statement Response Error Shared Session Value → Prop}
    (preserved : ∀ system after position answer, property system →
      System.allows guard system position answer →
      System.step semantics system position answer = some after → property after)
    (progress : ∀ system, property system → goal system ∨
      ∃ label statement next session,
        system.threads[index]? = some ⟨label, .call statement next, session⟩ ∧
        ∀ answer, guard answer (system.others index) system.shared session statement →
          ∃ after, System.step semantics system index answer = some after)
    (holds : property system) : System.Leads semantics guard index goal system := by
  induction system using (System.steps_wellFounded semantics).induction with
  | _ system ih =>
      rcases progress system holds with reached | ⟨label, statement, next, session, found, proceeds⟩
      · exact .reached reached
      · refine .onward found proceeds ?_
        intro position answer after allowed stepped
        exact ih after ⟨position, answer, stepped⟩
          (preserved system after position answer holds allowed stepped)

end Runs

end InventoryManagement.Interleaving
