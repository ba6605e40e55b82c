import InventoryManagement.Interleaving.Program
import Mathlib.Data.List.Basic

/-! Threads that share one state and interleave at their calls. A thread whose
program has ended keeps its outcome and a closed session. -/

set_option autoImplicit false

namespace InventoryManagement.Interleaving

structure Thread (Label Statement : Type) (Response : Statement → Type)
    (Error Session Value : Type) where
  label : Label
  program : Program Statement Response Error Value
  session : Session

structure System (Label Statement : Type) (Response : Statement → Type)
    (Error Shared Session Value : Type) where
  shared : Shared
  threads : List (Thread Label Statement Response Error Session Value)

variable {Label Statement : Type} {Response : Statement → Type}
variable {Error Answer Shared Session Value : Type}

/-- Close the session of a thread whose program has ended. -/
def Thread.settle (semantics : Semantics Statement Response Error Answer Shared Session)
    (thread : Thread Label Statement Response Error Session Value) :
    Thread Label Statement Response Error Session Value :=
  match thread.program with
  | .call _ _ => thread
  | .ret _ => { thread with session := semantics.close thread.session }
  | .raise _ => { thread with session := semantics.close thread.session }

def Thread.finished (thread : Thread Label Statement Response Error Session Value) : Bool :=
  match thread.program with
  | .call _ _ => false
  | .ret _ => true
  | .raise _ => true

/-- One thread for each label, all starting from the same fresh session. -/
def System.start (semantics : Semantics Statement Response Error Answer Shared Session)
    (program : Label → Program Statement Response Error Value) (shared : Shared) (session : Session)
    (labels : List Label) : System Label Statement Response Error Shared Session Value where
  shared := shared
  threads := labels.map (fun label => Thread.settle semantics ⟨label, program label, session⟩)

@[simp] theorem Thread.settle_label
    {semantics : Semantics Statement Response Error Answer Shared Session}
    {thread : Thread Label Statement Response Error Session Value} :
    (Thread.settle semantics thread).label = thread.label := by
  unfold Thread.settle
  split <;> rfl

@[simp] theorem Thread.settle_program
    {semantics : Semantics Statement Response Error Answer Shared Session}
    {thread : Thread Label Statement Response Error Session Value} :
    (Thread.settle semantics thread).program = thread.program := by
  unfold Thread.settle
  split <;> rfl

theorem Thread.settle_running
    {semantics : Semantics Statement Response Error Answer Shared Session}
    {thread : Thread Label Statement Response Error Session Value}
    (running : (Thread.settle semantics thread).finished = false) :
    (Thread.settle semantics thread).session = thread.session := by
  rw [Thread.finished, Thread.settle_program] at running
  unfold Thread.settle
  split
  · rfl
  · next ended =>
      rw [ended] at running
      cases running
  · next ended =>
      rw [ended] at running
      cases running

/-- The sessions every call of one thread has to respect. -/
def System.others (system : System Label Statement Response Error Shared Session Value)
    (index : Nat) : List Session :=
  (system.threads.eraseIdx index).map (·.session)

/-- One thread makes its next call and is given one answer. There is no step
when the thread has ended or the call has to wait. -/
def System.step (semantics : Semantics Statement Response Error Answer Shared Session)
    (system : System Label Statement Response Error Shared Session Value)
    (index : Nat) (answer : Answer) :
    Option (System Label Statement Response Error Shared Session Value) :=
  match system.threads[index]? with
  | some ⟨label, .call statement next, session⟩ =>
      match semantics.execute statement answer (system.others index) system.shared session with
      | .wait => none
      | .raise error => some ⟨system.shared,
          system.threads.set index ⟨label, .raise error, semantics.close session⟩⟩
      | .done response shared session => some ⟨shared,
          system.threads.set index (Thread.settle semantics ⟨label, next response, session⟩)⟩
  | _ => none

/-- A restriction on the steps a run may take, read off the state before the step. -/
abbrev Guard (Statement Answer Shared Session : Type) :=
  Answer → List Session → Shared → Session → Statement → Prop

def Guard.unrestricted {Statement Answer Shared Session : Type} :
    Guard Statement Answer Shared Session := fun _ _ _ _ _ => True

def System.allows (guard : Guard Statement Answer Shared Session)
    (system : System Label Statement Response Error Shared Session Value)
    (index : Nat) (answer : Answer) : Prop :=
  ∀ thread statement next, system.threads[index]? = some thread →
    thread.program = .call statement next →
      guard answer (system.others index) system.shared thread.session statement

inductive Reachable (semantics : Semantics Statement Response Error Answer Shared Session)
    (guard : Guard Statement Answer Shared Session)
    (start : System Label Statement Response Error Shared Session Value) :
    System Label Statement Response Error Shared Session Value → Prop where
  | refl : Reachable semantics guard start start
  | step {system after : System Label Statement Response Error Shared Session Value}
      {index : Nat} {answer : Answer} :
      Reachable semantics guard start system → system.allows guard index answer →
      system.step semantics index answer = some after → Reachable semantics guard start after

/-- Run a schedule: the thread to move and its answer, step by step. -/
def System.schedule (semantics : Semantics Statement Response Error Answer Shared Session)
    (system : System Label Statement Response Error Shared Session Value) :
    List (Nat × Answer) → Option (System Label Statement Response Error Shared Session Value)
  | [] => some system
  | (index, answer) :: rest =>
      match system.step semantics index answer with
      | none => none
      | some after => after.schedule semantics rest

/-- Whether every call of a schedule meets a guard. -/
def System.respects (guard : Guard Statement Answer Shared Session)
    [∀ answer others shared session statement,
      Decidable (guard answer others shared session statement)]
    (semantics : Semantics Statement Response Error Answer Shared Session)
    (system : System Label Statement Response Error Shared Session Value) :
    List (Nat × Answer) → Bool
  | [] => true
  | (index, answer) :: rest =>
      match system.threads[index]? with
      | some ⟨_, .call statement _, session⟩ =>
          decide (guard answer (system.others index) system.shared session statement) &&
            match system.step semantics index answer with
            | none => false
            | some after => after.respects guard semantics rest
      | _ => false

variable {semantics : Semantics Statement Response Error Answer Shared Session}
variable {guard : Guard Statement Answer Shared Session}
variable {start system after : System Label Statement Response Error Shared Session Value}
variable {index : Nat} {answer : Answer}

theorem System.mem_others {other : Session} :
    other ∈ system.others index ↔
      ∃ position thread, position ≠ index ∧ system.threads[position]? = some thread ∧
        thread.session = other := by
  simp only [System.others, List.mem_map, List.mem_eraseIdx_iff_getElem?]
  constructor
  · intro given
    obtain ⟨thread, ⟨position, different, found⟩, same⟩ := given
    exact ⟨position, thread, different, found, same⟩
  · intro given
    obtain ⟨position, thread, different, found, same⟩ := given
    exact ⟨thread, ⟨position, different, found⟩, same⟩

theorem System.mem_sessions {thread : Thread Label Statement Response Error Session Value}
    (found : system.threads[index]? = some thread) {session : Session} :
    session ∈ system.threads.map (·.session) ↔
      session ∈ thread.session :: system.others index := by
  rw [List.mem_map, List.mem_cons, System.mem_others]
  constructor
  · intro given
    obtain ⟨other, member, rfl⟩ := given
    obtain ⟨position, listed⟩ := List.mem_iff_getElem?.mp member
    by_cases same : position = index
    · rw [same, found] at listed
      cases listed
      exact .inl rfl
    · exact .inr ⟨position, other, same, listed, rfl⟩
  · intro given
    rcases given with rfl | ⟨position, other, _, listed, rfl⟩
    · exact ⟨thread, List.mem_of_getElem? found, rfl⟩
    · exact ⟨other, List.mem_of_getElem? listed, rfl⟩

@[simp] theorem System.others_set {shared : Shared}
    {moved : Thread Label Statement Response Error Session Value} :
    System.others ⟨shared, system.threads.set index moved⟩ index = system.others index := by
  simp only [System.others, List.eraseIdx_set_eq]

/-- Everything one step can do: the moving thread was at a call, and the call
either raised into it or was answered. -/
theorem System.step_cases (stepped : system.step semantics index answer = some after) :
    ∃ label statement next session,
      system.threads[index]? = some ⟨label, .call statement next, session⟩ ∧
      ((∃ error, semantics.execute statement answer (system.others index) system.shared session =
          .raise error ∧
          after = ⟨system.shared,
            system.threads.set index ⟨label, .raise error, semantics.close session⟩⟩) ∨
       (∃ response shared updated,
          semantics.execute statement answer (system.others index) system.shared session =
            .done response shared updated ∧
          after = ⟨shared, system.threads.set index
            (Thread.settle semantics ⟨label, next response, updated⟩)⟩)) := by
  unfold System.step at stepped
  split at stepped
  · next label statement next session found =>
      refine ⟨label, statement, next, session, found, ?_⟩
      split at stepped
      · cases stepped
      · next error raised =>
          exact .inl ⟨error, raised, (Option.some.inj stepped).symm⟩
      · next response shared updated answered =>
          exact .inr ⟨response, shared, updated, answered, (Option.some.inj stepped).symm⟩
  · cases stepped

theorem System.step_of_answered {label : Label} {statement : Statement}
    {next : Response statement → Program Statement Response Error Value} {session : Session}
    (found : system.threads[index]? = some ⟨label, .call statement next, session⟩)
    (answered : semantics.execute statement answer (system.others index) system.shared session ≠
      .wait) :
    ∃ after, system.step semantics index answer = some after := by
  simp only [System.step, found]
  split
  · next waits => exact absurd waits answered
  · exact ⟨_, rfl⟩
  · exact ⟨_, rfl⟩

/-- The threads of a stepped system: the mover, and everyone else unchanged. -/
theorem System.step_threads {thread : Thread Label Statement Response Error Session Value}
    {position : Nat} {threads : List (Thread Label Statement Response Error Session Value)}
    {moved : Thread Label Statement Response Error Session Value}
    (found : (threads.set index moved)[position]? = some thread) :
    (position = index ∧ thread = moved) ∨
      (position ≠ index ∧ threads[position]? = some thread) := by
  rw [List.getElem?_set] at found
  split at found
  · next same =>
      split at found
      · exact .inl ⟨same.symm, (Option.some.inj found).symm⟩
      · cases found
  · next different => exact .inr ⟨fun same => different same.symm, found⟩

/-- What the threads have done so far, when one of them does more. -/
theorem flatMap_set_perm {Item Fact : Type} (facts : Item → List Fact) {items : List Item}
    {old new : Item} {added : List Fact} (found : items[index]? = some old)
    (grown : facts new = facts old ++ added) :
    ((items.set index new).flatMap facts).Perm (items.flatMap facts ++ added) := by
  induction items generalizing index with
  | nil => simp at found
  | cons item rest ih =>
      cases index with
      | zero =>
          obtain rfl : item = old := by simpa using found
          simp only [List.set_cons_zero, List.flatMap_cons, grown, List.append_assoc]
          exact List.perm_append_comm.append_left _
      | succ index =>
          simp only [List.set_cons_succ, List.flatMap_cons, List.append_assoc]
          exact (ih (by simpa using found)).append_left _

/-- Thread labels never change, so a thread can be named by its position. -/
theorem System.step_labels (stepped : system.step semantics index answer = some after) :
    after.threads.map (·.label) = system.threads.map (·.label) := by
  obtain ⟨label, statement, next, session, found, outcome⟩ := System.step_cases stepped
  have kept : ∀ moved : Thread Label Statement Response Error Session Value,
      moved.label = label → (system.threads.set index moved).map (·.label) =
        system.threads.map (·.label) := by
    intro moved same
    apply List.ext_getElem?
    intro position
    simp only [List.getElem?_map, List.getElem?_set]
    split
    · next here =>
        subst here
        obtain ⟨bound, value⟩ := List.getElem?_eq_some_iff.mp found
        simp [bound, value, same]
    · rfl
  rcases outcome with ⟨error, _, rfl⟩ | ⟨response, shared, updated, _, rfl⟩
  · exact kept _ rfl
  · apply kept
    unfold Thread.settle
    split <;> rfl

theorem Reachable.labels (reached : Reachable semantics guard start system) :
    system.threads.map (·.label) = start.threads.map (·.label) := by
  induction reached with
  | refl => rfl
  | step _ _ stepped ih => rw [System.step_labels stepped, ih]

theorem Reachable.unrestricted (reached : Reachable semantics guard start system) :
    Reachable semantics Guard.unrestricted start system := by
  induction reached with
  | refl => exact .refl
  | step _ _ stepped ih => exact .step ih (fun _ _ _ _ _ => trivial) stepped

theorem Reachable.invariant
    {property : System Label Statement Response Error Shared Session Value → Prop}
    (initially : property start)
    (preserved : ∀ system after index answer, property system →
      System.allows guard system index answer →
      System.step semantics system index answer = some after → property after)
    (reached : Reachable semantics guard start system) : property system := by
  induction reached with
  | refl => exact initially
  | step _ allowed stepped ih => exact preserved _ _ _ _ ih allowed stepped

theorem System.allows_iff {label : Label} {statement : Statement}
    {next : Response statement → Program Statement Response Error Value} {session : Session}
    (found : system.threads[index]? = some ⟨label, .call statement next, session⟩) :
    system.allows guard index answer ↔
      guard answer (system.others index) system.shared session statement := by
  constructor
  · exact fun allowed => allowed _ statement next found rfl
  · intro permitted thread other rest same running
    rw [found] at same
    cases same
    cases running
    exact permitted

theorem System.schedule_reachable {moves : List (Nat × Answer)}
    (reached : Reachable semantics Guard.unrestricted start system)
    (completed : system.schedule semantics moves = some after) :
    Reachable semantics Guard.unrestricted start after := by
  induction moves generalizing system with
  | nil =>
      cases completed
      exact reached
  | cons move rest ih =>
      obtain ⟨index, answer⟩ := move
      simp only [System.schedule] at completed
      split at completed
      · cases completed
      · next middle stepped =>
          exact ih (.step reached (fun _ _ _ _ _ => trivial) stepped) completed

theorem System.respects_reachable
    [∀ answer others shared session statement,
      Decidable (guard answer others shared session statement)]
    {moves : List (Nat × Answer)} (reached : Reachable semantics guard start system)
    (respected : system.respects guard semantics moves = true)
    (completed : system.schedule semantics moves = some after) :
    Reachable semantics guard start after := by
  induction moves generalizing system with
  | nil =>
      cases completed
      exact reached
  | cons move rest ih =>
      obtain ⟨index, answer⟩ := move
      simp only [System.schedule] at completed
      simp only [System.respects] at respected
      split at respected
      · next label statement next session found =>
          obtain ⟨permitted, remaining⟩ := Bool.and_eq_true_iff.mp respected
          split at completed
          · cases completed
          · next middle stepped =>
              rw [stepped] at remaining
              exact ih (.step reached ((System.allows_iff found).mpr (of_decide_eq_true permitted))
                stepped) remaining completed
      · cases respected

theorem System.respects_get
    [∀ answer others shared session statement,
      Decidable (guard answer others shared session statement)]
    {moves : List (Nat × Answer)} (respected : start.respects guard semantics moves = true)
    (completes : (start.schedule semantics moves).isSome = true) :
    Reachable semantics guard start ((start.schedule semantics moves).get completes) :=
  respects_reachable .refl respected (Option.some_get completes).symm

end InventoryManagement.Interleaving
