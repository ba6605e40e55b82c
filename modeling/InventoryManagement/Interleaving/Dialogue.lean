import InventoryManagement.Interleaving.Alone

/-! What a program asks and raises in view of the answers it has had. The reason of an
error can then be traced to a state that the program has seen. -/

set_option autoImplicit false

namespace InventoryManagement.Interleaving

variable {Label Statement : Type} {Response : Statement → Type}
variable {Error Answer Shared Session Value Result : Type}

/-- One call and its answer. -/
structure Exchange (Statement : Type) (Response : Statement → Type) where
  statement : Statement
  response : Response statement

namespace Program

variable (asks : List (Exchange Statement Response) → Statement → Prop)
variable (raises : List (Exchange Statement Response) → Error → Prop)

/-- Whatever its calls are answered, the program makes, raises and returns only what the
exchanges it has had, the latest first, give it a reason for. -/
def Reasoned (returns : List (Exchange Statement Response) → Value → Prop) :
    Program Statement Response Error Value → List (Exchange Statement Response) → Prop
  | .ret value, exchanges => returns exchanges value
  | .raise error, exchanges => raises exchanges error
  | .call statement next, exchanges => asks exchanges statement ∧
      ∀ response, (next response).Reasoned returns (⟨statement, response⟩ :: exchanges)

variable {asks raises}
variable {program : Program Statement Response Error Value}
variable {exchanges : List (Exchange Statement Response)}

theorem reasoned_bind {next : Value → Program Statement Response Error Result}
    {returns : List (Exchange Statement Response) → Result → Prop}
    (first : program.Reasoned asks raises
      (fun exchanges value => (next value).Reasoned asks raises returns exchanges) exchanges) :
    (program.bind next).Reasoned asks raises returns exchanges := by
  induction program generalizing exchanges with
  | ret value => exact first
  | raise error => exact first
  | call statement rest ih => exact ⟨first.1, fun response => ih response (first.2 response)⟩

theorem Reasoned.mono {returns weaker : List (Exchange Statement Response) → Value → Prop}
    (reasoned : program.Reasoned asks raises returns exchanges)
    (implies : ∀ exchanges value, returns exchanges value → weaker exchanges value) :
    program.Reasoned asks raises weaker exchanges := by
  induction program generalizing exchanges with
  | ret value => exact implies exchanges value reasoned
  | raise error => exact reasoned
  | call statement rest ih => exact ⟨reasoned.1, fun response => ih response (reasoned.2 response)⟩

theorem Reasoned.raising {returns : List (Exchange Statement Response) → Value → Prop}
    {weaker : List (Exchange Statement Response) → Error → Prop}
    (reasoned : program.Reasoned asks raises returns exchanges)
    (implies : ∀ exchanges error, raises exchanges error → weaker exchanges error) :
    program.Reasoned asks weaker returns exchanges := by
  induction program generalizing exchanges with
  | ret value => exact reasoned
  | raise error => exact implies exchanges error reasoned
  | call statement rest ih => exact ⟨reasoned.1, fun response => ih response (reasoned.2 response)⟩

theorem throws_anything (program : Program Statement Response Error Value) :
    program.Throws (fun _ => True) := by
  induction program with
  | ret value => trivial
  | raise error => trivial
  | call statement rest ih => exact ih

/-- Calls of an allowed kind and errors of an allowed kind need no further reason. -/
theorem reasoned_of_only {allowed : Statement → Prop} {thrown : Error → Prop}
    (only : program.Only allowed) (throws : program.Throws thrown)
    (asked : ∀ exchanges statement, allowed statement → asks exchanges statement)
    (raised : ∀ exchanges error, thrown error → raises exchanges error)
    (exchanges : List (Exchange Statement Response)) :
    program.Reasoned asks raises (fun _ _ => True) exchanges := by
  induction program generalizing exchanges with
  | ret value => trivial
  | raise error => exact raised exchanges error throws
  | call statement rest ih =>
      exact ⟨asked exchanges statement only.1,
        fun response => ih response (only.2 response) (throws response) _⟩

end Program

section Runs

variable {semantics : Semantics Statement Response Error Answer Shared Session}
variable {guard : Guard Statement Answer Shared Session}
variable {asks : Label → List (Exchange Statement Response) → Statement → Prop}
variable {raises : Label → List (Exchange Statement Response) → Error → Prop}
variable {tied : Session → List (Exchange Statement Response) → Prop}
variable {start system after : System Label Statement Response Error Shared Session Value}

theorem Reachable.trans (earlier : Reachable semantics guard start system)
    (later : Reachable semantics guard system after) : Reachable semantics guard start after := by
  induction later with
  | refl => exact earlier
  | step _ allowed stepped ih => exact .step ih allowed stepped

/-- What is known of a thread at one of its calls: the exchanges it has had, which its
session is tied to. -/
def Thread.Informed (asks : Label → List (Exchange Statement Response) → Statement → Prop)
    (raises : Label → List (Exchange Statement Response) → Error → Prop)
    (tied : Session → List (Exchange Statement Response) → Prop)
    (thread : Thread Label Statement Response Error Session Value) : Prop :=
  thread.finished = false → ∃ exchanges, tied thread.session exchanges ∧
    thread.program.Reasoned (asks thread.label) (raises thread.label) (fun _ _ => True) exchanges

/-- A state of the run in which the thread was still at work and the fact was true. -/
def System.Saw (semantics : Semantics Statement Response Error Answer Shared Session)
    (guard : Guard Statement Answer Shared Session)
    (start system : System Label Statement Response Error Shared Session Value) (index : Nat)
    (fact : Shared → Prop) : Prop :=
  ∃ earlier, Reachable semantics guard start earlier ∧ Reachable semantics guard earlier system ∧
    (∃ thread, earlier.threads[index]? = some thread ∧ thread.finished = false) ∧
    fact earlier.shared

theorem System.Saw.step {fact : Shared → Prop} {index position : Nat} {answer : Answer}
    (saw : System.Saw semantics guard start system index fact)
    (allowed : system.allows guard position answer)
    (stepped : system.step semantics position answer = some after) :
    System.Saw semantics guard start after index fact := by
  obtain ⟨earlier, before, since, unfinished, held⟩ := saw
  exact ⟨earlier, before, .step since allowed stepped, unfinished, held⟩

/-- A state of the run in which the thread was still at work and the error had its reason. -/
def System.Witnessed (semantics : Semantics Statement Response Error Answer Shared Session)
    (guard : Guard Statement Answer Shared Session) (reason : Label → Error → Shared → Prop)
    (start system : System Label Statement Response Error Shared Session Value) (index : Nat)
    (label : Label) (error : Error) : Prop :=
  ∃ earlier, Reachable semantics guard start earlier ∧ Reachable semantics guard earlier system ∧
    (∃ thread, earlier.threads[index]? = some thread ∧ thread.finished = false) ∧
    reason label error earlier.shared

theorem System.Witnessed.step {reason : Label → Error → Shared → Prop} {index position : Nat}
    {label : Label} {error : Error} {answer : Answer}
    (witnessed : System.Witnessed semantics guard reason start system index label error)
    (allowed : system.allows guard position answer)
    (stepped : system.step semantics position answer = some after) :
    System.Witnessed semantics guard reason start after index label error :=
  System.Saw.step witnessed allowed stepped

theorem Thread.settle_informed {label : Label} {program : Program Statement Response Error Value}
    {session : Session} {exchanges : List (Exchange Statement Response)}
    (known : tied session exchanges)
    (reasoned : program.Reasoned (asks label) (raises label) (fun _ _ => True) exchanges) :
    (Thread.settle semantics ⟨label, program, session⟩).Informed asks raises tied := by
  intro unfinished
  cases program with
  | ret value => cases unfinished
  | raise error => cases unfinished
  | call statement next => exact ⟨exchanges, known, reasoned⟩

theorem System.start_informed {program : Label → Program Statement Response Error Value}
    {shared : Shared} {session : Session} {labels : List Label} (tiedAtStart : tied session [])
    (reasoned : ∀ label ∈ labels,
      (program label).Reasoned (asks label) (raises label) (fun _ _ => True) []) :
    ∀ thread ∈ (System.start semantics program shared session labels).threads,
      thread.Informed asks raises tied := by
  intro thread member
  obtain ⟨label, listed, rfl⟩ := List.mem_map.mp member
  exact Thread.settle_informed tiedAtStart (reasoned label listed)

theorem Reachable.informed
    (initially : ∀ thread ∈ start.threads, thread.Informed asks raises tied)
    (tie : ∀ label exchanges statement answer others shared session response after updated,
      tied session exchanges → asks label exchanges statement →
      semantics.execute statement answer others shared session = .done response after updated →
      tied updated (⟨statement, response⟩ :: exchanges))
    (reached : Reachable semantics guard start system) :
    ∀ thread ∈ system.threads, thread.Informed asks raises tied := by
  induction reached with
  | refl => exact initially
  | @step system after index answer _ _ stepped informed =>
      intro thread member
      obtain ⟨label, statement, next, session, found, happened⟩ := System.step_cases stepped
      have mover := informed _ (List.mem_of_getElem? found) rfl
      rcases happened with ⟨error, _, rfl⟩ | ⟨response, shared, updated, executed, rfl⟩
      · rcases List.mem_or_eq_of_mem_set member with old | rfl
        · exact informed thread old
        · intro unfinished
          cases unfinished
      · rcases List.mem_or_eq_of_mem_set member with old | rfl
        · exact informed thread old
        · obtain ⟨exchanges, known, asked, reasoned⟩ := mover
          exact Thread.settle_informed (tie _ _ _ _ _ _ _ _ _ _ known asked executed)
            (reasoned response)

/-- An error that a thread has ended with had its reason in a state of the run in which
the thread was still at work. -/
theorem Reachable.raised_because (reason : Label → Error → Shared → Prop)
    (initially : ∀ thread ∈ start.threads, thread.Informed asks raises tied)
    (tie : ∀ label exchanges statement answer others shared session response after updated,
      tied session exchanges → asks label exchanges statement →
      semantics.execute statement answer others shared session = .done response after updated →
      tied updated (⟨statement, response⟩ :: exchanges))
    (own : ∀ label exchanges statement answer others shared session response after updated error,
      tied session exchanges → asks label exchanges statement →
      semantics.execute statement answer others shared session = .done response after updated →
      raises label (⟨statement, response⟩ :: exchanges) error → reason label error shared)
    (foreign : ∀ label statement answer others shared session error,
      semantics.execute statement answer others shared session = .raise error →
      reason label error shared)
    {index : Nat}
    (working : ∀ thread, start.threads[index]? = some thread → thread.finished = false)
    (reached : Reachable semantics guard start system) :
    ∀ thread error, system.threads[index]? = some thread → thread.program = .raise error →
      System.Witnessed semantics guard reason start system index thread.label error := by
  induction reached with
  | refl =>
      intro thread error found raised
      have unfinished := working thread found
      rw [Thread.finished, raised] at unfinished
      cases unfinished
  | @step system after position answer before allowed stepped ih =>
      intro thread error foundAfter raised
      obtain ⟨label, statement, next, session, found, happened⟩ := System.step_cases stepped
      have keep : system.threads[index]? = some thread →
          System.Witnessed semantics guard reason start after index thread.label error :=
        fun unmoved => (ih thread error unmoved raised).step allowed stepped
      have here : index = position → reason label error system.shared →
          System.Witnessed semantics guard reason start after index label error := by
        rintro rfl because
        exact ⟨system, before, .step .refl allowed stepped, ⟨_, found, rfl⟩, because⟩
      rcases happened with ⟨other, executed, rfl⟩ | ⟨response, shared, updated, executed, rfl⟩
      · rcases System.step_threads foundAfter with ⟨same, rfl⟩ | ⟨_, unmoved⟩
        · cases raised
          exact here same (foreign _ _ _ _ _ _ _ executed)
        · exact keep unmoved
      · rcases System.step_threads foundAfter with ⟨same, rfl⟩ | ⟨_, unmoved⟩
        · obtain ⟨exchanges, known, asked, reasoned⟩ :=
            before.informed initially tie _ (List.mem_of_getElem? found) rfl
          have ended : next response = .raise error := by
            unfold Thread.settle at raised
            split at raised <;> simp_all
          have because := reasoned response
          rw [ended] at because
          rw [Thread.settle_label]
          exact here same (own _ _ _ _ _ _ _ _ _ _ _ known asked executed because)
        · exact keep unmoved

end Runs

end InventoryManagement.Interleaving
