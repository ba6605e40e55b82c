import InventoryManagement.Interleaving.Alone

/-! The calls of a run alone, in order: guards that speak of one call at a time, and
properties that calls keep as long as they meet such a guard. -/

set_option autoImplicit false

namespace InventoryManagement.Interleaving

variable {Statement : Type} {Response : Statement → Type}
variable {Error Answer Shared Session Value Result : Type}

/-- One answered call, and the state it was made in. -/
structure Moment (Statement Answer Shared Session : Type) where
  answer : Answer
  shared : Shared
  session : Session
  statement : Statement

namespace Program

def trace (semantics : Semantics Statement Response Error Answer Shared Session)
    (answers : Nat → Answer) :
    Program Statement Response Error Value → Nat → Shared → Session →
      List (Moment Statement Answer Shared Session)
  | .ret _, _, _, _ => []
  | .raise _, _, _, _ => []
  | .call statement next, elapsed, shared, session =>
      match semantics.execute statement (answers elapsed) [] shared session with
      | .wait => []
      | .raise _ => []
      | .done response after updated => ⟨answers elapsed, shared, session, statement⟩ ::
          (next response).trace semantics answers (elapsed + 1) after updated

/-- Every call that is answered meets the guard. -/
def Obeys (semantics : Semantics Statement Response Error Answer Shared Session)
    (guard : Guard Statement Answer Shared Session) (answers : Nat → Answer)
    (program : Program Statement Response Error Value) (elapsed : Nat) (shared : Shared)
    (session : Session) : Prop :=
  ∀ moment ∈ program.trace semantics answers elapsed shared session,
    guard moment.answer [] moment.shared moment.session moment.statement

/-- With nobody else active, calls that meet the guard keep the property, and the
program returns in its postcondition if it returns. -/
def Preserves (semantics : Semantics Statement Response Error Answer Shared Session)
    (guard : Guard Statement Answer Shared Session) (property : Shared → Session → Prop)
    (returns : Value → Shared → Session → Prop) :
    Program Statement Response Error Value → Shared → Session → Prop
  | .ret value, shared, session => returns value shared session
  | .raise _, _, _ => True
  | .call statement next, shared, session => ∀ answer,
      guard answer [] shared session statement → ∀ response after updated,
        semantics.execute statement answer [] shared session = .done response after updated →
          property after updated ∧
            (next response).Preserves semantics guard property returns after updated

variable {semantics : Semantics Statement Response Error Answer Shared Session}
variable {guard : Guard Statement Answer Shared Session} {property : Shared → Session → Prop}
variable {program : Program Statement Response Error Value}
variable {next : Value → Program Statement Response Error Result}
variable {shared : Shared} {session : Session} {answers : Nat → Answer} {elapsed : Nat}

theorem trace_call (statement : Statement)
    (next : Response statement → Program Statement Response Error Value) :
    (Program.call statement next).trace semantics answers elapsed shared session =
      match semantics.execute statement (answers elapsed) [] shared session with
      | .wait => []
      | .raise _ => []
      | .done response after updated => ⟨answers elapsed, shared, session, statement⟩ ::
          (next response).trace semantics answers (elapsed + 1) after updated := by
  rw [Program.trace]

theorem preserves_bind {middle : Value → Shared → Session → Prop}
    {returns : Result → Shared → Session → Prop}
    (first : program.Preserves semantics guard property middle shared session)
    (second : ∀ value after updated, middle value after updated →
      (next value).Preserves semantics guard property returns after updated) :
    (program.bind next).Preserves semantics guard property returns shared session := by
  induction program generalizing shared session with
  | ret value => exact second value shared session first
  | raise error => trivial
  | call statement rest ih =>
      intro answer permitted response after updated executed
      obtain ⟨holds, remaining⟩ := first answer permitted response after updated executed
      exact ⟨holds, ih response remaining⟩

/-- The property holds whenever a call of an obedient run is made, and at its end. -/
theorem Preserves.run {returns : Value → Shared → Session → Prop}
    (preserves : program.Preserves semantics guard property returns shared session)
    (holds : property shared session)
    (obeys : program.Obeys semantics guard answers elapsed shared session) :
    (∀ moment ∈ program.trace semantics answers elapsed shared session,
      property moment.shared moment.session) ∧
      property (program.run semantics answers elapsed shared session).shared
        (program.run semantics answers elapsed shared session).session := by
  induction program generalizing elapsed shared session with
  | ret value => exact ⟨fun moment member => (by cases member), holds⟩
  | raise error => exact ⟨fun moment member => (by cases member), holds⟩
  | call statement rest ih =>
      unfold Obeys at obeys
      rw [trace_call] at obeys ⊢
      rw [run_call]
      cases executed : semantics.execute statement (answers elapsed) [] shared session with
      | wait => exact ⟨fun moment member => (by cases member), holds⟩
      | raise error => exact ⟨fun moment member => (by cases member), holds⟩
      | done response after updated =>
          rw [executed] at obeys
          obtain ⟨permitted, obeysRest⟩ := List.forall_mem_cons.mp obeys
          obtain ⟨kept, remaining⟩ := preserves _ permitted response after updated executed
          obtain ⟨during, atEnd⟩ := ih response remaining kept obeysRest
          exact ⟨List.forall_mem_cons.mpr ⟨holds, during⟩, atEnd⟩

/-! Observers: a value that follows the calls of a run and that no call reads. -/

section Observers

variable {Observation : Type}
variable (observe : Observation → Moment Statement Answer Shared Session → Observation)

/-- What an observer has seen at the end of a run alone. -/
def observed (semantics : Semantics Statement Response Error Answer Shared Session)
    (answers : Nat → Answer) (program : Program Statement Response Error Value) (elapsed : Nat)
    (shared : Shared) (session : Session) (seen : Observation) : Observation :=
  (program.trace semantics answers elapsed shared session).foldl observe seen

/-- If the program returns, it does so in a state and an observation that meet the
postcondition. -/
def Leaves (semantics : Semantics Statement Response Error Answer Shared Session)
    (answers : Nat → Answer) (program : Program Statement Response Error Value) (shared : Shared)
    (session : Session) (seen : Observation)
    (post : Value → Shared → Session → Observation → Prop) : Prop :=
  ∀ elapsed value after updated later,
    program.run semantics answers elapsed shared session = ⟨some (.ok value), after, updated, later⟩ →
      post value after updated (program.observed observe semantics answers elapsed shared session seen)

/-- The program returns, in a state and an observation that meet the postcondition. -/
def Yields (semantics : Semantics Statement Response Error Answer Shared Session)
    (answers : Nat → Answer) (program : Program Statement Response Error Value) (shared : Shared)
    (session : Session) (seen : Observation)
    (post : Value → Shared → Session → Observation → Prop) : Prop :=
  ∀ elapsed, ∃ value after updated later,
    program.run semantics answers elapsed shared session = ⟨some (.ok value), after, updated, later⟩ ∧
      post value after updated (program.observed observe semantics answers elapsed shared session seen)

variable {observe} {seen : Observation} {post : Value → Shared → Session → Observation → Prop}

theorem trace_bind (program : Program Statement Response Error Value) {value : Value}
    {after : Shared} {updated : Session} {later : Nat}
    (ran : program.run semantics answers elapsed shared session =
      ⟨some (.ok value), after, updated, later⟩) :
    (program.bind next).trace semantics answers elapsed shared session =
      program.trace semantics answers elapsed shared session ++
        (next value).trace semantics answers later after updated := by
  induction program generalizing elapsed shared session with
  | ret result =>
      cases ran
      rfl
  | raise error => cases ran
  | call statement rest ih =>
      rw [run_call] at ran
      rw [call_bind, trace_call, trace_call]
      cases executed : semantics.execute statement (answers elapsed) [] shared session with
      | wait =>
          rw [executed] at ran
          cases ran
      | raise error =>
          rw [executed] at ran
          cases ran
      | done response between middle =>
          rw [executed] at ran
          exact congrArg (_ :: ·) (ih response ran)

/-- A program that does not return is not continued. -/
theorem trace_bind_stopped (program : Program Statement Response Error Value)
    (stopped : ∀ value,
      (program.run semantics answers elapsed shared session).outcome ≠ some (.ok value)) :
    (program.bind next).trace semantics answers elapsed shared session =
      program.trace semantics answers elapsed shared session := by
  induction program generalizing elapsed shared session with
  | ret value => exact absurd rfl (stopped value)
  | raise error => rfl
  | call statement rest ih =>
      rw [run_call] at stopped
      rw [call_bind, trace_call, trace_call]
      cases executed : semantics.execute statement (answers elapsed) [] shared session with
      | wait => rfl
      | raise error => rfl
      | done response between middle =>
          rw [executed] at stopped
          exact congrArg (_ :: ·) (ih response stopped)

theorem trace_bind_ret (program : Program Statement Response Error Value) (wrap : Value → Result) :
    (program.bind (fun value => .ret (wrap value))).trace semantics answers elapsed shared session =
      program.trace semantics answers elapsed shared session := by
  induction program generalizing elapsed shared session with
  | ret value => rfl
  | raise error => rfl
  | call statement rest ih =>
      rw [call_bind, trace_call, trace_call]
      cases executed : semantics.execute statement (answers elapsed) [] shared session with
      | wait => rfl
      | raise error => rfl
      | done response between middle => exact congrArg (_ :: ·) (ih response)

theorem Only.trace {allowed : Statement → Prop} (only : program.Only allowed) :
    ∀ moment ∈ program.trace semantics answers elapsed shared session, allowed moment.statement := by
  induction program generalizing elapsed shared session with
  | ret value => exact fun moment member => (by cases member)
  | raise error => exact fun moment member => (by cases member)
  | call statement rest ih =>
      rw [trace_call]
      cases executed : semantics.execute statement (answers elapsed) [] shared session with
      | wait => exact fun moment member => (by cases member)
      | raise error => exact fun moment member => (by cases member)
      | done response between middle =>
          exact List.forall_mem_cons.mpr ⟨only.1, ih response (only.2 response)⟩

/-- What the calls of a program keep holds whenever one of them is made. -/
theorem Only.trace_keeps {allowed : Statement → Prop} (property : Shared → Session → Prop)
    (only : program.Only allowed) (holds : property shared session)
    (keeps : ∀ statement answer shared session response after updated, allowed statement →
      semantics.execute statement answer [] shared session = .done response after updated →
      property shared session → property after updated) :
    ∀ moment ∈ program.trace semantics answers elapsed shared session,
      property moment.shared moment.session := by
  induction program generalizing elapsed shared session with
  | ret value => exact fun moment member => (by cases member)
  | raise error => exact fun moment member => (by cases member)
  | call statement rest ih =>
      rw [trace_call]
      cases executed : semantics.execute statement (answers elapsed) [] shared session with
      | wait => exact fun moment member => (by cases member)
      | raise error => exact fun moment member => (by cases member)
      | done response between middle =>
          have kept := keeps _ _ _ _ _ _ _ only.1 executed holds
          exact List.forall_mem_cons.mpr ⟨holds, ih response (only.2 response) kept⟩

/-- Calls that an observer does not notice. -/
theorem Only.observed {allowed : Statement → Prop} (only : program.Only allowed)
    (unnoticed : ∀ moment : Moment Statement Answer Shared Session, allowed moment.statement →
      observe seen moment = seen) :
    program.observed observe semantics answers elapsed shared session seen = seen := by
  have quiet : ∀ moment ∈ program.trace semantics answers elapsed shared session,
      observe seen moment = seen := fun moment member => unnoticed moment (only.trace moment member)
  rw [Program.observed]
  generalize program.trace semantics answers elapsed shared session = moments at quiet ⊢
  induction moments with
  | nil => rfl
  | cons moment rest ih =>
      rw [List.foldl_cons, quiet moment List.mem_cons_self]
      exact ih (fun other member => quiet other (List.mem_cons_of_mem _ member))

theorem observed_bind (program : Program Statement Response Error Value) {value : Value}
    {after : Shared} {updated : Session} {later : Nat}
    (ran : program.run semantics answers elapsed shared session =
      ⟨some (.ok value), after, updated, later⟩) :
    (program.bind next).observed observe semantics answers elapsed shared session seen =
      (next value).observed observe semantics answers later after updated
        (program.observed observe semantics answers elapsed shared session seen) := by
  rw [observed, trace_bind program ran, List.foldl_append]
  rfl

theorem observed_call {statement : Statement}
    {next : Response statement → Program Statement Response Error Value}
    {response : Response statement} {after : Shared} {updated : Session}
    (executed : semantics.execute statement (answers elapsed) [] shared session =
      .done response after updated) :
    (Program.call statement next).observed observe semantics answers elapsed shared session seen =
      (next response).observed observe semantics answers (elapsed + 1) after updated
        (observe seen ⟨answers elapsed, shared, session, statement⟩) := by
  rw [observed, trace_call, executed]
  rfl

theorem leaves_ret {value : Value} (holds : post value shared session seen) :
    (ret value : Program Statement Response Error Value).Leaves observe semantics answers shared
      session seen post := by
  intro elapsed result after updated later ran
  cases ran
  exact holds

theorem leaves_call {statement : Statement}
    {next : Response statement → Program Statement Response Error Value}
    (answered : ∀ elapsed response after updated,
      semantics.execute statement (answers elapsed) [] shared session =
        .done response after updated →
      (next response).Leaves observe semantics answers after updated
        (observe seen ⟨answers elapsed, shared, session, statement⟩) post) :
    (call statement next).Leaves observe semantics answers shared session seen post := by
  intro elapsed value after updated later ran
  rw [run_call] at ran
  cases executed : semantics.execute statement (answers elapsed) [] shared session with
  | wait =>
      rw [executed] at ran
      cases ran
  | raise error =>
      rw [executed] at ran
      cases ran
  | done response between middle =>
      rw [executed] at ran
      rw [observed_call executed]
      exact answered elapsed response between middle executed _ _ _ _ _ ran

theorem Leaves.bind {middle : Value → Shared → Session → Observation → Prop}
    {post : Result → Shared → Session → Observation → Prop}
    (first : program.Leaves observe semantics answers shared session seen middle)
    (second : ∀ value after updated sofar, middle value after updated sofar →
      (next value).Leaves observe semantics answers after updated sofar post) :
    (program.bind next).Leaves observe semantics answers shared session seen post := by
  intro elapsed result final last done ran
  rw [run_bind] at ran
  split at ran
  · cases ran
  · cases ran
  · next value after updated later earlier =>
      rw [observed_bind program earlier]
      exact second _ _ _ _ (first _ _ _ _ _ earlier) _ _ _ _ _ ran

theorem Leaves.mono {weaker : Value → Shared → Session → Observation → Prop}
    (leaves : program.Leaves observe semantics answers shared session seen post)
    (implies : ∀ value after updated sofar, post value after updated sofar →
      weaker value after updated sofar) :
    program.Leaves observe semantics answers shared session seen weaker :=
  fun elapsed _ _ _ _ ran => implies _ _ _ _ (leaves elapsed _ _ _ _ ran)

theorem yields_ret {value : Value} (holds : post value shared session seen) :
    (ret value : Program Statement Response Error Value).Yields observe semantics answers shared
      session seen post :=
  fun elapsed => ⟨value, shared, session, elapsed, rfl, holds⟩

theorem Yields.bind {middle : Value → Shared → Session → Observation → Prop}
    {post : Result → Shared → Session → Observation → Prop}
    (first : program.Yields observe semantics answers shared session seen middle)
    (second : ∀ value after updated sofar, middle value after updated sofar →
      (next value).Yields observe semantics answers after updated sofar post) :
    (program.bind next).Yields observe semantics answers shared session seen post := by
  intro elapsed
  obtain ⟨value, after, updated, later, ran, holds⟩ := first elapsed
  obtain ⟨result, final, last, done, continued, ends⟩ := second value after updated _ holds later
  refine ⟨result, final, last, done, ?_, ?_⟩
  · rw [run_bind, ran]
    exact continued
  · rw [observed_bind program ran]
    exact ends

theorem Yields.mono {weaker : Value → Shared → Session → Observation → Prop}
    (yields : program.Yields observe semantics answers shared session seen post)
    (implies : ∀ value after updated sofar, post value after updated sofar →
      weaker value after updated sofar) :
    program.Yields observe semantics answers shared session seen weaker := by
  intro elapsed
  obtain ⟨value, after, updated, later, ran, holds⟩ := yields elapsed
  exact ⟨value, after, updated, later, ran, implies _ _ _ _ holds⟩

theorem yields_call {statement : Statement}
    {next : Response statement → Program Statement Response Error Value}
    (answered : ∀ elapsed, ∃ response after updated,
      semantics.execute statement (answers elapsed) [] shared session =
        .done response after updated ∧
      (next response).Yields observe semantics answers after updated
        (observe seen ⟨answers elapsed, shared, session, statement⟩) post) :
    (call statement next).Yields observe semantics answers shared session seen post := by
  intro elapsed
  obtain ⟨response, after, updated, executed, yields⟩ := answered elapsed
  obtain ⟨value, final, last, later, ran, holds⟩ := yields (elapsed + 1)
  refine ⟨value, final, last, later, ?_, ?_⟩
  · rw [run_call, executed]
    exact ran
  · rw [observed_call executed]
    exact holds

theorem Returns.yields {returns : Value → Shared → Session → Prop}
    (first : program.Returns semantics answers shared session returns)
    (second : program.Leaves observe semantics answers shared session seen post) :
    program.Yields observe semantics answers shared session seen
      (fun value after updated sofar => returns value after updated ∧ post value after updated sofar) := by
  intro elapsed
  obtain ⟨value, after, updated, later, ran, holds⟩ := first elapsed
  exact ⟨value, after, updated, later, ran, holds, second _ _ _ _ _ ran⟩

theorem Yields.returns {returns : Value → Shared → Session → Prop}
    (yields : program.Yields observe semantics answers shared session seen
      (fun value after updated _ => returns value after updated)) :
    program.Returns semantics answers shared session returns := yields

end Observers

end Program

end InventoryManagement.Interleaving
