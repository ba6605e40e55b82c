import InventoryManagement.Interleaving.Assertion

/-! Triples for programs that run alone: a program returns, raises or merely ends
in a state that meets a postcondition, wherever in the stream of answers it starts. -/

set_option autoImplicit false

namespace InventoryManagement.Interleaving

variable {Statement : Type} {Response : Statement → Type}
variable {Error Answer Shared Session Value Result : Type}

namespace Program

variable (semantics : Semantics Statement Response Error Answer Shared Session)
variable (answers : Nat → Answer)

def Returns (program : Program Statement Response Error Value) (shared : Shared)
    (session : Session) (post : Value → Shared → Session → Prop) : Prop :=
  ∀ elapsed, ∃ value after updated later,
    program.run semantics answers elapsed shared session = ⟨some (.ok value), after, updated, later⟩ ∧
      post value after updated

def Raises (program : Program Statement Response Error Value) (shared : Shared)
    (session : Session) (post : Error → Shared → Session → Prop) : Prop :=
  ∀ elapsed, ∃ error after updated later,
    program.run semantics answers elapsed shared session =
      ⟨some (.error error), after, updated, later⟩ ∧ post error after updated

variable {semantics answers}
variable {program : Program Statement Response Error Value}
variable {next : Value → Program Statement Response Error Result}
variable {shared after : Shared} {session updated : Session}

theorem returns_ret {value : Value} {post : Value → Shared → Session → Prop}
    (holds : post value shared session) :
    (ret value : Program Statement Response Error Value).Returns semantics answers shared session
      post :=
  fun elapsed => ⟨value, shared, session, elapsed, rfl, holds⟩

theorem raises_raise {error : Error} {post : Error → Shared → Session → Prop}
    (holds : post error shared session) :
    (raise error : Program Statement Response Error Value).Raises semantics answers shared session
      post :=
  fun elapsed => ⟨error, shared, session, elapsed, rfl, holds⟩

theorem Returns.mono {post weaker : Value → Shared → Session → Prop}
    (returns : program.Returns semantics answers shared session post)
    (implies : ∀ value after updated, post value after updated → weaker value after updated) :
    program.Returns semantics answers shared session weaker := by
  intro elapsed
  obtain ⟨value, after, updated, later, ran, holds⟩ := returns elapsed
  exact ⟨value, after, updated, later, ran, implies _ _ _ holds⟩

theorem Returns.bind {middle : Value → Shared → Session → Prop}
    {post : Result → Shared → Session → Prop}
    (first : program.Returns semantics answers shared session middle)
    (second : ∀ value after updated, middle value after updated →
      (next value).Returns semantics answers after updated post) :
    (program.bind next).Returns semantics answers shared session post := by
  intro elapsed
  obtain ⟨value, after, updated, later, ran, holds⟩ := first elapsed
  obtain ⟨result, final, last, done, continued, ends⟩ := second value after updated holds later
  exact ⟨result, final, last, done, by rw [run_bind, ran]; exact continued, ends⟩

theorem Returns.bind_raises {middle : Value → Shared → Session → Prop}
    {post : Error → Shared → Session → Prop}
    (first : program.Returns semantics answers shared session middle)
    (second : ∀ value after updated, middle value after updated →
      (next value).Raises semantics answers after updated post) :
    (program.bind next).Raises semantics answers shared session post := by
  intro elapsed
  obtain ⟨value, after, updated, later, ran, holds⟩ := first elapsed
  obtain ⟨error, final, last, done, continued, ends⟩ := second value after updated holds later
  exact ⟨error, final, last, done, by rw [run_bind, ran]; exact continued, ends⟩

theorem Raises.bind {post : Error → Shared → Session → Prop}
    (first : program.Raises semantics answers shared session post) :
    (program.bind next).Raises semantics answers shared session post := by
  intro elapsed
  obtain ⟨error, after, updated, later, ran, holds⟩ := first elapsed
  exact ⟨error, after, updated, later, by rw [run_bind, ran], holds⟩

/-- One call: however it is answered, the rest of the program returns. -/
theorem returns_call {statement : Statement}
    {next : Response statement → Program Statement Response Error Value}
    {post : Value → Shared → Session → Prop}
    (answered : ∀ elapsed, ∃ response after updated,
      semantics.execute statement (answers elapsed) [] shared session =
        .done response after updated ∧
      (next response).Returns semantics answers after updated post) :
    (call statement next).Returns semantics answers shared session post := by
  intro elapsed
  obtain ⟨response, after, updated, executed, returns⟩ := answered elapsed
  obtain ⟨value, final, last, later, ran, holds⟩ := returns (elapsed + 1)
  exact ⟨value, final, last, later, by rw [run_call, executed]; exact ran, holds⟩

theorem raises_call {statement : Statement}
    {next : Response statement → Program Statement Response Error Value}
    {post : Error → Shared → Session → Prop}
    (answered : ∀ elapsed, ∃ response after updated,
      semantics.execute statement (answers elapsed) [] shared session =
        .done response after updated ∧
      (next response).Raises semantics answers after updated post) :
    (call statement next).Raises semantics answers shared session post := by
  intro elapsed
  obtain ⟨response, after, updated, executed, raises⟩ := answered elapsed
  obtain ⟨error, final, last, later, ran, holds⟩ := raises (elapsed + 1)
  exact ⟨error, final, last, later, by rw [run_call, executed]; exact ran, holds⟩

theorem raises_refused {statement : Statement}
    {next : Response statement → Program Statement Response Error Value}
    {post : Error → Shared → Session → Prop}
    (refused : ∀ elapsed, ∃ error, semantics.execute statement (answers elapsed) [] shared session =
      .raise error ∧ post error shared session) :
    (call statement next).Raises semantics answers shared session post := by
  intro elapsed
  obtain ⟨error, executed, holds⟩ := refused elapsed
  exact ⟨error, shared, session, elapsed + 1, by rw [run_call, executed], holds⟩

/-- What a discipline and a verification say about a program holds of its runs. -/
theorem Returns.disciplined (discipline : Discipline semantics)
    {post : Value → Shared → Session → Prop}
    (returns : program.Returns semantics answers shared session post)
    (valid : discipline.invariant shared) (sound : discipline.sound session shared) :
    program.Returns semantics answers shared session (fun value after updated =>
      post value after updated ∧ discipline.invariant after ∧ discipline.sound updated after) := by
  intro elapsed
  obtain ⟨value, after, updated, later, ran, holds⟩ := returns elapsed
  have kept := discipline.run answers program elapsed valid sound
  rw [ran] at kept
  exact ⟨value, after, updated, later, ran, holds, kept⟩

theorem Returns.verified {discipline : Discipline semantics}
    {guard : Guard Statement Answer Shared Session}
    {requires : Statement → Session → Shared → Prop} {post : Value → Shared → Session → Prop}
    {returns : Value → Session → Shared → Prop} {raises : Error → Session → Prop}
    (first : program.Returns semantics answers shared session post)
    (verified : program.Verified discipline guard requires returns raises session shared)
    (permitted : ∀ elapsed shared session statement,
      guard (answers elapsed) [] shared session statement)
    (valid : discipline.invariant shared) (sound : discipline.sound session shared) :
    program.Returns semantics answers shared session (fun value after updated =>
      post value after updated ∧ returns value updated after ∧ discipline.invariant after ∧
        discipline.sound updated after) := by
  intro elapsed
  obtain ⟨value, after, updated, later, ran, holds⟩ := first elapsed
  have kept := discipline.run answers program elapsed valid sound
  have ended := verified.run answers (fun _ _ => True) elapsed valid sound permitted trivial
    (fun _ _ _ _ _ _ _ _ _ _ _ => trivial)
  rw [ran] at kept ended
  exact ⟨value, after, updated, later, ran, holds, ended.2.1 value rfl, kept.1, kept.2⟩

variable (semantics answers) in
/-- What every answered call keeps, a run keeps. -/
theorem run_keeps (property : Shared → Prop) (program : Program Statement Response Error Value)
    (elapsed : Nat) (session : Session) (holds : property shared)
    (preserved : ∀ statement answer before session response after updated,
      semantics.execute statement answer [] before session = .done response after updated →
      property before → property after) :
    property (program.run semantics answers elapsed shared session).shared := by
  induction program generalizing elapsed shared session with
  | ret value => exact holds
  | raise error => exact holds
  | call statement rest ih =>
      rw [run_call]
      cases executed : semantics.execute statement (answers elapsed) [] shared session with
      | wait => exact holds
      | raise error => exact holds
      | done response after updated =>
          exact ih response (elapsed + 1) updated (preserved _ _ _ _ _ _ _ executed holds)

/-- A program whose calls, whatever they are answered, are all of an allowed kind. -/
def Only (allowed : Statement → Prop) : Program Statement Response Error Value → Prop
  | .ret _ => True
  | .raise _ => True
  | .call statement next => allowed statement ∧ ∀ response, (next response).Only allowed

theorem Only.bind {allowed : Statement → Prop} (first : program.Only allowed)
    (second : ∀ value, (next value).Only allowed) : (program.bind next).Only allowed := by
  induction program with
  | ret value => exact second value
  | raise error => trivial
  | call statement rest ih => exact ⟨first.1, fun response => ih response (first.2 response)⟩

theorem Only.mono {allowed weaker : Statement → Prop} (only : program.Only allowed)
    (implies : ∀ statement, allowed statement → weaker statement) : program.Only weaker := by
  induction program with
  | ret value => trivial
  | raise error => trivial
  | call statement rest ih => exact ⟨implies _ only.1, fun response => ih response (only.2 response)⟩

variable (semantics answers) in
/-- What calls of the allowed kind keep, the program keeps. -/
theorem Only.run {allowed : Statement → Prop} (property : Shared → Session → Prop)
    (only : program.Only allowed) (elapsed : Nat) (holds : property shared session)
    (preserved : ∀ statement answer before session response after updated, allowed statement →
      semantics.execute statement answer [] before session = .done response after updated →
      property before session → property after updated) :
    property (program.run semantics answers elapsed shared session).shared
      (program.run semantics answers elapsed shared session).session := by
  induction program generalizing elapsed shared session with
  | ret value => exact holds
  | raise error => exact holds
  | call statement rest ih =>
      rw [run_call]
      cases executed : semantics.execute statement (answers elapsed) [] shared session with
      | wait => exact holds
      | raise error => exact holds
      | done response after updated =>
          exact ih response (only.2 response) (elapsed + 1)
            (preserved _ _ _ _ _ _ _ only.1 executed holds)

/-- A program that, whatever its calls are answered, raises only allowed errors of its own. -/
def Throws (allowed : Error → Prop) : Program Statement Response Error Value → Prop
  | .ret _ => True
  | .raise error => allowed error
  | .call _ next => ∀ response, (next response).Throws allowed

theorem Throws.bind {allowed : Error → Prop} (first : program.Throws allowed)
    (second : ∀ value, (next value).Throws allowed) : (program.bind next).Throws allowed := by
  induction program with
  | ret value => exact second value
  | raise error => exact first
  | call statement rest ih => exact fun response => ih response (first response)

variable (semantics answers) in
/-- When the environment raises only allowed errors too, nothing else comes out. -/
theorem Throws.run {allowed : Error → Prop} (throws : program.Throws allowed) (elapsed : Nat)
    (raised : ∀ statement answer before session error,
      semantics.execute statement answer [] before session = .raise error → allowed error)
    {error : Error}
    (ended : (program.run semantics answers elapsed shared session).outcome = some (.error error)) :
    allowed error := by
  induction program generalizing elapsed shared session with
  | ret value => cases ended
  | raise error =>
      cases ended
      exact throws
  | call statement rest ih =>
      rw [run_call] at ended
      cases executed : semantics.execute statement (answers elapsed) [] shared session with
      | wait =>
          rw [executed] at ended
          cases ended
      | raise error =>
          rw [executed] at ended
          cases ended
          exact raised _ _ _ _ _ executed
      | done response after updated =>
          rw [executed] at ended
          exact ih response (throws response) (elapsed + 1) ended

end Program

end InventoryManagement.Interleaving
