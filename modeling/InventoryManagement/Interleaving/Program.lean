import Mathlib.Order.Basic

/-! Programs that stop at every call to their environment. A program is the tree
of its remaining calls, so the same text has two readings: run alone against one
stream of answers, or as one of several threads whose calls interleave. -/

set_option autoImplicit false

namespace InventoryManagement.Interleaving

/-- A computation that returns, raises, or makes one call and continues with
whatever the environment answers. -/
inductive Program (Statement : Type) (Response : Statement → Type) (Error Value : Type) : Type where
  | ret (value : Value)
  | raise (error : Error)
  | call (statement : Statement)
      (next : Response statement → Program Statement Response Error Value)

/-- What the environment does with one call: it keeps the caller waiting, raises
into it, or answers and updates the shared and the caller's own state. -/
inductive Outcome (Shared Session Error Response : Type) : Type where
  | wait
  | raise (error : Error)
  | done (response : Response) (shared : Shared) (session : Session)

/-- The environment: how a call behaves next to the sessions of the other
threads, and what is left of a session once its program has ended. -/
structure Semantics (Statement : Type) (Response : Statement → Type)
    (Error Answer Shared Session : Type) where
  execute : (statement : Statement) → Answer → List Session → Shared → Session →
    Outcome Shared Session Error (Response statement)
  close : Session → Session

namespace Program

variable {Statement : Type} {Response : Statement → Type} {Error Value Result Final : Type}

def bind (program : Program Statement Response Error Value)
    (next : Value → Program Statement Response Error Result) :
    Program Statement Response Error Result :=
  match program with
  | .ret value => next value
  | .raise error => .raise error
  | .call statement rest => .call statement (fun response => (rest response).bind next)

instance : Monad (Program Statement Response Error) where
  pure := .ret
  bind := bind

/-- One call whose answer is the program's value. -/
def perform (statement : Statement) :
    Program Statement Response Error (Response statement) :=
  .call statement .ret

@[simp] theorem pure_eq_ret (value : Value) :
    (pure value : Program Statement Response Error Value) = .ret value := rfl

@[simp] theorem bind_eq (program : Program Statement Response Error Value)
    (next : Value → Program Statement Response Error Result) :
    program >>= next = program.bind next := rfl

@[simp] theorem ret_bind (value : Value)
    (next : Value → Program Statement Response Error Result) :
    (Program.ret value).bind next = next value := rfl

@[simp] theorem raise_bind (error : Error)
    (next : Value → Program Statement Response Error Result) :
    (Program.raise error).bind next = .raise error := rfl

@[simp] theorem call_bind (statement : Statement)
    (rest : Response statement → Program Statement Response Error Value)
    (next : Value → Program Statement Response Error Result) :
    (Program.call statement rest).bind next =
      .call statement (fun response => (rest response).bind next) := rfl

@[simp] theorem perform_bind (statement : Statement)
    (next : Response statement → Program Statement Response Error Result) :
    (perform statement).bind next = .call statement next := rfl

theorem bind_assoc (program : Program Statement Response Error Value)
    (first : Value → Program Statement Response Error Result)
    (second : Result → Program Statement Response Error Final) :
    (program.bind first).bind second =
      program.bind (fun value => (first value).bind second) := by
  induction program with
  | ret value => rfl
  | raise error => rfl
  | call statement next ih =>
      simp only [call_bind]
      congr 1
      funext response
      exact ih response

end Program

/-! Running one program with nobody else active. The `n`-th call is given the
`n`-th answer of the stream; a call that would wait forever leaves no outcome. -/

structure Completion (Shared Session Error Value : Type) where
  outcome : Option (Except Error Value)
  shared : Shared
  session : Session
  elapsed : Nat

section Alone

variable {Statement : Type} {Response : Statement → Type}
variable {Error Answer Shared Session Value Result : Type}

def Program.run (semantics : Semantics Statement Response Error Answer Shared Session)
    (answers : Nat → Answer) :
    Program Statement Response Error Value → Nat → Shared → Session →
      Completion Shared Session Error Value
  | .ret value, elapsed, shared, session => ⟨some (.ok value), shared, session, elapsed⟩
  | .raise error, elapsed, shared, session => ⟨some (.error error), shared, session, elapsed⟩
  | .call statement next, elapsed, shared, session =>
      match semantics.execute statement (answers elapsed) [] shared session with
      | .wait => ⟨none, shared, session, elapsed⟩
      | .raise error => ⟨some (.error error), shared, session, elapsed + 1⟩
      | .done response after session => (next response).run semantics answers (elapsed + 1) after session

variable (semantics : Semantics Statement Response Error Answer Shared Session)
  (answers : Nat → Answer)

@[simp] theorem Program.run_ret (value : Value) (elapsed : Nat) (shared : Shared) (session : Session) :
    (Program.ret value : Program Statement Response Error Value).run semantics answers
      elapsed shared session = ⟨some (.ok value), shared, session, elapsed⟩ := rfl

@[simp] theorem Program.run_raise (error : Error) (elapsed : Nat) (shared : Shared)
    (session : Session) :
    (Program.raise error : Program Statement Response Error Value).run semantics answers
      elapsed shared session = ⟨some (.error error), shared, session, elapsed⟩ := rfl

theorem Program.run_call (statement : Statement)
    (next : Response statement → Program Statement Response Error Value)
    (elapsed : Nat) (shared : Shared) (session : Session) :
    (Program.call statement next).run semantics answers elapsed shared session =
      match semantics.execute statement (answers elapsed) [] shared session with
      | .wait => ⟨none, shared, session, elapsed⟩
      | .raise error => ⟨some (.error error), shared, session, elapsed + 1⟩
      | .done response after session =>
          (next response).run semantics answers (elapsed + 1) after session := by
  rw [Program.run]

theorem Program.run_bind (program : Program Statement Response Error Value)
    (next : Value → Program Statement Response Error Result)
    (elapsed : Nat) (shared : Shared) (session : Session) :
    (program.bind next).run semantics answers elapsed shared session =
      match program.run semantics answers elapsed shared session with
      | ⟨none, shared, session, elapsed⟩ => ⟨none, shared, session, elapsed⟩
      | ⟨some (.error error), shared, session, elapsed⟩ =>
          ⟨some (.error error), shared, session, elapsed⟩
      | ⟨some (.ok value), shared, session, elapsed⟩ =>
          (next value).run semantics answers elapsed shared session := by
  induction program generalizing elapsed shared session with
  | ret value => rfl
  | raise error => rfl
  | call statement rest ih =>
      simp only [Program.call_bind, Program.run_call]
      cases semantics.execute statement (answers elapsed) [] shared session with
      | wait => rfl
      | raise error => rfl
      | done response after session => exact ih response (elapsed + 1) after session

end Alone

end InventoryManagement.Interleaving
