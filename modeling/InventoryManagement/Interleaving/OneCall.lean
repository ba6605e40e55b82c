import InventoryManagement.Interleaving.Alone
import InventoryManagement.Interleaving.Assertion

/-! Programs that make one call of a kind on every way to a return. -/

set_option autoImplicit false

namespace InventoryManagement.Interleaving

variable {Label Statement : Type} {Response : Statement → Type}
variable {Error Answer Shared Session Value Result : Type}

namespace Program

variable {marked : Statement → Prop} {program : Program Statement Response Error Value}

/-- Whatever its calls are answered, the program makes a marked call at most once, and
returns only after it. -/
def MakesOnce (marked : Statement → Prop) : Program Statement Response Error Value → Prop
  | .ret _ => False
  | .raise _ => True
  | .call statement next => ∀ response,
      (marked statement → (next response).Only (fun later => ¬ marked later)) ∧
        (¬ marked statement → (next response).MakesOnce marked)

theorem makesOnce_bind {next : Value → Program Statement Response Error Result}
    (first : program.Only (fun statement => ¬ marked statement))
    (second : ∀ value, (next value).MakesOnce marked) : (program.bind next).MakesOnce marked := by
  induction program with
  | ret value => exact second value
  | raise error => trivial
  | call statement rest ih =>
      intro response
      exact ⟨fun marks => absurd marks first.1, fun _ => ih response (first.2 response)⟩

theorem makesOnce_map {wrap : Value → Result} (once : program.MakesOnce marked) :
    (program.bind (fun value => .ret (wrap value))).MakesOnce marked := by
  induction program with
  | ret value => exact once
  | raise error => trivial
  | call statement rest ih =>
      intro response
      constructor
      · intro marks
        exact ((once response).1 marks).bind (fun _ => trivial)
      · intro unmarked
        exact ih response ((once response).2 unmarked)

/-- What a program asks can be checked call by call. -/
theorem verified_only {semantics : Semantics Statement Response Error Answer Shared Session}
    {discipline : Discipline semantics} {guard : Guard Statement Answer Shared Session}
    {requires : Statement → Session → Shared → Prop} {returns : Value → Session → Shared → Prop}
    {raises : Error → Session → Prop} {allowed : Statement → Prop} {session : Session}
    {shared : Shared}
    (verified : program.Verified discipline guard requires returns raises session shared)
    (only : program.Only allowed) :
    program.Verified discipline guard
      (fun statement session shared => requires statement session shared ∧ allowed statement)
      returns raises session shared := by
  induction program generalizing session shared with
  | ret value => exact verified
  | raise error => exact verified
  | call statement next ih =>
      intro current relied valid sound
      obtain ⟨required, answered⟩ := verified current relied valid sound
      refine ⟨⟨required, only.1⟩, fun answer others allowed => ?_⟩
      obtain ⟨raised, done⟩ := answered answer others allowed
      refine ⟨raised, fun response after updated executed validAfter soundAfter => ?_⟩
      exact ih response (done response after updated executed validAfter soundAfter)
        (only.2 response)

end Program

end InventoryManagement.Interleaving
