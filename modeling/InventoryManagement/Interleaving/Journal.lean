import InventoryManagement.Interleaving.Assertion

/-! The journal of a run: what its answered calls write to it, in the order in which they
were made. No call reads it. -/

set_option autoImplicit false

namespace InventoryManagement.Interleaving

variable {Label Statement : Type} {Response : Statement → Type}
variable {Error Answer Shared Session Value Entry : Type}

/-- What an answered call writes: read off its thread's position and label, the session it is
made with, and its statement. -/
abbrev Scribe (Label Statement Session Entry : Type) :=
  Nat → Label → Session → Statement → List Entry

/-- What one step writes. -/
def System.writes (semantics : Semantics Statement Response Error Answer Shared Session)
    (scribe : Scribe Label Statement Session Entry)
    (system : System Label Statement Response Error Shared Session Value) (index : Nat)
    (answer : Answer) : List Entry :=
  match system.threads[index]? with
  | some ⟨label, .call statement _, session⟩ =>
      match semantics.execute statement answer (system.others index) system.shared session with
      | .done _ _ _ => scribe index label session statement
      | .raise _ => []
      | .wait => []
  | _ => []

/-- The states of the runs from `start`, each with the journal of its run. -/
inductive Journaled (semantics : Semantics Statement Response Error Answer Shared Session)
    (guard : Guard Statement Answer Shared Session)
    (scribe : Scribe Label Statement Session Entry)
    (start : System Label Statement Response Error Shared Session Value) :
    System Label Statement Response Error Shared Session Value → List Entry → Prop where
  | refl : Journaled semantics guard scribe start start []
  | step {system after : System Label Statement Response Error Shared Session Value}
      {journal : List Entry} {index : Nat} {answer : Answer} :
      Journaled semantics guard scribe start system journal → system.allows guard index answer →
      system.step semantics index answer = some after →
      Journaled semantics guard scribe start after
        (journal ++ system.writes semantics scribe index answer)

/-- The journal of a schedule. -/
def System.journal (semantics : Semantics Statement Response Error Answer Shared Session)
    (scribe : Scribe Label Statement Session Entry)
    (system : System Label Statement Response Error Shared Session Value) :
    List (Nat × Answer) → List Entry
  | [] => []
  | (index, answer) :: rest =>
      match system.step semantics index answer with
      | none => []
      | some after => system.writes semantics scribe index answer ++
          after.journal semantics scribe rest

variable {semantics : Semantics Statement Response Error Answer Shared Session}
variable {guard : Guard Statement Answer Shared Session}
variable {scribe : Scribe Label Statement Session Entry}
variable {start system after : System Label Statement Response Error Shared Session Value}
variable {journal : List Entry} {index : Nat} {answer : Answer}

theorem System.writes_raised {label : Label} {statement : Statement}
    {next : Response statement → Program Statement Response Error Value} {session : Session}
    {error : Error} (found : system.threads[index]? = some ⟨label, .call statement next, session⟩)
    (raised : semantics.execute statement answer (system.others index) system.shared session =
      .raise error) : system.writes semantics scribe index answer = [] := by
  simp only [System.writes, found, raised]

theorem System.writes_done {label : Label} {statement : Statement}
    {next : Response statement → Program Statement Response Error Value}
    {session updated : Session} {response : Response statement} {shared : Shared}
    (found : system.threads[index]? = some ⟨label, .call statement next, session⟩)
    (executed : semantics.execute statement answer (system.others index) system.shared session =
      .done response shared updated) :
    system.writes semantics scribe index answer = scribe index label session statement := by
  simp only [System.writes, found, executed]

theorem Journaled.reachable (journaled : Journaled semantics guard scribe start system journal) :
    Reachable semantics guard start system := by
  induction journaled with
  | refl => exact .refl
  | step _ allowed stepped ih => exact .step ih allowed stepped

theorem System.schedule_journaled {moves : List (Nat × Answer)}
    (journaled : Journaled semantics Guard.unrestricted scribe start system journal)
    (completed : system.schedule semantics moves = some after) :
    Journaled semantics Guard.unrestricted scribe start after
      (journal ++ system.journal semantics scribe moves) := by
  induction moves generalizing system journal with
  | nil =>
      cases completed
      rw [System.journal, List.append_nil]
      exact journaled
  | cons move rest ih =>
      obtain ⟨index, answer⟩ := move
      rw [System.schedule] at completed
      rw [System.journal]
      cases stepped : system.step semantics index answer with
      | none =>
          rw [stepped] at completed
          cases completed
      | some middle =>
          rw [stepped] at completed
          dsimp only
          rw [← List.append_assoc]
          exact ih (.step journaled (fun _ _ _ _ _ => trivial) stepped) completed

section Rule

variable {discipline : Discipline semantics}
variable {demands : Label → Statement → Session → Shared → Prop}
variable {ensures : Label → Except Error Value → Session → Prop}

/-- The invariant rule for a property of the system and of the journal. -/
theorem System.Verified.journaled
    (property : System Label Statement Response Error Shared Session Value → List Entry → Prop)
    (initially : System.Verified discipline guard demands ensures start)
    (holds : property start [])
    (raised : ∀ system journal index answer label statement next session error,
      System.Turn discipline guard demands ensures system index answer label statement next session →
      property system journal →
      semantics.execute statement answer (system.others index) system.shared session =
        .raise error →
      property ⟨system.shared,
        system.threads.set index ⟨label, .raise error, semantics.close session⟩⟩ journal)
    (answered : ∀ system journal index answer label statement next session response shared updated,
      System.Turn discipline guard demands ensures system index answer label statement next session →
      property system journal →
      semantics.execute statement answer (system.others index) system.shared session =
        .done response shared updated →
      property ⟨shared,
        system.threads.set index (Thread.settle semantics ⟨label, next response, updated⟩)⟩
        (journal ++ scribe index label session statement))
    (journaled : Journaled semantics guard scribe start system journal) :
    property system journal := by
  induction journaled with
  | refl => exact holds
  | @step before after journal index answer earlier allowed stepped ih =>
      have verified := initially.reachable earlier.reachable
      obtain ⟨label, statement, next, session, found, outcome⟩ := System.step_cases stepped
      have turn : System.Turn discipline guard demands ensures before index answer label
          statement next session :=
        ⟨verified, found, allowed _ statement next found rfl, verified.requires found⟩
      rcases outcome with ⟨error, failed, rfl⟩ | ⟨response, shared, updated, executed, rfl⟩
      · rw [System.writes_raised found failed, List.append_nil]
        exact raised _ _ _ _ _ _ _ _ _ turn ih failed
      · rw [System.writes_done found executed]
        exact answered _ _ _ _ _ _ _ _ _ _ _ turn ih executed

end Rule

end InventoryManagement.Interleaving
