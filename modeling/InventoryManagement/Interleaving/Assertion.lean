import InventoryManagement.Interleaving.System

/-! Rely-guarantee reasoning for interleaved programs. A discipline states what
the environment promises every session whatever its program does. On top of one,
an assertion attached to a program speaks about its own calls only, and may use
at every call that the others have changed nothing the session relies on. -/

set_option autoImplicit false

namespace InventoryManagement.Interleaving

variable {Label Statement : Type} {Response : Statement → Type}
variable {Error Answer Shared Session Value Result : Type}

/-- What the environment guarantees for every program: an invariant of the shared
state, a well-formedness condition that ties a session to it, sessions that stay
out of each other's way, and the changes a session has to expect from the rest. -/
structure Discipline (semantics : Semantics Statement Response Error Answer Shared Session) where
  invariant : Shared → Prop
  sound : Session → Shared → Prop
  compatible : Session → Session → Prop
  rely : Session → Shared → Shared → Prop
  rely_refl : ∀ session shared, rely session shared shared
  rely_trans : ∀ session first second third,
    rely session first second → rely session second third → rely session first third
  compatible_symm : ∀ left right, compatible left right → compatible right left
  sound_stable : ∀ session before after,
    sound session before → rely session before after → sound session after
  execute_done : ∀ statement answer others before session response after updated,
    semantics.execute statement answer others before session = .done response after updated →
    invariant before → sound session before →
    (∀ other ∈ others, compatible session other ∧ sound other before) →
    invariant after ∧ sound updated after ∧
      ∀ other ∈ others, compatible updated other ∧ rely other before after
  close_sound : ∀ session shared, sound session shared → sound (semantics.close session) shared
  close_compatible : ∀ session other,
    compatible session other → compatible (semantics.close session) other

namespace Program

variable {semantics : Semantics Statement Response Error Answer Shared Session}
variable (discipline : Discipline semantics) (guard : Guard Statement Answer Shared Session)
variable (requires : Statement → Session → Shared → Prop)

/-- The program meets the requirement of every call it makes and ends in one of the
two postconditions, whatever the other threads do between its calls. -/
def Verified (returns : Value → Session → Shared → Prop) (raises : Error → Session → Prop) :
    Program Statement Response Error Value → Session → Shared → Prop
  | .ret value, session, shared => returns value session shared
  | .raise error, session, _ => raises error session
  | .call statement next, session, shared =>
      ∀ current, discipline.rely session shared current →
        discipline.invariant current → discipline.sound session current →
        requires statement session current ∧
        ∀ answer others, guard answer others current session statement →
          (∀ error, semantics.execute statement answer others current session = .raise error →
            raises error session) ∧
          ∀ response after updated,
            semantics.execute statement answer others current session =
              .done response after updated →
            discipline.invariant after → discipline.sound updated after →
            (next response).Verified returns raises updated after

variable {discipline guard requires}
variable {returns : Value → Session → Shared → Prop} {raises : Error → Session → Prop}

/-- Sequencing: the first program may end in whatever the second one starts from. -/
theorem verified_bind {program : Program Statement Response Error Value}
    {next : Value → Program Statement Response Error Result}
    {returns : Result → Session → Shared → Prop} {session : Session} {shared : Shared}
    (verified : program.Verified discipline guard requires
      (fun value session shared =>
        (next value).Verified discipline guard requires returns raises session shared)
      raises session shared) :
    (program.bind next).Verified discipline guard requires returns raises session shared := by
  induction program generalizing session shared with
  | ret value => exact verified
  | raise error => exact verified
  | call statement rest ih =>
      intro current relied valid sound
      obtain ⟨required, answered⟩ := verified current relied valid sound
      refine ⟨required, fun answer others allowed => ⟨(answered answer others allowed).1, ?_⟩⟩
      intro response after updated executed validAfter soundAfter
      exact ih response
        ((answered answer others allowed).2 response after updated executed validAfter soundAfter)

theorem verified_mono {program : Program Statement Response Error Value}
    {weaker : Value → Session → Shared → Prop} {session : Session} {shared : Shared}
    (verified : program.Verified discipline guard requires returns raises session shared)
    (implies : ∀ value session shared, returns value session shared → weaker value session shared) :
    program.Verified discipline guard requires weaker raises session shared := by
  induction program generalizing session shared with
  | ret value => exact implies value session shared verified
  | raise error => exact verified
  | call statement rest ih =>
      intro current relied valid sound
      obtain ⟨required, answered⟩ := verified current relied valid sound
      refine ⟨required, fun answer others allowed => ⟨(answered answer others allowed).1, ?_⟩⟩
      intro response after updated executed validAfter soundAfter
      exact ih response
        ((answered answer others allowed).2 response after updated executed validAfter soundAfter)

theorem verified_raises {program : Program Statement Response Error Value}
    {weaker : Error → Session → Prop} {session : Session} {shared : Shared}
    (verified : program.Verified discipline guard requires returns raises session shared)
    (implies : ∀ error session, raises error session → weaker error session) :
    program.Verified discipline guard requires returns weaker session shared := by
  induction program generalizing session shared with
  | ret value => exact verified
  | raise error => exact implies error session verified
  | call statement rest ih =>
      intro current relied valid sound
      obtain ⟨required, answered⟩ := verified current relied valid sound
      refine ⟨required, fun answer others allowed => ⟨?_, ?_⟩⟩
      · intro error raised
        exact implies error session ((answered answer others allowed).1 error raised)
      · intro response after updated executed validAfter soundAfter
        exact ih response
          ((answered answer others allowed).2 response after updated executed validAfter soundAfter)

theorem verified_trivially (program : Program Statement Response Error Value)
    (required : ∀ statement session shared, requires statement session shared)
    (returned : ∀ value session shared, returns value session shared)
    (raised : ∀ error session, raises error session) (session : Session) (shared : Shared) :
    program.Verified discipline guard requires returns raises session shared := by
  induction program generalizing session shared with
  | ret value => exact returned value session shared
  | raise error => exact raised error session
  | call statement rest ih =>
      intro current _ _ _
      refine ⟨required statement session current, fun answer others _ => ⟨?_, ?_⟩⟩
      · intro error _
        exact raised error session
      · intro response after updated _ _ _
        exact ih response updated after

theorem verified_and {program : Program Statement Response Error Value}
    {demands : Statement → Session → Shared → Prop} {results : Value → Session → Shared → Prop}
    {failures : Error → Session → Prop} {session : Session} {shared : Shared}
    (first : program.Verified discipline guard requires returns raises session shared)
    (second : program.Verified discipline guard demands results failures session shared) :
    program.Verified discipline guard
      (fun statement session shared => requires statement session shared ∧
        demands statement session shared)
      (fun value session shared => returns value session shared ∧ results value session shared)
      (fun error session => raises error session ∧ failures error session) session shared := by
  induction program generalizing session shared with
  | ret value => exact ⟨first, second⟩
  | raise error => exact ⟨first, second⟩
  | call statement rest ih =>
      intro current relied valid sound
      obtain ⟨required, answered⟩ := first current relied valid sound
      obtain ⟨requiredToo, answeredToo⟩ := second current relied valid sound
      refine ⟨⟨required, requiredToo⟩, fun answer others allowed => ⟨?_, ?_⟩⟩
      · intro error raised
        exact ⟨(answered answer others allowed).1 error raised,
          (answeredToo answer others allowed).1 error raised⟩
      · intro response after updated executed validAfter soundAfter
        exact ih response
          ((answered answer others allowed).2 response after updated executed validAfter soundAfter)
          ((answeredToo answer others allowed).2 response after updated executed validAfter
            soundAfter)

theorem verified_requires {program : Program Statement Response Error Value}
    {weaker : Statement → Session → Shared → Prop} {session : Session} {shared : Shared}
    (verified : program.Verified discipline guard requires returns raises session shared)
    (implies : ∀ statement session shared, requires statement session shared →
      weaker statement session shared) :
    program.Verified discipline guard weaker returns raises session shared := by
  induction program generalizing session shared with
  | ret value => exact verified
  | raise error => exact verified
  | call statement rest ih =>
      intro current relied valid sound
      obtain ⟨required, answered⟩ := verified current relied valid sound
      refine ⟨implies _ _ _ required,
        fun answer others allowed => ⟨(answered answer others allowed).1, ?_⟩⟩
      intro response after updated executed validAfter soundAfter
      exact ih response
        ((answered answer others allowed).2 response after updated executed validAfter soundAfter)

end Program

section Alone

variable {semantics : Semantics Statement Response Error Answer Shared Session}
variable (discipline : Discipline semantics) (answers : Nat → Answer)

theorem Discipline.run (program : Program Statement Response Error Value) (elapsed : Nat)
    {shared : Shared} {session : Session} (valid : discipline.invariant shared)
    (sound : discipline.sound session shared) :
    discipline.invariant (program.run semantics answers elapsed shared session).shared ∧
      discipline.sound (program.run semantics answers elapsed shared session).session
        (program.run semantics answers elapsed shared session).shared := by
  induction program generalizing elapsed shared session with
  | ret value => exact ⟨valid, sound⟩
  | raise error => exact ⟨valid, sound⟩
  | call statement next ih =>
      rw [Program.run_call]
      cases executed : semantics.execute statement (answers elapsed) [] shared session with
      | wait => exact ⟨valid, sound⟩
      | raise error => exact ⟨valid, sound⟩
      | done response after updated =>
          obtain ⟨validAfter, soundAfter, _⟩ := discipline.execute_done _ _ _ _ _ _ _ _ executed
            valid sound (by simp)
          exact ih response (elapsed + 1) validAfter soundAfter

variable {discipline} {guard : Guard Statement Answer Shared Session}
variable {requires : Statement → Session → Shared → Prop}

/-- A verified program that runs alone ends in its postcondition, and keeps whatever
calls that meet their requirement keep. -/
theorem Program.Verified.run {returns : Value → Session → Shared → Prop}
    {raises : Error → Session → Prop} (property : Session → Shared → Prop)
    {program : Program Statement Response Error Value} (elapsed : Nat) {shared : Shared}
    {session : Session}
    (verified : program.Verified discipline guard requires returns raises session shared)
    (valid : discipline.invariant shared) (sound : discipline.sound session shared)
    (permitted : ∀ elapsed shared session statement,
      guard (answers elapsed) [] shared session statement)
    (holds : property session shared)
    (preserved : ∀ statement answer before session response after updated,
      semantics.execute statement answer [] before session = .done response after updated →
      requires statement session before → discipline.sound session before →
      property session before → property updated after) :
    match program.run semantics answers elapsed shared session with
    | ⟨outcome, after, updated, _⟩ => property updated after ∧
      (∀ value, outcome = some (.ok value) → returns value updated after) ∧
      ∀ error, outcome = some (.error error) → raises error updated := by
  induction program generalizing elapsed shared session with
  | ret value =>
      refine ⟨holds, ?_, fun error ended => (by cases ended)⟩
      intro result ended
      cases ended
      exact verified
  | raise error =>
      refine ⟨holds, fun value ended => (by cases ended), ?_⟩
      intro failed ended
      cases ended
      exact verified
  | call statement next ih =>
      obtain ⟨required, answered⟩ := verified shared (discipline.rely_refl _ _) valid sound
      have handled := answered (answers elapsed) [] (permitted _ _ _ _)
      rw [Program.run_call]
      cases executed : semantics.execute statement (answers elapsed) [] shared session with
      | wait => exact ⟨holds, fun _ ended => (by cases ended), fun _ ended => (by cases ended)⟩
      | raise error =>
          refine ⟨holds, fun _ ended => (by cases ended), ?_⟩
          intro failed ended
          cases ended
          exact handled.1 error executed
      | done response after updated =>
          obtain ⟨validAfter, soundAfter, _⟩ := discipline.execute_done _ _ _ _ _ _ _ _ executed
            valid sound (by simp)
          exact ih response (elapsed + 1) (handled.2 response after updated executed validAfter soundAfter)
            validAfter soundAfter (preserved _ _ _ _ _ _ _ executed required sound holds)

end Alone

section Threads

variable {semantics : Semantics Statement Response Error Answer Shared Session}
variable (discipline : Discipline semantics) (guard : Guard Statement Answer Shared Session)
variable (demands : Label → Statement → Session → Shared → Prop)
variable (ensures : Label → Except Error Value → Session → Prop)

/-- A thread's part of the invariant: a running program is verified from some
earlier shared state whose later changes the session relied on, and a finished
one has ensured its postcondition. -/
def Thread.Verified (thread : Thread Label Statement Response Error Session Value)
    (shared : Shared) : Prop :=
  match thread.program with
  | .ret value => ensures thread.label (.ok value) thread.session
  | .raise error => ensures thread.label (.error error) thread.session
  | .call statement next => ∃ earlier, discipline.rely thread.session earlier shared ∧
      (Program.call statement next).Verified discipline guard (demands thread.label)
        (fun value session _ => ensures thread.label (.ok value) (semantics.close session))
        (fun error session => ensures thread.label (.error error) (semantics.close session))
        thread.session earlier

structure System.Verified
    (system : System Label Statement Response Error Shared Session Value) : Prop where
  valid : discipline.invariant system.shared
  sound : ∀ (index : Nat) thread, system.threads[index]? = some thread →
    discipline.sound thread.session system.shared
  compatible : ∀ (left right : Nat) first second, left ≠ right →
    system.threads[left]? = some first → system.threads[right]? = some second →
    discipline.compatible first.session second.session
  threads : ∀ (index : Nat) thread, system.threads[index]? = some thread →
    thread.Verified discipline guard demands ensures system.shared

variable (guards : Label → Guard Statement Answer Shared Session)

structure System.Assisted
    (system : System Label Statement Response Error Shared Session Value) : Prop where
  valid : discipline.invariant system.shared
  sound : ∀ (index : Nat) thread, system.threads[index]? = some thread →
    discipline.sound thread.session system.shared
  compatible : ∀ (left right : Nat) first second, left ≠ right →
    system.threads[left]? = some first → system.threads[right]? = some second →
    discipline.compatible first.session second.session
  threads : ∀ (index : Nat) thread, system.threads[index]? = some thread →
    thread.Verified discipline (guards thread.label) demands ensures system.shared

variable {discipline guard guards demands ensures}
variable {system after start : System Label Statement Response Error Shared Session Value}
variable {index : Nat} {answer : Answer}

theorem System.Verified.assisted
    (verified : System.Verified discipline guard demands ensures system) :
    System.Assisted discipline demands ensures (fun _ => guard) system :=
  ⟨verified.valid, verified.sound, verified.compatible, verified.threads⟩

theorem System.Assisted.verified
    (assisted : System.Assisted discipline demands ensures (fun _ => guard) system) :
    System.Verified discipline guard demands ensures system :=
  ⟨assisted.valid, assisted.sound, assisted.compatible, assisted.threads⟩

theorem Thread.Verified.stable {thread : Thread Label Statement Response Error Session Value}
    {before after : Shared}
    (verified : thread.Verified discipline guard demands ensures before)
    (relied : discipline.rely thread.session before after) :
    thread.Verified discipline guard demands ensures after := by
  unfold Thread.Verified at verified ⊢
  split
  · next ended => simpa only [ended] using verified
  · next ended => simpa only [ended] using verified
  · next statement next running =>
      simp only [running] at verified
      obtain ⟨earlier, sofar, program⟩ := verified
      exact ⟨earlier, discipline.rely_trans _ _ _ _ sofar relied, program⟩

/-- A program verified from the current shared state makes a verified thread,
whether it is still running or has just ended. -/
theorem Thread.settle_verified {label : Label}
    {program : Program Statement Response Error Value} {session : Session} {shared : Shared}
    (verified : program.Verified discipline guard (demands label)
      (fun value session _ => ensures label (.ok value) (semantics.close session))
      (fun error session => ensures label (.error error) (semantics.close session))
      session shared) :
    (Thread.settle semantics ⟨label, program, session⟩).Verified
      discipline guard demands ensures shared := by
  cases program with
  | ret value => exact verified
  | raise error => exact verified
  | call statement next => exact ⟨shared, discipline.rely_refl _ _, verified⟩

theorem Thread.settle_session (property : Session → Prop) {label : Label}
    {program : Program Statement Response Error Value} {session : Session}
    (running : property session) (closed : property (semantics.close session)) :
    property (Thread.settle semantics ⟨label, program, session⟩).session := by
  cases program with
  | ret value => exact closed
  | raise error => exact closed
  | call statement next => exact running

theorem System.start_assisted {program : Label → Program Statement Response Error Value}
    {shared : Shared} {session : Session} {labels : List Label}
    (valid : discipline.invariant shared) (sound : discipline.sound session shared)
    (compatible : ∀ left right, left = session ∨ left = semantics.close session →
      right = session ∨ right = semantics.close session → discipline.compatible left right)
    (verified : ∀ label ∈ labels, (program label).Verified discipline (guards label) (demands label)
      (fun value session _ => ensures label (.ok value) (semantics.close session))
      (fun error session => ensures label (.error error) (semantics.close session))
      session shared) :
    System.Assisted discipline demands ensures guards
      (System.start semantics program shared session labels) := by
  have started : ∀ (index : Nat) thread,
      (System.start semantics program shared session labels).threads[index]? = some thread →
        ∃ label ∈ labels, Thread.settle semantics ⟨label, program label, session⟩ = thread := by
    intro index thread found
    exact List.mem_map.mp (List.mem_of_getElem? found)
  have fresh : ∀ label, (Thread.settle semantics ⟨label, program label, session⟩).session = session ∨
      (Thread.settle semantics ⟨label, program label, session⟩).session = semantics.close session :=
    fun label => Thread.settle_session
      (fun current => current = session ∨ current = semantics.close session) (.inl rfl) (.inr rfl)
  refine ⟨valid, ?_, ?_, ?_⟩
  · intro index thread found
    obtain ⟨label, _, rfl⟩ := started index thread found
    exact Thread.settle_session (fun current => discipline.sound current shared) sound
      (discipline.close_sound _ _ sound)
  · intro left right first second _ foundFirst foundSecond
    obtain ⟨one, _, rfl⟩ := started left first foundFirst
    obtain ⟨other, _, rfl⟩ := started right second foundSecond
    exact compatible _ _ (fresh one) (fresh other)
  · intro index thread found
    obtain ⟨label, member, rfl⟩ := started index thread found
    rw [Thread.settle_label]
    exact Thread.settle_verified (verified label member)

theorem System.start_verified {program : Label → Program Statement Response Error Value}
    {shared : Shared} {session : Session} {labels : List Label}
    (valid : discipline.invariant shared) (sound : discipline.sound session shared)
    (compatible : ∀ left right, left = session ∨ left = semantics.close session →
      right = session ∨ right = semantics.close session → discipline.compatible left right)
    (verified : ∀ label ∈ labels, (program label).Verified discipline guard (demands label)
      (fun value session _ => ensures label (.ok value) (semantics.close session))
      (fun error session => ensures label (.error error) (semantics.close session))
      session shared) :
    System.Verified discipline guard demands ensures
      (System.start semantics program shared session labels) :=
  (System.start_assisted valid sound compatible verified).verified

/-- Replacing one thread keeps the invariant when the new thread fits in and the
others can rely on the change of the shared state. -/
private theorem System.Assisted.replace
    (assisted : System.Assisted discipline demands ensures guards system)
    {moved : Thread Label Statement Response Error Session Value} {shared : Shared}
    (valid : discipline.invariant shared)
    (sound : discipline.sound moved.session shared)
    (thread : moved.Verified discipline (guards moved.label) demands ensures shared)
    (fits : ∀ other ∈ system.others index, discipline.compatible moved.session other ∧
      discipline.rely other system.shared shared) :
    System.Assisted discipline demands ensures guards
      ⟨shared, system.threads.set index moved⟩ where
  valid := valid
  sound := by
    intro position other found
    rcases System.step_threads found with ⟨_, rfl⟩ | ⟨different, found⟩
    · exact sound
    · exact discipline.sound_stable _ _ _ (assisted.sound _ _ found)
        (fits _ (System.mem_others.mpr ⟨position, other, different, found, rfl⟩)).2
  compatible := by
    intro left right first second different foundFirst foundSecond
    rcases System.step_threads foundFirst with ⟨rfl, rfl⟩ | ⟨apart, oldFirst⟩
    · rcases System.step_threads foundSecond with ⟨rfl, _⟩ | ⟨apart, oldSecond⟩
      · exact absurd rfl different
      · exact (fits _ (System.mem_others.mpr ⟨right, second, apart, oldSecond, rfl⟩)).1
    · rcases System.step_threads foundSecond with ⟨rfl, rfl⟩ | ⟨_, oldSecond⟩
      · exact discipline.compatible_symm _ _
          (fits _ (System.mem_others.mpr ⟨left, first, apart, oldFirst, rfl⟩)).1
      · exact assisted.compatible _ _ _ _ different oldFirst oldSecond
  threads := by
    intro position other found
    rcases System.step_threads found with ⟨_, rfl⟩ | ⟨different, found⟩
    · exact thread
    · exact (assisted.threads _ _ found).stable
        (fits _ (System.mem_others.mpr ⟨position, other, different, found, rfl⟩)).2

/-- A step whose call meets the assumptions of its thread keeps the invariant of the
whole system. -/
theorem System.Assisted.step
    (assisted : System.Assisted discipline demands ensures guards system)
    (discharged : ∀ label statement next session,
      system.threads[index]? = some ⟨label, .call statement next, session⟩ →
      guards label answer (system.others index) system.shared session statement)
    (stepped : system.step semantics index answer = some after) :
    System.Assisted discipline demands ensures guards after := by
  obtain ⟨label, statement, next, session, found, outcome⟩ := System.step_cases stepped
  have sound := assisted.sound _ _ found
  have apart : ∀ other ∈ system.others index,
      discipline.compatible session other ∧ discipline.sound other system.shared := by
    intro other member
    obtain ⟨position, thread, different, foundOther, rfl⟩ := System.mem_others.mp member
    exact ⟨assisted.compatible _ _ _ _ (Ne.symm different) found foundOther,
      assisted.sound _ _ foundOther⟩
  obtain ⟨earlier, relied, program⟩ := assisted.threads _ _ found
  obtain ⟨_, answered⟩ := program system.shared relied assisted.valid sound
  have permitted := answered answer (system.others index) (discharged _ _ _ _ found)
  rcases outcome with ⟨error, raised, rfl⟩ | ⟨response, shared, updated, executed, rfl⟩
  · refine assisted.replace assisted.valid (discipline.close_sound _ _ sound)
      (permitted.1 error raised) ?_
    intro other member
    exact ⟨discipline.close_compatible _ _ (apart other member).1,
      discipline.rely_refl _ _⟩
  · obtain ⟨validAfter, soundAfter, fits⟩ := discipline.execute_done _ _ _ _ _ _ _ _ executed
      assisted.valid sound apart
    have remaining := permitted.2 response shared updated executed validAfter soundAfter
    refine assisted.replace validAfter
      (Thread.settle_session (fun session => discipline.sound session shared)
        soundAfter (discipline.close_sound _ _ soundAfter)) ?_ ?_
    · rw [Thread.settle_label]
      exact Thread.settle_verified remaining
    intro other member
    refine ⟨?_, (fits other member).2⟩
    exact Thread.settle_session (fun session => discipline.compatible session other)
      (fits other member).1 (discipline.close_compatible _ _ (fits other member).1)

theorem System.Verified.step
    (verified : System.Verified discipline guard demands ensures system)
    (allowed : system.allows guard index answer)
    (stepped : system.step semantics index answer = some after) :
    System.Verified discipline guard demands ensures after :=
  (verified.assisted.step
    (fun _ statement next _ found => allowed _ statement next found rfl) stepped).verified

/-- The assumption rule: assisted threads stay assisted when their assumptions hold
at every call that a guarded run makes. -/
theorem System.Assisted.reachable
    (initially : System.Assisted discipline demands ensures guards start)
    (discharged : ∀ system (index : Nat) answer label statement next session,
      Reachable semantics guard start system →
      system.threads[index]? = some ⟨label, .call statement next, session⟩ →
      guard answer (System.others system index) system.shared session statement →
      guards label answer (System.others system index) system.shared session statement)
    (reached : Reachable semantics guard start system) :
    System.Assisted discipline demands ensures guards system := by
  induction reached with
  | refl => exact initially
  | step earlier allowed stepped ih =>
      apply ih.step _ stepped
      intro label statement next session found
      exact discharged _ _ _ _ _ _ _ earlier found (allowed _ statement next found rfl)

/-- The interleaving rule: verified threads stay verified in every reachable state. -/
theorem System.Verified.reachable
    (initially : System.Verified discipline guard demands ensures start)
    (reached : Reachable semantics guard start system) :
    System.Verified discipline guard demands ensures system := by
  induction reached with
  | refl => exact initially
  | step _ allowed stepped ih => exact ih.step allowed stepped

theorem System.Verified.requires
    (verified : System.Verified discipline guard demands ensures system)
    {label : Label} {statement : Statement}
    {next : Response statement → Program Statement Response Error Value} {session : Session}
    (found : system.threads[index]? = some ⟨label, .call statement next, session⟩) :
    demands label statement session system.shared := by
  obtain ⟨earlier, relied, program⟩ := verified.threads _ _ found
  exact (program system.shared relied verified.valid
    (verified.sound _ _ found)).1

variable (discipline guard demands ensures) in
/-- A verified system whose thread `index` is about to make an allowed call. -/
structure System.Turn (system : System Label Statement Response Error Shared Session Value)
    (index : Nat) (answer : Answer) (label : Label) (statement : Statement)
    (next : Response statement → Program Statement Response Error Value)
    (session : Session) : Prop where
  verified : System.Verified discipline guard demands ensures system
  found : system.threads[index]? = some ⟨label, .call statement next, session⟩
  allowed : guard answer (system.others index) system.shared session statement
  required : demands label statement session system.shared

/-- The invariant rule: next to verified threads, a property of the system only has
to survive calls that meet their requirement. -/
theorem System.Verified.invariant
    (property : System Label Statement Response Error Shared Session Value → Prop)
    (initially : System.Verified discipline guard demands ensures start)
    (holds : property start)
    (raised : ∀ system index answer label statement next session error,
      System.Turn discipline guard demands ensures system index answer label statement next session →
      property system →
      semantics.execute statement answer (system.others index) system.shared session =
        .raise error →
      System.Verified discipline guard demands ensures ⟨system.shared,
        system.threads.set index ⟨label, .raise error, semantics.close session⟩⟩ →
      property ⟨system.shared,
        system.threads.set index ⟨label, .raise error, semantics.close session⟩⟩)
    (answered : ∀ system index answer label statement next session response shared updated,
      System.Turn discipline guard demands ensures system index answer label statement next session →
      property system →
      semantics.execute statement answer (system.others index) system.shared session =
        .done response shared updated →
      System.Verified discipline guard demands ensures ⟨shared,
        system.threads.set index (Thread.settle semantics ⟨label, next response, updated⟩)⟩ →
      property ⟨shared,
        system.threads.set index (Thread.settle semantics ⟨label, next response, updated⟩)⟩)
    (reached : Reachable semantics guard start system) :
    System.Verified discipline guard demands ensures system ∧ property system := by
  induction reached with
  | refl => exact ⟨initially, holds⟩
  | @step before after index answer reached allowed stepped ih =>
      obtain ⟨verified, sofar⟩ := ih
      have later := verified.step allowed stepped
      obtain ⟨label, statement, next, session, found, outcome⟩ := System.step_cases stepped
      have turn : System.Turn discipline guard demands ensures before index answer label
          statement next session :=
        ⟨verified, found, allowed _ statement next found rfl, verified.requires found⟩
      rcases outcome with ⟨error, failed, rfl⟩ | ⟨response, shared, updated, executed, rfl⟩
      · exact ⟨later, raised _ _ _ _ _ _ _ _ turn sofar failed later⟩
      · exact ⟨later, answered _ _ _ _ _ _ _ _ _ _ turn sofar executed later⟩

end Threads

end InventoryManagement.Interleaving
