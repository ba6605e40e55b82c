import InventoryManagement.Services.Conduct

/-! Verification of the services against the assertions of their requests: the
rules for one statement, for sequencing, and for what no statement changes. -/

set_option autoImplicit false

namespace InventoryManagement

open Interleaving (Guard Outcome Program)

variable {Value Result : Type} {settings : Settings} {request : Request}
variable {guard : Guard Statement Answer World Session}
variable {allowed : List Movement → Exception → Prop}
variable {session : Session} {world : World}

theorem permits_unrestricted :
    Permits (Guard.unrestricted : Guard Statement Answer World Session) (fun _ _ => True) :=
  ⟨fun _ _ _ _ _ _ _ => trivial, fun _ _ _ _ _ _ _ _ => trivial⟩

/-- A transaction of a request that keeps to the assertions until it returns. -/
abbrev Conducted (settings : Settings) (request : Request)
    (guard : Guard Statement Answer World Session) (allowed : List Movement → Exception → Prop)
    (returns : Value → Session → World → Prop) (program : Transaction Value)
    (session : Session) (world : World) : Prop :=
  program.Verified databaseDiscipline guard (Conduct settings request) returns
    (Excused settings allowed) session world

theorem conducted_bind {program : Transaction Value} {next : Value → Transaction Result}
    {returns : Result → Session → World → Prop} (middle : Value → Session → World → Prop)
    (first : Conducted settings request guard allowed middle program session world)
    (second : ∀ value session world, middle value session world →
      Conducted settings request guard allowed returns (next value) session world) :
    Conducted settings request guard allowed returns (program.bind next) session world :=
  Program.verified_bind (Program.verified_mono first second)

/-- One statement: the assertion holds at it, and its answers are handled. A
failure of the database is among the allowed errors. -/
theorem conducted_call (permits : Permits guard allowed) {statement : Statement}
    {next : statement.Response → Transaction Value} {returns : Value → Session → World → Prop}
    (calls : ∀ current, session.Rely world current → current.Valid → session.Sound current →
      Conduct settings request statement session current ∧
      ∀ answer others, guard answer others current session statement →
        (∀ error, respond statement answer others current session = .raise error →
          Excused settings allowed error session) ∧
        ∀ response after updated,
          respond statement answer others current session = .done response after updated →
          after.Valid → updated.Sound after →
          Conducted settings request guard allowed returns (next response) updated after) :
    Conducted settings request guard allowed returns (.call statement next) session world := by
  intro current relied valid sound
  obtain ⟨conduct, answered⟩ := calls current relied valid sound
  refine ⟨conduct, fun answer others permitted => ⟨?_, ?_⟩⟩
  · intro error raised
    change execute statement answer others current session = _ at raised
    unfold execute at raised
    split at raised
    · next fails =>
        cases raised
        exact .inr (permits.failing _ _ _ _ _ permitted (Bool.and_eq_true _ _ ▸ fails).2)
    · exact (answered answer others permitted).1 error raised
  · intro response after updated executed validAfter soundAfter
    exact (answered answer others permitted).2 response after updated (execute_done executed)
      validAfter soundAfter

theorem conducted_quiet (permits : Permits guard allowed) {statement : Statement}
    {next : statement.Response → Transaction Value} {returns : Value → Session → World → Prop}
    (conduct : ∀ current, Conduct settings request statement session current)
    (quiet : ∀ answer others current, ∃ response after,
      respond statement answer others current session = .done response after session ∧
        after.tables = current.tables ∧ after.nextId = current.nextId)
    (remaining : ∀ response after, session.Rely world after →
      Conducted settings request guard allowed returns (next response) session after) :
    Conducted settings request guard allowed returns (.call statement next) session world := by
  refine conducted_call permits ?_
  intro current relied valid sound
  refine ⟨conduct current, fun answer others _ => ?_⟩
  obtain ⟨response, after, answered, tables, nextId⟩ := quiet answer others current
  rw [answered]
  refine ⟨fun error raised => (by cases raised), ?_⟩
  intro response after updated executed _ _
  cases executed
  exact remaining response after (relied.trans (relied_of_nextId tables nextId.ge))

/-- A commit changes the stock of a movement, or no stock at all. -/
theorem Conduct.commit_cases {dirty : List (RowId × AlertChange)}
    (conduct : Conduct settings request (.commit dirty) session world) :
    MovementCommit request dirty session world ∨ session.Unlocked := by
  rcases conduct with movement | alert | resolve
  · exact .inl movement
  · exact .inr alert.unlocked
  · exact .inr resolve.clean.toUnlocked

theorem Excused.fresh (history : session.toHistory = {}) (error : Exception) :
    Excused settings allowed error session := by
  obtain ⟨_, _, _, _, _⟩ := session
  cases history
  refine .inl ⟨rfl, rfl, ?_⟩
  intro lookup inventory pending
  cases pending

theorem conducted_references {program : Transaction Value}
    {returns : Value → Session → World → Prop}
    (conducted : Conducted settings request guard allowed returns program session world) :
    Conducted settings request guard allowed
      (fun value updated after => returns value updated after ∧
        after.tables.products = world.tables.products ∧
        after.tables.warehouses = world.tables.warehouses) program session world := by
  suffices generalised : ∀ earlier : World, world.tables.products = earlier.tables.products →
      world.tables.warehouses = earlier.tables.warehouses →
      Conducted settings request guard allowed
        (fun value updated after => returns value updated after ∧
          after.tables.products = earlier.tables.products ∧
          after.tables.warehouses = earlier.tables.warehouses) program session world from
    generalised world rfl rfl
  intro earlier products warehouses
  induction program generalizing session world with
  | ret value => exact ⟨conducted, products, warehouses⟩
  | raise error => exact conducted
  | call statement next ih =>
      intro current relied valid sound
      obtain ⟨conduct, answered⟩ := conducted current relied valid sound
      refine ⟨conduct, fun answer others permitted => ⟨(answered answer others permitted).1, ?_⟩⟩
      intro response after updated executed validAfter soundAfter
      obtain ⟨sameProducts, sameWarehouses⟩ := respond_references (execute_done executed)
      exact ih response
        ((answered answer others permitted).2 response after updated executed validAfter soundAfter)
        (sameProducts.trans (relied.products.trans products))
        (sameWarehouses.trans (relied.warehouses.trans warehouses))

end InventoryManagement
