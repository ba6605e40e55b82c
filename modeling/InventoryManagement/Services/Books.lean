import InventoryManagement.Services.Ledger
import Mathlib.Algebra.BigOperators.Group.List.Basic

/-! The books of an interleaving that starts from any stock: what has changed since
the start is what the calls have recorded. -/

set_option autoImplicit false

namespace InventoryManagement

open Interleaving (Guard Program Reachable System Thread flatMap_set_perm)

/-- What the calls have recorded so far. -/
def Application.recorded (system : Application) : List Movement :=
  system.threads.flatMap (fun thread => thread.session.recorded)

/-- What the movements add up to for a pair. -/
def changes (movements : List Movement) (pair : Pair) : Int :=
  (movements.map (fun movement => movement.change pair)).sum

@[simp] theorem changes_nil (pair : Pair) : changes [] pair = 0 := rfl

@[simp] theorem changes_singleton (movement : Movement) (pair : Pair) :
    changes [movement] pair = movement.change pair := by
  simp [changes]

theorem changes_append (movements more : List Movement) (pair : Pair) :
    changes (movements ++ more) pair = changes movements pair + changes more pair := by
  simp [changes]

theorem changes_perm {movements others : List Movement} (perm : movements.Perm others)
    (pair : Pair) : changes movements pair = changes others pair :=
  (perm.map _).sum_eq

theorem World.Valid.quantity_fits {world : World} (valid : world.Valid) (pair : Pair) :
    Integer.fits (world.tables.quantity pair) = true := by
  rcases valid.inventoriesOf_cases pair with none | ⟨row, one⟩
  · simp only [Tables.quantity, none]
    rfl
  · have stored : row ∈ world.tables.inventories :=
      (Tables.mem_inventoriesOf.mp (by rw [one]; simp)).1
    simpa [Tables.quantity, one] using (valid.inventories_fit row stored).quantity

/-- How the stock and its books have changed from `before` on. -/
structure Grown (before after : World) (added : List Movement) : Prop where
  quantity : ∀ pair,
    after.tables.quantity pair = before.tables.quantity pair + changes added pair
  nonnegative : ∀ pair, 0 ≤ before.tables.quantity pair → 0 ≤ after.tables.quantity pair
  rows : ∀ pair, before.tables.inventoriesOf pair ≠ [] → after.tables.inventoriesOf pair ≠ []
  products : after.tables.products = before.tables.products
  warehouses : after.tables.warehouses = before.tables.warehouses

theorem Grown.refl (world : World) : Grown world world [] := by
  constructor <;> simp

theorem Grown.trans {first second third : World} {added more : List Movement}
    (earlier : Grown first second added) (later : Grown second third more) :
    Grown first third (added ++ more) where
  quantity := by
    intro pair
    rw [later.quantity, earlier.quantity, changes_append, Int.add_assoc]
  nonnegative := fun pair stored => later.nonnegative pair (earlier.nonnegative pair stored)
  rows := fun pair stored => later.rows pair (earlier.rows pair stored)
  products := later.products.trans earlier.products
  warehouses := later.warehouses.trans earlier.warehouses

theorem Grown.perm {before after : World} {added others : List Movement}
    (grown : Grown before after added) (perm : added.Perm others) : Grown before after others where
  quantity := fun pair => (grown.quantity pair).trans (by rw [changes_perm perm])
  nonnegative := grown.nonnegative
  rows := grown.rows
  products := grown.products
  warehouses := grown.warehouses

theorem Grown.of_same {before after : World}
    (inventories : after.tables.inventories = before.tables.inventories)
    (products : after.tables.products = before.tables.products)
    (warehouses : after.tables.warehouses = before.tables.warehouses) : Grown before after [] := by
  have same : ∀ pair, after.tables.inventoriesOf pair = before.tables.inventoriesOf pair := by
    intro pair
    rw [Tables.inventoriesOf, inventories, Tables.inventoriesOf]
  constructor
  · intro pair
    simp [Tables.quantity, same]
  · intro pair
    simp [Tables.quantity, same]
  · intro pair
    simp [same]
  · exact products
  · exact warehouses

/-- What one call does to the stock is what it records. -/
theorem respond_grown {settings : Settings} {request : Request} {statement : Statement}
    {answer : Answer} {others : List Session} {world after : World} {session updated : Session}
    {response : statement.Response}
    (executed : respond statement answer others world session = .done response after updated)
    (conduct : Conduct settings request statement session world) (sound : session.Sound world) :
    ∃ added, updated.recorded = session.recorded ++ added ∧ Grown world after added := by
  obtain ⟨products, warehouses⟩ := respond_references executed
  by_cases commits : ∃ dirty, statement = .commit dirty
  · obtain ⟨dirty, rfl⟩ := commits
    simp only [respond, commit] at executed
    split at executed
    · cases executed
    · cases executed
      rcases conduct.commit_cases with movement | unlocked
      · obtain ⟨recorded, movements, quantity⟩ := movement.quantity sound
        refine ⟨[recorded], by simp [movements], ?_, fun pair => (quantity pair).2, ?_, rfl, rfl⟩
        · intro pair
          rw [changes_singleton]
          exact (quantity pair).1
        · intro pair stored
          change (world.tables.commit session dirty).inventoriesOf pair ≠ []
          rw [Tables.inventoriesOf_commit sound]
          cases session.row? pair with
          | none => exact stored
          | some row => exact List.cons_ne_nil _ _
      · refine ⟨[], by simp [unlocked.movements], Grown.of_same ?_ rfl rfl⟩
        exact (unlocked.commit_stock world.tables dirty).1
  · obtain ⟨tables, _, recorded, _⟩ :=
      respond_uncommitted (fun dirty same => commits ⟨dirty, same⟩) executed
    refine ⟨[], by rw [recorded, List.append_nil], Grown.of_same ?_ products warehouses⟩
    rw [tables]

/-- A state whose stock is that of `before` with what the calls have recorded. -/
structure Booked (before : World) (system : Application) : Prop where
  grown : Grown before system.shared system.recorded
  records : ∀ thread ∈ system.threads, thread.label.Records thread.session.recorded

theorem Application.start_labels (settings : Settings) (world : World) (requests : List Request) :
    (Application.start settings world requests).threads.map (·.label) = requests := by
  simp [Application.start, System.start, Function.comp_def]

theorem Application.start_booked (settings : Settings) (world : World) (requests : List Request) :
    Booked world (Application.start settings world requests) where
  grown := by
    have nothing : (Application.start settings world requests).recorded = [] := by
      rw [Application.recorded, List.flatMap_eq_nil_iff]
      intro thread member
      rw [Application.start_session member]
    rw [nothing]
    exact .refl world
  records := by
    intro thread member
    rw [Application.start_session member]
    exact .inl rfl

section Runs

variable {settings : Settings} {world : World} {requests : List Request} {system : Application}

theorem Booked.replace {index : Nat} {label : Request} {program : Transaction Reply}
    {session : Session} {shared : World} {added : List Movement} (booked : Booked world system)
    (found : system.threads[index]? = some ⟨label, program, session⟩)
    {moved : Thread Request Statement Statement.Response Exception Session Reply}
    (same : moved.label = label) (recorded : moved.session.recorded = session.recorded ++ added)
    (records : label.Records moved.session.recorded) (grown : Grown system.shared shared added) :
    Booked world ⟨shared, system.threads.set index moved⟩ where
  grown := by
    have collected := flatMap_set_perm (fun thread => thread.session.recorded) found recorded
    exact (booked.grown.trans grown).perm collected.symm
  records := by
    intro thread member
    rcases List.mem_or_eq_of_mem_set member with old | rfl
    · exact booked.records thread old
    · rw [same]
      exact records

theorem Application.booked (valid : world.Valid) (reached : Reachable environment Guard.unrestricted
    (Application.start settings world requests) system) : Booked world system := by
  refine (System.Verified.invariant (Booked world)
    (Application.start_verified settings permits_unrestricted valid requests)
    (Application.start_booked settings world requests) ?_ ?_ reached).2
  · intro system index answer label statement next session error turn booked _ _
    have records := booked.records _ (List.mem_of_getElem? turn.found)
    exact booked.replace turn.found rfl (List.append_nil _).symm records (.refl _)
  · intro system index answer label statement next session response shared updated turn booked
      executed later
    have answered := execute_done executed
    have sound := turn.verified.sound _ _ turn.found
    obtain ⟨added, recorded, grown⟩ := respond_grown answered turn.required sound
    obtain ⟨_, _, _, _, records, _⟩ := respond_ledger answered turn.required sound later.valid
      (booked.records _ (List.mem_of_getElem? turn.found))
    have settled : (Thread.settle environment ⟨label, next response, updated⟩).session.recorded =
        updated.recorded :=
      congrArg History.recorded settle_history
    apply booked.replace turn.found Thread.settle_label (settled.trans recorded) _ grown
    rw [settled]
    exact records

end Runs

end InventoryManagement
