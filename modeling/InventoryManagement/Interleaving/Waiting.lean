import InventoryManagement.Interleaving.System
import Mathlib.Data.Set.Finite.Lattice
import Mathlib.Logic.Relation
import Mathlib.Order.WellFounded

/-! Waits-for relations between threads: keys that are awaited in a fixed order make
the relation acyclic, and an acyclic relation leaves some thread ready. -/

set_option autoImplicit false

namespace InventoryManagement.Interleaving

section Order

variable {Node Key : Type} {edge : Node → Node → Prop}

theorem chain_ascends {awaits : Node → Key → Prop} {before : Key → Key → Prop} [IsTrans Key before]
    (waiting : ∀ left right, edge left right → ∃ key, awaits left key)
    (ascending : ∀ left right key next, edge left right → awaits left key → awaits right next →
      before key next)
    {first last : Node} (chain : Relation.TransGen edge first last) {key next : Key}
    (awaited : awaits first key) (awaitedLast : awaits last next) : before key next := by
  induction chain generalizing next with
  | single here => exact ascending _ _ _ _ here awaited awaitedLast
  | tail _ here ih =>
      obtain ⟨middle, awaitedMiddle⟩ := waiting _ _ here
      exact IsTrans.trans _ _ _ (ih awaitedMiddle) (ascending _ _ _ _ here awaitedMiddle awaitedLast)

theorem acyclic_of_ascending (awaits : Node → Key → Prop) (before : Key → Key → Prop)
    [IsTrans Key before] [Std.Irrefl before]
    (waiting : ∀ left right, edge left right → ∃ key, awaits left key)
    (ascending : ∀ left right key next, edge left right → awaits left key → awaits right next →
      before key next)
    (node : Node) : ¬ Relation.TransGen edge node node := by
  intro cycle
  obtain ⟨other, here, _⟩ := Relation.TransGen.head'_iff.mp cycle
  obtain ⟨key, awaited⟩ := waiting _ _ here
  exact irrefl key (chain_ascends waiting ascending cycle awaited awaited)

/-- Among finitely many nodes of an acyclic relation one has no edge to the others. -/
theorem exists_last_of_acyclic (edge : Node → Node → Prop) [Finite Node] [Nonempty Node]
    (acyclic : ∀ node, ¬ Relation.TransGen edge node node) :
    ∃ node, ∀ other, ¬ edge node other := by
  have irreflexive : Std.Irrefl (fun later earlier => Relation.TransGen edge earlier later) :=
    ⟨acyclic⟩
  have transitive : IsTrans Node (fun later earlier => Relation.TransGen edge earlier later) :=
    ⟨fun _ _ _ late early => early.trans late⟩
  have ends := Finite.wellFounded_of_trans_of_irrefl
    (fun later earlier : Node => Relation.TransGen edge earlier later)
  obtain ⟨node, _, last⟩ := ends.has_min Set.univ Set.univ_nonempty
  exact ⟨node, fun other here => last other trivial (.single here)⟩

end Order

variable {Label Statement : Type} {Response : Statement → Type}
variable {Error Answer Shared Session Value : Type}
variable {semantics : Semantics Statement Response Error Answer Shared Session}
variable {system : System Label Statement Response Error Shared Session Value}

/-- The positions of the threads whose programs have not ended. -/
def System.Unfinished (system : System Label Statement Response Error Shared Session Value)
    (index : Nat) : Prop :=
  ∃ thread, system.threads[index]? = some thread ∧ thread.finished = false

theorem Thread.unfinished_iff {thread : Thread Label Statement Response Error Session Value} :
    thread.finished = false ↔ ∃ label statement next session,
      thread = ⟨label, .call statement next, session⟩ := by
  obtain ⟨label, program, session⟩ := thread
  cases program <;> simp [Thread.finished]

/-- When every thread that has to wait waits for an unfinished one, and the relation is
acyclic, some unfinished thread can make its call, whatever it is answered. -/
theorem System.ready_of_acyclic {waitsFor : Nat → Nat → Prop}
    (acyclic : ∀ index, ¬ Relation.TransGen waitsFor index index)
    (blocked : ∀ (index : Nat) label statement next session answer,
      system.threads[index]? = some ⟨label, .call statement next, session⟩ →
      semantics.execute statement answer (system.others index) system.shared session = .wait →
      ∃ other, waitsFor index other ∧ system.Unfinished other)
    (unfinished : ∃ index, system.Unfinished index) :
    ∃ index, system.Unfinished index ∧
      ∀ answer, ∃ after, system.step semantics index answer = some after := by
  have finite : Finite { index // system.Unfinished index } := by
    apply Set.Finite.subset (Set.finite_lt_nat system.threads.length)
    intro index running
    obtain ⟨thread, found, _⟩ := running
    exact (List.getElem?_eq_some_iff.mp found).1
  have nonempty : Nonempty { index // system.Unfinished index } := by
    obtain ⟨index, running⟩ := unfinished
    exact ⟨index, running⟩
  obtain ⟨⟨index, running⟩, last⟩ := exists_last_of_acyclic
    (fun left right : { index // system.Unfinished index } => waitsFor left right) (by
      intro node cycle
      exact acyclic node (cycle.lift Subtype.val (fun _ _ here => here)))
  refine ⟨index, running, fun answer => ?_⟩
  obtain ⟨thread, found, going⟩ := running
  obtain ⟨label, statement, next, session, rfl⟩ := Thread.unfinished_iff.mp going
  apply System.step_of_answered found
  intro waits
  obtain ⟨other, here, alive⟩ := blocked _ _ _ _ _ _ found waits
  exact last ⟨other, alive⟩ here

end InventoryManagement.Interleaving
