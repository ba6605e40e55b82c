import Mathlib.Data.List.Dedup
import Mathlib.Algebra.BigOperators.Group.List.Basic
import Mathlib.Algebra.Ring.Int.Defs
import Mathlib.Algebra.Ring.Nat
import Mathlib.Order.Lattice

/-! The part of SQL the queries use: conditions with NULL, left joins, groups and
counts, pages, over lists of rows. -/

set_option autoImplicit false

namespace InventoryManagement.Sql

variable {Value Key Row Left Right : Type}

/-- An operator that is NULL when one of its operands is. -/
def strict {Result : Type} (operator : Value → Value → Result) (left right : Option Value) :
    Option Result :=
  match left, right with
  | some left, some right => some (operator left right)
  | _, _ => none

def le (left right : Option Int) : Option Bool := strict (fun left right => decide (left ≤ right)) left right

def eq (left right : Option Int) : Option Bool := strict (fun left right => decide (left = right)) left right

/-- A true operand decides, whatever the other one is. -/
def or : Option Bool → Option Bool → Option Bool
  | some true, _ => some true
  | _, some true => some true
  | some false, some false => some false
  | _, _ => none

/-- `WHERE` and `CASE WHEN` take a row only if the condition is true, not NULL. -/
def isTrue (condition : Option Bool) : Bool := condition.getD false

def coalesce (value : Option Value) (default : Value) : Option Value := some (value.getD default)

/-- `CASE WHEN condition THEN 1 END`. -/
def caseOne (condition : Option Bool) : Option Nat := if isTrue condition then some 1 else none

/-- `COUNT(expression)` counts the rows on which it is not NULL. -/
def count (expression : Row → Option Value) (rows : List Row) : Nat :=
  rows.countP (fun row => (expression row).isSome)

def sum (expression : Row → Option Int) (rows : List Row) : Option Int :=
  match rows.filterMap expression with
  | [] => none
  | values => some values.sum

/-- `LEFT OUTER JOIN`: a left row without a match is kept next to NULLs. -/
def leftJoin (left : List Left) (right : List Right) (on : Left → Right → Bool) :
    List (Left × Option Right) :=
  left.flatMap (fun row =>
    match right.filter (on row) with
    | [] => [(row, none)]
    | matching => matching.map (fun other => (row, some other)))

def groupBy [DecidableEq Key] (key : Row → Key) (rows : List Row) : List (Key × List Row) :=
  (rows.map key).dedup.map (fun value => (value, rows.filter (fun row => key row = value)))

/-- What the database may put the rows in: any order that the `ORDER BY` clause allows. -/
structure Order (Row : Type) (clause : Row → Row → Prop) where
  arrange : List Row → List Row
  perm : ∀ rows, (arrange rows).Perm rows
  sorted : ∀ rows, (arrange rows).Pairwise clause

/-- No `ORDER BY`. -/
def unordered (_ _ : Row) : Prop := True

/-- `ORDER BY key DESC`. -/
def descending [LE Key] (key : Row → Key) (first second : Row) : Prop := key second ≤ key first

def Order.stored (Row : Type) : Order Row unordered where
  arrange := id
  perm := fun _ => .refl _
  sorted := fun _ => List.pairwise_of_forall (fun _ _ => True.intro)

/-- Rows with one key stay as they are stored. -/
def Order.byKey [LinearOrder Key] (key : Row → Key) : Order Row (descending key) where
  arrange := fun rows => rows.mergeSort (fun first second => decide (key second ≤ key first))
  perm := fun rows => List.mergeSort_perm rows _
  sorted := by
    intro rows
    let le := fun first second : Row => decide (key second ≤ key first)
    have trans : ∀ first second third, le first second → le second third → le first third := by
      intro first second third above below
      exact decide_eq_true (le_trans (of_decide_eq_true below) (of_decide_eq_true above))
    have total : ∀ first second, le first second || le second first := by
      intro first second
      rw [Bool.or_eq_true, decide_eq_true_iff, decide_eq_true_iff]
      exact le_total (key second) (key first)
    exact (List.pairwise_mergeSort trans total rows).imp of_decide_eq_true

/-- `WHERE condition ORDER BY clause OFFSET skip LIMIT limit`. -/
def select {clause : Row → Row → Prop} (order : Order Row clause) (condition : Row → Bool)
    (skip limit : Nat) (rows : List Row) : List Row :=
  ((order.arrange (rows.filter condition)).drop skip).take limit

@[simp] theorem caseOne_isSome (condition : Option Bool) :
    (caseOne condition).isSome = isTrue condition := by
  unfold caseOne
  cases isTrue condition <;> rfl

@[simp] theorem isTrue_or (left right : Option Bool) :
    isTrue (or left right) = (isTrue left || isTrue right) := by
  cases left with
  | none => cases right with
    | none => rfl
    | some right => cases right <;> rfl
  | some left => cases left <;> cases right with
    | none => rfl
    | some right => cases right <;> rfl

/-- The matching rows of the left row, next to NULLs when there are none. -/
def joinedRows (on : Left → Right → Bool) (right : List Right) (row : Left) :
    List (Left × Option Right) :=
  match right.filter (on row) with
  | [] => [(row, none)]
  | matching => matching.map (fun other => (row, some other))

theorem leftJoin_eq (left : List Left) (right : List Right) (on : Left → Right → Bool) :
    leftJoin left right on = left.flatMap (joinedRows on right) := rfl

theorem joinedRows_ne_nil (on : Left → Right → Bool) (right : List Right) (row : Left) :
    joinedRows on right row ≠ [] := by
  unfold joinedRows
  cases right.filter (on row) <;> simp

theorem joinedRows_left {on : Left → Right → Bool} {right : List Right} {row : Left}
    {joined : Left × Option Right} (member : joined ∈ joinedRows on right row) : joined.1 = row := by
  unfold joinedRows at member
  cases matching : right.filter (on row) with
  | nil =>
      rw [matching] at member
      rw [List.mem_singleton.mp member]
  | cons first rest =>
      rw [matching] at member
      obtain ⟨other, _, rfl⟩ := List.mem_map.mp member
      rfl

theorem joinedRows_right {on : Left → Right → Bool} {right : List Right} {row : Left}
    {joined : Left × Option Right} (member : joined ∈ joinedRows on right row) {other : Right}
    (matched : joined.2 = some other) : other ∈ right := by
  unfold joinedRows at member
  cases matching : right.filter (on row) with
  | nil =>
      rw [matching] at member
      rw [List.mem_singleton.mp member] at matched
      cases matched
  | cons first rest =>
      rw [matching] at member
      obtain ⟨partner, listed, rfl⟩ := List.mem_map.mp member
      cases matched
      rw [← matching] at listed
      exact List.mem_of_mem_filter listed

/-- What an aggregate sees of an expression that is NULL on a padded row. -/
theorem filterMap_joinedRows {on : Left → Right → Bool} {right : List Right} {row : Left}
    (expression : Left × Option Right → Option Value) (null : expression (row, none) = none) :
    (joinedRows on right row).filterMap expression =
      (right.filter (on row)).filterMap (fun other => expression (row, some other)) := by
  unfold joinedRows
  cases right.filter (on row) with
  | nil => simp [null]
  | cons first rest => rw [List.filterMap_map]; rfl

theorem count_joinedRows {on : Left → Right → Bool} {right : List Right} {row : Left}
    (expression : Left × Option Right → Option Value) (null : expression (row, none) = none) :
    count expression (joinedRows on right row) =
      (right.filter (on row)).countP (fun other => (expression (row, some other)).isSome) := by
  unfold count joinedRows
  cases right.filter (on row) with
  | nil => simp [null]
  | cons first rest => rw [List.countP_map]; rfl

/-- `COALESCE(SUM(expression), 0)`. -/
theorem sum_getD (expression : Row → Option Int) (rows : List Row) :
    (sum expression rows).getD 0 = (rows.filterMap expression).sum := by
  unfold sum
  cases rows.filterMap expression <;> rfl

/-- Pages hold nothing but the rows that meet the condition, and each of them is on one. -/
theorem mem_select (rows : List Row) (condition : Row → Bool) {row : Row} :
    (∃ (order : Order Row unordered) (skip limit : Nat),
        row ∈ select order condition skip limit rows) ↔ row ∈ rows ∧ condition row := by
  rw [← List.mem_filter]
  constructor
  · rintro ⟨order, skip, limit, listed⟩
    exact (order.perm _).mem_iff.mp (List.mem_of_mem_drop (List.mem_of_mem_take listed))
  · intro listed
    refine ⟨Order.stored Row, 0, (rows.filter condition).length, ?_⟩
    have all : select (Order.stored Row) condition 0 (rows.filter condition).length rows =
        rows.filter condition := List.take_of_length_le (Nat.le_refl _)
    rwa [all]

/-- The database is free to pick any order of one table that the clause allows. -/
theorem Order.exists_arrange {clause : Row → Row → Prop} (other : Order Row clause)
    {rows listing : List Row} (perm : listing.Perm rows) (sorted : listing.Pairwise clause) :
    ∃ order : Order Row clause, order.arrange rows = listing := by
  classical
  refine ⟨⟨fun table => if table = rows then listing else other.arrange table, ?_, ?_⟩, if_pos rfl⟩
  · intro table
    split
    · rename_i same
      rwa [same]
    · exact other.perm table
  · intro table
    split
    · exact sorted
    · exact other.sorted table

/-- So is it query by query. -/
theorem Order.exists_arrangements {clause : Row → Row → Prop} (other : Order Row clause)
    {rows : List Row} {listing : Nat → List Row} (perm : ∀ skip, (listing skip).Perm rows)
    (sorted : ∀ skip, (listing skip).Pairwise clause) :
    ∃ orders : Nat → Order Row clause, (fun skip => (orders skip).arrange rows) = listing := by
  choose orders arranged using fun skip => other.exists_arrange (perm skip) (sorted skip)
  exact ⟨orders, funext arranged⟩

section Groups

variable [DecidableEq Key] {left : List Left} {block : Left → List Row} {key : Row → Key}
variable {leftKey : Left → Key}

theorem dedup_flatMap (unique : (left.map leftKey).Nodup) (nonempty : ∀ l ∈ left, block l ≠ [])
    (keyed : ∀ l ∈ left, ∀ row ∈ block l, key row = leftKey l) :
    ((left.flatMap block).map key).dedup = left.map leftKey := by
  induction left with
  | nil => rfl
  | cons head rest ih =>
      obtain ⟨fresh, unique⟩ := List.nodup_cons.mp unique
      have first : (block head).map key = List.replicate (block head).length (leftKey head) := by
        rw [List.map_congr_left (keyed head List.mem_cons_self), List.map_const']
      have others := ih unique (fun l member => nonempty l (List.mem_cons_of_mem _ member))
        (fun l member => keyed l (List.mem_cons_of_mem _ member))
      have apart : List.Disjoint (List.replicate (block head).length (leftKey head))
          ((rest.flatMap block).map key) := by
        intro value here there
        rw [List.eq_of_mem_replicate here, ← List.mem_dedup, others] at there
        exact fresh there
      have some : (block head).length ≠ 0 := by
        rw [ne_eq, List.length_eq_zero_iff]
        exact nonempty head List.mem_cons_self
      rw [List.flatMap_cons, List.map_append, first, apart.dedup_append, others,
        List.replicate_dedup some]
      rfl

theorem filter_flatMap_key (unique : (left.map leftKey).Nodup)
    (keyed : ∀ l ∈ left, ∀ row ∈ block l, key row = leftKey l) {l : Left} (member : l ∈ left) :
    (left.flatMap block).filter (fun row => key row = leftKey l) = block l := by
  induction left with
  | nil => cases member
  | cons head rest ih =>
      obtain ⟨fresh, unique⟩ := List.nodup_cons.mp unique
      have keyedRest : ∀ l ∈ rest, ∀ row ∈ block l, key row = leftKey l :=
        fun l member => keyed l (List.mem_cons_of_mem _ member)
      rw [List.flatMap_cons, List.filter_append]
      rcases List.mem_cons.mp member with rfl | later
      · have mine : (block l).filter (fun row => key row = leftKey l) = block l :=
          List.filter_eq_self.mpr (fun row here => by simp [keyed l List.mem_cons_self row here])
        have none : (rest.flatMap block).filter (fun row => key row = leftKey l) = [] := by
          rw [List.filter_eq_nil_iff]
          intro row here
          obtain ⟨other, listed, here⟩ := List.mem_flatMap.mp here
          have differ : leftKey other ≠ leftKey l := fun same =>
            fresh (same ▸ List.mem_map_of_mem listed)
          simp [keyedRest other listed row here, differ]
        rw [mine, none, List.append_nil]
      · have differ : leftKey head ≠ leftKey l := fun same =>
          fresh (same ▸ List.mem_map_of_mem later)
        have none : (block head).filter (fun row => key row = leftKey l) = [] := by
          rw [List.filter_eq_nil_iff]
          intro row here
          simp [keyed head List.mem_cons_self row here, differ]
        rw [none, List.nil_append, ih unique keyedRest later]

/-- Rows that come in one block for each key are grouped by their blocks. -/
theorem groupBy_flatMap (unique : (left.map leftKey).Nodup) (nonempty : ∀ l ∈ left, block l ≠ [])
    (keyed : ∀ l ∈ left, ∀ row ∈ block l, key row = leftKey l) :
    groupBy key (left.flatMap block) = left.map (fun l => (leftKey l, block l)) := by
  rw [groupBy, dedup_flatMap unique nonempty keyed, List.map_map]
  apply List.map_congr_left
  intro l member
  rw [Function.comp_apply, filter_flatMap_key unique keyed member]

/-- Rows that each refer to one of the keys, taken key by key. -/
theorem partition_perm {right : List Right} {rightKey : Right → Key}
    (unique : (left.map leftKey).Nodup) (refers : ∀ row ∈ right, rightKey row ∈ left.map leftKey) :
    (left.flatMap (fun l => right.filter (fun row => rightKey row = leftKey l))).Perm right := by
  induction left generalizing right with
  | nil =>
      cases right with
      | nil => exact .refl _
      | cons row rest => cases refers row List.mem_cons_self
  | cons head rest ih =>
      obtain ⟨fresh, unique⟩ := List.nodup_cons.mp unique
      let others := right.filter (fun row => !decide (rightKey row = leftKey head))
      have elsewhere : ∀ l ∈ rest, right.filter (fun row => rightKey row = leftKey l) =
          others.filter (fun row => rightKey row = leftKey l) := by
        intro l listed
        rw [List.filter_filter]
        apply List.filter_congr
        intro row _
        by_cases same : rightKey row = leftKey l
        · have differ : leftKey l ≠ leftKey head := fun equal =>
            fresh (equal ▸ List.mem_map_of_mem listed)
          simp [same, differ]
        · simp [same]
      have covered : ∀ row ∈ others, rightKey row ∈ rest.map leftKey := by
        intro row member
        obtain ⟨listed, differ⟩ := List.mem_filter.mp member
        rcases List.mem_cons.mp (refers row listed) with here | there
        · simp [here] at differ
        · exact there
      rw [List.flatMap_cons, List.flatMap_congr elsewhere]
      exact ((ih unique covered).append_left _).trans (List.filter_append_perm _ right)

end Groups

end InventoryManagement.Sql
