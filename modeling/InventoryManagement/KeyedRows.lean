import Mathlib.Data.List.Nodup

/-! Tables as lists of rows with a primary key and a natural key, both unique. -/

set_option autoImplicit false

namespace InventoryManagement.KeyedRows

variable {Row Id Key : Type} {id : Row → Id} {key : Row → Key}

/-- Rows with unique keys: a condition on the key selects what a search finds. -/
theorem filter_eq_find [DecidableEq Key] {rows : List Row} (unique : (rows.map key).Nodup)
    (value : Key) : rows.filter (fun row => key row = value) =
      (rows.find? (fun row => key row = value)).toList := by
  induction rows with
  | nil => rfl
  | cons row rest ih =>
      obtain ⟨fresh, unique⟩ := List.nodup_cons.mp unique
      by_cases here : key row = value
      · have absent : rest.filter (fun other => key other = value) = [] := by
          rw [List.filter_eq_nil_iff]
          intro other member same
          apply fresh
          have equal : key other = key row := by simpa [here] using same
          exact equal ▸ List.mem_map_of_mem member
        simp [here, absent]
      · simpa [here] using ih unique

theorem find_of_mem [DecidableEq Key] {rows : List Row} {row : Row} (unique : (rows.map key).Nodup)
    (member : row ∈ rows) : rows.find? (fun other => key other = key row) = some row := by
  have included : row ∈ rows.filter (fun other => key other = key row) := by
    simp [member]
  rw [filter_eq_find unique] at included
  simpa using included

structure Unique (id : Row → Id) (key : Row → Key) (rows : List Row) : Prop where
  ids : (rows.map id).Nodup
  keys : (rows.map key).Nodup

variable {rows : List Row} {row : Row}

theorem Unique.eq_of_id (unique : Unique id key rows) {left right : Row} (stored : left ∈ rows)
    (storedToo : right ∈ rows) (same : id left = id right) : left = right :=
  List.inj_on_of_nodup_map unique.ids stored storedToo same

theorem Unique.append (unique : Unique id key rows) (newId : ∀ other ∈ rows, id other ≠ id row)
    (newKey : ∀ other ∈ rows, key other ≠ key row) : Unique id key (rows ++ [row]) where
  ids := by
    rw [List.map_append]
    refine unique.ids.append (List.nodup_singleton _) ?_
    intro value old added
    obtain ⟨other, stored, rfl⟩ := List.mem_map.mp old
    exact newId other stored (List.mem_singleton.mp added)
  keys := by
    rw [List.map_append]
    refine unique.keys.append (List.nodup_singleton _) ?_
    intro value old added
    obtain ⟨other, stored, rfl⟩ := List.mem_map.mp old
    exact newKey other stored (List.mem_singleton.mp added)

theorem Unique.filter_key [DecidableEq Key] (unique : Unique id key rows) (value : Key) :
    (rows.filter (fun row => key row = value)).length ≤ 1 := by
  by_contra several
  have nodup := unique.keys.of_map.filter (fun row => decide (key row = value))
  match found : rows.filter (fun row => decide (key row = value)), several, nodup with
  | first :: second :: _, _, nodup =>
      have firstStored : first ∈ rows.filter (fun row => decide (key row = value)) := by
        rw [found]
        exact List.mem_cons_self
      have secondStored : second ∈ rows.filter (fun row => decide (key row = value)) := by
        rw [found]
        exact List.mem_cons_of_mem _ List.mem_cons_self
      simp only [List.mem_filter, decide_eq_true_eq] at firstStored secondStored
      have same := List.inj_on_of_nodup_map unique.keys firstStored.1 secondStored.1
        (firstStored.2.trans secondStored.2.symm)
      rw [same] at nodup
      simp at nodup
  | [], several, _ => simp at several
  | [_], several, _ => simp at several

section Changes

variable [DecidableEq Id] {target : Id} {change : Row → Row}

theorem Unique.find_id (unique : Unique id key rows) (stored : row ∈ rows) :
    rows.find? (fun other => id other = id row) = some row := by
  cases found : rows.find? (fun other => id other = id row) with
  | none =>
      have absent := List.find?_eq_none.mp found row stored
      simp at absent
  | some other =>
      have same : id other = id row := by simpa using List.find?_some found
      rw [unique.eq_of_id (List.mem_of_find?_eq_some found) stored same]

def modify (id : Row → Id) (target : Id) (change : Row → Row) (rows : List Row) : List Row :=
  rows.map (fun row => if id row = target then change row else row)

theorem mem_modify : row ∈ modify id target change rows ↔
    ∃ old ∈ rows, (if id old = target then change old else old) = row := List.mem_map

/-- Only the row with the primary key is changed. -/
theorem modify_congr {other : Row → Row}
    (same : ∀ row ∈ rows, id row = target → change row = other row) :
    modify id target change rows = modify id target other rows := by
  apply List.map_congr_left
  intro row stored
  by_cases here : id row = target
  · rw [if_pos here, if_pos here, same row stored here]
  · rw [if_neg here, if_neg here]

theorem modify_same (same : ∀ row ∈ rows, id row = target → change row = row) :
    modify id target change rows = rows := by
  rw [modify_congr same, modify]
  simp

theorem find_modify (named : ∀ row, id row = target → id (change row) = target)
    (found : rows.find? (fun row => id row = target) = some row) :
    (modify id target change rows).find? (fun row => id row = target) = some (change row) := by
  have here : id row = target := by simpa using List.find?_some found
  have same : (fun row => decide (id row = target)) ∘
      (fun row => if id row = target then change row else row) =
        fun row => decide (id row = target) := by
    funext other
    by_cases target : id other = target <;> simp [target, named]
  rw [modify, List.find?_map, same, found, Option.map_some, if_pos here]

theorem map_id_modify (keeps : ∀ row, id (change row) = id row) :
    (modify id target change rows).map id = rows.map id := by
  rw [modify, List.map_map]
  apply List.map_congr_left
  intro row _
  by_cases here : id row = target <;> simp [here, keeps]

/-- A changed row keeps the natural keys unique when no other row has its new one. -/
theorem Unique.modify (unique : Unique id key rows) (keeps : ∀ row, id (change row) = id row)
    (newKey : ∀ row ∈ rows, id row = target → ∀ other ∈ rows, id other ≠ target →
      key other ≠ key (change row)) : Unique id key (modify id target change rows) where
  ids := by
    rw [map_id_modify keeps]
    exact unique.ids
  keys := by
    rw [KeyedRows.modify, List.map_map]
    apply List.Nodup.map_on
    · intro left stored right storedToo same
      simp only [Function.comp_apply] at same
      by_cases leftHere : id left = target
      · by_cases rightHere : id right = target
        · exact unique.eq_of_id stored storedToo (leftHere.trans rightHere.symm)
        · rw [if_pos leftHere, if_neg rightHere] at same
          exact absurd same.symm (newKey left stored leftHere right storedToo rightHere)
      · by_cases rightHere : id right = target
        · rw [if_neg leftHere, if_pos rightHere] at same
          exact absurd same (newKey right storedToo rightHere left stored leftHere)
        · rw [if_neg leftHere, if_neg rightHere] at same
          exact List.inj_on_of_nodup_map unique.keys stored storedToo same
    · exact unique.ids.of_map

end Changes

end InventoryManagement.KeyedRows
