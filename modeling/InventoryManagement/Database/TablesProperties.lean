import InventoryManagement.Database.Tables
import InventoryManagement.KeyedRows

/-! The constraints the database keeps on its tables, what a session's open
transaction looks like next to them, and the effect of its commit. -/

set_option autoImplicit false

namespace InventoryManagement

structure Inventory.Fits (inventory : Inventory) : Prop where
  quantity : Integer.fits inventory.quantity = true
  lowStockThreshold : ∀ threshold ∈ inventory.lowStockThreshold, Integer.fits threshold = true

/-- Primary keys, unique keys, foreign keys and column ranges. -/
structure World.Valid (world : World) : Prop where
  products_unique : (world.tables.products.map (·.id)).Nodup
  warehouses_unique : (world.tables.warehouses.map (·.id)).Nodup
  inventories_unique : (world.tables.inventories.map Inventory.pair).Nodup
  inventories_refer : ∀ row ∈ world.tables.inventories, world.tables.hasPair row.pair = true
  inventories_fit : ∀ row ∈ world.tables.inventories, row.Fits
  movements_refer : ∀ movement ∈ world.tables.movements, movement.refers world.tables = true
  reasons_sendable : ∀ movement ∈ world.tables.movements,
    movement.reason.all Text.sendable = true
  alerts_unique : (world.tables.alerts.map (·.id)).Nodup
  alerts_fresh : ∀ alert ∈ world.tables.alerts, alert.id < world.nextId
  alerts_refer : ∀ alert ∈ world.tables.alerts, world.tables.hasPair alert.pair = true

/-- An open transaction: each of its rows is the only version of a committed row
or belongs to a pair without one, and its new alerts have unused ids. -/
structure Session.Sound (session : Session) (world : World) : Prop where
  rows_unique : (session.rows.map Inventory.pair).Nodup
  rows_refer : ∀ row ∈ session.rows, world.tables.hasPair row.pair = true
  rows_fit : ∀ row ∈ session.rows, row.Fits
  rows_based : ∀ row ∈ session.rows, row.pair ∉ session.inserted →
    ∃ base, world.tables.inventoriesOf row.pair = [base]
  rows_new : ∀ row ∈ session.rows, row.pair ∈ session.inserted →
    world.tables.inventoriesOf row.pair = []
  inserted_rows : ∀ pair ∈ session.inserted, ∃ row ∈ session.rows, row.pair = pair
  movements_refer : ∀ movement ∈ session.movements, movement.refers world.tables = true
  reasons_sendable : ∀ movement ∈ session.movements, movement.reason.all Text.sendable = true
  alerts_unique : (session.alerts.map (·.id)).Nodup
  alerts_fresh : ∀ alert ∈ session.alerts, alert.id < world.nextId
  alerts_new : ∀ alert ∈ session.alerts, ∀ other ∈ world.tables.alerts, other.id ≠ alert.id
  alerts_refer : ∀ alert ∈ session.alerts, world.tables.hasPair alert.pair = true

@[simp] theorem Tables.mem_inventoriesOf {tables : Tables} {pair : Pair} {row : Inventory} :
    row ∈ tables.inventoriesOf pair ↔ row ∈ tables.inventories ∧ row.pair = pair := by
  simp [Tables.inventoriesOf]

theorem Tables.inventoriesOf_eq_nil {tables : Tables} {pair : Pair} :
    tables.inventoriesOf pair = [] ↔ pair ∉ tables.inventories.map Inventory.pair := by
  simp [Tables.inventoriesOf, List.filter_eq_nil_iff]

theorem Session.row?_some {session : Session} {pair : Pair} {row : Inventory}
    (found : session.row? pair = some row) : row ∈ session.rows ∧ row.pair = pair := by
  have same := List.find?_some found
  exact ⟨List.mem_of_find?_eq_some found, by simpa using same⟩

theorem Session.row?_none {session : Session} {pair : Pair} :
    session.row? pair = none ↔ ∀ row ∈ session.rows, row.pair ≠ pair := by
  simp [Session.row?]

theorem filter_pair_eq_find {rows : List Inventory} (unique : (rows.map Inventory.pair).Nodup)
    (pair : Pair) :
    rows.filter (fun row => row.pair = pair) =
      (rows.find? (fun row => row.pair = pair)).toList :=
  KeyedRows.filter_eq_find unique pair

theorem find_pair_of_mem {rows : List Inventory} {row : Inventory}
    (unique : (rows.map Inventory.pair).Nodup) (member : row ∈ rows) :
    rows.find? (fun other => other.pair = row.pair) = some row :=
  KeyedRows.find_of_mem unique member

/-- The unique constraint: a pair has at most one row. -/
theorem World.Valid.inventoriesOf_cases {world : World} (valid : world.Valid) (pair : Pair) :
    world.tables.inventoriesOf pair = [] ∨ ∃ row, world.tables.inventoriesOf pair = [row] := by
  unfold Tables.inventoriesOf
  rw [filter_pair_eq_find valid.inventories_unique]
  cases world.tables.inventories.find? (fun row => row.pair = pair) with
  | none => exact .inl rfl
  | some row => exact .inr ⟨row, rfl⟩

theorem World.Valid.inventoriesOf_of_mem {world : World} (valid : world.Valid) {row : Inventory}
    (member : row ∈ world.tables.inventories) : world.tables.inventoriesOf row.pair = [row] := by
  have included : row ∈ world.tables.inventoriesOf row.pair := by simp [member]
  rcases valid.inventoriesOf_cases row.pair with none | ⟨other, one⟩
  · simp [none] at included
  · rw [one] at included ⊢
    simp only [List.mem_singleton] at included
    rw [included]

section Commit

variable {tables : Tables} {world : World} {session : Session}
variable {dirty : List (RowId × AlertChange)}

private theorem committed_pair (row : Inventory) :
    ((session.row? row.pair).getD row).pair = row.pair := by
  cases found : session.row? row.pair with
  | none => rfl
  | some version => exact (Session.row?_some found).2

private theorem filter_committed (rows : List Inventory) (pair : Pair) :
    (rows.map (fun row => (session.row? row.pair).getD row)).filter
        (fun row => row.pair = pair) =
      (rows.filter (fun row => row.pair = pair)).map
        (fun row => (session.row? pair).getD row) := by
  induction rows with
  | nil => rfl
  | cons row rest ih =>
      by_cases same : row.pair = pair
      · have kept : ((session.row? pair).getD row).pair = pair := by
          rw [← same]
          exact committed_pair row
        simp [same, ← ih, kept]
      · simp [same, ← ih, committed_pair]

/-- A commit publishes the session's version of every row it holds and leaves
all other pairs alone. -/
theorem Tables.inventoriesOf_commit (sound : session.Sound world) (pair : Pair) :
    (world.tables.commit session dirty).inventoriesOf pair =
      match session.row? pair with
      | some row => [row]
      | none => world.tables.inventoriesOf pair := by
  have split : (world.tables.commit session dirty).inventoriesOf pair =
      (world.tables.inventoriesOf pair).map (fun row => (session.row? pair).getD row) ++
        (session.rows.filter (fun row => row.pair = pair)).filter
          (fun row => row.pair ∈ session.inserted) := by
    simp only [Tables.inventoriesOf, Tables.commit, List.filter_append, filter_committed]
    congr 1
    rw [List.filter_filter, List.filter_filter]
    congr 1
    funext row
    exact Bool.and_comm _ _
  rw [split, filter_pair_eq_find sound.rows_unique]
  change _ ++ List.filter _ (session.row? pair).toList = _
  cases found : session.row? pair with
  | none => simp
  | some row =>
      obtain ⟨member, rfl⟩ := Session.row?_some found
      by_cases created : row.pair ∈ session.inserted
      · simp [sound.rows_new row member created, created]
      · obtain ⟨base, one⟩ := sound.rows_based row member created
        simp [one, created]

theorem applyChanges_id (alert : Alert) : (applyChanges dirty alert).id = alert.id := by
  induction dirty generalizing alert with
  | nil => rfl
  | cons change rest ih =>
      simp only [applyChanges, List.foldl_cons]
      split
      · exact (ih _).trans (AlertChange.apply_id _ _)
      · exact ih alert

theorem applyChanges_pair (alert : Alert) : (applyChanges dirty alert).pair = alert.pair := by
  induction dirty generalizing alert with
  | nil => rfl
  | cons change rest ih =>
      simp only [applyChanges, List.foldl_cons]
      split
      · exact (ih _).trans (AlertChange.apply_pair _ _)
      · exact ih alert

private theorem commit_inventories_unique (valid : world.Valid) (sound : session.Sound world) :
    ((world.tables.commit session dirty).inventories.map Inventory.pair).Nodup := by
  have kept : (world.tables.inventories.map (fun row => (session.row? row.pair).getD row)).map
      Inventory.pair = world.tables.inventories.map Inventory.pair := by
    rw [List.map_map]
    exact List.map_congr_left (fun row _ => committed_pair row)
  simp only [Tables.commit, List.map_append, kept]
  refine List.Nodup.append valid.inventories_unique
    (List.Nodup.sublist (List.filter_sublist.map _) sound.rows_unique) ?_
  intro pair old added
  obtain ⟨row, member, rfl⟩ := List.mem_map.mp added
  obtain ⟨included, created⟩ := List.mem_filter.mp member
  have absent := sound.rows_new row included (by simpa using created)
  exact Tables.inventoriesOf_eq_nil.mp absent old

private theorem mem_commit_inventories {row : Inventory}
    (member : row ∈ (world.tables.commit session dirty).inventories) :
    row ∈ session.rows ∨ row ∈ world.tables.inventories := by
  rcases List.mem_append.mp member with old | added
  · obtain ⟨base, included, rfl⟩ := List.mem_map.mp old
    cases found : session.row? base.pair with
    | none => exact .inr (by simpa [found] using included)
    | some version => exact .inl (by simpa [found] using (Session.row?_some found).1)
  · exact .inl (List.mem_filter.mp added).1

theorem mem_commit_alerts {alert : Alert} :
    alert ∈ (tables.commit session dirty).alerts ↔
      ∃ before, (before ∈ tables.alerts ∨ before ∈ session.alerts) ∧
        applyChanges dirty before = alert := by
  simp only [Tables.commit, List.mem_map, List.mem_append]

theorem World.Valid.commit (valid : world.Valid) (sound : session.Sound world) :
    World.Valid { world with tables := world.tables.commit session dirty } where
  products_unique := valid.products_unique
  warehouses_unique := valid.warehouses_unique
  inventories_unique := commit_inventories_unique valid sound
  inventories_refer := by
    intro row member
    rcases mem_commit_inventories member with held | old
    · exact sound.rows_refer row held
    · exact valid.inventories_refer row old
  inventories_fit := by
    intro row member
    rcases mem_commit_inventories member with held | old
    · exact sound.rows_fit row held
    · exact valid.inventories_fit row old
  movements_refer := by
    intro movement member
    rcases List.mem_append.mp member with old | added
    · exact valid.movements_refer movement old
    · exact sound.movements_refer movement added
  reasons_sendable := by
    intro movement member
    rcases List.mem_append.mp member with old | added
    · exact valid.reasons_sendable movement old
    · exact sound.reasons_sendable movement added
  alerts_unique := by
    have ids : (world.tables.commit session dirty).alerts.map (·.id) =
        (world.tables.alerts ++ session.alerts).map (·.id) := by
      simp only [Tables.commit, List.map_map]
      exact List.map_congr_left (fun alert _ => applyChanges_id alert)
    change ((world.tables.commit session dirty).alerts.map (·.id)).Nodup
    rw [ids, List.map_append]
    refine List.Nodup.append valid.alerts_unique sound.alerts_unique ?_
    intro id old added
    obtain ⟨committed, oldMember, rfl⟩ := List.mem_map.mp old
    obtain ⟨flushed, newMember, same⟩ := List.mem_map.mp added
    exact sound.alerts_new flushed newMember committed oldMember same.symm
  alerts_fresh := by
    intro alert member
    obtain ⟨before, origin, rfl⟩ := mem_commit_alerts.mp member
    rw [applyChanges_id]
    rcases origin with old | added
    · exact valid.alerts_fresh before old
    · exact sound.alerts_fresh before added
  alerts_refer := by
    intro alert member
    obtain ⟨before, origin, rfl⟩ := mem_commit_alerts.mp member
    rw [applyChanges_pair]
    rcases origin with old | added
    · exact valid.alerts_refer before old
    · exact sound.alerts_refer before added

end Commit

end InventoryManagement
