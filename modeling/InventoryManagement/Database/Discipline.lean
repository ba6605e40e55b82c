import InventoryManagement.Database.Statement
import InventoryManagement.Database.TablesProperties

/-! What the database promises every session whatever program drives it: committed
tables keep their constraints, no two open transactions hold the same row, and a
row that a session holds changes under nobody else's hands. -/

set_option autoImplicit false

namespace InventoryManagement

open Interleaving (Outcome Discipline Thread)

structure Session.Compatible (left right : Session) : Prop where
  rows : ∀ row ∈ left.rows, ∀ other ∈ right.rows, row.pair ≠ other.pair
  alerts : ∀ alert ∈ left.alerts, ∀ other ∈ right.alerts, alert.id ≠ other.id

/-- The changes of the shared state a session has to expect from the others. -/
structure Session.Rely (session : Session) (before after : World) : Prop where
  products : after.tables.products = before.tables.products
  warehouses : after.tables.warehouses = before.tables.warehouses
  rows : ∀ row ∈ session.rows,
    after.tables.inventoriesOf row.pair = before.tables.inventoriesOf row.pair
  nextId : before.nextId ≤ after.nextId
  alerts_new : ∀ alert ∈ session.alerts,
    (∀ other ∈ before.tables.alerts, other.id ≠ alert.id) →
      ∀ other ∈ after.tables.alerts, other.id ≠ alert.id
  alerts_kept : ∀ alert ∈ before.tables.alerts,
    ∃ later ∈ after.tables.alerts, later.id = alert.id ∧ later.pair = alert.pair

theorem Tables.hasPair_congr {before after : Tables} (products : after.products = before.products)
    (warehouses : after.warehouses = before.warehouses) (pair : Pair) :
    after.hasPair pair = before.hasPair pair := by
  simp only [Tables.hasPair, Tables.hasProduct, Tables.hasWarehouse, Tables.product?,
    Tables.warehouse?, products, warehouses]

theorem MovementValues.refers_congr {before after : Tables}
    (products : after.products = before.products)
    (warehouses : after.warehouses = before.warehouses) (values : MovementValues) :
    values.refers after = values.refers before := by
  have same : after.hasWarehouse = before.hasWarehouse := by
    funext id
    simp only [Tables.hasWarehouse, Tables.warehouse?, warehouses]
  simp only [MovementValues.refers, Tables.hasProduct, Tables.product?, products, same]

theorem Session.Rely.refl (session : Session) (world : World) : session.Rely world world where
  products := rfl
  warehouses := rfl
  rows := fun _ _ => rfl
  nextId := le_refl _
  alerts_new := fun _ _ unused => unused
  alerts_kept := fun alert member => ⟨alert, member, rfl, rfl⟩

theorem Session.Rely.trans {session : Session} {first second third : World}
    (earlier : session.Rely first second) (later : session.Rely second third) :
    session.Rely first third where
  products := later.products.trans earlier.products
  warehouses := later.warehouses.trans earlier.warehouses
  rows := fun row member => (later.rows row member).trans (earlier.rows row member)
  nextId := le_trans earlier.nextId later.nextId
  alerts_new := fun alert member unused =>
    later.alerts_new alert member (earlier.alerts_new alert member unused)
  alerts_kept := by
    intro alert member
    obtain ⟨middle, included, sameId, samePair⟩ := earlier.alerts_kept alert member
    obtain ⟨last, kept, lastId, lastPair⟩ := later.alerts_kept middle included
    exact ⟨last, kept, lastId.trans sameId, lastPair.trans samePair⟩

theorem Session.Sound.stable {session : Session} {before after : World}
    (sound : session.Sound before) (relied : session.Rely before after) :
    session.Sound after where
  rows_unique := sound.rows_unique
  rows_refer := fun row member => by
    rw [Tables.hasPair_congr relied.products relied.warehouses]
    exact sound.rows_refer row member
  rows_fit := sound.rows_fit
  rows_based := fun row member based => by
    rw [relied.rows row member]
    exact sound.rows_based row member based
  rows_new := fun row member created => by
    rw [relied.rows row member]
    exact sound.rows_new row member created
  inserted_rows := sound.inserted_rows
  movements_refer := fun movement member => by
    rw [MovementValues.refers_congr relied.products relied.warehouses]
    exact sound.movements_refer movement member
  reasons_sendable := sound.reasons_sendable
  alerts_unique := sound.alerts_unique
  alerts_fresh := fun alert member => lt_of_lt_of_le (sound.alerts_fresh alert member) relied.nextId
  alerts_new := fun alert member => relied.alerts_new alert member (sound.alerts_new alert member)
  alerts_refer := fun alert member => by
    rw [Tables.hasPair_congr relied.products relied.warehouses]
    exact sound.alerts_refer alert member

structure Guaranteed (others : List Session) (before after : World) (updated : Session) : Prop where
  valid : after.Valid
  sound : updated.Sound after
  compatible : ∀ other ∈ others, updated.Compatible other
  relied : ∀ other ∈ others, other.Rely before after

section Statements

variable {others : List Session} {before after : World} {session updated : Session}

/-- A statement that leaves the tables and the open transaction as they are. -/
private theorem guaranteed_of_same (valid : before.Valid) (sound : session.Sound before)
    (apart : ∀ other ∈ others, session.Compatible other ∧ other.Sound before)
    (tables : after.tables = before.tables) (nextId : after.nextId = before.nextId)
    (rows : updated.rows = session.rows) (inserted : updated.inserted = session.inserted)
    (movements : updated.movements = session.movements) (alerts : updated.alerts = session.alerts) :
    Guaranteed others before after updated := by
  obtain ⟨afterTables, afterNext, published, enqueued⟩ := after
  simp only at tables nextId
  subst tables nextId
  refine ⟨⟨valid.1, valid.2, valid.3, valid.4, valid.5, valid.6, valid.7, valid.8, valid.9,
    valid.10⟩, ?_, ?_, ?_⟩
  · constructor <;> simp only [rows, inserted, movements, alerts]
    exacts [sound.rows_unique, sound.rows_refer, sound.rows_fit, sound.rows_based, sound.rows_new,
      sound.inserted_rows, sound.movements_refer, sound.reasons_sendable, sound.alerts_unique,
      sound.alerts_fresh, sound.alerts_new, sound.alerts_refer]
  · intro other member
    exact ⟨rows ▸ (apart other member).1.rows, alerts ▸ (apart other member).1.alerts⟩
  · intro other _
    exact ⟨rfl, rfl, fun _ _ => rfl, le_refl _, fun _ _ unused => unused,
      fun alert member => ⟨alert, member, rfl, rfl⟩⟩

/-- A statement that adds one row to the open transaction, locked or inserted,
which no other session holds. -/
private theorem guaranteed_of_row (row : Inventory) (created : Bool)
    (valid : before.Valid) (sound : session.Sound before)
    (apart : ∀ other ∈ others, session.Compatible other ∧ other.Sound before)
    (absent : ∀ mine ∈ session.rows, mine.pair ≠ row.pair)
    (free : ∀ other ∈ others, ∀ foreign ∈ other.rows, foreign.pair ≠ row.pair)
    (refers : before.tables.hasPair row.pair = true) (fits : row.Fits)
    (based : created = false → ∃ base, before.tables.inventoriesOf row.pair = [base])
    (new : created = true → before.tables.inventoriesOf row.pair = [])
    (rows : updated.rows = session.rows ++ [row])
    (inserted : updated.inserted =
      if created then row.pair :: session.inserted else session.inserted)
    (movements : updated.movements = session.movements) (alerts : updated.alerts = session.alerts) :
    Guaranteed others before before updated := by
  have notInserted : row.pair ∉ session.inserted := by
    intro member
    obtain ⟨mine, held, same⟩ := sound.inserted_rows _ member
    exact absent mine held same
  have membership : ∀ pair, pair ∈ updated.inserted ↔
      (created = true ∧ pair = row.pair) ∨ pair ∈ session.inserted := by
    intro pair
    rw [inserted]
    cases created <;> simp
  have origin : ∀ other ∈ updated.rows, other ∈ session.rows ∨ other = row := by
    intro other member
    rw [rows] at member
    simpa using member
  refine ⟨valid, ?_, ?_, fun other _ => Session.Rely.refl other before⟩
  · constructor
    · rw [rows, List.map_append]
      refine List.Nodup.append sound.rows_unique (by simp) ?_
      intro pair old added
      obtain ⟨mine, held, rfl⟩ := List.mem_map.mp old
      exact absent mine held (by simpa using added)
    · intro other member
      rcases origin other member with old | rfl
      · exact sound.rows_refer other old
      · exact refers
    · intro other member
      rcases origin other member with old | rfl
      · exact sound.rows_fit other old
      · exact fits
    · intro other member based'
      rw [membership, not_or] at based'
      rcases origin other member with old | rfl
      · exact sound.rows_based other old based'.2
      · apply based
        simpa using based'.1
    · intro other member created'
      rw [membership] at created'
      rcases origin other member with old | rfl
      · rcases created' with ⟨_, same⟩ | before
        · exact absurd same (absent other old)
        · exact sound.rows_new other old before
      · rcases created' with ⟨now, _⟩ | before
        · exact new now
        · exact absurd before notInserted
    · intro pair member
      rw [membership] at member
      rw [rows]
      rcases member with ⟨_, same⟩ | before
      · exact ⟨row, by simp, same.symm⟩
      · obtain ⟨mine, held, same⟩ := sound.inserted_rows pair before
        exact ⟨mine, List.mem_append_left _ held, same⟩
    · exact movements ▸ sound.movements_refer
    · exact movements ▸ sound.reasons_sendable
    · exact alerts ▸ sound.alerts_unique
    · exact alerts ▸ sound.alerts_fresh
    · exact alerts ▸ sound.alerts_new
    · exact alerts ▸ sound.alerts_refer
  · intro other member
    refine ⟨?_, alerts ▸ (apart other member).1.alerts⟩
    intro mine owned foreign theirs same
    rcases origin mine owned with old | rfl
    · exact (apart other member).1.rows mine old foreign theirs same
    · exact free other member foreign theirs same.symm

theorem holds_iff {session : Session} {pair : Pair} :
    session.holds pair = true ↔ ∃ row ∈ session.rows, row.pair = pair := by
  simp [Session.holds, Session.row?, List.find?_isSome]

theorem held_iff {others : List Session} {pair : Pair} :
    held others pair = true ↔ ∃ other ∈ others, ∃ row ∈ other.rows, row.pair = pair := by
  simp [held, holds_iff]

private theorem selectInventoryForUpdate_guaranteed {pair : Pair} {response : List Inventory}
    (executed : selectInventoryForUpdate pair others before session =
      .done response after updated)
    (valid : before.Valid) (sound : session.Sound before)
    (apart : ∀ other ∈ others, session.Compatible other ∧ other.Sound before) :
    Guaranteed others before after updated := by
  unfold selectInventoryForUpdate at executed
  split at executed
  · cases executed
    exact guaranteed_of_same valid sound apart rfl rfl rfl rfl rfl rfl
  · next absent =>
      split at executed
      · cases executed
        exact guaranteed_of_same valid sound apart rfl rfl rfl rfl rfl rfl
      · next visible =>
          split at executed
          · cases executed
          · next free =>
              cases executed
              obtain ⟨row, one⟩ : ∃ row, before.tables.inventoriesOf pair = [row] :=
                (valid.inventoriesOf_cases pair).resolve_left visible
              obtain ⟨member, rfl⟩ : row ∈ before.tables.inventories ∧ row.pair = pair :=
                Tables.mem_inventoriesOf.mp (by rw [one]; simp)
              rw [Session.row?_none] at absent
              refine guaranteed_of_row row false valid sound apart absent ?_
                (valid.inventories_refer row member) (valid.inventories_fit row member)
                (fun _ => ⟨row, one⟩) (fun impossible => by cases impossible)
                (by simp only [one]) rfl rfl rfl
              intro other included foreign theirs same
              exact free (held_iff.mpr ⟨other, included, foreign, theirs, same⟩)

private theorem insertInventory_guaranteed {inventory response : Inventory}
    (executed : insertInventory inventory others before session = .done response after updated)
    (valid : before.Valid) (sound : session.Sound before)
    (apart : ∀ other ∈ others, session.Compatible other ∧ other.Sound before) :
    Guaranteed others before after updated := by
  unfold insertInventory at executed
  split at executed
  · cases executed
  · next alone =>
      split at executed
      · cases executed
      · next fresh =>
          split at executed
          · cases executed
          · next refers =>
              split at executed
              · cases executed
              · next inRange =>
                  cases executed
                  obtain ⟨noRow, notHeld⟩ := not_or.mp fresh
                  have noRow : before.tables.inventoriesOf inventory.pair = [] := not_not.mp noRow
                  obtain ⟨quantity, threshold⟩ := not_not.mp inRange
                  refine guaranteed_of_row inventory true valid sound apart ?_ ?_
                    (by simpa using refers) ⟨quantity, by simpa [Option.all_eq_true] using threshold⟩
                    (fun impossible => by cases impossible) (fun _ => noRow) rfl rfl rfl rfl
                  · intro mine owned same
                    exact notHeld (holds_iff.mpr ⟨mine, owned, same⟩)
                  · intro other included foreign theirs same
                    have theirSound := (apart other included).2
                    by_cases created : foreign.pair ∈ other.inserted
                    · apply alone
                      simp only [insertedElsewhere, List.any_eq_true, decide_eq_true_eq]
                      exact ⟨other, included, same ▸ created⟩
                    · obtain ⟨base, one⟩ := theirSound.rows_based foreign theirs created
                      rw [same, noRow] at one
                      cases one

theorem mem_replaceRow {rows : List Inventory} {row other : Inventory}
    (member : other ∈ replaceRow rows row) : other = row ∨ (other ∈ rows ∧ other.pair ≠ row.pair) := by
  unfold replaceRow at member
  split at member
  · obtain ⟨old, included, replaced⟩ := List.mem_map.mp member
    split at replaced
    · exact .inl replaced.symm
    · next different =>
        subst replaced
        exact .inr ⟨included, different⟩
  · next none =>
      rcases List.mem_append.mp member with old | added
      · refine .inr ⟨old, fun same => none ?_⟩
        simpa using ⟨other, old, same⟩
      · exact .inl (List.mem_singleton.mp added)

theorem replaceRow_pairs {rows : List Inventory} {row base : Inventory} (member : base ∈ rows)
    (same : base.pair = row.pair) :
    (replaceRow rows row).map Inventory.pair = rows.map Inventory.pair := by
  have found : rows.any (fun other => other.pair = row.pair) = true := by
    simpa using ⟨base, member, same⟩
  rw [replaceRow, if_pos found, List.map_map]
  apply List.map_congr_left
  intro other _
  by_cases here : other.pair = row.pair <;> simp [here]

private theorem updateInventory_guaranteed {inventory : Inventory} {response : Unit}
    (executed : updateInventory inventory before session = .done response after updated)
    (valid : before.Valid) (sound : session.Sound before)
    (apart : ∀ other ∈ others, session.Compatible other ∧ other.Sound before) :
    Guaranteed others before after updated := by
  unfold updateInventory at executed
  split at executed
  · cases executed
  · next inRange =>
      split at executed
      · cases executed
      · next row found =>
          cases executed
          obtain ⟨held, here⟩ := Session.row?_some found
          have version : ∀ other ∈ replaceRow session.rows { row with quantity := inventory.quantity },
              ∃ old ∈ session.rows, old.pair = other.pair ∧
                (other.Fits ∧ other ∈ session.rows ∨
                  other = { row with quantity := inventory.quantity }) := by
            intro other member
            rcases mem_replaceRow member with rfl | ⟨old, _⟩
            · exact ⟨row, held, rfl, .inr rfl⟩
            · exact ⟨other, old, rfl, .inl ⟨sound.rows_fit other old, old⟩⟩
          have pairs : (replaceRow session.rows { row with quantity := inventory.quantity }).map
              Inventory.pair = session.rows.map Inventory.pair := replaceRow_pairs held rfl
          refine ⟨valid, ?_, ?_, fun other _ => Session.Rely.refl other _⟩
          · constructor
            · exact pairs ▸ sound.rows_unique
            · intro other member
              obtain ⟨old, owned, same, _⟩ := version other member
              exact same ▸ sound.rows_refer old owned
            · intro other member
              obtain ⟨_, _, _, ⟨fits, _⟩ | rfl⟩ := version other member
              · exact fits
              · exact ⟨by simpa using inRange, (sound.rows_fit row held).lowStockThreshold⟩
            · intro other member based
              obtain ⟨old, owned, same, _⟩ := version other member
              exact same ▸ sound.rows_based old owned (same ▸ based)
            · intro other member created
              obtain ⟨old, owned, same, _⟩ := version other member
              exact same ▸ sound.rows_new old owned (same ▸ created)
            · intro pair member
              obtain ⟨old, owned, same⟩ := sound.inserted_rows pair member
              have listed : pair ∈ (replaceRow session.rows
                  { row with quantity := inventory.quantity }).map Inventory.pair := by
                rw [pairs, ← same]
                exact List.mem_map_of_mem owned
              simpa using listed
            · exact sound.movements_refer
            · exact sound.reasons_sendable
            · exact sound.alerts_unique
            · exact sound.alerts_fresh
            · exact sound.alerts_new
            · exact sound.alerts_refer
          · intro other included
            refine ⟨?_, (apart other included).1.alerts⟩
            intro mine member foreign theirs same
            obtain ⟨old, owned, equal, _⟩ := version mine member
            exact (apart other included).1.rows old owned foreign theirs (equal.trans same)

theorem relied_of_nextId {other : Session} (tables : after.tables = before.tables)
    (nextId : before.nextId ≤ after.nextId) : other.Rely before after where
  products := by rw [tables]
  warehouses := by rw [tables]
  rows := fun _ _ => by rw [tables]
  nextId := nextId
  alerts_new := fun _ _ unused => by rwa [tables]
  alerts_kept := fun alert member => ⟨alert, by rwa [tables], rfl, rfl⟩

private theorem valid_of_nextId (valid : before.Valid) (tables : after.tables = before.tables)
    (nextId : before.nextId ≤ after.nextId) : after.Valid := by
  constructor <;> simp only [tables]
  · exact valid.products_unique
  · exact valid.warehouses_unique
  · exact valid.inventories_unique
  · exact valid.inventories_refer
  · exact valid.inventories_fit
  · exact valid.movements_refer
  · exact valid.reasons_sendable
  · exact valid.alerts_unique
  · exact fun alert member => lt_of_lt_of_le (valid.alerts_fresh alert member) nextId
  · exact valid.alerts_refer

private theorem insertMovement_guaranteed {values : MovementValues} {now : Nat}
    {response : Movement}
    (executed : insertMovement values now before session = .done response after updated)
    (valid : before.Valid) (sound : session.Sound before)
    (apart : ∀ other ∈ others, session.Compatible other ∧ other.Sound before) :
    Guaranteed others before after updated := by
  unfold insertMovement at executed
  split at executed
  · cases executed
  · next refers =>
      split at executed
      · cases executed
      · next storable =>
          cases executed
          have relied : ∀ other : Session, other.Rely before
              { before with nextId := before.nextId + 1 } :=
            fun other => relied_of_nextId rfl (Nat.le_succ _)
          have later := sound.stable (relied session)
          refine ⟨valid_of_nextId valid rfl (Nat.le_succ _), ?_,
            fun other included => ⟨(apart other included).1.rows, (apart other included).1.alerts⟩,
            fun other _ => relied other⟩
          refine ⟨later.rows_unique, later.rows_refer, later.rows_fit, later.rows_based,
            later.rows_new, later.inserted_rows, ?_, ?_, later.alerts_unique, later.alerts_fresh,
            later.alerts_new, later.alerts_refer⟩
          · intro movement member
            rcases List.mem_append.mp member with old | added
            · exact later.movements_refer movement old
            · rw [List.mem_singleton.mp added]
              simpa using refers
          · intro movement member
            rcases List.mem_append.mp member with old | added
            · exact later.reasons_sendable movement old
            · rw [List.mem_singleton.mp added]
              exact (not_not.mp storable).2

private theorem insertAlert_guaranteed {values : AlertValues} {now : Nat} {response : Alert}
    (executed : insertAlert values now before session = .done response after updated)
    (valid : before.Valid) (sound : session.Sound before)
    (apart : ∀ other ∈ others, session.Compatible other ∧ other.Sound before) :
    Guaranteed others before after updated := by
  unfold insertAlert at executed
  split at executed
  · cases executed
  · next refers =>
      split at executed
      · cases executed
      · cases executed
        have relied : ∀ other : Session, other.Rely before
            { before with nextId := before.nextId + 1 } :=
          fun other => relied_of_nextId rfl (Nat.le_succ _)
        have later := sound.stable (relied session)
        refine ⟨valid_of_nextId valid rfl (Nat.le_succ _), ?_, ?_, fun other _ => relied other⟩
        · refine ⟨later.rows_unique, later.rows_refer, later.rows_fit, later.rows_based,
            later.rows_new, later.inserted_rows, later.movements_refer, later.reasons_sendable, ?_,
            ?_, ?_, ?_⟩
          · rw [List.map_append]
            refine List.Nodup.append sound.alerts_unique (by simp) ?_
            intro id old added
            obtain ⟨alert, flushed, rfl⟩ := List.mem_map.mp old
            have earlier := sound.alerts_fresh alert flushed
            exact absurd (List.mem_singleton.mp added) (Nat.ne_of_lt earlier)
          · intro alert member
            rcases List.mem_append.mp member with old | added
            · exact later.alerts_fresh alert old
            · rw [List.mem_singleton.mp added]
              exact Nat.lt_succ_self _
          · intro alert member other committed
            rcases List.mem_append.mp member with old | added
            · exact sound.alerts_new alert old other committed
            · rw [List.mem_singleton.mp added]
              exact Nat.ne_of_lt (valid.alerts_fresh other committed)
          · intro alert member
            rcases List.mem_append.mp member with old | added
            · exact later.alerts_refer alert old
            · rw [List.mem_singleton.mp added]
              exact not_not.mp refers
        · intro other included
          refine ⟨(apart other included).1.rows, ?_⟩
          intro alert member foreign theirs
          rcases List.mem_append.mp member with old | added
          · exact (apart other included).1.alerts alert old foreign theirs
          · rw [List.mem_singleton.mp added]
            exact (Nat.ne_of_lt ((apart other included).2.alerts_fresh foreign theirs)).symm

/-- A commit changes only rows the session held, so the others can rely on theirs. -/
private theorem commit_guaranteed {dirty : List (RowId × AlertChange)} {response : Unit}
    (executed : commit dirty before session = .done response after updated)
    (valid : before.Valid) (sound : session.Sound before)
    (apart : ∀ other ∈ others, session.Compatible other ∧ other.Sound before) :
    Guaranteed others before after updated := by
  unfold commit at executed
  split at executed
  · cases executed
  · cases executed
    refine ⟨valid.commit sound, ?_, ?_, ?_⟩
    · constructor <;> simp
    · intro other _
      constructor <;> simp
    · intro other included
      refine ⟨rfl, rfl, ?_, le_refl _, ?_, ?_⟩
      · intro row theirs
        have notMine : session.row? row.pair = none := by
          rw [Session.row?_none]
          exact fun mine owned same => (apart other included).1.rows mine owned row theirs same
        simp only [Tables.inventoriesOf_commit sound, notMine]
      · intro alert theirs unused later member
        obtain ⟨origin, old | mine, rfl⟩ := mem_commit_alerts.mp member
        · rw [applyChanges_id]
          exact unused origin old
        · rw [applyChanges_id]
          exact (apart other included).1.alerts origin mine alert theirs
      · intro alert member
        exact ⟨applyChanges dirty alert, mem_commit_alerts.mpr ⟨alert, .inl member, rfl⟩,
          applyChanges_id alert, applyChanges_pair alert⟩

theorem execute_done {statement : Statement} {answer : Answer} {response : statement.Response}
    (executed : execute statement answer others before session = .done response after updated) :
    respond statement answer others before session = .done response after updated := by
  unfold execute at executed
  split at executed
  · cases executed
  · exact executed

private theorem respond_guaranteed {statement : Statement} {answer : Answer}
    {response : statement.Response}
    (executed : respond statement answer others before session = .done response after updated)
    (valid : before.Valid) (sound : session.Sound before)
    (apart : ∀ other ∈ others, session.Compatible other ∧ other.Sound before) :
    Guaranteed others before after updated := by
  cases statement with
  | getProduct id =>
      cases executed
      exact guaranteed_of_same valid sound apart rfl rfl rfl rfl rfl rfl
  | getWarehouse id =>
      cases executed
      exact guaranteed_of_same valid sound apart rfl rfl rfl rfl rfl rfl
  | selectInventoryForUpdate productId warehouseId =>
      exact selectInventoryForUpdate_guaranteed executed valid sound apart
  | insertInventory inventory => exact insertInventory_guaranteed executed valid sound apart
  | updateInventory inventory => exact updateInventory_guaranteed executed valid sound apart
  | insertMovement values => exact insertMovement_guaranteed executed valid sound apart
  | commit dirty => exact commit_guaranteed executed valid sound apart
  | selectActiveAlerts productId warehouseId =>
      cases executed
      exact guaranteed_of_same valid sound apart rfl rfl rfl rfl rfl rfl
  | getAlert id =>
      cases executed
      exact guaranteed_of_same valid sound apart rfl rfl rfl rfl rfl rfl
  | insertAlert values => exact insertAlert_guaranteed executed valid sound apart
  | refreshAlert id =>
      simp only [respond, refreshAlert] at executed
      split at executed
      · cases executed
      · cases executed
        exact guaranteed_of_same valid sound apart rfl rfl rfl rfl rfl rfl
  | selectInventories skip limit =>
      cases executed
      exact guaranteed_of_same valid sound apart rfl rfl rfl rfl rfl rfl
  | utcNow =>
      cases executed
      exact guaranteed_of_same valid sound apart rfl rfl rfl rfl rfl rfl
  | dispatch event =>
      cases executed
      exact guaranteed_of_same valid sound apart rfl rfl rfl rfl rfl rfl
  | gather =>
      cases executed
      exact guaranteed_of_same valid sound apart rfl rfl rfl rfl rfl rfl
  | delay alertId =>
      cases executed
      exact guaranteed_of_same valid sound apart rfl rfl rfl rfl rfl rfl

theorem respond_references {statement : Statement} {answer : Answer}
    {response : statement.Response}
    (executed : respond statement answer others before session = .done response after updated) :
    after.tables.products = before.tables.products ∧
      after.tables.warehouses = before.tables.warehouses := by
  cases statement <;>
    simp only [respond, selectInventoryForUpdate, insertInventory, updateInventory, insertMovement,
      insertAlert, commit, selectActiveAlerts, refreshAlert, selectInventories, dispatch, gather, delay]
      at executed <;>
    (repeat' split at executed) <;> cases executed <;> exact ⟨rfl, rfl⟩

/-- Only a commit changes the tables, or what its session has committed. -/
theorem respond_uncommitted {statement : Statement} {answer : Answer}
    {response : statement.Response} (uncommitted : ∀ dirty, statement ≠ .commit dirty)
    (executed : respond statement answer others before session = .done response after updated) :
    after.tables = before.tables ∧ updated.commits = session.commits ∧
      updated.recorded = session.recorded ∧ updated.touched = session.touched := by
  cases statement
  case commit dirty => exact absurd rfl (uncommitted dirty)
  all_goals
    simp only [respond, selectInventoryForUpdate, insertInventory, updateInventory, insertMovement,
      insertAlert, selectActiveAlerts, refreshAlert, selectInventories, dispatch, gather, delay] at executed
    (repeat' split at executed) <;> cases executed <;> exact ⟨rfl, rfl, rfl, rfl⟩

/-- Only commits and alert lookups make history. -/
theorem respond_history {statement : Statement} {answer : Answer}
    {response : statement.Response} (uncommitted : ∀ dirty, statement ≠ .commit dirty)
    (unread : ∀ productId warehouseId, statement ≠ .selectActiveAlerts productId warehouseId)
    (executed : respond statement answer others before session = .done response after updated) :
    updated.toHistory = session.toHistory := by
  cases statement
  case commit dirty => exact absurd rfl (uncommitted dirty)
  case selectActiveAlerts productId warehouseId => exact absurd rfl (unread productId warehouseId)
  all_goals
    simp only [respond, selectInventoryForUpdate, insertInventory, updateInventory, insertMovement,
      insertAlert, refreshAlert, selectInventories, dispatch, gather, delay] at executed
    (repeat' split at executed) <;> cases executed <;> rfl

/-- Statements that neither lock, insert or flush a row nor load a page of rows. -/
theorem respond_objects {statement : Statement} {answer : Answer}
    {response : statement.Response}
    (select : ∀ productId warehouseId, statement ≠ .selectInventoryForUpdate productId warehouseId)
    (insert : ∀ inventory, statement ≠ .insertInventory inventory)
    (flush : ∀ inventory, statement ≠ .updateInventory inventory)
    (page : ∀ skip limit, statement ≠ .selectInventories skip limit)
    (executed : respond statement answer others before session = .done response after updated) :
    updated.objects = session.objects := by
  cases statement
  case selectInventoryForUpdate productId warehouseId => exact absurd rfl (select _ _)
  case insertInventory inventory => exact absurd rfl (insert _)
  case updateInventory inventory => exact absurd rfl (flush _)
  case selectInventories skip limit => exact absurd rfl (page _ _)
  all_goals
    simp only [respond, insertMovement, insertAlert, commit, selectActiveAlerts, refreshAlert,
      dispatch, gather, delay] at executed
    (repeat' split at executed) <;> cases executed <;> rfl

end Statements

theorem Session.Compatible.symm {left right : Session} (compatible : left.Compatible right) :
    right.Compatible left where
  rows := fun row mine other theirs same => compatible.rows other theirs row mine same.symm
  alerts := fun alert mine other theirs same => compatible.alerts other theirs alert mine same.symm

theorem Session.close_sound (session : Session) (world : World) : session.close.Sound world := by
  constructor <;> simp [Session.close]

theorem Session.close_compatible (session other : Session) : session.close.Compatible other := by
  constructor <;> simp [Session.close]

def databaseDiscipline : Discipline environment where
  invariant := World.Valid
  sound := Session.Sound
  compatible := Session.Compatible
  rely := Session.Rely
  rely_refl := Session.Rely.refl
  rely_trans := fun _ _ _ _ earlier later => earlier.trans later
  compatible_symm := fun _ _ compatible => compatible.symm
  sound_stable := fun _ _ _ sound relied => sound.stable relied
  execute_done := by
    intro statement answer others before session response after updated executed valid sound apart
    have guaranteed := respond_guaranteed (execute_done executed) valid sound apart
    exact ⟨guaranteed.valid, guaranteed.sound, fun other member =>
      ⟨guaranteed.compatible other member, guaranteed.relied other member⟩⟩
  close_sound := fun session world _ => session.close_sound world
  close_compatible := fun session other _ => session.close_compatible other

/-- What a call has done stays on record when its session closes. -/
theorem settle_history {Label Value : Type} {label : Label} {program : Transaction Value}
    {session : Session} :
    (Thread.settle environment ⟨label, program, session⟩).session.toHistory = session.toHistory :=
  Thread.settle_session (fun current : Session => current.toHistory = session.toHistory) rfl rfl

theorem Session.fresh_compatible (left right : Session)
    (isLeft : left = {} ∨ left = environment.close {})
    (isRight : right = {} ∨ right = environment.close {}) :
    databaseDiscipline.compatible left right := by
  have empty : ∀ session : Session, session = {} ∨ session = environment.close {} →
      session = {} := by
    intro session cases
    rcases cases with rfl | rfl <;> rfl
  rw [empty left isLeft, empty right isRight]
  exact Session.close_compatible {} {}

end InventoryManagement
