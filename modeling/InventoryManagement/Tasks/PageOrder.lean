import InventoryManagement.Tasks.Reconciliation

/-! The sweep when every page query may see the rows in another order. -/

set_option autoImplicit false

namespace InventoryManagement

open Interleaving (Completion Program)

variable {settings : Settings} {answers : Nat → Answer} {orders : Nat → RowOrder}
variable {world : World} {session : Session}

/-- No two page queries put the same row on their page. -/
def PagesDisjoint (orders : Nat → RowOrder) (tables : Tables) : Prop :=
  ∀ first second, first < second →
    List.Disjoint (Paging.page batchSize (listing orders tables) (first * batchSize))
      (Paging.page batchSize (listing orders tables) (second * batchSize))

/-- A sweep that returned and looked up every row's alerts exactly once. -/
def EvaluatesEachRowOnce (tables : Tables)
    (done : Completion World Session Exception SweepSummary) : Prop :=
  (∃ summary, done.outcome = some (.ok summary)) ∧
    ∀ row ∈ tables.inventories, (done.session.lookups.map (·.pair)).count row.pair = 1

section Ambiguous

variable (healthy : ∀ n, (answers n).fails = false)
include healthy

/-- `scalar_one_or_none` refuses a second active alert. -/
theorem evaluateStockLevel_ambiguous {inventory : Inventory}
    (ambiguous : 2 ≤ (world.tables.activeAlerts inventory.pair).length) :
    (evaluateStockLevel settings inventory).Raises environment answers world session
      (fun _ _ _ => True) := by
  refine Program.Raises.bind (raises_statement healthy (fun n => ⟨_, _, _, rfl, ?_⟩))
  change Program.Raises environment answers (scalarOneOrNone
    (world.tables.activeAlerts inventory.pair)) _ _ _
  match found : world.tables.activeAlerts inventory.pair, ambiguous with
  | _ :: _ :: _, _ => exact Program.raises_raise trivial

theorem sweepBatch_ambiguous (valid : world.Valid) {batch : List Inventory}
    {summary : SweepSummary} (sweeping : Sweeping settings session)
    (known : ∀ row ∈ batch, Known session world row)
    (ambiguous : ∃ row ∈ batch, 2 ≤ (world.tables.activeAlerts row.pair).length) :
    (sweepBatch settings batch summary).Raises environment answers world session
      (fun _ _ _ => True) := by
  induction batch generalizing world session summary with
  | nil =>
      obtain ⟨row, member, _⟩ := ambiguous
      cases member
  | cons row rest ih =>
      by_cases head : 2 ≤ (world.tables.activeAlerts row.pair).length
      · exact (evaluateStockLevel_ambiguous healthy head).bind
      · refine (evaluate_swept healthy valid sweeping (known row (by simp)) (by omega)).bind_raises ?_
        intro result middle between ensured
        obtain ⟨⟨_, objects, first⟩, _⟩ := ensured
        refine ih first.valid first.progress.sweeping (fun other member =>
          (known other (List.mem_cons_of_mem _ member)).congr objects first.reconciled.products
            first.reconciled.warehouses) ?_
        obtain ⟨other, member, several⟩ := ambiguous
        rcases List.mem_cons.mp member with rfl | later
        · exact absurd several head
        · refine ⟨other, later, ?_⟩
          rwa [first.reconciled.elsewhere]
          intro same
          have same : other.pair = row.pair := by simpa using same
          exact head (same ▸ several)

end Ambiguous

section Pages

variable (healthy : ∀ n, (answers n).fails = false)
variable (ordered : ∀ n, (answers n).order = orders)
include healthy ordered

theorem sweepPages_ambiguous (valid : world.Valid) {fuel skip : Nat} {summary : SweepSummary}
    (sweeping : Sweeping settings session)
    (current : ∀ object ∈ session.objects, object ∈ world.tables.inventories)
    (ambiguous : ∃ row ∈ sweptRows orders world.tables fuel skip,
      2 ≤ (world.tables.activeAlerts row.pair).length) :
    (sweepPages settings (fuel + 1) skip summary).Raises environment answers world session
      (fun _ _ _ => True) := by
  induction fuel generalizing world session summary skip with
  | zero =>
      obtain ⟨row, member, _⟩ := ambiguous
      cases member
  | succ fuel ih =>
      obtain ⟨unique, stored⟩ := page_stored orders valid skip
      obtain ⟨loaded, known⟩ := page_sweeping valid sweeping unique stored
      obtain ⟨row, member, several⟩ := ambiguous
      have visible := mem_sweptRows member
      have more : Paging.page batchSize (listing orders world.tables) skip ≠ [] := by
        obtain ⟨number, _, here⟩ := Paging.mem_pages.mp member
        rw [ne_eq, Paging.page_eq_nil (by decide), (listing_perm _ _ _).length_eq]
        intro past
        rw [Paging.page, List.drop_eq_nil_of_le] at here
        · simp at here
        · rw [(listing_perm _ _ _).length_eq]
          omega
      refine Program.raises_call
        (fun n => ⟨_, _, _, selectPage_alone healthy ordered valid skip current n, ?_⟩)
      simp only [Program.ret_bind, if_neg more]
      by_cases now : ∃ row ∈ Paging.page batchSize (listing orders world.tables) skip,
          2 ≤ (world.tables.activeAlerts row.pair).length
      · exact (sweepBatch_ambiguous healthy valid loaded known now).bind
      · have clear : ∀ row ∈ Paging.page batchSize (listing orders world.tables) skip,
            (world.tables.activeAlerts row.pair).length ≤ 1 := by
          intro other here
          by_contra twice
          exact now ⟨other, here, by omega⟩
        refine (sweepBatch_alone healthy valid loaded known stored clear).bind_raises ?_
        intro result middle between ensured
        obtain ⟨rfl, objects, first⟩ := ensured
        have same : listing orders middle.tables = listing orders world.tables := by
          funext offset
          rw [listing, first.reconciled.inventories, listing]
        refine ih first.valid first.progress.sweeping ?_ ⟨row, ?_, ?_⟩
        · intro object kept
          rw [objects] at kept
          rw [first.reconciled.inventories]
          exact stored object kept
        · rcases List.mem_append.mp member with here | later
          · exact absurd ⟨row, here, several⟩ now
          · rw [sweptRows, same]
            exact later
        · rw [first.reconciled.elsewhere]
          · exact several
          · intro named
            obtain ⟨other, here, pair⟩ := List.mem_map.mp named
            obtain rfl := stored_unique valid (stored other here) visible pair
            exact now ⟨other, here, several⟩

end Pages

section Once

variable {tables : Tables} {seen : List Inventory}

theorem nodup_of_count_pairs (stored : ∀ row ∈ seen, row ∈ tables.inventories)
    (once : ∀ row ∈ tables.inventories, (seen.map Inventory.pair).count row.pair = 1) :
    seen.Nodup := by
  refine List.Nodup.of_map Inventory.pair (List.nodup_iff_count_le_one.mpr (fun pair => ?_))
  by_cases named : pair ∈ seen.map Inventory.pair
  · obtain ⟨row, member, rfl⟩ := List.mem_map.mp named
    exact (once row (stored row member)).le
  · rw [List.count_eq_zero.mpr named]
    exact Nat.zero_le 1

theorem count_pairs_of_perm (unique : (tables.inventories.map Inventory.pair).Nodup)
    (all : seen.Perm tables.inventories) {row : Inventory} (member : row ∈ tables.inventories) :
    (seen.map Inventory.pair).count row.pair = 1 := by
  rw [(all.map Inventory.pair).count_eq]
  exact List.count_eq_one_of_mem unique (List.mem_map_of_mem member)

end Once

/-- A sweep that raises nowhere looks up the rows of its pages, in that order. -/
theorem sweep_lookups (settings : Settings) (answers : Nat → Answer) (valid : world.Valid)
    (healthy : ∀ n, (answers n).fails = false) (ordered : ∀ n, (answers n).order = orders)
    {pages : Nat} (enough : world.tables.inventories.length ≤ pages * batchSize)
    (unambiguous : ∀ row ∈ sweptRows orders world.tables pages 0,
      (world.tables.activeAlerts row.pair).length ≤ 1) :
    let done := runAlone answers world (checkLowStockLevels settings (pages + 1))
    (∃ summary, done.outcome = some (.ok summary)) ∧ done.session.lookups.map (·.pair) =
      (sweptRows orders world.tables pages 0).map Inventory.pair := by
  have returns : (checkLowStockLevels settings (pages + 1)).Returns environment answers world {} _ :=
    sweepPages_alone healthy ordered valid (sweeping_start settings) (by simp) unambiguous
      (by omega)
  obtain ⟨summary, after, updated, later, ran, _, swept⟩ := returns 0
  rw [runAlone, ran]
  exact ⟨⟨summary, rfl⟩, swept.progress.lookups⟩

theorem disjoint_of_once (valid : world.Valid) {pages : Nat}
    (enough : world.tables.inventories.length ≤ pages * batchSize)
    (once : ∀ row ∈ world.tables.inventories,
      ((sweptRows orders world.tables pages 0).map Inventory.pair).count row.pair = 1) :
    PagesDisjoint orders world.tables :=
  (Paging.pages_nodup_iff_disjoint (listing_perm orders world.tables)
    valid.inventories_unique.of_map enough).mp
      (nodup_of_count_pairs (fun _ member => mem_sweptRows member) once)

/-- The sweep evaluates every row exactly once if and only if the page queries'
orders put no row on two pages (and no pair has several active alerts). -/
theorem sweep_evaluates_each_row_once_iff (settings : Settings) (world : World)
    (valid : world.Valid) (orders : Nat → RowOrder) (answers : Nat → Answer)
    (healthy : ∀ n, (answers n).fails = false) (ordered : ∀ n, (answers n).order = orders)
    (fuel : Nat) (enough : world.tables.inventories.length + batchSize ≤ fuel * batchSize) :
    EvaluatesEachRowOnce world.tables
        (runAlone answers world (checkLowStockLevels settings fuel)) ↔
      PagesDisjoint orders world.tables ∧
        ∀ row ∈ world.tables.inventories, (world.tables.activeAlerts row.pair).length ≤ 1 := by
  obtain ⟨pages, rfl⟩ : ∃ pages, fuel = pages + 1 := by
    cases fuel with
    | zero => simp [batchSize] at enough
    | succ pages => exact ⟨pages, rfl⟩
  rw [Nat.succ_mul] at enough
  have enough : world.tables.inventories.length ≤ pages * batchSize := by omega
  have unique := valid.inventories_unique
  have disjoint := Paging.pages_nodup_iff_disjoint (listing_perm orders world.tables)
    unique.of_map enough
  have complete := Paging.pages_perm_iff_nodup (listing_perm orders world.tables)
    unique.of_map enough
  by_cases clear : ∀ row ∈ sweptRows orders world.tables pages 0,
      (world.tables.activeAlerts row.pair).length ≤ 1
  · obtain ⟨returned, seen⟩ := sweep_lookups settings answers valid healthy ordered enough clear
    rw [EvaluatesEachRowOnce, seen]
    constructor
    · intro given
      obtain ⟨_, once⟩ := given
      have apart := disjoint_of_once valid enough once
      refine ⟨apart, fun row stored => clear row ?_⟩
      exact (complete.mpr (disjoint.mpr apart)).mem_iff.mpr stored
    · intro given
      obtain ⟨apart, _⟩ := given
      exact ⟨returned, fun row stored =>
        count_pairs_of_perm unique (complete.mpr (disjoint.mpr apart)) stored⟩
  · have ambiguous : ∃ row ∈ sweptRows orders world.tables pages 0,
        2 ≤ (world.tables.activeAlerts row.pair).length := by
      by_contra none
      refine clear (fun row member => ?_)
      by_contra several
      exact none ⟨row, member, by omega⟩
    have raises : (checkLowStockLevels settings (pages + 1)).Raises environment answers world {} _ :=
      sweepPages_ambiguous healthy ordered valid (sweeping_start settings) (by simp) ambiguous
    obtain ⟨error, after, updated, later, ran, _⟩ := raises 0
    rw [runAlone, ran]
    constructor
    · intro given
      obtain ⟨⟨summary, returned⟩, _⟩ := given
      cases returned
    · intro given
      obtain ⟨_, unambiguous⟩ := given
      obtain ⟨row, member, several⟩ := ambiguous
      have single := unambiguous row (mem_sweptRows member)
      omega

/-- Pages that share no row list them all, and a sweep brings the alerts of all in line. -/
theorem sweep_disjoint (settings : Settings) (valid : world.Valid)
    (healthy : ∀ n, (answers n).fails = false) (ordered : ∀ n, (answers n).order = orders)
    (disjoint : PagesDisjoint orders world.tables)
    (unambiguous : ∀ row ∈ world.tables.inventories,
      (world.tables.activeAlerts row.pair).length ≤ 1)
    {fuel : Nat} (enough : world.tables.inventories.length + batchSize ≤ fuel * batchSize) :
    ∃ rows, rows.Perm world.tables.inventories ∧
      (checkLowStockLevels settings fuel).Returns environment answers world {}
        (fun _ after updated => Swept settings rows world {} after updated) := by
  obtain ⟨pages, rfl, few⟩ := sweep_pages enough
  have unique := valid.inventories_unique.of_map
  have once := (Paging.pages_nodup_iff_disjoint (listing_perm orders world.tables) unique
    few).mpr disjoint
  refine ⟨sweptRows orders world.tables pages 0, (Paging.pages_perm_iff_nodup
    (listing_perm orders world.tables) unique few).mpr once, ?_⟩
  refine (sweepPages_alone healthy ordered valid (sweeping_start settings) (by simp)
    (fun row seen => unambiguous row (mem_sweptRows seen)) (by omega)).mono ?_
  intro summary after updated ended
  exact ended.2

theorem sweep_evaluates_each_row_once_iff_stored :
    EvaluatesEachRowOnce Sample.stocked.tables
      (runAlone (fun _ => {}) Sample.stocked (checkLowStockLevels {} 2)) := by
  refine (sweep_evaluates_each_row_once_iff {} Sample.stocked Sample.stocked_valid
    (fun _ => .stored) (fun _ => {}) (fun _ => rfl) (fun _ => rfl) 2 (by decide)).mpr ⟨?_, ?_⟩
  · exact Paging.disjoint_fixed Sample.stocked_valid.inventories_unique.of_map
  · intro row _
    simp [Tables.activeAlerts, Sample.stocked, Sample.world]

/-! One row more than a page holds, and a database that turns its order around
between the two queries. -/

def Sample.manyProducts : List Product :=
  (List.range 201).map (fun number => { Sample.product with id := ⟨Fin.ofNat _ number⟩ })

def Sample.crowded : World where
  tables := {
    products := Sample.manyProducts
    warehouses := [Sample.main]
    inventories := Sample.manyProducts.map (fun product =>
      { productId := product.id, warehouseId := Sample.main.id, quantity := 100 }) }

def Sample.reversing (skip : Nat) : RowOrder :=
  if skip = 0 then .stored else ⟨List.reverse, fun rows => rows.reverse_perm⟩

theorem Sample.crowded_valid : Sample.crowded.Valid := by
  have ids : (Sample.manyProducts.map (·.id)).Nodup := by
    rw [Sample.manyProducts, List.map_map]
    refine List.Nodup.map_on ?_ List.nodup_range
    intro first small second smallToo same
    simp only [List.mem_range] at small smallToo
    have equal := congrArg (fun id : UUID => id.int.val) same
    simp only [Function.comp_apply, Fin.ofNat] at equal
    omega
  refine ⟨ids, by simp [Sample.crowded], ?_, ?_, ?_, ?_, ?_, ?_, ?_, ?_⟩
  · simp only [Sample.crowded, List.map_map]
    refine (List.pairwise_map.mpr ((List.pairwise_map.mp ids).imp ?_))
    intro first second different same
    exact different (congrArg Prod.fst same)
  · intro row member
    obtain ⟨product, included, rfl⟩ := List.mem_map.mp member
    have known : Sample.crowded.tables.hasProduct product.id = true := by
      simp only [Tables.hasProduct, Tables.product?, List.find?_isSome]
      exact ⟨product, included, by simp⟩
    simp only [Tables.hasPair, Inventory.pair, known, Bool.true_and]
    rfl
  · intro row member
    obtain ⟨product, included, rfl⟩ := List.mem_map.mp member
    exact ⟨(by decide : Integer.fits 100 = true), by simp⟩
  · simp [Sample.crowded]
  · simp [Sample.crowded]
  · simp [Sample.crowded]
  · simp [Sample.crowded]
  · simp [Sample.crowded]

theorem reversed_page_evaluates_a_row_twice :
    ¬ EvaluatesEachRowOnce Sample.crowded.tables
      (runAlone (fun _ => { order := Sample.reversing }) Sample.crowded
        (checkLowStockLevels {} 3)) := by
  intro given
  obtain ⟨_, once⟩ := given
  have length : Sample.crowded.tables.inventories.length = 201 := by
    simp [Sample.crowded, Sample.manyProducts]
  have enough : Sample.crowded.tables.inventories.length ≤ 2 * batchSize := by
    rw [length]
    decide
  obtain ⟨_, seen⟩ := sweep_lookups {} (fun _ => { order := Sample.reversing }) Sample.crowded_valid
    (fun _ => rfl) (fun _ => rfl) enough (by simp [Tables.activeAlerts, Sample.crowded])
  rw [seen] at once
  have apart := disjoint_of_once Sample.crowded_valid enough once 0 1 Nat.zero_lt_one
  obtain ⟨first, rest, split⟩ := List.exists_cons_of_length_eq_add_one length
  have remaining : rest.length = 200 := by
    rw [split] at length
    simpa using length
  have onFirst : first ∈ Paging.page batchSize (listing Sample.reversing Sample.crowded.tables)
      (0 * batchSize) := by
    change first ∈ ((Sample.crowded.tables.inventories).drop 0).take 200
    rw [split]
    simp
  have onSecond : first ∈ Paging.page batchSize (listing Sample.reversing Sample.crowded.tables)
      (1 * batchSize) := by
    change first ∈ ((Sample.crowded.tables.inventories.reverse).drop 200).take 200
    rw [split, List.reverse_cons, List.drop_append_of_le_length (by simp [remaining]),
      List.drop_eq_nil_of_le (by simp [remaining])]
    simp
  exact apart onFirst onSecond

end InventoryManagement
