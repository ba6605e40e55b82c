import InventoryManagement.Interleaving.Trace
import InventoryManagement.Paging
import InventoryManagement.Services.Report
import InventoryManagement.Services.Sequential

/-! The sweep with nobody else active, under any row order of its page queries: it
evaluates the rows of its pages one by one and reconciles their alerts. -/

set_option autoImplicit false

namespace InventoryManagement

open Interleaving (Moment Program)

variable {settings : Settings} {answers : Nat → Answer}
variable {world before middle after : World} {start session updated : Session}
variable {rows more : List Inventory}

theorem leaves_statement {Observation Value : Type} {statement : Statement}
    {observe : Observation → Moment Statement Answer World Session → Observation}
    {next : statement.Response → Transaction Value} {seen : Observation}
    {post : Value → World → Session → Observation → Prop}
    (answered : ∀ n response after updated,
      respond statement (answers n) [] world session = .done response after updated →
      (next response).Leaves observe environment answers after updated
        (observe seen ⟨answers n, world, session, statement⟩) post) :
    (Program.call statement next).Leaves observe environment answers world session seen post :=
  Program.leaves_call (fun n response after updated executed =>
    answered n response after updated (execute_done executed))

/-- The alerts of some rows have been brought in line with their stock. -/
structure Reconciled (settings : Settings) (rows : List Inventory) (before after : World) :
    Prop where
  inventories : after.tables.inventories = before.tables.inventories
  products : after.tables.products = before.tables.products
  warehouses : after.tables.warehouses = before.tables.warehouses
  agrees : ∀ row ∈ rows, Agrees (stockCondition settings row) (after.tables.activeAlerts row.pair) ∧
    (after.tables.activeAlerts row.pair).length ≤ 1
  elsewhere : ∀ pair, pair ∉ rows.map Inventory.pair →
    after.tables.activeAlerts pair = before.tables.activeAlerts pair

theorem Reconciled.nothing (settings : Settings) (world : World) :
    Reconciled settings [] world world :=
  ⟨rfl, rfl, rfl, by simp, fun _ _ => rfl⟩

theorem stored_unique (valid : world.Valid) {row other : Inventory}
    (stored : row ∈ world.tables.inventories) (storedToo : other ∈ world.tables.inventories)
    (same : row.pair = other.pair) : row = other :=
  List.inj_on_of_nodup_map valid.inventories_unique stored storedToo same

theorem Reconciled.trans (earlier : Reconciled settings rows before middle)
    (later : Reconciled settings more middle after) (valid : before.Valid)
    (stored : ∀ row ∈ rows ++ more, row ∈ before.tables.inventories) :
    Reconciled settings (rows ++ more) before after where
  inventories := later.inventories.trans earlier.inventories
  products := later.products.trans earlier.products
  warehouses := later.warehouses.trans earlier.warehouses
  agrees := by
    intro row member
    by_cases again : row.pair ∈ more.map Inventory.pair
    · obtain ⟨other, included, same⟩ := List.mem_map.mp again
      obtain rfl := stored_unique valid (stored other (List.mem_append_right _ included))
        (stored row member) same
      exact later.agrees other included
    · rw [later.elsewhere _ again]
      rcases List.mem_append.mp member with first | second
      · exact earlier.agrees row first
      · exact absurd (List.mem_map_of_mem second) again
  elsewhere := by
    intro pair outside
    rw [List.map_append, List.mem_append, not_or] at outside
    rw [later.elsewhere pair outside.2, earlier.elsewhere pair outside.1]

theorem Reconciled.unambiguous {pair : Pair} (reconciled : Reconciled settings rows before after)
    (unambiguous : (before.tables.activeAlerts pair).length ≤ 1) :
    (after.tables.activeAlerts pair).length ≤ 1 := by
  by_cases named : pair ∈ rows.map Inventory.pair
  · obtain ⟨row, member, rfl⟩ := List.mem_map.mp named
    exact (reconciled.agrees row member).2
  · rw [reconciled.elsewhere pair named]
    exact unambiguous

theorem Evaluated.reconciled {row : Inventory} {result : Option Alert}
    (evaluated : Evaluated settings row before session result after updated)
    (inventories : after.tables.inventories = before.tables.inventories)
    (products : after.tables.products = before.tables.products)
    (warehouses : after.tables.warehouses = before.tables.warehouses) :
    Reconciled settings [row] before after where
  inventories := inventories
  products := products
  warehouses := warehouses
  agrees := by
    intro other member
    rw [List.mem_singleton.mp member, evaluated.active]
    exact ⟨evaluated.agrees, by cases result <;> simp⟩
  elsewhere := by
    intro pair outside
    exact evaluated.elsewhere pair (by simpa [eq_comm] using outside)

theorem Evaluated.isSome {row : Inventory} {result : Option Alert}
    (evaluated : Evaluated settings row before session result after updated) :
    result.isSome = row.isLow settings := by
  have agrees := agrees_iff.mp evaluated.agrees
  cases result with
  | none =>
      have high : ¬ row.quantity ≤ effectiveThreshold settings row := by
        intro low
        obtain ⟨alert, member⟩ := agrees.1.mpr low
        cases member
      simp [Inventory.isLow, high]
  | some alert =>
      have low := agrees.1.mp ⟨alert, by simp⟩
      simp [Inventory.isLow, low]

theorem sweeping_start (settings : Settings) : Sweeping settings {} :=
  ⟨⟨⟨rfl, rfl, rfl⟩, rfl⟩, fun _ _ pending => (by cases pending), rfl, rfl, by simp⟩

structure Progress (settings : Settings) (start : Session) (evaluated : List Pair)
    (session : Session) : Prop where
  sweeping : Sweeping settings session
  lookups : session.lookups.map (·.pair) = start.lookups.map (·.pair) ++ evaluated

/-- What a part of the sweep has done from `before` on. -/
structure Swept (settings : Settings) (rows : List Inventory) (before : World) (start : Session)
    (after : World) (updated : Session) : Prop where
  reconciled : Reconciled settings rows before after
  progress : Progress settings start (rows.map Inventory.pair) updated
  settled : (∀ row ∈ rows, Agrees (stockCondition settings row)
    (before.tables.activeAlerts row.pair)) → after = before ∧ updated.commits = start.commits
  valid : after.Valid

theorem Swept.trans (earlier : Swept settings rows before start middle session)
    (later : Swept settings more middle session after updated) (valid : before.Valid)
    (stored : ∀ row ∈ rows ++ more, row ∈ before.tables.inventories) :
    Swept settings (rows ++ more) before start after updated where
  reconciled := earlier.reconciled.trans later.reconciled valid stored
  progress := by
    refine ⟨later.progress.sweeping, ?_⟩
    rw [later.progress.lookups, earlier.progress.lookups, List.map_append, List.append_assoc]
  settled := by
    intro agree
    obtain ⟨rfl, commits⟩ :=
      earlier.settled (fun row member => agree row (List.mem_append_left _ member))
    obtain ⟨rfl, commitsToo⟩ :=
      later.settled (fun row member => agree row (List.mem_append_right _ member))
    exact ⟨rfl, commitsToo.trans commits⟩
  valid := later.valid

section Batch

variable {Observation : Type}
variable (observe : Observation → Moment Statement Answer World Session → Observation)
variable (tracked : List Inventory → World → Observation → World → Observation → Prop)

/-- What an observer can say of the rows a sweep has evaluated, put together from what
it sees of one evaluation. -/
structure Tracks (settings : Settings) (answers : Nat → Answer) : Prop where
  nothing : ∀ world seen, tracked [] world seen world seen
  page : ∀ seen answer world session skip limit,
    observe seen ⟨answer, world, session, .selectInventories skip limit⟩ = seen
  evaluation : ∀ world session row seen, world.Valid → session.Clean →
    (world.tables.activeAlerts row.pair).length ≤ 1 →
    (evaluateStockLevel settings row).Leaves observe environment answers world session seen
      (fun result after updated sofar => Evaluated settings row world session result after updated →
        after.Valid → tracked [row] world seen after sofar)
  trans : ∀ rows more before first middle second after third,
    tracked rows before first middle second → tracked more middle second after third →
    tracked (rows ++ more) before first after third

variable {observe tracked} {seen : Observation}
variable (tracks : Tracks observe tracked settings answers)
variable (healthy : ∀ n, (answers n).fails = false)

theorem Tracks.unobserved (settings : Settings) (answers : Nat → Answer) :
    Tracks (fun _ _ => ()) (fun _ _ _ _ _ => True) settings answers where
  nothing := fun _ _ => trivial
  page := fun _ _ _ _ _ _ => rfl
  evaluation := fun _ _ _ _ _ _ _ _ _ _ _ _ _ _ _ => trivial
  trans := fun _ _ _ _ _ _ _ _ _ _ => trivial

include healthy

theorem evaluate_swept (valid : world.Valid) {row : Inventory} (sweeping : Sweeping settings session)
    (known : Known session world row)
    (unambiguous : (world.tables.activeAlerts row.pair).length ≤ 1) :
    (evaluateStockLevel settings row).Returns environment answers world session
      (fun result after updated => (result.isSome = row.isLow settings ∧
        updated.objects = session.objects ∧ Swept settings [row] world session after updated) ∧
        Evaluated settings row world session result after updated) := by
  have evaluates : Request.Evaluates (.sweep 0) session := ⟨sweeping.recorded, sweeping.touched⟩
  have resting : Resting settings session [] session :=
    ⟨sweeping.clean, sweeping.settled, rfl, Nat.le_refl _, rfl, rfl, by simp⟩
  intro elapsed
  obtain ⟨result, after, updated, later, ran, evaluated, ⟨rest, objects, _, products, warehouses⟩,
    validAfter, _⟩ := evaluate_alone healthy valid unambiguous resting evaluates known elapsed
  have kept := keepsStock_run answers world ((evaluateStockLevel_concernsAlerts settings row).mono
    (fun _ => Statement.keepsStock_of_concernsAlerts)) sweeping.clean.toUnlocked elapsed
  rw [ran] at kept
  refine ⟨result, after, updated, later, ran, ⟨evaluated.isSome, objects,
    evaluated.reconciled kept.inventories products warehouses, ⟨?_, ?_⟩, ?_, validAfter⟩, evaluated⟩
  · exact ⟨rest.clean, rest.settled, rest.recorded.trans sweeping.recorded,
      rest.touched.trans sweeping.touched, fun object member =>
        sweeping.objects object (objects ▸ member)⟩
  · simpa using rest.lookups
  · intro agree
    exact evaluated.settled (agree row (by simp))

include tracks

theorem sweepBatch_tracked (valid : world.Valid) {batch : List Inventory} {summary : SweepSummary}
    (sweeping : Sweeping settings session)
    (known : ∀ row ∈ batch, Known session world row)
    (stored : ∀ row ∈ batch, row ∈ world.tables.inventories)
    (unambiguous : ∀ row ∈ batch, (world.tables.activeAlerts row.pair).length ≤ 1) :
    (sweepBatch settings batch summary).Yields observe environment answers world session seen
      (fun result after updated sofar => (result = {
          evaluated := summary.evaluated + batch.length
          alertsActive := summary.alertsActive + (batch.filter (Inventory.isLow settings)).length } ∧
        updated.objects = session.objects ∧
        Swept settings batch world session after updated) ∧
        tracked batch world seen after sofar) := by
  induction batch generalizing world session summary seen with
  | nil =>
      exact Program.yields_ret ⟨⟨rfl, rfl, .nothing settings world, ⟨sweeping, by simp⟩,
        fun _ => ⟨rfl, rfl⟩, valid⟩, tracks.nothing _ _⟩
  | cons row rest ih =>
      have unambiguousRow := unambiguous row List.mem_cons_self
      refine ((evaluate_swept healthy valid sweeping (known row (by simp)) unambiguousRow).yields
        (tracks.evaluation world session row seen valid sweeping.clean unambiguousRow)).bind ?_
      intro result middle between sofar ended
      obtain ⟨⟨⟨low, objects, first⟩, evaluated⟩, observed⟩ := ended
      refine (ih first.valid first.progress.sweeping (fun other member =>
        (known other (List.mem_cons_of_mem _ member)).congr objects first.reconciled.products
          first.reconciled.warehouses) ?_ ?_).mono ?_
      · intro other member
        rw [first.reconciled.inventories]
        exact stored other (List.mem_cons_of_mem _ member)
      · intro other member
        exact first.reconciled.unambiguous (unambiguous other (List.mem_cons_of_mem _ member))
      · intro total after updated final ended
        obtain ⟨⟨rfl, objectsToo, later⟩, rest⟩ := ended
        refine ⟨⟨?_, objectsToo.trans objects, first.trans later valid stored⟩,
          tracks.trans _ _ _ _ _ _ _ _ (observed evaluated first.valid) rest⟩
        rw [low, List.filter_cons]
        cases row.isLow settings <;> simp <;> omega

omit tracks in
theorem sweepBatch_alone (valid : world.Valid) {batch : List Inventory} {summary : SweepSummary}
    (sweeping : Sweeping settings session)
    (known : ∀ row ∈ batch, Known session world row)
    (stored : ∀ row ∈ batch, row ∈ world.tables.inventories)
    (unambiguous : ∀ row ∈ batch, (world.tables.activeAlerts row.pair).length ≤ 1) :
    (sweepBatch settings batch summary).Returns environment answers world session
      (fun result after updated => result = {
          evaluated := summary.evaluated + batch.length
          alertsActive := summary.alertsActive + (batch.filter (Inventory.isLow settings)).length } ∧
        updated.objects = session.objects ∧
        Swept settings batch world session after updated) :=
  ((sweepBatch_tracked (.unobserved settings answers) healthy valid sweeping known stored
    unambiguous).mono (fun _ _ _ _ ended => ended.1) : Program.Yields _ _ _ _ _ _ () _).returns

end Batch

/-- The orders in which the page queries see the rows, by their offset. -/
def listing (orders : Nat → RowOrder) (tables : Tables) (skip : Nat) : List Inventory :=
  (orders skip).arrange tables.inventories

theorem listing_perm (orders : Nat → RowOrder) (tables : Tables) (skip : Nat) :
    (listing orders tables skip).Perm tables.inventories :=
  (orders skip).perm _

/-- The rows a sweep with this many non-empty pages gets to see. -/
abbrev sweptRows (orders : Nat → RowOrder) (tables : Tables) (fuel skip : Nat) : List Inventory :=
  Paging.pages batchSize (listing orders tables) fuel skip

theorem mem_sweptRows {orders : Nat → RowOrder} {tables : Tables} {fuel skip : Nat}
    {row : Inventory} (member : row ∈ sweptRows orders tables fuel skip) :
    row ∈ tables.inventories := by
  obtain ⟨number, _, here⟩ := Paging.mem_pages.mp member
  exact (listing_perm orders tables _).mem_iff.mp (Paging.mem_page here)

/-- The session that has just loaded a page of stored rows can evaluate them. -/
theorem page_sweeping (valid : world.Valid) (sweeping : Sweeping settings session)
    {batch : List Inventory} (unique : (batch.map Inventory.pair).Nodup)
    (stored : ∀ row ∈ batch, row ∈ world.tables.inventories) :
    Sweeping settings { session with objects := batch } ∧
      ∀ row ∈ batch, Known { session with objects := batch } world row := by
  refine ⟨⟨⟨⟨sweeping.clean.rows, sweeping.clean.inserted, sweeping.clean.movements⟩,
    sweeping.clean.alerts⟩, sweeping.settled, sweeping.recorded, sweeping.touched,
    fun object member => valid.inventories_fit object (stored object member)⟩, ?_⟩
  intro row member
  exact ⟨find_pair_of_mem unique member, valid.inventories_fit row (stored row member),
    valid.inventories_refer row (stored row member)⟩

theorem page_stored (orders : Nat → RowOrder) (valid : world.Valid) (skip : Nat) :
    ((Paging.page batchSize (listing orders world.tables) skip).map Inventory.pair).Nodup ∧
      ∀ row ∈ Paging.page batchSize (listing orders world.tables) skip,
        row ∈ world.tables.inventories := by
  have unique : ((listing orders world.tables skip).map Inventory.pair).Nodup :=
    ((listing_perm orders world.tables skip).map Inventory.pair).nodup_iff.mpr
      valid.inventories_unique
  refine ⟨unique.sublist (List.Sublist.map _ ?_), ?_⟩
  · exact (List.take_sublist _ _).trans (List.drop_sublist _ _)
  · intro row member
    exact (listing_perm orders world.tables skip).mem_iff.mp (Paging.mem_page member)

section Pages

variable {Observation : Type} {seen : Observation}
variable {observe : Observation → Moment Statement Answer World Session → Observation}
variable {tracked : List Inventory → World → Observation → World → Observation → Prop}
variable {orders : Nat → RowOrder} (healthy : ∀ n, (answers n).fails = false)
variable (ordered : ∀ n, (answers n).order = orders)
include healthy ordered

/-- A page query. Objects still in the session are up to date, as nobody else writes. -/
theorem selectPage_alone (valid : world.Valid) (skip : Nat)
    (current : ∀ object ∈ session.objects, object ∈ world.tables.inventories) (n : Nat) :
    execute (.selectInventories skip batchSize) (answers n) [] world session =
      .done (Paging.page batchSize (listing orders world.tables) skip) world
        { session with objects := Paging.page batchSize (listing orders world.tables) skip } := by
  have loaded : (((answers n).order skip).arrange world.tables.inventories |>.drop skip |>.take
      batchSize).map (fun row => (session.object? row.pair).getD row) =
        Paging.page batchSize (listing orders world.tables) skip := by
    rw [ordered n]
    change (Paging.page batchSize (listing orders world.tables) skip).map _ = _
    conv_rhs => rw [← List.map_id (Paging.page batchSize (listing orders world.tables) skip)]
    apply List.map_congr_left
    intro row member
    have stored := (listing_perm orders world.tables skip).mem_iff.mp (Paging.mem_page member)
    cases found : session.object? row.pair with
    | none => rfl
    | some object =>
        obtain ⟨kept, same⟩ := object?_pair found
        exact stored_unique valid (current object kept) stored same
  rw [execute_healthy (healthy n), respond, selectInventories, loaded]

theorem sweepPages_end (tracks : Tracks observe tracked settings answers) (valid : world.Valid)
    {fuel skip : Nat} {summary : SweepSummary}
    (sweeping : Sweeping settings session)
    (current : ∀ object ∈ session.objects, object ∈ world.tables.inventories)
    (past : world.tables.inventories.length ≤ skip) :
    (sweepPages settings (fuel + 1) skip summary).Yields observe environment answers world session
      seen (fun result after updated sofar => (result = summary ∧
        Swept settings [] world session after updated) ∧ tracked [] world seen after sofar) := by
  have empty : Paging.page batchSize (listing orders world.tables) skip = [] := by
    rw [Paging.page_eq_nil (by decide), (listing_perm _ _ _).length_eq]
    exact past
  obtain ⟨unique, stored⟩ := page_stored orders valid skip
  obtain ⟨loaded, _⟩ := page_sweeping valid sweeping unique stored
  refine Program.yields_call
    (fun n => ⟨_, _, _, selectPage_alone healthy ordered valid skip current n, ?_⟩)
  simp only [Program.ret_bind, if_pos empty, tracks.page]
  exact Program.yields_ret ⟨⟨rfl, .nothing settings world, ⟨loaded, by simp⟩,
    fun _ => ⟨rfl, rfl⟩, valid⟩, tracks.nothing _ _⟩

/-- A sweep with enough fuel returns, having evaluated its pages one after the other. -/
theorem sweepPages_tracked (tracks : Tracks observe tracked settings answers) (valid : world.Valid)
    {fuel skip : Nat} {summary : SweepSummary}
    (sweeping : Sweeping settings session)
    (current : ∀ object ∈ session.objects, object ∈ world.tables.inventories)
    (unambiguous : ∀ row ∈ sweptRows orders world.tables fuel skip,
      (world.tables.activeAlerts row.pair).length ≤ 1)
    (enough : world.tables.inventories.length ≤ skip + fuel * batchSize) :
    (sweepPages settings (fuel + 1) skip summary).Yields observe environment answers world session
      seen (fun result after updated sofar => (result = {
          evaluated := summary.evaluated + (sweptRows orders world.tables fuel skip).length
          alertsActive := summary.alertsActive +
            ((sweptRows orders world.tables fuel skip).filter (Inventory.isLow settings)).length } ∧
        Swept settings (sweptRows orders world.tables fuel skip) world session after updated) ∧
        tracked (sweptRows orders world.tables fuel skip) world seen after sofar) := by
  induction fuel generalizing world session summary skip seen with
  | zero => exact sweepPages_end healthy ordered tracks valid sweeping current (by simpa using enough)
  | succ fuel ih =>
      by_cases past : world.tables.inventories.length ≤ skip
      · have nothing : sweptRows orders world.tables (fuel + 1) skip = [] := by
          rw [← List.length_eq_zero_iff, Paging.pages_length (listing_perm orders world.tables)]
          omega
        rw [nothing]
        exact sweepPages_end healthy ordered tracks valid sweeping current past
      · have nonempty : Paging.page batchSize (listing orders world.tables) skip ≠ [] := by
          rw [ne_eq, Paging.page_eq_nil (by decide), (listing_perm _ _ _).length_eq]
          exact past
        obtain ⟨unique, stored⟩ := page_stored orders valid skip
        obtain ⟨loaded, known⟩ := page_sweeping valid sweeping unique stored
        refine Program.yields_call
          (fun n => ⟨_, _, _, selectPage_alone healthy ordered valid skip current n, ?_⟩)
        simp only [Program.ret_bind, if_neg nonempty, tracks.page]
        refine (sweepBatch_tracked tracks healthy valid loaded known stored (fun row member =>
          unambiguous row (List.mem_append_left _ member))).bind ?_
        intro result middle between sofar ended
        obtain ⟨⟨rfl, objects, first⟩, observed⟩ := ended
        have same : listing orders middle.tables = listing orders world.tables := by
          funext offset
          rw [listing, first.reconciled.inventories, listing]
        have rest : ∀ row ∈ sweptRows orders middle.tables fuel (skip + batchSize),
            row ∈ sweptRows orders world.tables (fuel + 1) skip := by
          intro row member
          rw [sweptRows, same] at member
          exact List.mem_append_right _ member
        refine (ih first.valid first.progress.sweeping ?_ ?_ ?_).mono ?_
        · intro object member
          rw [objects] at member
          rw [first.reconciled.inventories]
          exact stored object member
        · intro row member
          exact first.reconciled.unambiguous (unambiguous row (rest row member))
        · rw [first.reconciled.inventories]
          rw [Nat.succ_mul] at enough
          omega
        · intro total after updated final ended
          obtain ⟨⟨rfl, later⟩, observedToo⟩ := ended
          rw [sweptRows, same] at later observedToo ⊢
          refine ⟨⟨?_, ?_⟩, tracks.trans _ _ _ _ _ _ _ _ observed observedToo⟩
          · simp only [Paging.pages, List.length_append, List.filter_append, Nat.add_assoc]
          · have stored : ∀ row ∈ sweptRows orders world.tables (fuel + 1) skip,
                row ∈ world.tables.inventories := fun row member => mem_sweptRows member
            have swept := first.trans later valid stored
            exact ⟨swept.reconciled, ⟨swept.progress.sweeping, swept.progress.lookups⟩,
              swept.settled, swept.valid⟩

theorem sweepPages_alone (valid : world.Valid) {fuel skip : Nat} {summary : SweepSummary}
    (sweeping : Sweeping settings session)
    (current : ∀ object ∈ session.objects, object ∈ world.tables.inventories)
    (unambiguous : ∀ row ∈ sweptRows orders world.tables fuel skip,
      (world.tables.activeAlerts row.pair).length ≤ 1)
    (enough : world.tables.inventories.length ≤ skip + fuel * batchSize) :
    (sweepPages settings (fuel + 1) skip summary).Returns environment answers world session
      (fun result after updated => result = {
          evaluated := summary.evaluated + (sweptRows orders world.tables fuel skip).length
          alertsActive := summary.alertsActive +
            ((sweptRows orders world.tables fuel skip).filter (Inventory.isLow settings)).length } ∧
        Swept settings (sweptRows orders world.tables fuel skip) world session after updated) :=
  ((sweepPages_tracked healthy ordered (.unobserved settings answers) valid sweeping current
    unambiguous enough).mono (fun _ _ _ _ ended => ended.1) :
    Program.Yields _ _ _ _ _ _ () _).returns

end Pages

end InventoryManagement
