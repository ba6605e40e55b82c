import InventoryManagement.Services.AlertConduct
import InventoryManagement.Services.StockConduct

/-! Whole requests: a movement with its evaluations, a sweep, a manual resolution. -/

set_option autoImplicit false

namespace InventoryManagement

open Interleaving (Guard Outcome Program System)

variable {settings : Settings} {request : Request}
variable {guard : Guard Statement Answer World Session}
variable {allowed : List Movement → Exception → Prop}
variable {before session : Session} {world : World}

/-- An inventory object its session can evaluate. -/
structure Known (session : Session) (world : World) (inventory : Inventory) : Prop where
  object : session.object? inventory.pair = some inventory
  fits : inventory.Fits
  refers : world.tables.hasPair inventory.pair = true

theorem Known.congr {updated : Session} {after : World} {inventory : Inventory}
    (known : Known session world inventory) (objects : updated.objects = session.objects)
    (products : after.tables.products = world.tables.products)
    (warehouses : after.tables.warehouses = world.tables.warehouses) :
    Known updated after inventory where
  object := by
    rw [Session.object?, objects]
    exact known.object
  fits := known.fits
  refers := by
    rw [Tables.hasPair_congr products warehouses]
    exact known.refers

theorem Request.Evaluates.congr {updated : Session} (evaluates : request.Evaluates session)
    (recorded : updated.recorded = session.recorded) (touched : updated.touched = session.touched) :
    request.Evaluates updated := by
  cases request with
  | movement data performedBy =>
      change updated.recorded ≠ []
      rw [recorded]
      exact evaluates
  | sweep fuel =>
      change updated.recorded = [] ∧ updated.touched = []
      rw [recorded, touched]
      exact evaluates
  | resolveAlert alertId => exact evaluates

/-- One evaluation of a known object leaves the session at rest. -/
theorem evaluate_known (permits : Permits guard allowed) {done : List Pair} {inventory : Inventory}
    (resting : Resting settings before done session) (evaluates : request.Evaluates session)
    (known : Known session world inventory) :
    Conducted settings request guard allowed
      (fun _ updated after => Resting settings before (done ++ [inventory.pair]) updated ∧
        updated.objects = session.objects ∧ request.Evaluates updated ∧
        after.tables.products = world.tables.products ∧
        after.tables.warehouses = world.tables.warehouses)
      (evaluateStockLevel settings inventory) session world := by
  refine Program.verified_mono (conducted_references (evaluateStockLevel_conducted permits
    ⟨resting.clean, resting.settled, evaluates, known.object, known.fits, known.refers⟩)) ?_
  intro _ updated after ensured
  obtain ⟨later, products, warehouses⟩ := ensured
  refine ⟨⟨later.clean, later.settled, later.objects.trans resting.objects,
    Nat.le_trans resting.commits later.commits, later.recorded.trans resting.recorded, later.touched.trans resting.touched, ?_⟩,
    later.objects, evaluates.congr later.recorded later.touched, products, warehouses⟩
  rw [later.lookups, resting.lookups, List.append_assoc]

theorem evaluateAffected_conducted (permits : Permits guard allowed) {done : List Pair}
    {affected : List Inventory} (resting : Resting settings before done session)
    (evaluates : request.Evaluates session)
    (known : ∀ inventory ∈ affected, Known session world inventory) :
    Conducted settings request guard allowed
      (fun _ updated _ =>
        Resting settings before (done ++ affected.map Inventory.pair) updated)
      (evaluateAffected settings affected) session world := by
  induction affected generalizing session world done with
  | nil =>
      change Resting settings before (done ++ []) session
      rw [List.append_nil]
      exact resting
  | cons inventory rest ih =>
      refine conducted_bind _
        (evaluate_known permits resting evaluates (known inventory (by simp))) ?_
      intro _ updated after ensured
      obtain ⟨later, objects, evaluatesLater, products, warehouses⟩ := ensured
      have remaining := ih later evaluatesLater (fun other member =>
        (known other (List.mem_cons_of_mem _ member)).congr objects products warehouses)
      simpa using remaining

/-- The movement event can always be built from an accepted payload. -/
theorem buildMovementEvent_returns (data : MovementCreate) (affected : List Inventory) :
    ∃ event, buildMovementEvent data affected = .ret event := by
  rcases data.warehouses_cases with ⟨type, _, _, destination⟩ | ⟨type, _, _, source⟩ |
    ⟨type, _, _, source, destination, _⟩
  · exact ⟨_, by simp only [buildMovementEvent, type, destination]; rfl⟩
  · exact ⟨_, by simp only [buildMovementEvent, type, source]; rfl⟩
  · exact ⟨_, by simp only [buildMovementEvent, type, source, destination]; rfl⟩

theorem announceMovement_conducted (permits : Permits guard allowed) {data : MovementCreate}
    {affected : List Inventory} (resting : Resting settings before [] session)
    (committed : before.commits ≠ 0) (evaluates : request.Evaluates session)
    (known : ∀ inventory ∈ affected, Known session world inventory) :
    Conducted settings request guard allowed
      (fun _ updated _ => Resting settings before (affected.map Inventory.pair) updated)
      (announceMovement settings data affected) session world := by
  refine conducted_bind _ (evaluateAffected_conducted permits resting evaluates known) ?_
  intro _ updated after later
  obtain ⟨event, built⟩ := buildMovementEvent_returns data affected
  simp only [built, Program.bind_eq, Program.ret_bind]
  refine Program.verified_mono (publish_conducted permits later.clean later.settled ?_) ?_
  · exact Nat.pos_iff_ne_zero.mp (Nat.lt_of_lt_of_le (Nat.pos_of_ne_zero committed) later.commits)
  · intro _ _ _ same
    subst same
    exact later

/-- A movement transaction that is ready to commit. -/
structure Recording (data : MovementCreate) (performedBy : Option UUID)
    (affected : List Inventory) (movement : Movement) (session : Session) (world : World) :
    Prop where
  pairs : affected.map Inventory.pair = data.pairs
  movements : session.movements = [movement]
  values : movement.toMovementValues = data.values performedBy
  applying : ∃ rows, rows.Perm affected ∧ Applying movement.change rows session world

theorem createMovement_conducted (permits : Permits guard allowed) {data : MovementCreate}
    {performedBy : Option UUID} {affected : List Inventory}
    (applied : Applied data performedBy affected session world) :
    Conducted settings request guard allowed
      (fun movement => Recording data performedBy affected movement)
      (createMovement (data.values performedBy)) session world := by
  obtain ⟨rows, perm, applying⟩ := applied.applying
  refine conducted_call permits ?_
  intro current relied valid sound
  refine ⟨⟨applying.history, applying.alerts⟩, fun answer others _ => ⟨fun error _ =>
    Excused.fresh applying.history error, ?_⟩⟩
  intro response after updated executed _ _
  simp only [respond, insertMovement] at executed
  split at executed
  · cases executed
  · split at executed
    · cases executed
    · cases executed
      have later := applying.stable relied
      refine ⟨applied.pairs, by rw [applied.movements]; rfl, rfl, rows, perm, ?_⟩
      exact ⟨later.held, later.objects, later.changed, later.nonnegative, later.unchanged,
        later.history, later.alerts⟩

/-- A movement that has just been committed, with its objects still in the session. -/
structure Posted (data : MovementCreate) (affected : List Inventory) (movement : Movement)
    (session : Session) (world : World) : Prop where
  pairs : affected.map Inventory.pair = data.pairs
  clean : session.Clean
  pending : session.pending = none
  commits : session.commits ≠ 0
  recorded : session.recorded = [movement]
  touched : session.touched ⊆ data.pairs
  lookups : session.lookups = []
  known : ∀ inventory ∈ affected, Known session world inventory

theorem commitMovement_conducted (permits : Permits guard allowed) {data : MovementCreate}
    {performedBy : Option UUID} {affected : List Inventory} {movement : Movement}
    (recording : Recording data performedBy affected movement session world) :
    Conducted settings (.movement data performedBy) guard allowed
      (fun _ => Posted data affected movement) (commitSession []) session world := by
  obtain ⟨rows, perm, applying⟩ := recording.applying
  have held : ∀ pair, (∃ row ∈ rows, row.pair = pair) ↔ pair ∈ data.pairs := by
    intro pair
    rw [← recording.pairs, List.mem_map]
    simp only [perm.mem_iff]
  refine conducted_call permits ?_
  intro current relied valid sound
  have later := applying.stable relied
  refine ⟨.inl ⟨⟨data, performedBy, movement, rfl, recording.movements, recording.values, ?_, ?_⟩,
    rfl⟩, fun answer others _ => ⟨fun error _ => Excused.fresh applying.history error, ?_⟩⟩
  · rw [applying.held]
    exact held
  · rw [applying.held]
    exact later
  · intro response after updated executed _ _
    cases executed
    have history : session.toHistory = {} := applying.history
    have recorded : session.recorded = [] := congrArg History.recorded history
    have touched : session.touched = [] := congrArg History.touched history
    have lookups : session.lookups = [] := congrArg History.lookups history
    refine ⟨recording.pairs, ⟨⟨rfl, rfl, rfl⟩, rfl⟩, rfl, Nat.succ_ne_zero _, ?_, ?_, lookups, ?_⟩
    · simp [recorded, recording.movements]
    · intro pair member
      simp only [touched, applying.held, List.nil_append, List.mem_map] at member
      exact (held pair).mp member
    · intro inventory member
      have owned : inventory ∈ session.rows := applying.held ▸ perm.mem_iff.mpr member
      refine ⟨?_, sound.rows_fit inventory owned, sound.rows_refer inventory owned⟩
      have found := find_pair_of_mem sound.rows_unique owned
      rw [applying.held] at found
      simpa only [Session.object?, applying.objects] using found

theorem recordMovement_conducted (permits : Permits guard allowed) (data : MovementCreate)
    (performedBy : Option UUID) :
    Conducted settings (.movement data performedBy) guard allowed
      (fun movement updated _ => updated.Settled settings ∧ updated.recorded = [movement] ∧
        updated.touched ⊆ updated.lookups.map (·.pair))
      (recordMovement settings data performedBy) {} world := by
  refine conducted_bind _ (getProduct_conducted permits (applying_start world)) ?_
  intro _ _ checked ensured
  obtain ⟨rfl, applying⟩ := ensured
  refine conducted_bind _ (applyMovement_conducted permits data performedBy rfl applying) ?_
  intro affected changed between applied
  refine conducted_bind _ (createMovement_conducted permits applied) ?_
  intro movement audited later recording
  refine conducted_bind _ (commitMovement_conducted permits recording) ?_
  intro _ committed now posted
  have resting : Resting settings committed [] committed := by
    refine ⟨posted.clean, ?_, rfl, Nat.le_refl _, rfl, rfl, by simp⟩
    intro lookup object pending
    rw [posted.pending] at pending
    cases pending
  have evaluates : Request.Evaluates (.movement data performedBy) committed := by
    change committed.recorded ≠ []
    rw [posted.recorded]
    exact List.cons_ne_nil _ _
  refine conducted_bind _ (announceMovement_conducted permits resting posted.commits evaluates
    posted.known) ?_
  intro _ final last done
  refine ⟨done.settled, done.recorded.trans posted.recorded, ?_⟩
  rw [done.touched, done.lookups, posted.lookups, posted.pairs]
  exact posted.touched

/-- A sweep between two pages. -/
structure Sweeping (settings : Settings) (session : Session) : Prop where
  clean : session.Clean
  settled : session.Settled settings
  recorded : session.recorded = []
  touched : session.touched = []
  objects : ∀ object ∈ session.objects, object.Fits

theorem sweepBatch_conducted (permits : Permits guard allowed) {batch : List Inventory}
    {summary : SweepSummary} {fuel : Nat} (sweeping : Sweeping settings session)
    (known : ∀ inventory ∈ batch, Known session world inventory) :
    Conducted settings (.sweep fuel) guard allowed
      (fun _ updated _ => Sweeping settings updated) (sweepBatch settings batch summary)
      session world := by
  induction batch generalizing session world summary with
  | nil => exact sweeping
  | cons inventory rest ih =>
      have resting : Resting settings session [] session :=
        ⟨sweeping.clean, sweeping.settled, rfl, Nat.le_refl _, rfl, rfl, by simp⟩
      have evaluates : Request.Evaluates (.sweep fuel) session :=
        ⟨sweeping.recorded, sweeping.touched⟩
      refine conducted_bind _
        (evaluate_known permits resting evaluates (known inventory (by simp))) ?_
      intro alert updated after ensured
      obtain ⟨later, objects, _, products, warehouses⟩ := ensured
      refine ih ?_ (fun other member =>
        (known other (List.mem_cons_of_mem _ member)).congr objects products warehouses)
      exact ⟨later.clean, later.settled, later.recorded.trans sweeping.recorded,
        later.touched.trans sweeping.touched, fun object member =>
          sweeping.objects object (objects ▸ member)⟩

theorem object?_pair {pair : Pair} {object : Inventory}
    (found : session.object? pair = some object) :
    object ∈ session.objects ∧ object.pair = pair := by
  have same := List.find?_some found
  exact ⟨List.mem_of_find?_eq_some found, by simpa using same⟩

/-- The objects of a page: each is known to the session that loaded it. -/
theorem page_known (valid : world.Valid) (sweeping : Sweeping settings session)
    (order : RowOrder) (skip limit : Nat) {batch : List Inventory}
    (loaded : batch = (((order.arrange world.tables.inventories).drop skip).take limit).map
      (fun row => (session.object? row.pair).getD row)) :
    ∀ inventory ∈ batch, Known { session with objects := batch } world inventory := by
  have pairs : ∀ row : Inventory, ((session.object? row.pair).getD row).pair = row.pair := by
    intro row
    cases found : session.object? row.pair with
    | none => rfl
    | some object => exact (object?_pair found).2
  have unique : (batch.map Inventory.pair).Nodup := by
    rw [loaded, List.map_map]
    rw [show Inventory.pair ∘ (fun row => (session.object? row.pair).getD row) = Inventory.pair from
      funext pairs]
    have arranged := ((order.perm world.tables.inventories).map Inventory.pair).nodup_iff.mpr
      valid.inventories_unique
    refine List.Nodup.sublist (List.Sublist.map _ ?_) arranged
    exact (List.take_sublist _ _).trans (List.drop_sublist _ _)
  intro inventory member
  have stored : ∃ row ∈ world.tables.inventories,
      (session.object? row.pair).getD row = inventory := by
    rw [loaded, List.mem_map] at member
    obtain ⟨row, included, same⟩ := member
    exact ⟨row, (order.perm _).mem_iff.mp (List.mem_of_mem_drop (List.mem_of_mem_take included)),
      same⟩
  obtain ⟨row, committed, rfl⟩ := stored
  refine ⟨?_, ?_, ?_⟩
  · exact find_pair_of_mem unique member
  · cases found : session.object? row.pair with
    | none => exact valid.inventories_fit row committed
    | some object => exact sweeping.objects object (object?_pair found).1
  · rw [pairs]
    exact valid.inventories_refer row committed

theorem sweepPages_conducted (permits : Permits guard allowed) {fuel allowance skip : Nat}
    {summary : SweepSummary} (sweeping : Sweeping settings session) :
    Conducted settings (.sweep fuel) guard allowed
      (fun _ updated _ => Sweeping settings updated)
      (sweepPages settings allowance skip summary) session world := by
  induction allowance generalizing session world skip summary with
  | zero => exact .inl ⟨sweeping.recorded, sweeping.touched, sweeping.settled⟩
  | succ allowance ih =>
      refine conducted_call permits ?_
      intro current relied valid sound
      refine ⟨⟨sweeping.clean, sweeping.settled, ⟨sweeping.recorded, sweeping.touched⟩,
        sweeping.touched⟩, fun answer others _ => ⟨fun error raised => (by cases raised), ?_⟩⟩
      intro batch after updated executed _ _
      simp only [respond, selectInventories, Outcome.done.injEq] at executed
      obtain ⟨loaded, rfl, rfl⟩ := executed
      have known := page_known valid sweeping (answer.order skip) skip batchSize loaded.symm
      rw [loaded]
      have paged : Sweeping settings { session with objects := batch } :=
        ⟨⟨⟨sweeping.clean.rows, sweeping.clean.inserted, sweeping.clean.movements⟩,
          sweeping.clean.alerts⟩, sweeping.settled, sweeping.recorded, sweeping.touched,
          fun object member => (known object member).fits⟩
      by_cases empty : batch = []
      · simp only [Program.ret_bind, if_pos empty]
        exact paged
      · simp only [Program.ret_bind, if_neg empty]
        refine conducted_bind _ (sweepBatch_conducted permits paged known) ?_
        intro summary swept later sweeping
        exact ih sweeping

private theorem resolve_manually (permits : Permits guard allowed) {alert : Alert}
    (clean : session.Clean)
    (known : ∃ stored ∈ world.tables.alerts, stored.id = alert.id) :
    Conducted settings (.resolveAlert alert.id) guard allowed
      (fun _ updated _ => updated.Settled settings ∧ updated.recorded = session.recorded ∧
        updated.touched = session.touched)
      (resolve alert) session world := by
  refine conducted_bind (fun _ updated after => session = updated ∧ session.Rely world after)
    (conducted_quiet permits (fun _ => clean)
      (fun _ _ _ => ⟨_, _, rfl, rfl, rfl⟩) (fun _ _ relied => ⟨rfl, relied⟩)) ?_
  intro now _ later ensured
  obtain ⟨rfl, relied⟩ := ensured
  have known := known_stable relied known
  refine conducted_bind (fun _ updated after => updated.Clean ∧ updated.Settled settings ∧
    updated.recorded = session.recorded ∧ updated.touched = session.touched ∧
    ∃ stored ∈ after.tables.alerts, stored.id = alert.id) (conducted_call permits ?_) ?_
  · intro current relied valid sound
    refine ⟨.inr (.inr ⟨clean, alert.id, now, rfl, rfl⟩), fun answer others _ =>
      ⟨fun error raised => (by cases raised), ?_⟩⟩
    intro response after updated executed _ _
    cases executed
    obtain ⟨stored, committed, same⟩ := known_stable relied known
    refine ⟨⟨⟨rfl, rfl, rfl⟩, rfl⟩, fun _ _ pending => (by cases pending), ?_, ?_, ?_⟩
    · simp [clean.movements]
    · simp [clean.rows]
    · exact ⟨applyChanges [(alert.id, .resolve now)] stored,
        mem_commit_alerts.mpr ⟨stored, .inl committed, rfl⟩, (applyChanges_id stored).trans same⟩
  · intro _ updated after ensured
    obtain ⟨clean, settled, recorded, touched, known⟩ := ensured
    refine Program.verified_mono (refreshAlert_conducted permits clean settled known) ?_
    intro _ _ _ same
    subst same
    exact ⟨settled, recorded, touched⟩

theorem resolveAlert_conducted (permits : Permits guard allowed) (alertId : RowId) :
    Conducted settings (.resolveAlert alertId) guard allowed
      (fun _ updated _ => updated.Settled settings ∧ updated.recorded = [] ∧ updated.touched = [])
      (resolveAlert alertId) {} world := by
  have clean : Session.Clean {} := ⟨⟨rfl, rfl, rfl⟩, rfl⟩
  have settled : Session.Settled settings {} := fun _ _ pending => (by cases pending)
  refine conducted_call permits ?_
  intro current relied valid sound
  refine ⟨⟨clean, settled⟩, fun answer others _ => ⟨fun error raised => (by cases raised), ?_⟩⟩
  intro response after updated executed _ _
  simp only [respond, Outcome.done.injEq] at executed
  obtain ⟨found, rfl, rfl⟩ := executed
  cases response with
  | none => exact Excused.fresh rfl _
  | some alert =>
      obtain rfl : alert.id = alertId := by simpa using List.find?_some found
      have known : ∃ stored ∈ current.tables.alerts, stored.id = alert.id :=
        ⟨alert, List.mem_of_find?_eq_some found, rfl⟩
      by_cases closed : alert.status = .RESOLVED
      · simp only [Program.ret_bind, getByIdOrRaise, if_pos closed]
        exact Excused.fresh rfl _
      · simp only [Program.ret_bind, getByIdOrRaise, if_neg closed]
        refine Program.verified_mono (resolve_manually permits clean known) ?_
        intro _ updated _ ensured
        obtain ⟨resolved, recorded, touched⟩ := ensured
        exact ⟨resolved, recorded, touched⟩

theorem Request.conducted (permits : Permits guard allowed) (request : Request) :
    Conducted settings request guard allowed
      (fun reply updated _ => Concluded settings allowed request (.ok reply) updated.close)
      (request.program settings) {} world := by
  cases request with
  | movement data performedBy =>
      refine conducted_bind _ (recordMovement_conducted permits data performedBy) ?_
      intro movement updated after ensured
      obtain ⟨settled, recorded, touched⟩ := ensured
      exact ⟨settled, touched, movement, rfl, recorded⟩
  | sweep fuel =>
      have fresh : Sweeping settings {} :=
        ⟨⟨⟨rfl, rfl, rfl⟩, rfl⟩, fun _ _ pending => (by cases pending), rfl, rfl, by simp⟩
      refine conducted_bind _ (sweepPages_conducted permits fresh) ?_
      intro summary updated after sweeping
      refine ⟨sweeping.settled, ?_, sweeping.recorded, sweeping.touched⟩
      change updated.touched ⊆ _
      rw [sweeping.touched]
      exact List.nil_subset _
  | resolveAlert alertId =>
      refine conducted_bind _ (resolveAlert_conducted permits alertId) ?_
      intro alert updated after ensured
      obtain ⟨settled, recorded, touched⟩ := ensured
      refine ⟨settled, ?_, recorded, touched⟩
      change updated.touched ⊆ _
      rw [touched]
      exact List.nil_subset _

theorem Application.start_verified (settings : Settings) (permits : Permits guard allowed)
    (valid : world.Valid) (requests : List Request) :
    System.Verified databaseDiscipline guard (Conduct settings) (Concluded settings allowed)
      (Application.start settings world requests) := by
  apply System.start_verified valid (Session.close_sound {} world) Session.fresh_compatible
  intro request _
  exact request.conducted permits

end InventoryManagement
