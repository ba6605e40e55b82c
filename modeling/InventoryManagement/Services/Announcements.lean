import InventoryManagement.Interleaving.Journal
import InventoryManagement.Interleaving.OneCall
import InventoryManagement.Services.Refusals
import InventoryManagement.Services.Replay
import InventoryManagement.Services.Serializability

/-! The published movement events against the commits, however the requests interleave:
which call announces what, and which calls have announced it for certain. -/

set_option autoImplicit false

namespace InventoryManagement

open Interleaving (Guard Journaled Program Reachable Scribe System Thread)
open Postings (Levels level post post_eq_some postAll posted)

/-- The event of a movement that leaves the stock at `levels`. -/
def MovementCreate.event (data : MovementCreate) (levels : Levels Pair Int) :
    Option InventoryEvent :=
  match data.movementType, data.sourceWarehouseId, data.destinationWarehouseId with
  | .IN, _, some destination => some (.stockReceived data.productId destination data.quantity
      (level levels (data.productId, destination)))
  | .OUT, some source, _ => some (.stockRemoved data.productId source data.quantity
      (level levels (data.productId, source)))
  | .TRANSFER, some source, some destination =>
      some (.stockTransferred data.productId source destination data.quantity)
  | _, _, _ => none

/-- The calls of a commit log, each by the position of its thread. -/
abbrev CommitLog := List (Nat × MovementCall)

/-- A run logs the call of every commit that records a movement. -/
def commitLog : Scribe Request Statement Session (Nat × MovementCall) :=
  fun index request session statement =>
    match request, statement, session.movements with
    | .movement data performedBy, .commit _, _ :: _ => [(index, data, performedBy)]
    | _, _, _ => []

/-- What the calls of a log have to announce: each the stock that its own commit left. -/
def announcements (levels : Levels Pair Int) : CommitLog → List (Nat × Option InventoryEvent)
  | [] => []
  | (index, call) :: rest =>
      (index, call.1.event (posted levels call.1.posting)) ::
        announcements (posted levels call.1.posting) rest

/-- Whether the call of a thread has returned. -/
def Application.returned (system : Application) (index : Nat) : Bool :=
  match system.threads[index]? with
  | some ⟨_, .ret _, _⟩ => true
  | _ => false

/-- The commits since `before`. -/
structure CommitsLogged (before : World) (system : Application) (log : CommitLog) : Prop where
  unique : (log.map Prod.fst).Nodup
  calls : ∀ entry ∈ log, ∃ thread, system.threads[entry.1]? = some thread ∧
    thread.label = .movement entry.2.1 entry.2.2
  committed : ∀ index, index ∈ log.map Prod.fst ↔
    ∃ thread, system.threads[index]? = some thread ∧ thread.session.recorded ≠ []
  levels : postAll Integer.fits before.tables.levels (log.map (·.2.1.posting)) =
    some system.shared.tables.levels

/-- The commits since `before`, and how far they have been announced: some of them once
each, among them those of all calls that have returned. -/
structure Announced (before : World) (system : Application) (log : CommitLog) : Prop
    extends CommitsLogged before system log where
  answered : ∀ (index : Nat) data performedBy value session,
    system.threads[index]? = some ⟨.movement data performedBy, .ret value, session⟩ →
      index ∈ log.map Prod.fst
  published : ∃ heard : List (Nat × Option InventoryEvent),
    heard.Sublist (announcements before.tables.levels log) ∧
    (∀ announcement ∈ announcements before.tables.levels log,
      system.returned announcement.1 = true → announcement ∈ heard) ∧
    system.shared.movementEvents.Perm (before.movementEvents ++ heard.filterMap (·.2))

section Events

variable {data : MovementCreate} {levels others : Levels Pair Int} {affected : List Inventory}
variable {log : CommitLog} {index : Nat} {call : MovementCall}

theorem MovementCreate.pairs_ne_nil (data : MovementCreate) : data.pairs ≠ [] := by
  rcases data.warehouses_cases with ⟨_, source, _, destination⟩ | ⟨_, destination, _, source⟩ |
    ⟨_, _, _, source, destination, _⟩ <;>
    simp [MovementPayload.pairs, source, destination]

theorem event_congr (same : ∀ pair ∈ data.pairs, level levels pair = level others pair) :
    data.event levels = data.event others := by
  rcases data.warehouses_cases with ⟨type, source, warehouse, destination⟩ |
    ⟨type, destination, warehouse, source⟩ | ⟨type, left, right, source, destination, _⟩
  · have here := same (data.productId, warehouse) (by simp [MovementPayload.pairs, source, destination])
    simp only [MovementCreate.event, type, destination, here]
  · have here := same (data.productId, warehouse) (by simp [MovementPayload.pairs, source, destination])
    simp only [MovementCreate.event, type, source, here]
  · simp only [MovementCreate.event, type, source, destination]

/-- The event that is built from the affected rows is that of the levels they show. -/
theorem buildMovementEvent_event (pairs : affected.map Inventory.pair = data.pairs)
    (shown : ∀ inventory ∈ affected, levels inventory.pair = some inventory.quantity) :
    ∃ event, buildMovementEvent data affected = .ret event ∧ event.isMovement = true ∧
      data.event levels = some event := by
  rcases data.warehouses_cases with ⟨type, source, warehouse, destination⟩ |
    ⟨type, destination, warehouse, source⟩ | ⟨type, left, right, source, destination, _⟩
  · obtain ⟨inventory, rfl, here⟩ : ∃ inventory, affected = [inventory] ∧
        inventory.pair = (data.productId, warehouse) := by
      simpa [MovementPayload.pairs, source, destination, List.map_eq_singleton_iff] using pairs
    have stored := shown inventory List.mem_cons_self
    refine ⟨_, by simp only [buildMovementEvent, type, destination]; rfl, rfl, ?_⟩
    simp only [MovementCreate.event, type, destination, ← here, level, stored, Option.getD_some]
    rfl
  · obtain ⟨inventory, rfl, here⟩ : ∃ inventory, affected = [inventory] ∧
        inventory.pair = (data.productId, warehouse) := by
      simpa [MovementPayload.pairs, source, destination, List.map_eq_singleton_iff] using pairs
    have stored := shown inventory List.mem_cons_self
    refine ⟨_, by simp only [buildMovementEvent, type, source]; rfl, rfl, ?_⟩
    simp only [MovementCreate.event, type, source, ← here, level, stored, Option.getD_some]
    rfl
  · exact ⟨_, by simp only [buildMovementEvent, type, source, destination]; rfl, rfl,
      by simp only [MovementCreate.event, type, source, destination]⟩

theorem announcements_concat : announcements levels (log ++ [(index, call)]) =
    announcements levels log ++ [(index,
      call.1.event (posted ((log.map (·.2.1.posting)).foldl posted levels) call.1.posting))] := by
  induction log generalizing levels with
  | nil => rfl
  | cons entry rest ih =>
      rw [List.cons_append, announcements, ih]
      rfl

theorem announcements_positions (levels : Levels Pair Int) (log : CommitLog) :
    (announcements levels log).map Prod.fst = log.map Prod.fst := by
  induction log generalizing levels with
  | nil => rfl
  | cons entry rest ih => rw [announcements, List.map_cons, ih, List.map_cons]

end Events

/-! The programs: a movement announces itself once before it returns, and announces what
its session shows. -/

/-- The statement hands a movement event to the publisher. -/
def Statement.announces : Statement → Bool
  | .dispatch event => event.isMovement
  | _ => false

/-- The levels that the inventory objects of a session show. -/
def Session.shown (session : Session) : Levels Pair Int :=
  fun pair => (session.object? pair).map (·.quantity)

/-- A movement that announces itself has been recorded and says what its session shows. -/
def Announcing (request : Request) (statement : Statement) (session : Session)
    (_world : World) : Prop :=
  ∀ event, statement = .dispatch event → event.isMovement = true →
    session.recorded ≠ [] ∧ ∃ data performedBy, request = .movement data performedBy ∧
      data.event session.shown = some event

abbrev Silent {Value : Type} (program : Transaction Value) : Prop :=
  program.Only (fun statement => ¬ statement.announces = true)

/-- Every movement that returns has announced itself, once; nothing else announces one. -/
def Request.AnnouncesOnce (request : Request) (program : Transaction Reply) : Prop :=
  match request with
  | .movement _ _ => program.MakesOnce (fun statement => statement.announces = true)
  | .sweep _ | .resolveAlert _ => Silent program

section Programs

variable {settings : Settings} {world : World} {session : Session} {request : Request}

theorem Statement.silent_of_concernsAlerts {statement : Statement}
    (concerns : statement.concernsAlerts = true) : ¬ statement.announces = true := by
  cases statement with
  | dispatch event => simpa [Statement.concernsAlerts, Statement.announces] using concerns
  | _ => exact Bool.false_ne_true

theorem Statement.silent_of_prepares {statement : Statement}
    (prepares : statement.prepares = true) : ¬ statement.announces = true := by
  cases statement with
  | dispatch event => cases prepares
  | _ => exact Bool.false_ne_true

theorem prepareMovement_silent (data : MovementCreate) (performedBy : Option UUID) :
    Silent (prepareMovement data performedBy) :=
  (prepareMovement_prepares data performedBy).mono fun _ => Statement.silent_of_prepares

theorem commitSession_silent : Silent (commitSession []) := ⟨Bool.false_ne_true, fun _ => trivial⟩

theorem evaluateAffected_silent (settings : Settings) (affected : List Inventory) :
    Silent (evaluateAffected settings affected) :=
  (evaluateAffected_concernsAlerts settings affected).mono fun _ => Statement.silent_of_concernsAlerts

theorem recordMovement_steps (settings : Settings) (data : MovementCreate)
    (performedBy : Option UUID) :
    recordMovement settings data performedBy = (prepareMovement data performedBy).bind
      (fun prepared => (commitSession []).bind (fun _ =>
        (evaluateAffected settings prepared.1).bind (fun _ =>
          (buildMovementEvent data prepared.1).bind (fun event =>
            (publish event).bind (fun _ => .ret prepared.2))))) := by
  simp only [recordMovement_eq, announceMovement, Program.bind_eq, Program.bind_assoc]

theorem buildMovementEvent_isMovement (data : MovementCreate) (affected : List Inventory) :
    ∃ event, buildMovementEvent data affected = .ret event ∧ event.isMovement = true := by
  have values : Movement.toMovementValues { data.values none with id := 0, createdAt := 0 } =
      data.values none := rfl
  obtain ⟨event, built, announces⟩ := buildMovementEvent_announces affected values
  exact ⟨event, built, announces.isMovement⟩

theorem recordMovement_announcesOnce (settings : Settings) (data : MovementCreate)
    (performedBy : Option UUID) : (recordMovement settings data performedBy).MakesOnce
      (fun statement => statement.announces = true) := by
  rw [recordMovement_steps]
  refine Program.makesOnce_bind (prepareMovement_silent data performedBy) (fun prepared => ?_)
  refine Program.makesOnce_bind commitSession_silent (fun _ => ?_)
  refine Program.makesOnce_bind (evaluateAffected_silent settings prepared.1) (fun _ => ?_)
  obtain ⟨event, built, movement⟩ := buildMovementEvent_isMovement data prepared.1
  rw [built]
  -- once the event is handed over, only its handlers are waited for
  exact fun _ => ⟨fun _ => ⟨Bool.false_ne_true, fun _ => trivial⟩, fun silent => absurd movement silent⟩

theorem request_announcesOnce (settings : Settings) (request : Request) :
    request.AnnouncesOnce (request.program settings) := by
  cases request with
  | movement data performedBy =>
      exact Program.makesOnce_map (recordMovement_announcesOnce settings data performedBy)
  | sweep fuel =>
      exact (request_concernsAlerts settings (.sweep fuel) (fun _ _ same => by cases same)).mono
        fun _ => Statement.silent_of_concernsAlerts
  | resolveAlert alertId =>
      exact (request_concernsAlerts settings (.resolveAlert alertId) (fun _ _ same => by cases same)).mono
        fun _ => Statement.silent_of_concernsAlerts

abbrev Announcer {Value : Type} (request : Request) (returns : Value → Session → World → Prop)
    (program : Transaction Value) (session : Session) (world : World) : Prop :=
  program.Verified databaseDiscipline Guard.unrestricted (Announcing request) returns
    (fun _ _ => True) session world

variable (settings) in
theorem announcer_of_silent {Value : Type} {program : Transaction Value}
    {returns : Value → Session → World → Prop}
    (conducted : Conducted settings request Guard.unrestricted (fun _ _ => True) returns program
      session world)
    (silent : Silent program) : Announcer request returns program session world := by
  refine Program.verified_raises (Program.verified_requires (Program.verified_only conducted silent)
    ?_) (fun _ _ _ => trivial)
  intro statement current after called event same movement
  subst same
  exact absurd movement called.2

theorem announcer_bind {Value Result : Type} {program : Transaction Value}
    {next : Value → Transaction Result} {returns : Result → Session → World → Prop}
    (middle : Value → Session → World → Prop)
    (first : Announcer request middle program session world)
    (second : ∀ value session world, middle value session world →
      Announcer request returns (next value) session world) :
    Announcer request returns (program.bind next) session world :=
  Program.verified_bind (Program.verified_mono first second)

theorem recordMovement_announcer (settings : Settings) (data : MovementCreate)
    (performedBy : Option UUID) (world : World) :
    Announcer (.movement data performedBy) (fun _ _ _ => True)
      (recordMovement settings data performedBy) {} world := by
  rw [recordMovement_steps]
  refine announcer_bind _ (announcer_of_silent settings
    (prepareMovement_conducted settings world permits_unrestricted data performedBy)
    (prepareMovement_silent data performedBy)) ?_
  intro prepared ready now recording
  refine announcer_bind _ (announcer_of_silent settings
    (commitMovement_conducted permits_unrestricted recording) commitSession_silent) ?_
  intro _ committed later posted
  have evaluates : Request.Evaluates (.movement data performedBy) committed := by
    change committed.recorded ≠ []
    rw [posted.recorded]
    exact List.cons_ne_nil _ _
  refine announcer_bind _ (announcer_of_silent settings
    (evaluateAffected_conducted permits_unrestricted (posted_resting posted) evaluates
      posted.known) (evaluateAffected_silent settings prepared.1)) ?_
  intro _ updated last rested
  have objects : ∀ pair, updated.object? pair = committed.object? pair := by
    intro pair
    rw [Session.object?, rested.objects, Session.object?]
  have shown : ∀ inventory ∈ prepared.1, updated.shown inventory.pair = some inventory.quantity := by
    intro inventory member
    rw [Session.shown, objects, (posted.known inventory member).object, Option.map_some]
  obtain ⟨event, built, _, announced⟩ := buildMovementEvent_event posted.pairs shown
  rw [built]
  intro current _ _ _
  refine ⟨?_, fun _ _ _ => ⟨fun _ _ => trivial, fun _ after updated _ _ _ => ?_⟩⟩
  rotate_left
  · intro current _ _ _
    refine ⟨?_, fun _ _ _ => ⟨fun _ _ => trivial, fun _ _ _ _ _ _ => trivial⟩⟩
    intro _ same
    cases same
  intro other same _
  cases same
  refine ⟨?_, data, performedBy, rfl, announced⟩
  rw [rested.recorded]
  exact evaluates

theorem request_announcer (settings : Settings) (request : Request) (world : World) :
    Announcer request (fun _ _ _ => True) (request.program settings) {} world := by
  have silent : Silent (request.program settings) →
      Announcer request (fun _ _ _ => True) (request.program settings) {} world := by
    intro silent
    exact Program.verified_mono (announcer_of_silent settings (request.conducted permits_unrestricted) silent)
      (fun _ _ _ _ => trivial)
  cases request with
  | movement data performedBy =>
      exact announcer_bind _ (recordMovement_announcer settings data performedBy world)
        (fun _ _ _ _ => trivial)
  | sweep fuel => exact silent (request_announcesOnce settings (.sweep fuel))
  | resolveAlert alertId => exact silent (request_announcesOnce settings (.resolveAlert alertId))

end Programs

/-! The runs. -/

theorem filter_grown {Item Key : Type} (key : Item → Key) {items : List Item} {item : Item}
    (unique : (items.map key).Nodup) (member : item ∈ items) {before after : Key → Bool}
    (same : ∀ other, other ≠ key item → after other = before other)
    (absent : before (key item) = false) (present : after (key item) = true) :
    (items.filter (fun item => after (key item))).Perm
      (items.filter (fun item => before (key item)) ++ [item]) := by
  induction items with
  | nil => cases member
  | cons head rest ih =>
      obtain ⟨fresh, unique⟩ := List.nodup_cons.mp unique
      rcases List.mem_cons.mp member with rfl | later
      · have others : rest.filter (fun item => after (key item)) =
            rest.filter (fun item => before (key item)) := by
          apply List.filter_congr
          intro other among
          exact same _ fun equal => fresh (equal ▸ List.mem_map_of_mem among)
        simp only [List.filter_cons, present, absent, if_true, others, Bool.false_eq_true, if_false]
        exact (List.perm_append_singleton _ _).symm
      · have different : key head ≠ key item := fun equal =>
          fresh (equal ▸ List.mem_map_of_mem later)
        have kept := same _ different
        cases listed : before (key head) with
        | true =>
            simp only [List.filter_cons, kept, listed, if_true, List.cons_append]
            exact (ih unique later).cons head
        | false =>
            simp only [List.filter_cons, kept, listed, Bool.false_eq_true, if_false]
            exact ih unique later

/-- The events of the calls that are `heard`. -/
def heardEvents (heard : Nat → Bool) (levels : Levels Pair Int) (log : CommitLog) :
    List InventoryEvent :=
  ((announcements levels log).filter (fun announcement => heard announcement.1)).filterMap (·.2)

/-- What holds on top of `CommitsLogged` while calls are under way: some of the committed
ones are `heard`, all others have their announcement still to make, and every session shows
what its call announces. -/
structure Underway (before : World) (system : Application) (log : CommitLog)
    (heard : Nat → Bool) : Prop extends CommitsLogged before system log where
  published : system.shared.movementEvents.Perm
    (before.movementEvents ++ heardEvents heard before.tables.levels log)
  recorded : ∀ index, heard index = true → index ∈ log.map Prod.fst
  nonnegative : ∀ pair, 0 ≤ system.shared.tables.quantity pair
  announcing : ∀ (index : Nat) thread, system.threads[index]? = some thread →
    heard index = false → thread.label.AnnouncesOnce thread.program
  announced : ∀ (index : Nat) thread, system.threads[index]? = some thread →
    heard index = true → Silent thread.program
  shown : ∀ announcement ∈ announcements before.tables.levels log, ∀ thread,
    system.threads[announcement.1]? = some thread → thread.finished = false →
    ∀ data performedBy, thread.label = .movement data performedBy →
      data.event thread.session.shown = announcement.2
  touched : ∀ (index : Nat) thread, system.threads[index]? = some thread →
    thread.session.recorded ≠ [] → thread.session.touched ≠ []

section Runs

variable {settings : Settings} {before : World} {requests : List Request} {system : Application}
variable {log : CommitLog} {heard : Nat → Bool} {index : Nat} {call : MovementCall} {shared : World}
variable {thread moved : Thread Request Statement Statement.Response Exception Session Reply}

theorem set_found (found : system.threads[index]? = some thread) :
    (system.threads.set index moved)[index]? = some moved :=
  List.getElem?_set_self (List.getElem?_eq_some_iff.mp found).choose

theorem CommitsLogged.calls_set (logged : CommitsLogged before system log)
    (found : system.threads[index]? = some thread) (label : moved.label = thread.label) :
    ∀ entry ∈ log, ∃ caller, (system.threads.set index moved)[entry.1]? = some caller ∧
      caller.label = .movement entry.2.1 entry.2.2 := by
  intro entry listed
  obtain ⟨caller, stored, asked⟩ := logged.calls entry listed
  by_cases same : entry.1 = index
  · rw [same, found] at stored
    cases stored
    exact ⟨moved, by rw [same, set_found found], label.trans asked⟩
  · exact ⟨caller, (List.getElem?_set_ne (Ne.symm same)).trans stored, asked⟩

theorem CommitsLogged.committed_set (logged : CommitsLogged before system log)
    (found : system.threads[index]? = some thread)
    (recorded : moved.session.recorded = thread.session.recorded) (other : Nat) :
    other ∈ log.map Prod.fst ↔ ∃ caller, (system.threads.set index moved)[other]? = some caller ∧
      caller.session.recorded ≠ [] := by
  rw [logged.committed]
  by_cases same : other = index
  · rw [same, set_found found, found]
    simp [recorded]
  · rw [List.getElem?_set_ne (Ne.symm same)]

theorem CommitsLogged.fresh (logged : CommitsLogged before system log)
    (found : system.threads[index]? = some thread) (unrecorded : thread.session.recorded = []) :
    index ∉ log.map Prod.fst := by
  rw [logged.committed]
  rintro ⟨caller, stored, committed⟩
  rw [found] at stored
  cases stored
  exact committed unrecorded

theorem mem_positions {levels : Levels Pair Int} {announcement : Nat × Option InventoryEvent}
    (listed : announcement ∈ announcements levels log) : announcement.1 ∈ log.map Prod.fst := by
  rw [← announcements_positions levels log]
  exact List.mem_map_of_mem listed

/-- What a session with a call still to make shows is what it has to announce. -/
theorem Underway.shown_set (underway : Underway before system log heard)
    (found : system.threads[index]? = some thread) (working : thread.finished = false)
    (label : moved.label = thread.label)
    (objects : moved.finished = false → thread.session.recorded ≠ [] →
      moved.session.shown = thread.session.shown) :
    ∀ announcement ∈ announcements before.tables.levels log, ∀ caller,
      (system.threads.set index moved)[announcement.1]? = some caller → caller.finished = false →
      ∀ data performedBy, caller.label = .movement data performedBy →
        data.event caller.session.shown = announcement.2 := by
  intro announcement listed caller stored running data performedBy asked
  rcases System.step_threads stored with ⟨same, rfl⟩ | ⟨_, unmoved⟩
  · obtain ⟨committed, stored, recorded⟩ :=
      (underway.committed index).mp (same ▸ mem_positions listed)
    rw [found] at stored
    cases stored
    rw [objects running recorded]
    exact underway.shown announcement listed thread (same ▸ found) working data performedBy
      (label.symm.trans asked)
  · exact underway.shown announcement listed caller unmoved running data performedBy asked

theorem Underway.announcing_set {now : Nat → Bool} (underway : Underway before system log heard)
    (others : ∀ position, position ≠ index → now position = heard position)
    (announces : now index = false → moved.label.AnnouncesOnce moved.program) :
    ∀ (position : Nat) caller, (system.threads.set index moved)[position]? = some caller →
      now position = false → caller.label.AnnouncesOnce caller.program := by
  intro position caller stored unheard
  rcases System.step_threads stored with ⟨rfl, rfl⟩ | ⟨different, unmoved⟩
  · exact announces unheard
  · exact underway.announcing position caller unmoved ((others position different).symm.trans unheard)

theorem Underway.announced_set {now : Nat → Bool} (underway : Underway before system log heard)
    (others : ∀ position, position ≠ index → now position = heard position)
    (silent : now index = true → Silent moved.program) :
    ∀ (position : Nat) caller, (system.threads.set index moved)[position]? = some caller →
      now position = true → Silent caller.program := by
  intro position caller stored spoken
  rcases System.step_threads stored with ⟨rfl, rfl⟩ | ⟨different, unmoved⟩
  · exact silent spoken
  · exact underway.announced position caller unmoved ((others position different).symm.trans spoken)

theorem Underway.touched_set (underway : Underway before system log heard)
    (touched : moved.session.recorded ≠ [] → moved.session.touched ≠ []) :
    ∀ (position : Nat) caller, (system.threads.set index moved)[position]? = some caller →
      caller.session.recorded ≠ [] → caller.session.touched ≠ [] := by
  intro position caller stored
  rcases System.step_threads stored with ⟨_, rfl⟩ | ⟨_, unmoved⟩
  · exact touched
  · exact underway.touched position caller unmoved

/-- A step that neither commits nor announces a movement. -/
theorem Underway.keep (underway : Underway before system log heard)
    (found : system.threads[index]? = some thread) (working : thread.finished = false)
    (label : moved.label = thread.label)
    (recorded : moved.session.recorded = thread.session.recorded)
    (touched : moved.session.touched = thread.session.touched)
    (inventories : shared.tables.inventories = system.shared.tables.inventories)
    (silent : shared.movementEvents = system.shared.movementEvents)
    (announces : heard index = false → moved.label.AnnouncesOnce moved.program)
    (announced : heard index = true → Silent moved.program)
    (objects : moved.finished = false → thread.session.recorded ≠ [] →
      moved.session.shown = thread.session.shown) :
    Underway before ⟨shared, system.threads.set index moved⟩ log heard where
  unique := underway.unique
  calls := underway.calls_set found label
  committed := underway.committed_set found recorded
  levels := by rw [underway.levels, levels_same inventories]
  published := (List.Perm.of_eq silent).trans underway.published
  recorded := underway.recorded
  nonnegative := by
    intro pair
    rw [Tables.quantity, Tables.inventoriesOf, inventories]
    exact underway.nonnegative pair
  announcing := underway.announcing_set (fun _ _ => rfl) announces
  announced := underway.announced_set (fun _ _ => rfl) announced
  shown := underway.shown_set found working label objects
  touched := underway.touched_set (by
    rw [recorded, touched]
    exact underway.touched index thread found)

/-- With a movement that announces itself one more committed call is heard. -/
theorem Underway.announce {label : Request} {event : InventoryEvent}
    {next : (Statement.dispatch event).Response → Transaction Reply} {session : Session}
    (underway : Underway before system log heard)
    (found : system.threads[index]? = some ⟨label, .call (.dispatch event) next, session⟩)
    (unheard : heard index = false) (movement : event.isMovement = true)
    (announcing : Announcing label (.dispatch event) session system.shared)
    (tables : shared.tables = system.shared.tables)
    (published : shared.published = system.shared.published ++ [event])
    (same : moved.label = label) (recorded : moved.session.recorded = session.recorded)
    (touched : moved.session.touched = session.touched)
    (objects : moved.finished = false → moved.session.shown = session.shown)
    (announced : Silent moved.program) :
    Underway before ⟨shared, system.threads.set index moved⟩ log
      (Function.update heard index true) := by
  obtain ⟨committed, data, performedBy, asked, shows⟩ := announcing event rfl movement
  have logged := (underway.committed index).mpr ⟨_, found, committed⟩
  have position := logged
  rw [← announcements_positions before.tables.levels log] at position
  obtain ⟨announcement, listed, rfl⟩ := List.mem_map.mp position
  have said : announcement.2 = some event :=
    (underway.shown announcement listed _ found rfl data performedBy asked).symm.trans shows
  have others : ∀ other, other ≠ announcement.1 →
      Function.update heard announcement.1 true other = heard other :=
    fun other different => Function.update_of_ne different _ _
  refine ⟨⟨underway.unique, underway.calls_set found same, underway.committed_set found recorded,
    ?_⟩, ?_, ?_, ?_, underway.announcing_set others ?_, underway.announced_set others fun _ => announced,
    underway.shown_set found rfl same fun running _ => objects running, underway.touched_set ?_⟩
  · rw [underway.levels, tables]
  · have unique : ((announcements before.tables.levels log).map Prod.fst).Nodup := by
      rw [announcements_positions]
      exact underway.unique
    have grown := filter_grown Prod.fst unique listed others unheard (Function.update_self ..)
    have events := grown.filterMap (·.2)
    rw [List.filterMap_append, List.filterMap_cons_some said, List.filterMap_nil] at events
    have longer : World.movementEvents shared = system.shared.movementEvents ++ [event] := by
      simp [World.movementEvents, published, List.filter_append, movement]
    change (World.movementEvents shared).Perm _
    rw [longer]
    refine (underway.published.append_right [event]).trans ?_
    rw [List.append_assoc]
    exact List.Perm.append_left _ events.symm
  · intro other spoken
    by_cases moves : other = announcement.1
    · exact moves ▸ logged
    · exact underway.recorded other ((others other moves).symm.trans spoken)
  · intro pair
    rw [tables]
    exact underway.nonnegative pair
  · rw [Function.update_self]
    exact fun unspoken => by cases unspoken
  · rw [recorded, touched]
    exact underway.touched _ _ found

theorem MovementCommit.shown {request : Request} {dirty : List (RowId × AlertChange)}
    {session : Session} {world : World} {data : MovementCreate} {performedBy : Option UUID}
    (commits : MovementCommit request dirty session world) (sound : session.Sound world)
    (asked : request = .movement data performedBy) {pair : Pair} (named : pair ∈ data.pairs) :
    session.shown pair = (world.tables.commit session dirty).levels pair := by
  obtain ⟨other, _, _, same, _, _, rows, applying⟩ := commits.request
  rw [asked] at same
  cases same
  obtain ⟨row, held, rfl⟩ := (rows pair).mpr named
  have stored : session.row? row.pair = some row := find_pair_of_mem sound.rows_unique held
  rw [Session.shown, Session.object?, applying.objects, ← Session.row?, stored, Tables.levels,
    Tables.inventoriesOf_commit sound, stored]
  rfl

/-- A call that has committed nothing before adds one entry to the log. -/
theorem CommitsLogged.grow (logged : CommitsLogged before system log)
    (found : system.threads[index]? = some thread) (unrecorded : thread.session.recorded = [])
    (asked : moved.label = .movement call.1 call.2) (recorded : moved.session.recorded ≠ [])
    (label : moved.label = thread.label)
    (posts : post Integer.fits system.shared.tables.levels call.1.posting =
      some shared.tables.levels) :
    CommitsLogged before ⟨shared, system.threads.set index moved⟩ (log ++ [(index, call)]) := by
  have fresh : index ∉ log.map Prod.fst := logged.fresh found unrecorded
  refine ⟨?_, ?_, ?_, ?_⟩
  · rw [List.map_append, List.nodup_append]
    refine ⟨logged.unique, List.nodup_singleton _, ?_⟩
    intro position listed last single equal
    rw [List.map_singleton, List.mem_singleton] at single
    rw [equal, single] at listed
    exact fresh listed
  · intro entry listed
    rcases List.mem_append.mp listed with earlier | last
    · exact logged.calls_set found label entry earlier
    · rw [List.mem_singleton] at last
      subst last
      exact ⟨moved, set_found found, asked⟩
  · intro other
    rw [List.map_append, List.mem_append]
    by_cases here : other = index
    · rw [here, set_found found]
      simp [recorded]
    · have before := logged.committed other
      simp only [List.getElem?_set_ne (Ne.symm here), ← before]
      simp [here]
  · rw [List.map_append, List.map_singleton, Postings.postAll_concat, logged.levels,
      Option.bind_some, posts]

theorem Underway.commit {dirty : List (RowId × AlertChange)} {label : Request}
    {statement : Statement} {next : statement.Response → Transaction Reply} {session : Session}
    (underway : Underway before system log heard)
    (valid : system.shared.Valid) (sound : session.Sound system.shared)
    (found : system.threads[index]? = some ⟨label, .call statement next, session⟩)
    (commits : MovementCommit label dirty session system.shared)
    (tables : shared.tables = system.shared.tables.commit session dirty)
    (silent : shared.movementEvents = system.shared.movementEvents)
    (same : moved.label = label)
    (recorded : moved.session.recorded = session.recorded ++ session.movements)
    (touched : moved.session.touched = session.touched ++ session.rows.map Inventory.pair)
    (announces : heard index = false → moved.label.AnnouncesOnce moved.program)
    (objects : moved.finished = false → moved.session.shown = session.shown) :
    Underway before ⟨shared, system.threads.set index moved⟩
      (log ++ commitLog index label session (.commit dirty)) heard := by
  obtain ⟨call, movement, asked, movements, values, posts⟩ :=
    commits.posts sound valid underway.nonnegative
  have unrecorded : session.recorded = [] := by
    obtain ⟨_, _, _, _, _, _, _, applying⟩ := commits.request
    exact congrArg History.recorded applying.history
  have fresh : index ∉ log.map Prod.fst := underway.fresh found unrecorded
  have current := Postings.postAll_foldl underway.levels
  obtain ⟨_, left⟩ := post_eq_some.mp posts
  have entry : commitLog index label session (.commit dirty) = [(index, call)] := by
    simp only [commitLog, asked, movements]
  have unheard : heard index = false :=
    Bool.eq_false_iff.mpr fun spoken => fresh (underway.recorded index spoken)
  rw [entry]
  refine ⟨underway.grow found unrecorded (same.trans asked) ?_ same (by rw [tables]; exact posts), ?_,
    ?_, ?_, underway.announcing_set (fun _ _ => rfl) announces,
    underway.announced_set (fun _ _ => rfl) ?_, ?_, underway.touched_set ?_⟩
  · rw [recorded, movements]
    exact List.append_ne_nil_of_right_ne_nil _ (List.cons_ne_nil _ _)
  · have same : heardEvents heard before.tables.levels (log ++ [(index, call)]) =
        heardEvents heard before.tables.levels log := by
      rw [heardEvents, announcements_concat, List.filter_append, List.filter_cons,
        if_neg (by rw [unheard]; exact Bool.false_ne_true), List.filter_nil, List.append_nil]
      rfl
    rw [same]
    exact (List.Perm.of_eq silent).trans underway.published
  · intro position spoken
    rw [List.map_append, List.mem_append]
    exact .inl (underway.recorded position spoken)
  · intro pair
    rw [tables]
    obtain ⟨_, _, quantity⟩ := commits.quantity sound
    exact (quantity pair).2 (underway.nonnegative pair)
  · rw [unheard]
    exact fun spoken => by cases spoken
  · intro announcement listed caller stored running data performedBy named
    rw [announcements_concat, List.mem_append, List.mem_singleton] at listed
    rcases listed with earlier | rfl
    · exact underway.shown_set found rfl same (fun running _ => objects running) announcement earlier
        caller stored running data performedBy named
    · rw [set_found found] at stored
      cases stored
      rw [same, asked] at named
      cases named
      rw [objects running]
      apply event_congr
      intro pair affects
      rw [level, level, commits.shown sound asked affects, current, left]
  · intro _ untouched
    rw [touched, List.append_eq_nil_iff, List.map_eq_nil_iff] at untouched
    obtain ⟨data, _, _, _, _, _, rows, _⟩ := commits.request
    obtain ⟨pair, named⟩ := List.exists_mem_of_ne_nil _ data.pairs_ne_nil
    obtain ⟨row, held, _⟩ := (rows pair).mpr named
    rw [untouched.2] at held
    cases held

/-- Next to their conduct, requests announce what their sessions show. -/
def Dutiful (settings : Settings) (request : Request) (statement : Statement) (session : Session)
    (world : World) : Prop :=
  Conduct settings request statement session world ∧ Announcing request statement session world

theorem Application.start_dutiful (settings : Settings) (valid : before.Valid)
    (requests : List Request) :
    System.Verified databaseDiscipline Guard.unrestricted (Dutiful settings) (fun _ _ _ => True)
      (Application.start settings before requests) := by
  apply System.start_verified valid (Session.close_sound {} before) Session.fresh_compatible
  intro request _
  have conducted : Conducted settings request Guard.unrestricted (fun _ _ => True) _
      (request.program settings) {} before := request.conducted permits_unrestricted
  have both := Program.verified_and conducted (request_announcer settings request before)
  exact Program.verified_raises (Program.verified_mono both (fun _ _ _ _ => trivial))
    (fun _ _ _ => trivial)

theorem Application.start_underway (settings : Settings) (requests : List Request)
    (nonnegative : ∀ pair, 0 ≤ before.tables.quantity pair) :
    Underway before (Application.start settings before requests) [] (fun _ => false) := by
  have fresh : ∀ (index : Nat) thread,
      (Application.start settings before requests).threads[index]? = some thread →
        thread.session = {} :=
    fun _ _ found => Application.start_session (List.mem_of_getElem? found)
  refine ⟨⟨List.nodup_nil, by simp, ?_, rfl⟩, List.Perm.of_eq (List.append_nil _).symm,
    (fun _ spoken => by cases spoken), nonnegative, ?_, (fun _ _ _ spoken => by cases spoken),
    by simp [announcements], ?_⟩
  · intro index
    simp only [List.map_nil, List.not_mem_nil, false_iff, not_exists, not_and, not_not]
    intro thread found
    rw [fresh index thread found]
  · intro index thread found _
    obtain ⟨request, _, rfl⟩ := List.mem_map.mp (List.mem_of_getElem? found)
    rw [Thread.settle_label, Thread.settle_program]
    exact request_announcesOnce settings request
  · intro index thread found
    rw [fresh index thread found]
    exact fun recorded => absurd rfl recorded

theorem Request.AnnouncesOnce.next {label : Request} {statement : Statement}
    {next : statement.Response → Transaction Reply}
    (once : label.AnnouncesOnce (.call statement next)) (silent : ¬ statement.announces = true)
    (response : statement.Response) : label.AnnouncesOnce (next response) := by
  cases label with
  | movement data performedBy => exact (once response).2 silent
  | sweep fuel => exact once.2 response
  | resolveAlert alertId => exact once.2 response

theorem Request.AnnouncesOnce.raise (label : Request) (error : Exception) :
    label.AnnouncesOnce (.raise error) := by
  cases label <;> trivial

theorem respond_silent {statement : Statement} {answer : Answer} {others : List Session}
    {world after : World} {session updated : Session} {response : statement.Response}
    (silent : ¬ statement.announces = true)
    (executed : respond statement answer others world session = .done response after updated) :
    after.movementEvents = world.movementEvents := by
  have same : after.published = world.published → after.movementEvents = world.movementEvents := by
    intro published
    rw [World.movementEvents, published, World.movementEvents]
  cases statement
  case dispatch event =>
    cases executed
    simp only [Statement.announces, Bool.not_eq_true] at silent
    simp [World.movementEvents, List.filter_append, silent]
  all_goals
    simp only [respond, selectInventoryForUpdate, insertInventory, updateInventory, insertMovement,
      commit, insertAlert, selectActiveAlerts, refreshAlert, selectInventories, gather, delay] at executed
    (repeat' split at executed) <;> cases executed <;> exact same rfl

/-- After the commit of its movement a call loads no inventory object anew. -/
theorem respond_shown {request : Request} {statement : Statement} {answer : Answer}
    {others : List Session} {world after : World} {session updated : Session}
    {response : statement.Response} (conduct : Conduct settings request statement session world)
    (recorded : session.recorded ≠ []) (touched : session.touched ≠ [])
    (executed : respond statement answer others world session = .done response after updated) :
    updated.shown = session.shown := by
  have same : updated.objects = session.objects → updated.shown = session.shown := by
    intro objects
    funext pair
    rw [Session.shown, Session.object?, objects, Session.shown, Session.object?]
  have uncommitted : session.toHistory = {} → False :=
    fun history => recorded (congrArg History.recorded history)
  cases statement
  case selectInventories => exact absurd conduct.2.2.2 touched
  case selectInventoryForUpdate | insertInventory | updateInventory =>
    exact (uncommitted conduct.1).elim
  all_goals
    simp only [respond, insertMovement, commit, insertAlert, selectActiveAlerts, refreshAlert,
      dispatch, gather, delay] at executed
    (repeat' split at executed) <;> cases executed <;> exact same rfl

theorem commitLog_other {label : Request} {session : Session} {statement : Statement}
    (uncommitted : ∀ dirty, statement ≠ .commit dirty) :
    commitLog index label session statement = [] := by
  cases label <;> cases statement <;> first | rfl | exact absurd rfl (uncommitted _)

theorem commitLog_unlocked {label : Request} {session : Session} {statement : Statement}
    (unlocked : session.Unlocked) : commitLog index label session statement = [] := by
  cases label <;> cases statement <;> simp only [commitLog, unlocked.movements]

/-- One step of a run: a commit is logged, an announcement is heard, and nothing else
changes either. -/
theorem Underway.step {answer : Answer} {label : Request} {statement : Statement}
    {next : statement.Response → Transaction Reply} {session updated : Session}
    {response : statement.Response} (underway : Underway before system log heard)
    (turn : System.Turn databaseDiscipline Guard.unrestricted (Dutiful settings) (fun _ _ _ => True)
      system index answer label statement next session)
    (executed : environment.execute statement answer (system.others index) system.shared session =
      .done response shared updated) :
    ∃ now, Underway before
      ⟨shared, system.threads.set index (Thread.settle environment ⟨label, next response, updated⟩)⟩
      (log ++ commitLog index label session statement) now := by
  have answered := execute_done executed
  have program : (Thread.settle environment ⟨label, next response, updated⟩).program =
      next response := Thread.settle_program
  have recorded : (Thread.settle environment ⟨label, next response, updated⟩).session.recorded =
      updated.recorded :=
    congrArg History.recorded settle_history
  have touched : (Thread.settle environment ⟨label, next response, updated⟩).session.touched =
      updated.touched :=
    congrArg History.touched settle_history
  have objects : (Thread.settle environment ⟨label, next response, updated⟩).finished = false →
      session.recorded ≠ [] →
      (Thread.settle environment ⟨label, next response, updated⟩).session.shown =
        session.shown := by
    intro running committed
    rw [Thread.settle_running running]
    exact respond_shown turn.required.1 committed
      (underway.touched index _ turn.found committed) answered
  have announced : heard index = true → Silent (.call statement next) :=
    underway.announced index _ turn.found
  by_cases announces : statement.announces = true
  · cases statement with
    | dispatch event =>
        obtain ⟨committed, data, performedBy, rfl, _⟩ := turn.required.2 event rfl announces
        have unheard : heard index = false :=
          Bool.eq_false_iff.mpr fun spoken => (announced spoken).1 announces
        have once := underway.announcing index _ turn.found unheard
        cases answered
        rw [commitLog_other (fun _ same => by cases same), List.append_nil]
        refine ⟨_, underway.announce turn.found unheard announces turn.required.2 rfl rfl
          Thread.settle_label recorded touched (fun running => objects running committed) ?_⟩
        rw [program]
        exact (once ()).1 announces
    | _ => exact absurd announces Bool.false_ne_true
  have silent := respond_silent announces answered
  have announcesAfter : heard index = false → Request.AnnouncesOnce
      (Thread.settle environment ⟨label, next response, updated⟩).label
      (Thread.settle environment ⟨label, next response, updated⟩).program := by
    intro unheard
    rw [Thread.settle_label, program]
    exact (underway.announcing index _ turn.found unheard).next announces response
  have announcedAfter : heard index = true →
      Silent (Thread.settle environment ⟨label, next response, updated⟩).program := by
    intro spoken
    rw [program]
    exact (announced spoken).2 response
  refine ⟨heard, ?_⟩
  by_cases commits : ∃ dirty, statement = .commit dirty
  · obtain ⟨dirty, rfl⟩ := commits
    simp only [respond, InventoryManagement.commit] at answered
    split at answered
    · cases answered
    · cases answered
      rcases Conduct.commit_cases turn.required.1 with movement | unlocked
      · exact underway.commit turn.verified.valid (turn.verified.sound _ _ turn.found) turn.found
          movement rfl silent Thread.settle_label recorded touched announcesAfter
          (fun running => by rw [Thread.settle_running running]; rfl)
      · obtain ⟨inventories, _⟩ := unlocked.commit_stock system.shared.tables dirty
        rw [commitLog_unlocked unlocked, List.append_nil]
        exact underway.keep turn.found rfl Thread.settle_label
          (recorded.trans (by simp [unlocked.movements])) (touched.trans (by simp [unlocked.rows]))
          inventories silent announcesAfter announcedAfter objects
  · rw [commitLog_other (fun dirty same => commits ⟨dirty, same⟩), List.append_nil]
    obtain ⟨tables, _, same, kept⟩ :=
      respond_uncommitted (fun dirty same => commits ⟨dirty, same⟩) answered
    exact underway.keep turn.found rfl Thread.settle_label (recorded.trans same)
      (touched.trans kept) (by rw [tables]) silent announcesAfter announcedAfter objects

/-- At every point of a run some of the commits so far are announced, and the calls that
have announced theirs do not do so again. -/
theorem Application.underway (valid : before.Valid)
    (nonnegative : ∀ pair, 0 ≤ before.tables.quantity pair)
    (journaled : Journaled environment Guard.unrestricted commitLog
      (Application.start settings before requests) system log) :
    ∃ heard, Underway before system log heard := by
  refine System.Verified.journaled (fun system log => ∃ heard, Underway before system log heard)
    (Application.start_dutiful settings valid requests)
    ⟨_, Application.start_underway settings requests nonnegative⟩ ?_ ?_ journaled
  · rintro system log index answer label statement next session error turn ⟨heard, underway⟩ _
    refine ⟨heard, underway.keep turn.found rfl rfl rfl rfl rfl rfl ?_ ?_ ?_⟩
    · exact fun _ => .raise label error
    · exact fun _ => trivial
    · intro running
      cases running
  · rintro system log index answer label statement next session response shared updated turn
      ⟨heard, underway⟩ executed
    exact underway.step turn executed

/-- A movement that has returned is among the calls that have announced theirs. -/
theorem Underway.answered {data : MovementCreate} {performedBy : Option UUID} {value : Reply}
    {session : Session} (underway : Underway before system log heard)
    (found : system.threads[index]? = some ⟨.movement data performedBy, .ret value, session⟩) :
    heard index = true := by
  by_contra unheard
  exact underway.announcing index _ found (Bool.eq_false_iff.mpr unheard)

theorem Underway.returned (underway : Underway before system log heard)
    (listed : index ∈ log.map Prod.fst) (returned : system.returned index = true) :
    heard index = true := by
  obtain ⟨entry, among, rfl⟩ := List.mem_map.mp listed
  obtain ⟨⟨label, program, session⟩, found, asked⟩ := underway.calls entry among
  rw [Application.returned, found] at returned
  cases asked
  cases program <;> cases returned
  exact underway.answered found

end Runs

/-- However requests interleave and whatever fails, the movement events published so far
are those of calls that have committed, at most one each and with the stock that its commit
left behind; and every call that has returned has committed and announced its movement. -/
theorem returned_movements_announced (settings : Settings) (world : World) (valid : world.Valid)
    (nonnegative : ∀ pair, 0 ≤ world.tables.quantity pair) (requests : List Request)
    (system : Application) (log : CommitLog)
    (journaled : Journaled environment Guard.unrestricted commitLog
      (Application.start settings world requests) system log) :
    Announced world system log := by
  obtain ⟨heard, underway⟩ := Application.underway valid nonnegative journaled
  refine ⟨underway.toCommitsLogged, fun index _ _ _ _ found =>
    underway.recorded index (underway.answered found), _, List.filter_sublist, ?_, underway.published⟩
  intro announcement listed returned
  exact List.mem_filter.mpr ⟨listed, underway.returned (mem_positions listed) returned⟩

/-- Two racing receipts have announced themselves, and the first to commit, which is the
last to announce, still waits for its handlers. -/
def Sample.gathering : List (Nat × Answer) :=
  Sample.racing ++ (List.replicate 5 1 ++ List.replicate 4 0).map (·, {})

theorem returned_movements_announced_gathering :
    ∃ (system : Application) (log : CommitLog),
      Sample.lowReceipts.schedule environment Sample.gathering = some system ∧
      log.map Prod.fst = [0, 1] ∧ system.shared.movementEvents.length = 2 ∧
      system.returned 0 = false ∧ system.returned 1 = true ∧ Announced Sample.world system log := by
  have inOrder : (Sample.lowReceipts.journal environment commitLog Sample.gathering).map Prod.fst =
      [0, 1] := by
    decide +kernel
  have decided : (Sample.lowReceipts.schedule environment Sample.gathering).any (fun system : Application =>
      decide (system.shared.movementEvents.length = 2 ∧ system.returned 0 = false ∧
        system.returned 1 = true)) = true := by
    decide +kernel
  obtain ⟨system, completed, checked⟩ := (Option.any_eq_true _ _).mp decided
  obtain ⟨both, waiting, done⟩ := of_decide_eq_true checked
  have journaled : Journaled environment Guard.unrestricted commitLog _ system _ :=
    System.schedule_journaled .refl completed
  rw [List.nil_append] at journaled
  exact ⟨system, _, completed, inOrder, both, waiting, done, returned_movements_announced {}
    Sample.world Sample.world_valid (fun _ => le_refl 0) _ _ _ journaled⟩

end InventoryManagement
