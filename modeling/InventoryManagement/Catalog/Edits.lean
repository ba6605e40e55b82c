import InventoryManagement.Catalog.Cells
import InventoryManagement.Catalog.Payloads
import InventoryManagement.Interleaving.Dialogue
import InventoryManagement.Interleaving.Journal

/-! What the calls of the catalog services commit in any interleaving: each its own edit,
at most once, and the last edit of a cell decides it. -/

set_option autoImplicit false

namespace InventoryManagement.Catalog

open Interleaving (Exchange Guard Journaled Outcome Program Reachable Scribe System Thread)
open Merging (latest amend)

/-! What a call may write. -/

/-- The contents that the payload of a call gives to columns. -/
def Call.assigns (call : Call) (column : Column) : Option Content :=
  call.resource.assigned call.changes column

/-- A creation writes its payload, an update what its payload sets of one row. -/
inductive Call.Asks (call : Call) : Write → Prop
  | create {row : call.resource.Row} (new : call.target? = none)
      (columns : call.resource.columns row = call.changes) : call.Asks (.insert call.resource row)
  | update {id : UUID} {changes : call.resource.Changes} (named : call.target? = some id)
      (only : ∀ column content, call.resource.assigned changes column = some content →
        call.assigns column = some content) :
      call.Asks (.update call.resource id changes)

abbrev Answered := Exchange Statement Statement.Response

/-- The row that an answered statement has flushed. -/
def flushed : Answered → Option Write
  | ⟨.insert resource _, row⟩ => some (.insert resource row)
  | ⟨.update resource id changes, _⟩ => some (.update resource id changes)
  | ⟨.get _ _, _⟩ | ⟨.selectByKey _ _, _⟩ | ⟨.refresh _ _, _⟩ | ⟨.commit, _⟩ => none

def Committed (exchanges : List Answered) : Prop := ⟨.commit, ()⟩ ∈ exchanges

/-- The row that was read has the id asked for, and the one inserted the columns. -/
def Faithful : Answered → Prop
  | ⟨.get resource id, found⟩ => ∀ row ∈ found, resource.id row = id
  | ⟨.insert _ row, inserted⟩ => ∃ uuid, inserted = row uuid
  | ⟨.selectByKey _ _, _⟩ | ⟨.update _ _ _, _⟩ | ⟨.refresh _ _, _⟩ | ⟨.commit, _⟩ => True

/-- A call reads its entity first, flushes what it may write, and commits once. -/
def Call.Asked (call : Call) (exchanges : List Answered) : Statement → Prop
  | .get _ _ => exchanges = []
  | .insert resource row =>
      ¬ Committed exchanges ∧ ∀ uuid, call.Asks (.insert resource (row uuid))
  | .update resource id changes => ¬ Committed exchanges ∧
      ((∀ exchange ∈ exchanges, Faithful exchange) → call.Asks (.update resource id changes))
  | .commit => ¬ Committed exchanges
  | .selectByKey _ _ | .refresh _ _ => True

/-- A domain error precedes the commit. -/
def Call.Raises (exchanges : List Answered) (error : Exception) : Prop :=
  error.isAppException = true → ¬ Committed exchanges

/-- The flushed row sets a column, or the entity had the content when it was read. -/
def Call.Sets (call : Call) (exchanges : List Answered) : Prop :=
  ∀ column content, call.assigns column = some content →
    (∃ write, exchanges.findSome? flushed = some write ∧ write.assigns column = some content) ∨
    ∃ id row, call.target? = some id ∧ ⟨.get call.resource id, some row⟩ ∈ exchanges ∧
      call.resource.content row column = some content

/-- A call that returns has committed all that it was asked. -/
def Call.Returns (call : Call) (exchanges : List Answered) : Prop :=
  Committed exchanges ∧ ((∀ exchange ∈ exchanges, Faithful exchange) → call.Sets exchanges)

/-! The programs, exchange by exchange. -/

section Programs

variable {call : Call} {exchanges : List Answered} {Value : Type}

abbrev Reasoned (call : Call) (program : Transaction Value)
    (returns : List Answered → Value → Prop) (exchanges : List Answered) : Prop :=
  program.Reasoned call.Asked Call.Raises returns exchanges

/-- Nothing has been flushed. -/
structure Reading (exchanges : List Answered) : Prop where
  unflushed : exchanges.findSome? flushed = none
  uncommitted : ¬ Committed exchanges

theorem requireFreeKey_reasoned (resource : Resource) (key : String) (kept : List Answered)
    (reading : Reading exchanges) (since : kept ⊆ exchanges) :
    Reasoned call (requireFreeKey resource key)
      (fun later _ => Reading later ∧ kept ⊆ later) exchanges := by
  refine ⟨trivial, fun rows => ?_⟩
  have later : Reading (⟨.selectByKey resource key, rows⟩ :: exchanges) :=
    ⟨reading.unflushed, by simpa [Committed] using reading.uncommitted⟩
  match rows, later with
  | [], later => exact ⟨later, List.subset_cons_of_subset _ since⟩
  | [_], later => exact fun _ => later.uncommitted
  | _ :: _ :: _, later => exact fun _ => later.uncommitted

theorem createEntity_reasoned {key : String} {row : UUID → call.resource.Row}
    (makes : call.Makes key row) (new : call.target? = none) :
    Reasoned call (createEntity call.resource key row)
      (fun later _ => call.Returns later) [] := by
  refine Program.reasoned_bind ((requireFreeKey_reasoned call.resource key []
    ⟨rfl, List.not_mem_nil⟩ (List.Subset.refl _)).mono ?_)
  rintro exchanges _ ⟨reading, _⟩
  refine ⟨⟨reading.uncommitted, fun uuid => .create new (makes.columns uuid)⟩,
    fun entity => ⟨trivial, fun refreshed => ?_⟩⟩
  refine ⟨by simpa [Call.Asked, Committed] using reading.uncommitted, fun _ => ?_⟩
  refine ⟨List.mem_cons_self, fun faithful column content assigned => ?_⟩
  obtain ⟨uuid, rfl⟩ := faithful ⟨.insert call.resource row, entity⟩ (by simp)
  refine .inl ⟨.insert call.resource (row uuid), rfl, ?_⟩
  rw [Write.assigns, ← Resource.assigned_columns, makes.columns]
  exact assigned

/-- An update reads, flushes what is dirty if anything is, and commits. -/
theorem assign_reasoned {id : UUID} (named : call.target? = some id) {entity : call.resource.Row}
    (read : ⟨.get call.resource id, some entity⟩ ∈ exchanges) (reading : Reading exchanges) :
    Reasoned call (Catalog.assign call.resource entity call.changes)
      (fun later _ => call.Returns later) exchanges := by
  unfold Catalog.assign flush
  split
  · next unchanged =>
      refine ⟨reading.uncommitted, fun _ => ⟨trivial, fun _ => ⟨by simp [Committed], ?_⟩⟩⟩
      intro faithful column content assigned
      refine .inr ⟨id, entity, named, by simp [read], ?_⟩
      rcases Resource.assigned_dirty.1 assigned with dirty | here
      · rw [Resource.assigned_unchanged unchanged] at dirty
        cases dirty
      · exact here
  · have asks : (∀ exchange ∈ exchanges, Faithful exchange) → call.Asks (.update call.resource
        (call.resource.id entity) (call.resource.dirty call.changes entity)) := by
      intro faithful
      refine .update ?_ (fun column content => Resource.assigned_dirty.2)
      rw [named, faithful _ read entity rfl]
    refine ⟨⟨reading.uncommitted, asks⟩, fun _ =>
      ⟨by simpa [Call.Asked, Committed] using reading.uncommitted, fun _ =>
        ⟨trivial, fun _ => ⟨by simp [Committed], ?_⟩⟩⟩⟩
    intro faithful column content assigned
    rcases Resource.assigned_dirty.1 assigned with dirty | here
    · exact .inl ⟨_, rfl, dirty⟩
    · exact .inr ⟨id, entity, named, by simp [read], here⟩

theorem updateEntity_reasoned {id : UUID} (named : call.target? = some id) :
    Reasoned call (updateEntity call.resource id call.changes)
      (fun later _ => call.Returns later) [] := by
  refine ⟨rfl, fun found => ?_⟩
  cases found with
  | none => exact fun _ => by simp [Committed]
  | some entity =>
      have reading : Reading [⟨.get call.resource id, some entity⟩] := ⟨rfl, by simp [Committed]⟩
      have checked : Reasoned call (requireFreeNewKey call.resource entity call.changes)
          (fun later _ => Reading later ∧ [⟨.get call.resource id, some entity⟩] ⊆ later)
          [⟨.get call.resource id, some entity⟩] := by
        unfold requireFreeNewKey
        split
        · exact ⟨reading, List.Subset.refl _⟩
        · split
          · exact requireFreeKey_reasoned call.resource _ _ reading (List.Subset.refl _)
          · exact ⟨reading, List.Subset.refl _⟩
      change Reasoned call ((requireFreeNewKey call.resource entity call.changes).bind fun _ =>
        Catalog.assign call.resource entity call.changes) (fun later _ => call.Returns later) _
      refine Program.reasoned_bind (checked.mono ?_)
      rintro later _ ⟨still, since⟩
      exact assign_reasoned named (since List.mem_cons_self) still

theorem program_reasoned (call : Call) :
    Reasoned call call.program (fun later _ => call.Returns later) [] := by
  refine Program.reasoned_bind (Program.Reasoned.mono ?_ (fun _ _ returns => returns))
  cases named : call.target? with
  | some id =>
      rw [Call.body_update named]
      exact updateEntity_reasoned named
  | none =>
      obtain ⟨key, row, makes⟩ := Call.body_create named
      rw [makes.body]
      exact createEntity_reasoned makes named

end Programs

/-! Runs. -/

section Runs

variable {start : Store} {calls : List Call} {store after : Store} {session updated : Session}
variable {exchanges : List Answered}

abbrev Serving := System Call Statement Statement.Response Exception Store Session Entity

theorem execute_respond {statement : Statement} {answer : Answer} {others : List Session}
    {response : statement.Response}
    (executed : execute statement answer others store session = .done response after updated) :
    respond statement answer others store session = .done response after updated := by
  unfold execute at executed
  split at executed
  · cases executed
  · exact executed

/-- The open transaction holds what has been flushed and not committed. -/
structure Tied (session : Session) (exchanges : List Answered) : Prop where
  faithful : ∀ exchange ∈ exchanges, Faithful exchange
  pending : ¬ Committed exchanges → session.pending = exchanges.findSome? flushed

theorem Tied.next {statement : Statement} {response : statement.Response}
    (tied : Tied session exchanges) (faithful : Faithful ⟨statement, response⟩)
    (pending : statement ≠ .commit → ¬ Committed exchanges →
      updated.pending = (flushed ⟨statement, response⟩).or session.pending) :
    Tied updated (⟨statement, response⟩ :: exchanges) where
  faithful := List.forall_mem_cons.mpr ⟨faithful, tied.faithful⟩
  pending := by
    intro uncommitted
    have open_ : ¬ Committed exchanges := fun before => uncommitted (List.mem_cons_of_mem _ before)
    have other : statement ≠ .commit := by
      rintro rfl
      exact uncommitted List.mem_cons_self
    rw [pending other open_, tied.pending open_, List.findSome?_cons]
    cases flushed ⟨statement, response⟩ <;> rfl

theorem execute_tied {statement : Statement} {answer : Answer} {others : List Session}
    {response : statement.Response} (tied : Tied session exchanges)
    (executed : execute statement answer others store session = .done response after updated) :
    Tied updated (⟨statement, response⟩ :: exchanges) := by
  have responded := execute_respond executed
  cases statement with
  | get resource id =>
      cases responded
      exact tied.next (fun row found => (Store.mem_of_row? found).2) (fun _ _ => rfl)
  | selectByKey resource key =>
      simp only [respond, selectByKey] at responded
      split at responded <;> cases responded
      exact tied.next trivial (fun _ _ => rfl)
  | insert resource row =>
      obtain ⟨rfl, _, rfl, _⟩ := insert_done responded
      exact tied.next ⟨answer.uuid, rfl⟩ (fun _ _ => rfl)
  | update resource id changes =>
      obtain ⟨_, rfl, _⟩ := update_done responded
      exact tied.next trivial (fun _ _ => rfl)
  | refresh resource id =>
      simp only [respond, refresh] at responded
      split at responded <;> cases responded
      exact tied.next trivial (fun _ _ => rfl)
  | commit =>
      cases responded
      exact tied.next trivial (fun other _ => absurd rfl other)

theorem claimKey_raises {Response : Type} {others : List Session} {resource : Resource}
    {key : String} {id : UUID} {granted : Outcome Store Session Exception Response}
    {error : Exception} (raised : claimKey others store resource key id granted = .raise error)
    (done : ∀ error, granted ≠ .raise error) : error.isAppException = false := by
  unfold claimKey at raised
  split at raised
  · cases raised
  · split at raised
    · exact absurd raised (done error)
    · split at raised <;> cases raised
      rfl

theorem violation_raises {resource : Resource} {changes : resource.Changes} {error : Exception}
    (violated : resource.violation? changes = some error) : error.isAppException = false := by
  unfold Resource.violation? at violated
  (repeat' split at violated) <;> cases violated <;> rfl

/-- No domain error comes from the database. -/
theorem execute_raises {statement : Statement} {answer : Answer} {others : List Session}
    {error : Exception}
    (executed : execute statement answer others store session = .raise error) :
    error.isAppException = false := by
  unfold execute at executed
  split at executed
  · cases executed
    rfl
  · cases statement with
    | get resource id => cases executed
    | commit => cases executed
    | selectByKey resource key =>
        simp only [respond, selectByKey] at executed
        split at executed <;> cases executed
        rfl
    | refresh resource id =>
        simp only [respond, refresh] at executed
        split at executed <;> cases executed
        rfl
    | insert resource row =>
        simp only [respond, insert] at executed
        split at executed
        · cases executed
          rfl
        split at executed
        · next violated =>
            cases executed
            exact violation_raises violated
        split at executed
        · cases executed
        split at executed
        · cases executed
          rfl
        · exact claimKey_raises executed (fun _ same => by cases same)
    | update resource id changes =>
        simp only [respond, update] at executed
        split at executed
        · cases executed
          rfl
        split at executed
        · next violated =>
            cases executed
            exact violation_raises violated
        split at executed
        · cases executed
        split at executed
        · cases executed
          rfl
        · split at executed
          · cases executed
          · exact claimKey_raises executed (fun _ same => by cases same)

/-- The edits that have been committed, and by whom. -/
abbrev Log := List (Nat × Write)

/-- What a commit adds to the log. -/
def entries (index : Nat) (session : Session) : Log :=
  session.pending.toList.map (index, ·)

/-- A run logs the write of every commit when it is committed. -/
def editLog : Scribe Call Statement Session (Nat × Write) :=
  fun index _ session statement =>
    match statement with
    | .commit => entries index session
    | _ => []

/-- What a thread has been answered so far, and what that has left in the log. -/
structure Conversing (start system : Serving) (log : Log) (index : Nat)
    (thread : Thread Call Statement Statement.Response Exception Session Entity)
    (exchanges : List Answered) : Prop where
  reasoned : Reasoned thread.label thread.program (fun later _ => thread.label.Returns later) exchanges
  tied : ∃ session, Tied session exchanges ∧ (thread.finished = false → thread.session = session)
  asks : ∀ write, exchanges.findSome? flushed = some write → thread.label.Asks write
  saw : ∀ resource id row, ⟨.get resource id, some row⟩ ∈ exchanges →
    System.Saw environment Guard.unrestricted start system index
      (fun store => store.row? resource id = some row)
  logged : ∀ write, (index, write) ∈ log ↔
    Committed exchanges ∧ exchanges.findSome? flushed = some write

structure Merged (start system : Serving) (log : Log) : Prop where
  cells : system.shared.cells = amend (latest (log.map (·.2.cells))) start.shared.cells
  once : (log.map Prod.fst).Nodup
  threads : ∀ (index : Nat) thread, system.threads[index]? = some thread →
    ∃ exchanges, Conversing start system log index thread exchanges
  asked : ∀ entry ∈ log, ∃ thread, system.threads[entry.1]? = some thread ∧
    thread.label.Asks entry.2

theorem flushed_asks {call : Call} {statement : Statement} {response : statement.Response}
    {write : Write} (asked : call.Asked exchanges statement)
    (faithful : ∀ exchange ∈ exchanges, Faithful exchange)
    (answered : Faithful ⟨statement, response⟩)
    (flushes : flushed ⟨statement, response⟩ = some write) :
    ¬ Committed exchanges ∧ call.Asks write := by
  cases statement with
  | insert resource row =>
      obtain ⟨uuid, rfl⟩ := answered
      cases flushes
      exact ⟨asked.1, asked.2 uuid⟩
  | update resource id changes =>
      cases flushes
      exact ⟨asked.1, asked.2 faithful⟩
  | get resource id => cases flushes
  | selectByKey resource key => cases flushes
  | refresh resource id => cases flushes
  | commit => cases flushes

theorem execute_store {statement : Statement} {answer : Answer} {others : List Session}
    {response : statement.Response} (other : statement ≠ .commit)
    (executed : execute statement answer others store session = .done response after updated) :
    after = store := by
  have responded := execute_respond executed
  cases statement with
  | get resource id => cases responded; rfl
  | selectByKey resource key =>
      simp only [respond, selectByKey] at responded
      split at responded <;> cases responded
      rfl
  | insert resource row => exact (insert_done responded).2.1
  | update resource id changes => exact (update_done responded).1
  | refresh resource id =>
      simp only [respond, refresh] at responded
      split at responded <;> cases responded
      rfl
  | commit => exact absurd rfl other

variable {begun system later : Serving} {log : Log} {index : Nat} {answer : Answer}
variable {thread : Thread Call Statement Statement.Response Exception Session Entity}

/-- Another thread's step, with nothing of this thread added to the log. -/
theorem Conversing.waits {added : Log}
    (conversing : Conversing begun system log index thread exchanges)
    (stepped : ∃ position answer, System.step environment system position answer = some later)
    (apart : ∀ entry ∈ added, entry.1 ≠ index) :
    Conversing begun later (log ++ added) index thread exchanges where
  reasoned := conversing.reasoned
  tied := conversing.tied
  asks := conversing.asks
  saw := by
    intro resource id row read
    obtain ⟨position, answer, step⟩ := stepped
    exact (conversing.saw resource id row read).step (fun _ _ _ _ _ => trivial) step
  logged := by
    intro write
    rw [List.mem_append, conversing.logged, or_iff_left]
    exact fun member => apart _ member rfl

/-- A thread that is answered, with what its own step adds to the log. -/
theorem Conversing.hears {label : Call} {statement : Statement} {answer : Answer}
    {others : List Session} {response : statement.Response} {added : Log}
    {next : statement.Response → Transaction Entity}
    (conversing : Conversing begun system log index ⟨label, .call statement next, session⟩ exchanges)
    (reached : Reachable environment Guard.unrestricted begun system)
    (found : system.threads[index]? = some ⟨label, .call statement next, session⟩)
    (stepped : System.step environment system index answer = some later)
    (executed : execute statement answer others system.shared session = .done response after updated)
    (logged : ∀ write, (index, write) ∈ log ++ added ↔
      Committed (⟨statement, response⟩ :: exchanges) ∧
        (⟨statement, response⟩ :: exchanges).findSome? flushed = some write) :
    Conversing begun later (log ++ added) index
      (Thread.settle environment ⟨label, next response, updated⟩)
      (⟨statement, response⟩ :: exchanges) where
  reasoned := by
    rw [Thread.settle_label, Thread.settle_program]
    exact conversing.reasoned.2 response
  tied := by
    obtain ⟨current, tied, same⟩ := conversing.tied
    obtain rfl := same rfl
    exact ⟨updated, execute_tied tied executed, Thread.settle_running⟩
  asks := by
    rw [Thread.settle_label]
    obtain ⟨current, tied, same⟩ := conversing.tied
    obtain rfl := same rfl
    intro write pending
    rw [List.findSome?_cons] at pending
    cases flushes : flushed ⟨statement, response⟩ with
    | none => exact conversing.asks write (by simpa [flushes] using pending)
    | some other =>
        rw [flushes] at pending
        cases pending
        exact (flushed_asks conversing.reasoned.1 tied.faithful
          ((execute_tied tied executed).faithful _ List.mem_cons_self) flushes).2
  saw := by
    intro resource id row read
    rcases List.mem_cons.mp read with same | before
    · cases same
      obtain ⟨current, tied, same⟩ := conversing.tied
      obtain rfl := same rfl
      have first : exchanges = [] := conversing.reasoned.1
      subst first
      have idle : session.pending = none := tied.pending List.not_mem_nil
      have answered := execute_respond executed
      simp only [respond, Session.view, idle, Outcome.done.injEq] at answered
      exact ⟨system, reached, .step .refl (fun _ _ _ _ _ => trivial) stepped, ⟨_, found, rfl⟩,
        answered.1⟩
    · exact (conversing.saw resource id row before).step (fun _ _ _ _ _ => trivial) stepped
  logged := logged

theorem commit_cells (sound : session.Sound store) (index : Nat) :
    (session.view store).cells =
      amend (latest ((entries index session).map (·.2.cells))) store.cells := by
  obtain ⟨pending⟩ := session
  cases pending with
  | none => rfl
  | some write =>
      change (write.apply store).cells = amend (latest [write.cells]) store.cells
      rw [Merging.latest_singleton]
      exact (sound write rfl).cells

/-- A step of one thread, with what it adds to the log. -/
theorem Merged.replace {added : Log} {shared : Store}
    {moved : Thread Call Statement Statement.Response Exception Session Entity}
    (merged : Merged begun system log)
    (stepped : System.step environment system index answer =
      some ⟨shared, system.threads.set index moved⟩)
    (found : system.threads[index]? = some thread) (label : moved.label = thread.label)
    (cells : shared.cells = amend (latest (added.map (·.2.cells))) system.shared.cells)
    (once : (added.map Prod.fst).Nodup)
    (own : ∀ entry ∈ added, entry.1 = index ∧ entry.1 ∉ log.map Prod.fst ∧
      thread.label.Asks entry.2)
    (conversing : ∃ exchanges, Conversing begun ⟨shared, system.threads.set index moved⟩
      (log ++ added) index moved exchanges) :
    Merged begun ⟨shared, system.threads.set index moved⟩ (log ++ added) where
  cells := by
    rw [cells, merged.cells, Merging.amend_amend, List.map_append, Merging.latest_append]
  once := by
    rw [List.map_append]
    refine merged.once.append once ?_
    intro position before new
    obtain ⟨entry, member, rfl⟩ := List.mem_map.mp new
    exact (own entry member).2.1 before
  threads := by
    intro position other foundAfter
    rcases System.step_threads foundAfter with ⟨rfl, rfl⟩ | ⟨different, unmoved⟩
    · exact conversing
    · obtain ⟨exchanges, known⟩ := merged.threads position other unmoved
      refine ⟨exchanges, known.waits ⟨index, answer, stepped⟩ ?_⟩
      intro entry member same
      exact different (same.symm.trans (own entry member).1)
  asked := by
    have kept : ∀ (position : Nat) (other : Thread Call Statement Statement.Response Exception
        Session Entity) (write : Write), system.threads[position]? = some other →
        other.label.Asks write → ∃ current,
          (system.threads.set index moved)[position]? = some current ∧ current.label.Asks write := by
      intro position other write there asks
      by_cases same : position = index
      · subst same
        rw [found] at there
        cases there
        obtain ⟨bound, _⟩ := List.getElem?_eq_some_iff.mp found
        exact ⟨moved, by simp [bound], label ▸ asks⟩
      · exact ⟨other, by rw [List.getElem?_set_ne (Ne.symm same)]; exact there, asks⟩
    intro entry member
    rcases List.mem_append.mp member with before | new
    · obtain ⟨other, there, asks⟩ := merged.asked entry before
      exact kept _ other _ there asks
    · obtain ⟨same, _, asks⟩ := own entry new
      exact kept _ thread _ (same ▸ found) asks

theorem Merged.step (merged : Merged begun system log)
    (reached : Reachable environment Guard.unrestricted begun system)
    (sound : ∀ (index : Nat) thread, system.threads[index]? = some thread →
      thread.session.Sound system.shared)
    (stepped : System.step environment system index answer = some later) :
    Merged begun later (log ++ System.writes environment editLog system index answer) := by
  obtain ⟨label, statement, next, session, found, outcome⟩ := System.step_cases stepped
  obtain ⟨exchanges, conversing⟩ := merged.threads index _ found
  obtain ⟨current, tied, same⟩ := conversing.tied
  obtain rfl := same rfl
  rcases outcome with ⟨error, raised, rfl⟩ | ⟨response, shared, updated, executed, rfl⟩
  · have waited : Conversing begun _ (log ++ []) index _ exchanges :=
      conversing.waits ⟨index, answer, stepped⟩ (by simp)
    rw [System.writes_raised found raised]
    refine merged.replace stepped found rfl rfl List.nodup_nil (by simp) ⟨exchanges, ?_,
      ⟨session, tied, fun unfinished => nomatch unfinished⟩, conversing.asks, waited.saw,
      waited.logged⟩
    intro domain
    rw [execute_raises raised] at domain
    cases domain
  · rw [System.writes_done found executed]
    by_cases commits : statement = .commit
    · subst commits
      have answered := execute_respond executed
      cases answered
      have open_ : ¬ Committed exchanges := conversing.reasoned.1
      have unlogged : ∀ write, (index, write) ∉ log :=
        fun write member => open_ ((conversing.logged write).mp member).1
      rw [show editLog index label session .commit = entries index session from rfl]
      refine merged.replace stepped found Thread.settle_label
        (commit_cells (sound index _ found) index) ?_ ?_
        ⟨_, conversing.hears reached found stepped executed ?_⟩
      · cases pending : session.pending <;> simp [entries, pending]
      · intro entry member
        obtain ⟨write, pending, rfl⟩ := List.mem_map.mp member
        refine ⟨rfl, ?_, conversing.asks write ?_⟩
        · intro listed
          obtain ⟨⟨_, other⟩, before, rfl⟩ := List.mem_map.mp listed
          exact unlogged other before
        · rw [← tied.pending open_]
          exact Option.mem_toList.mp pending
      · intro write
        have pending : session.pending = List.findSome? flushed (⟨.commit, ()⟩ :: exchanges) :=
          tied.pending open_
        rw [List.mem_append, or_iff_right (unlogged write), ← pending]
        simp [entries, Committed]
    · obtain rfl := execute_store commits executed
      have unlogged : editLog index label session statement = [] := by
        cases statement <;> first | rfl | exact absurd rfl commits
      rw [unlogged]
      refine merged.replace stepped found Thread.settle_label rfl List.nodup_nil (by simp)
        ⟨_, conversing.hears reached found stepped executed ?_⟩
      intro write
      have same : Committed (⟨statement, response⟩ :: exchanges) ↔ Committed exchanges := by
        refine ⟨fun member => ?_, List.mem_cons_of_mem _⟩
        rcases List.mem_cons.mp member with here | before
        · exact absurd (congrArg Exchange.statement here).symm commits
        · exact before
      rw [List.append_nil, conversing.logged, same, List.findSome?_cons]
      cases flushes : flushed ⟨statement, response⟩ with
      | none => rfl
      | some other =>
          have open_ := (flushed_asks conversing.reasoned.1 tied.faithful
            ((execute_tied tied executed).faithful _ List.mem_cons_self) flushes).1
          simp [open_]

theorem serving_sound (valid : start.Valid) {system : Serving}
    (reached : Reachable environment Guard.unrestricted (serving start calls) system) :
    ∀ (index : Nat) thread, system.threads[index]? = some thread →
      thread.session.Sound system.shared := by
  have verified : System.Verified catalogDiscipline Guard.unrestricted (fun _ _ _ _ => True)
      (fun _ _ _ => True) (serving start calls) :=
    System.start_verified valid (Session.fresh_sound start) Session.fresh_compatible
      (fun call _ => Program.verified_trivially _ (fun _ _ _ => trivial) (fun _ _ _ => trivial)
        (fun _ _ => trivial) _ _)
  exact (verified.reachable reached).sound

theorem start_merged (start : Store) (calls : List Call) :
    Merged (serving start calls) (serving start calls) [] where
  cells := rfl
  once := List.nodup_nil
  threads := by
    intro index thread found
    obtain ⟨call, _, rfl⟩ := List.mem_map.mp (List.mem_of_getElem? found)
    refine ⟨[], ?_, ⟨{}, ⟨by simp, fun _ => rfl⟩, Thread.settle_running⟩, by simp, by simp,
      by simp⟩
    rw [Thread.settle_label, Thread.settle_program]
    exact program_reasoned call
  asked := fun _ member => nomatch member

/-- At every point of a run the catalog is what the edits in the log have made of it. -/
theorem serving_merged (valid : start.Valid) {system : Serving}
    (journaled : Journaled environment Guard.unrestricted editLog (serving start calls) system log) :
    Merged (serving start calls) system log := by
  induction journaled with
  | refl => exact start_merged start calls
  | step earlier _ stepped ih =>
      exact ih.step earlier.reachable (serving_sound valid earlier.reachable) stepped

theorem serving_label {system : Serving} {call : Call}
    (reached : Reachable environment Guard.unrestricted (serving start calls) system)
    (found : system.threads[index]? = some thread) :
    calls[index]? = some call ↔ call = thread.label := by
  have labels : system.threads.map (·.label) = calls := by
    rw [reached.labels]
    change (calls.map fun call => Thread.settle environment ⟨call, call.program, {}⟩).map
      (·.label) = calls
    rw [List.map_map]
    exact (List.map_congr_left fun call _ => Thread.settle_label).trans (List.map_id' _)
  rw [← labels, List.getElem?_map, found, Option.map_some, Option.some_inj, eq_comm]

theorem Merged.cell_cases (merged : Merged begun system log) (cell : Cell) :
    ((∀ entry ∈ log, entry.2.cells cell = none) ∧
        system.shared.cells cell = begun.shared.cells cell) ∨
      ∃ earlier index write later content, log = earlier ++ (index, write) :: later ∧
        write.cells cell = some content ∧ (∀ entry ∈ later, entry.2.cells cell = none) ∧
        system.shared.cells cell = some content := by
  rw [merged.cells, amend]
  cases decided : latest (log.map (·.2.cells)) cell with
  | none =>
      refine .inl ⟨fun entry member => ?_, rfl⟩
      exact Merging.latest_eq_none.mp decided _ (List.mem_map_of_mem member)
  | some content =>
      obtain ⟨earlier, _, later, split, assigned, since⟩ := Merging.latest_eq_some.mp decided
      obtain ⟨before, rest, rfl, _, suffix⟩ := List.map_eq_append_iff.mp split
      obtain ⟨⟨index, write⟩, after, rfl, rfl, rfl⟩ := List.map_eq_cons_iff.mp suffix
      refine .inr ⟨before, index, write, after, content, rfl, assigned, ?_, rfl⟩
      exact fun entry member => since _ (List.mem_map_of_mem member)

theorem Conversing.returned {entity : Entity}
    (conversing : Conversing begun system log index thread exchanges)
    (returned : thread.program = .ret entity) {column : Column} {content : Content}
    (assigned : thread.label.assigns column = some content) :
    (∃ write, (index, write) ∈ log ∧ write.assigns column = some content) ∨
      ∃ id, thread.label.target? = some id ∧
        System.Saw environment Guard.unrestricted begun system index
          (fun store => store.cells ⟨thread.label.resource, id, column⟩ = some content) := by
  obtain ⟨current, tied, _⟩ := conversing.tied
  have returns := conversing.reasoned
  rw [returned] at returns
  rcases returns.2 tied.faithful column content assigned with
    ⟨write, flushes, set⟩ | ⟨id, row, named, read, here⟩
  · exact .inl ⟨write, (conversing.logged write).mpr ⟨returns.1, flushes⟩, set⟩
  · obtain ⟨earlier, before, since, working, stored⟩ := conversing.saw _ id row read
    refine .inr ⟨id, named, earlier, before, since, working, ?_⟩
    simp only [Store.cells, stored]
    exact here

theorem Conversing.refused {error : Exception}
    (conversing : Conversing begun system log index thread exchanges)
    (raised : thread.program = .raise error) (domain : error.isAppException = true) :
    index ∉ log.map Prod.fst := by
  have raises := conversing.reasoned
  rw [raised] at raises
  intro listed
  obtain ⟨⟨_, write⟩, member, rfl⟩ := List.mem_map.mp listed
  exact raises domain ((conversing.logged write).mp member).1

/-- Concurrent edits merge by column. Along every run the commits log what they write. Each
call has committed at most one write, of nothing but its own payload; a cell holds what the
last write to assign it assigned, or what it held at the start. What a returned call was
asked to set it has written, unless its entity had the content while the call was at work; a
call that was refused has written nothing. -/
theorem catalog_edits_merge (start : Store) (valid : start.Valid) (calls : List Call)
    (system : Serving) (log : Log)
    (journaled : Journaled environment Guard.unrestricted editLog (serving start calls) system log) :
    (log.map Prod.fst).Nodup ∧
      (∀ entry ∈ log, ∃ call, calls[entry.1]? = some call ∧ call.Asks entry.2) ∧
      (∀ cell, ((∀ entry ∈ log, entry.2.cells cell = none) ∧
          system.shared.cells cell = start.cells cell) ∨
        ∃ earlier index write later content, log = earlier ++ (index, write) :: later ∧
          write.cells cell = some content ∧ (∀ entry ∈ later, entry.2.cells cell = none) ∧
          system.shared.cells cell = some content) ∧
      ∀ index call thread, calls[index]? = some call → system.threads[index]? = some thread →
        (∀ entity, thread.program = .ret entity →
          ∀ column content, call.assigns column = some content →
            (∃ write, (index, write) ∈ log ∧ write.assigns column = some content) ∨
            ∃ id, call.target? = some id ∧ System.Saw environment Guard.unrestricted
              (serving start calls) system index
              (fun store => store.cells ⟨call.resource, id, column⟩ = some content)) ∧
        ∀ error, thread.program = .raise error → error.isAppException = true →
          index ∉ log.map Prod.fst := by
  have merged := serving_merged valid journaled
  have reached := journaled.reachable
  refine ⟨merged.once, ?_, merged.cell_cases, ?_⟩
  · intro entry member
    obtain ⟨thread, found, asks⟩ := merged.asked entry member
    exact ⟨thread.label, (serving_label reached found).mpr rfl, asks⟩
  · intro index call thread called found
    obtain rfl := (serving_label reached found).mp called
    obtain ⟨exchanges, conversing⟩ := merged.threads index thread found
    exact ⟨fun entity returned column content assigned => conversing.returned returned assigned,
      fun error raised domain => conversing.refused raised domain⟩

end Runs

theorem Sample.discount_positive :
    ∀ amount, (some (some 1499) : Option (Option Int)) = some (some amount) → 0 < amount := by
  simp

def Sample.discount : ProductUpdate :=
  { Sample.repricing with
    price := some (some 1499)
    price_positive := Sample.discount_positive }

/-- A product is repriced, deactivated and repriced again: all calls have read it before the
first one is flushed. -/
def Sample.edits : List Call :=
  [.updateProduct ⟨1⟩ Sample.repricing, .deactivateProduct ⟨1⟩, .updateProduct ⟨1⟩ Sample.discount]

def Sample.crossing : List (Nat × Answer) := [0, 1, 2, 0, 0, 1, 1, 2, 2, 2, 1, 0].map (·, {})

theorem catalog_edits_merge_crossing :
    ∃ system log, System.schedule environment (serving Sample.stocked Sample.edits) Sample.crossing =
        some system ∧
      Journaled environment Guard.unrestricted editLog (serving Sample.stocked Sample.edits) system
        log ∧
      log.map Prod.fst = [0, 1, 2] ∧
      system.shared.cells ⟨.product, ⟨1⟩, .price⟩ = some (.amount 1499) ∧
      system.shared.cells ⟨.product, ⟨1⟩, .isActive⟩ = some (.flag false) ∧
      ∀ entry ∈ log, ∃ call, Sample.edits[entry.1]? = some call ∧ call.Asks entry.2 := by
  have decided : (System.schedule environment (serving Sample.stocked Sample.edits)
      Sample.crossing).map (fun system => (system.shared.cells ⟨.product, ⟨1⟩, .price⟩,
        system.shared.cells ⟨.product, ⟨1⟩, .isActive⟩)) =
      some (some (.amount 1499), some (.flag false)) := by
    decide +kernel
  have inOrder : (System.journal environment editLog (serving Sample.stocked Sample.edits)
      Sample.crossing).map Prod.fst = [0, 1, 2] := by
    decide +kernel
  obtain ⟨system, completed, cells⟩ := Option.map_eq_some_iff.mp decided
  obtain ⟨price, isActive⟩ := Prod.mk.inj cells
  have journaled : Journaled environment Guard.unrestricted editLog _ system _ :=
    System.schedule_journaled .refl completed
  rw [List.nil_append] at journaled
  obtain ⟨_, asked, _⟩ := catalog_edits_merge Sample.stocked Sample.stocked_valid Sample.edits
    system _ journaled
  exact ⟨system, _, completed, journaled, inOrder, price, isActive, asked⟩

end InventoryManagement.Catalog
