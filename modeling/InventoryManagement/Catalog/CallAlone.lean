import InventoryManagement.Catalog.Discipline
import InventoryManagement.Interleaving.Alone

/-! The catalog services with nobody else active: when a call is refused, when a column
rejects its payload, and what it commits. -/

set_option autoImplicit false

namespace InventoryManagement.Catalog

open Interleaving (Program)

section Alone

variable {Value : Type} {answers : Nat → Answer} (healthy : ∀ n, (answers n).fails = false)
variable {store : Store} {session : Session} {resource : Resource} {id : UUID} {key : String}

theorem execute_healthy {answer : Answer} (healthy : answer.fails = false) (statement : Statement)
    (others : List Session) (store : Store) (session : Session) :
    execute statement answer others store session =
      respond statement answer others store session := by
  simp [execute, healthy]

include healthy

theorem returns_statement {statement : Statement} {next : statement.Response → Transaction Value}
    {post : Value → Store → Session → Prop}
    (answered : ∀ n, ∃ response after updated,
      respond statement (answers n) [] store session = .done response after updated ∧
        (next response).Returns environment answers after updated post) :
    (Program.call statement next : Transaction Value).Returns environment answers store session
      post := by
  apply Program.returns_call
  intro n
  obtain ⟨response, after, updated, done, returns⟩ := answered n
  exact ⟨response, after, updated, (execute_healthy (healthy n) _ _ _ _).trans done, returns⟩

theorem raises_statement {statement : Statement} {next : statement.Response → Transaction Value}
    {post : Exception → Store → Session → Prop}
    (answered : ∀ n, ∃ response after updated,
      respond statement (answers n) [] store session = .done response after updated ∧
        (next response).Raises environment answers after updated post) :
    (Program.call statement next : Transaction Value).Raises environment answers store session
      post := by
  apply Program.raises_call
  intro n
  obtain ⟨response, after, updated, done, raises⟩ := answered n
  exact ⟨response, after, updated, (execute_healthy (healthy n) _ _ _ _).trans done, raises⟩

theorem raises_rejected {statement : Statement} {next : statement.Response → Transaction Value}
    {post : Exception → Store → Session → Prop} {error : Exception}
    (rejected : ∀ n, respond statement (answers n) [] store session = .raise error)
    (holds : post error store session) :
    (Program.call statement next : Transaction Value).Raises environment answers store session
      post := by
  apply Program.raises_refused
  intro n
  exact ⟨error, (execute_healthy (healthy n) _ _ _ _).trans (rejected n), holds⟩

/-! Ways to end: nothing has happened yet, a documented refusal, or a column's error. -/

end Alone

/-- The table with another row in the place of the one that had its id. -/
def Store.replace (store : Store) (resource : Resource) (row : resource.Row) : Store :=
  store.withRows resource
    (KeyedRows.modify resource.id (resource.id row) (fun _ => row) (store.rows resource))

/-- Another row than the one named has a natural key. -/
def Store.Taken (store : Store) (resource : Resource) (id : Option UUID) (key : String) : Prop :=
  ∃ row ∈ store.rows resource, resource.key row = key ∧ id ≠ some (resource.id row)

def Idle (store : Store) (after : Store) (session : Session) : Prop :=
  after = store ∧ session = {}

def Refuses (store : Store) (error : Exception) (after : Store) : Prop :=
  (∃ text, error = .notFoundError text ∨ error = .conflictError text) ∧ after = store

def Rejects (error : Exception) : Prop := error = .dataError ∨ error = .integrityError

section Alone

variable {answers : Nat → Answer} (healthy : ∀ n, (answers n).fails = false)
variable {store : Store} {resource : Resource} {id : UUID} {key : String}
include healthy

theorem getByIdOrRaise_alone {row : resource.Row} (found : store.row? resource id = some row) :
    (getByIdOrRaise resource id).Returns environment answers store {}
      (fun entity after updated => entity = row ∧ Idle store after updated) := by
  apply returns_statement healthy
  intro n
  refine ⟨some row, store, {}, by simp [respond, Session.view, found], ?_⟩
  exact Program.returns_ret ⟨rfl, rfl, rfl⟩

theorem getByIdOrRaise_missing (absent : store.row? resource id = none) :
    (getByIdOrRaise resource id).Raises environment answers store {}
      (fun error after _ => Refuses store error after) := by
  apply raises_statement healthy
  intro n
  refine ⟨none, store, {}, by simp [respond, Session.view, absent], ?_⟩
  exact Program.raises_raise ⟨⟨_, .inl rfl⟩, rfl⟩

omit healthy in
theorem respond_selectByKey (sendable : Text.sendable key = true) (answer : Answer) :
    respond (.selectByKey resource key) answer [] store {} =
      .done ((store.rows resource).filter (fun row => resource.key row = key)) store {} := by
  simp [respond, selectByKey, sendable, Session.view]

theorem requireFreeKey_alone (sendable : Text.sendable key = true)
    (free : ∀ row ∈ store.rows resource, resource.key row ≠ key) :
    (requireFreeKey resource key).Returns environment answers store {}
      (fun _ after updated => Idle store after updated) := by
  have nothing : (store.rows resource).filter (fun row => resource.key row = key) = [] := by
    apply List.filter_eq_nil_iff.mpr
    intro row stored
    simpa using free row stored
  apply returns_statement healthy
  intro n
  refine ⟨_, _, _, respond_selectByKey sendable _, ?_⟩
  rw [nothing]
  exact Program.returns_ret ⟨rfl, rfl⟩

theorem requireFreeKey_taken (valid : store.Valid) (sendable : Text.sendable key = true)
    {row : resource.Row} (stored : row ∈ store.rows resource) (taken : resource.key row = key) :
    (requireFreeKey resource key).Raises environment answers store {}
      (fun error after _ => Refuses store error after) := by
  apply raises_statement healthy
  intro n
  refine ⟨_, _, _, respond_selectByKey sendable _, ?_⟩
  have one := (valid.unique resource).filter_key key
  have holder : row ∈ (store.rows resource).filter (fun row => resource.key row = key) :=
    List.mem_filter.mpr ⟨stored, by simpa using taken⟩
  match (store.rows resource).filter (fun row => resource.key row = key), one, holder with
  | [found], _, _ =>
      obtain ⟨text, conflict⟩ := resource.keyConflict_text key
      exact Program.raises_raise ⟨⟨text, .inr conflict⟩, rfl⟩
  | _ :: _ :: _, several, _ => simp at several

theorem requireFreeKey_rejected (unsendable : Text.sendable key = false) :
    (requireFreeKey resource key).Raises environment answers store {}
      (fun error _ _ => Rejects error) := by
  have rejected : ∀ n, respond (.selectByKey resource key) (answers n) [] store {} =
      .raise .dataError := by
    simp [respond, selectByKey, unsendable]
  exact raises_rejected healthy rejected (.inl rfl)

theorem insert_alone {row : UUID → resource.Row} (named : ∀ uuid, resource.id (row uuid) = uuid)
    (accepted : ∀ uuid, resource.violation? (resource.columns (row uuid)) = none)
    (fresh : ∀ n, store.row? resource (answers n).uuid = none)
    (free : ∀ uuid, ∀ other ∈ store.rows resource, resource.key other ≠ resource.key (row uuid)) :
    (send (.insert resource row)).Returns environment answers store {}
      (fun entity after updated => (∃ uuid, entity = row uuid ∧ store.row? resource uuid = none) ∧
        after = store ∧ updated = { pending := some (.insert resource entity) }) := by
  apply returns_statement healthy
  intro n
  have unheld : store.holder? resource (resource.key (row (answers n).uuid))
      (answers n).uuid = none := by
    rw [Store.holder?_eq_none]
    intro other stored same
    exact absurd same (free _ other stored)
  refine ⟨row (answers n).uuid, store,
    { pending := some (.insert resource (row (answers n).uuid)) }, ?_, ?_⟩
  · simp [respond, insert, accepted, lockedElsewhere, named, fresh, claimKey, claimedElsewhere,
      unheld]
  · exact Program.returns_ret ⟨⟨_, rfl, fresh n⟩, rfl, rfl⟩

theorem insert_rejected {row : UUID → resource.Row} {error : Exception}
    (rejected : ∀ uuid, resource.violation? (resource.columns (row uuid)) = some error) :
    (send (.insert resource row)).Raises environment answers store {}
      (fun error _ _ => Rejects error) := by
  have refused : ∀ n, respond (.insert resource row) (answers n) [] store {} = .raise error := by
    intro n
    simp [respond, insert, rejected]
  exact raises_rejected healthy refused (Resource.violation?_error (rejected ⟨0⟩))

theorem commit_alone {session : Session} :
    (send .commit).Returns environment answers store session
      (fun _ after updated => after = session.view store ∧ updated = {}) := by
  apply returns_statement healthy
  intro n
  exact ⟨(), _, _, rfl, Program.returns_ret ⟨rfl, rfl⟩⟩

theorem refresh_alone {session : Session} {row : resource.Row}
    (found : (session.view store).row? resource id = some row) :
    (send (.refresh resource id)).Returns environment answers store session
      (fun entity after updated => entity = row ∧ after = store ∧ updated = session) := by
  apply returns_statement healthy
  intro n
  refine ⟨row, store, session, by simp [respond, refresh, found], ?_⟩
  exact Program.returns_ret ⟨rfl, rfl, rfl⟩

theorem createEntity_alone {row : UUID → resource.Row}
    (named : ∀ uuid, resource.id (row uuid) = uuid)
    (keyed : ∀ uuid, resource.key (row uuid) = key) (sendable : Text.sendable key = true)
    (accepted : ∀ uuid, resource.violation? (resource.columns (row uuid)) = none)
    (fresh : ∀ n, store.row? resource (answers n).uuid = none)
    (free : ∀ other ∈ store.rows resource, resource.key other ≠ key) :
    (createEntity resource key row).Returns environment answers store {}
      (fun entity after _ => (∃ uuid, entity = row uuid) ∧
        after = store.withRows resource (store.rows resource ++ [entity])) := by
  apply Program.Returns.bind (requireFreeKey_alone healthy sendable free)
  intro _ after updated idle
  obtain ⟨rfl, rfl⟩ := idle
  have created : (create resource row).Returns environment answers after {}
      (fun entity later updated => (∃ uuid, entity = row uuid) ∧ later = after ∧
        updated = { pending := some (.insert resource entity) }) := by
    apply Program.Returns.bind (insert_alone healthy named accepted fresh
      (fun uuid other stored => keyed uuid ▸ free other stored))
    intro entity later updated flushed
    obtain ⟨⟨uuid, rfl, new⟩, rfl, rfl⟩ := flushed
    have found : (Session.view { pending := some (.insert resource (row uuid)) } later).row?
        resource (resource.id (row uuid)) = some (row uuid) := by
      have absent : (later.rows resource).find? (fun other => resource.id other = uuid) = none := new
      simp [Session.view, Store.row?, named, List.find?_append, absent]
    apply Program.Returns.mono (refresh_alone healthy found)
    intro entity final last same
    obtain ⟨rfl, rfl, rfl⟩ := same
    exact ⟨⟨uuid, rfl⟩, rfl, rfl⟩
  apply Program.Returns.bind created
  intro entity later updated flushed
  obtain ⟨made, rfl, rfl⟩ := flushed
  apply Program.Returns.bind (commit_alone healthy)
  intro _ final last committed
  obtain ⟨rfl, rfl⟩ := committed
  exact Program.returns_ret ⟨made, rfl⟩

omit healthy in
theorem apply_update (valid : store.Valid) {entity : resource.Row}
    (stored : entity ∈ store.rows resource) (changes : resource.Changes) :
    (Write.update resource (resource.id entity) changes).apply store =
      store.replace resource (resource.apply changes entity) := by
  rw [Write.apply, Store.replace, Resource.id_apply]
  congr 1
  apply KeyedRows.modify_congr
  intro row included same
  rw [(valid.unique resource).eq_of_id included stored same]

omit healthy in
theorem replace_same (valid : store.Valid) {entity : resource.Row}
    (stored : entity ∈ store.rows resource) : store.replace resource entity = store := by
  have same : KeyedRows.modify resource.id (resource.id entity) (fun _ => entity)
      (store.rows resource) = store.rows resource := by
    apply KeyedRows.modify_same
    intro row included same
    exact ((valid.unique resource).eq_of_id included stored same).symm
  rw [Store.replace, same, Store.withRows_rows]

omit healthy in
theorem row?_replace {entity row : resource.Row} (found : store.row? resource id = some entity)
    (named : resource.id row = id) : (store.replace resource row).row? resource id = some row := by
  subst named
  rw [Store.row?, Store.replace, Store.rows_withRows]
  exact KeyedRows.find_modify (fun _ _ => rfl) found

theorem flush_alone (valid : store.Valid) {entity : resource.Row} {updates : resource.Changes}
    (stored : entity ∈ store.rows resource) (accepted : resource.violation? updates = none)
    (free : ∀ key, resource.newKey updates = some key → ∀ other ∈ store.rows resource,
      resource.key other = key → resource.id other = resource.id entity) :
    (flush resource entity updates).Returns environment answers store {}
      (fun _ after updated => after = store ∧ updated.view store =
        store.replace resource (resource.apply (resource.dirty updates entity) entity)) := by
  unfold flush
  split
  · next same =>
      apply Program.returns_ret
      rw [Resource.apply_unchanged same, replace_same valid stored]
      exact ⟨rfl, rfl⟩
  · apply returns_statement healthy
    intro n
    have allowed : resource.violation? (resource.dirty updates entity) = none := by
      rw [Resource.violation?_dirty (valid.inRange resource entity stored), accepted]
    have there : (store.row? resource (resource.id entity)).isNone = false := by
      rw [Store.row?, (valid.unique resource).find_id stored]
      rfl
    refine ⟨(), store, { pending := some (.update resource (resource.id entity)
      (resource.dirty updates entity)) }, ?_, ?_⟩
    · cases assigned : resource.newKey (resource.dirty updates entity) with
      | none => simp [respond, update, allowed, lockedElsewhere, there, assigned]
      | some key =>
          have unheld : store.holder? resource key (resource.id entity) = none :=
            Store.holder?_eq_none.mpr (free key (Resource.newKey_dirty assigned))
          simp [respond, update, allowed, lockedElsewhere, there, assigned, claimKey,
            claimedElsewhere, unheld]
    · exact Program.returns_ret ⟨rfl, apply_update valid stored _⟩

theorem flush_rejected (valid : store.Valid) {entity : resource.Row} {updates : resource.Changes}
    (stored : entity ∈ store.rows resource) (rejected : resource.violation? updates ≠ none) :
    (flush resource entity updates).Raises environment answers store {}
      (fun error _ _ => Rejects error) := by
  have dirty : resource.violation? (resource.dirty updates entity) ≠ none := by
    rwa [Resource.violation?_dirty (valid.inRange resource entity stored)]
  unfold flush
  split
  · next same => exact absurd (Resource.violation?_unchanged same) dirty
  · obtain ⟨error, violated⟩ := Option.ne_none_iff_exists'.mp dirty
    have refused : ∀ n, respond (.update resource (resource.id entity)
        (resource.dirty updates entity)) (answers n) [] store {} = .raise error := by
      intro n
      simp [respond, update, violated]
    exact raises_rejected healthy refused (Resource.violation?_error violated)

theorem assign_alone (valid : store.Valid) {entity : resource.Row} {updates : resource.Changes}
    (stored : entity ∈ store.rows resource) (accepted : resource.violation? updates = none)
    (free : ∀ key, resource.newKey updates = some key → ∀ other ∈ store.rows resource,
      resource.key other = key → resource.id other = resource.id entity) :
    (assign resource entity updates).Returns environment answers store {}
      (fun row after _ => row = resource.apply (resource.dirty updates entity) entity ∧
        after = store.replace resource row) := by
  apply Program.Returns.bind (flush_alone healthy valid stored accepted free)
  intro _ after updated flushed
  obtain ⟨rfl, written⟩ := flushed
  apply Program.Returns.bind (commit_alone healthy)
  intro _ final last committed
  obtain ⟨rfl, rfl⟩ := committed
  rw [written]
  have here : after.row? resource (resource.id entity) = some entity :=
    (valid.unique resource).find_id stored
  have replaced : (Session.view {} (after.replace resource (resource.apply
      (resource.dirty updates entity) entity))).row? resource (resource.id entity) = some _ :=
    row?_replace here (Resource.id_apply _ _ _)
  apply Program.Returns.mono (refresh_alone healthy replaced)
  intro row final last found
  obtain ⟨rfl, rfl, _⟩ := found
  exact ⟨rfl, rfl⟩

omit healthy in
theorem Store.Valid.sendable (valid : store.Valid) {id : Option UUID}
    (taken : store.Taken resource id key) : Text.sendable key = true := by
  obtain ⟨row, stored, rfl, _⟩ := taken
  exact Resource.sendable_newKey (valid.inRange resource row stored) Resource.newKey_columns

omit healthy in
theorem Store.Valid.taken_ne (valid : store.Valid) {own : resource.Row}
    (stored : own ∈ store.rows resource)
    (taken : store.Taken resource (some (resource.id own)) key) : key ≠ resource.key own := by
  obtain ⟨row, included, rfl, different⟩ := taken
  intro same
  have one := List.inj_on_of_nodup_map (valid.unique resource).keys included stored same
  exact different (one ▸ rfl)

omit healthy in
theorem Store.Valid.free_of_ne (valid : store.Valid) {own : resource.Row}
    (stored : own ∈ store.rows resource)
    (free : ¬ store.Taken resource (some (resource.id own)) key) (different : key ≠ resource.key own) :
    ∀ other ∈ store.rows resource, resource.key other ≠ key := by
  intro other included same
  refine free ⟨other, included, same, ?_⟩
  intro here
  have one := (valid.unique resource).eq_of_id included stored (Option.some.inj here).symm
  exact different (one ▸ same.symm)

theorem requireFreeNewKey_alone (valid : store.Valid) {own : resource.Row}
    {updates : resource.Changes} (stored : own ∈ store.rows resource)
    (free : ∀ key, resource.newKey updates = some key →
      ¬ store.Taken resource (some (resource.id own)) key)
    (sendable : ∀ key, resource.newKey updates = some key → key ≠ resource.key own →
      Text.sendable key = true) :
    (requireFreeNewKey resource own updates).Returns environment answers store {}
      (fun _ after updated => Idle store after updated) := by
  unfold requireFreeNewKey
  split
  · exact Program.returns_ret ⟨rfl, rfl⟩
  · next key assigned =>
      split
      · next different =>
          exact requireFreeKey_alone healthy (sendable key assigned different)
            (valid.free_of_ne stored (free key assigned) different)
      · exact Program.returns_ret ⟨rfl, rfl⟩

section Updates

variable {updates : resource.Changes} {old : resource.Row}

theorem updateEntity_alone (valid : store.Valid) (found : store.row? resource id = some old)
    (accepted : resource.violation? updates = none)
    (free : ∀ key, resource.newKey updates = some key → ¬ store.Taken resource (some id) key) :
    (updateEntity resource id updates).Returns environment answers store {}
      (fun row after _ => resource.inRange (resource.columns row) = true ∧
        resource.Carries updates old row ∧ after = store.replace resource row) := by
  obtain ⟨stored, rfl⟩ := Store.mem_of_row? found
  obtain ⟨fits, present⟩ := Resource.violation?_eq_none.mp accepted
  apply Program.Returns.bind (getByIdOrRaise_alone healthy found)
  intro entity after updated loaded
  obtain ⟨rfl, rfl, rfl⟩ := loaded
  apply Program.Returns.bind (requireFreeNewKey_alone healthy valid stored free
    (fun key assigned _ => Resource.sendable_newKey fits assigned))
  intro _ final last idle
  obtain ⟨rfl, rfl⟩ := idle
  have own : ∀ key, resource.newKey updates = some key → ∀ other ∈ final.rows resource,
      resource.key other = key → resource.id other = resource.id entity := by
    intro key assigned other included same
    by_contra different
    exact free key assigned
      ⟨other, included, same, fun here => different (Option.some.inj here).symm⟩
  apply Program.Returns.mono (assign_alone healthy valid stored accepted own)
  intro row after _ assigned
  obtain ⟨rfl, replaced⟩ := assigned
  have flushed : resource.inRange (resource.dirty updates entity) = true := by
    rw [Resource.inRange_dirty (valid.inRange resource entity stored), fits]
  exact ⟨Resource.inRange_apply flushed (valid.inRange resource entity stored),
    Resource.carries_apply present, replaced⟩

theorem updateEntity_missing (absent : store.row? resource id = none) :
    (updateEntity resource id updates).Raises environment answers store {}
      (fun error after _ => Refuses store error after) :=
  Program.Raises.bind (getByIdOrRaise_missing healthy absent)

theorem updateEntity_taken (valid : store.Valid) (found : store.row? resource id = some old)
    (assigned : resource.newKey updates = some key)
    (taken : store.Taken resource (some id) key) :
    (updateEntity resource id updates).Raises environment answers store {}
      (fun error after _ => Refuses store error after) := by
  obtain ⟨stored, rfl⟩ := Store.mem_of_row? found
  apply Program.Returns.bind_raises (getByIdOrRaise_alone healthy found)
  intro entity after updated loaded
  obtain ⟨rfl, rfl, rfl⟩ := loaded
  apply Program.Raises.bind
  have sendable := valid.sendable taken
  have different := valid.taken_ne stored taken
  obtain ⟨row, included, same, _⟩ := taken
  simp only [requireFreeNewKey, assigned, ne_eq, different, not_false_eq_true, if_true]
  exact requireFreeKey_taken healthy valid sendable included same

theorem updateEntity_rejected (valid : store.Valid) (found : store.row? resource id = some old)
    (rejected : resource.violation? updates ≠ none)
    (free : ∀ key, resource.newKey updates = some key → ¬ store.Taken resource (some id) key) :
    (updateEntity resource id updates).Raises environment answers store {}
      (fun error _ _ => Rejects error) := by
  obtain ⟨stored, rfl⟩ := Store.mem_of_row? found
  apply Program.Returns.bind_raises (getByIdOrRaise_alone healthy found)
  intro entity after updated loaded
  obtain ⟨rfl, rfl, rfl⟩ := loaded
  by_cases sendable : ∀ key, resource.newKey updates = some key → key ≠ resource.key entity →
      Text.sendable key = true
  · apply Program.Returns.bind_raises
      (requireFreeNewKey_alone healthy valid stored free sendable)
    intro _ final last idle
    obtain ⟨rfl, rfl⟩ := idle
    exact Program.Raises.bind (flush_rejected healthy valid stored rejected)
  · simp only [not_forall, Bool.not_eq_true] at sendable
    obtain ⟨key, assigned, different, unsendable⟩ := sendable
    apply Program.Raises.bind
    simp only [requireFreeNewKey, assigned, ne_eq, different, not_false_eq_true, if_true]
    exact requireFreeKey_rejected healthy unsendable

end Updates

section Creations

variable {row : UUID → resource.Row}

theorem createEntity_taken (valid : store.Valid) (taken : store.Taken resource none key) :
    (createEntity resource key row).Raises environment answers store {}
      (fun error after _ => Refuses store error after) := by
  have sendable := valid.sendable taken
  obtain ⟨other, included, same, _⟩ := taken
  exact Program.Raises.bind (requireFreeKey_taken healthy valid sendable included same)

theorem createEntity_rejected {error : Exception} (free : ¬ store.Taken resource none key)
    (violated : ∀ uuid, resource.violation? (resource.columns (row uuid)) = some error) :
    (createEntity resource key row).Raises environment answers store {}
      (fun error _ _ => Rejects error) := by
  cases sendable : Text.sendable key with
  | false => exact Program.Raises.bind (requireFreeKey_rejected healthy sendable)
  | true =>
      apply Program.Returns.bind_raises (requireFreeKey_alone healthy sendable
        (fun other included same => free ⟨other, included, same, fun none => (by cases none)⟩))
      intro _ after updated idle
      obtain ⟨rfl, rfl⟩ := idle
      exact Program.Raises.bind (Program.Raises.bind (insert_rejected healthy violated))

end Creations

end Alone

end InventoryManagement.Catalog
