import InventoryManagement.Catalog.ResourceProperties
import InventoryManagement.Catalog.Services
import InventoryManagement.Interleaving.Assertion

/-! What PostgreSQL promises the catalog sessions whatever their programs do: ids and
natural keys of committed rows are unique, and a flushed row can always be committed. -/

set_option autoImplicit false

namespace InventoryManagement.Catalog

open Interleaving (Discipline Outcome)

/-! Committed rows. -/

structure Store.Valid (store : Store) : Prop where
  unique : ∀ resource : Resource, KeyedRows.Unique resource.id resource.key (store.rows resource)
  inRange : ∀ resource : Resource, ∀ row ∈ store.rows resource,
    resource.inRange (resource.columns row) = true

section Rows

variable {store : Store} {resource : Resource} {id : UUID} {key : String} {row : resource.Row}

theorem Store.mem_of_row? (found : store.row? resource id = some row) :
    row ∈ store.rows resource ∧ resource.id row = id :=
  ⟨List.mem_of_find?_eq_some found, by simpa using List.find?_some found⟩

theorem Store.row?_isSome :
    (store.row? resource id).isSome = true ↔ ∃ row ∈ store.rows resource, resource.id row = id := by
  rw [Store.row?, List.find?_isSome]
  simp

theorem Store.row?_eq_none :
    store.row? resource id = none ↔ ∀ row ∈ store.rows resource, resource.id row ≠ id := by
  rw [Store.row?, List.find?_eq_none]
  simp

theorem Store.holder?_eq_none : store.holder? resource key id = none ↔
    ∀ row ∈ store.rows resource, resource.key row = key → resource.id row = id := by
  rw [Store.holder?, List.find?_eq_none]
  simp

end Rows

/-! Flushed rows. -/

section Writes

variable {store : Store} {write other : Write}

/-- The row can be committed: its natural key is free, its columns accept it, and it is
new or stored as the write says. -/
structure Write.Sound (store : Store) (write : Write) : Prop where
  free : ∀ key, write.key? = some key → store.holder? write.resource key write.id = none
  row : match write with
    | .insert resource row => store.row? resource (resource.id row) = none ∧
        resource.inRange (resource.columns row) = true
    | .update resource id changes => (store.row? resource id).isSome = true ∧
        resource.inRange changes = true

/-- Two transactions write different rows and different natural keys. -/
def Write.Apart (left right : Write) : Prop :=
  left.resource = right.resource →
    left.id ≠ right.id ∧ ∀ key, left.key? = some key → right.key? ≠ some key

theorem Write.Apart.symm (apart : write.Apart other) : other.Apart write := by
  intro same
  obtain ⟨ids, keys⟩ := apart same.symm
  exact ⟨ids.symm, fun key mine theirs => keys key theirs mine⟩

@[simp] theorem Write.rows_insert (resource : Resource) (row : resource.Row) :
    ((Write.insert resource row).apply store).rows resource = store.rows resource ++ [row] :=
  Store.rows_withRows _ _ _

@[simp] theorem Write.rows_update (resource : Resource) (id : UUID) (changes : resource.Changes) :
    ((Write.update resource id changes).apply store).rows resource =
      KeyedRows.modify resource.id id (resource.apply changes) (store.rows resource) :=
  Store.rows_withRows _ _ _

theorem Write.rows_apply_of_ne {resource : Resource} (different : resource ≠ write.resource) :
    (write.apply store).rows resource = store.rows resource := by
  cases write <;> exact Store.rows_withRows_of_ne _ different _

/-- A row of the changed tables was stored before, or is the written one, which has the
written natural key or the one it had. -/
theorem Write.mem_apply {resource : Resource} {row : resource.Row}
    (member : row ∈ (write.apply store).rows resource) :
    row ∈ store.rows resource ∨
      (write.resource = resource ∧ resource.id row = write.id ∧
        (write.key? = some (resource.key row) ∨ ∃ old ∈ store.rows resource,
          resource.id old = resource.id row ∧ resource.key old = resource.key row)) := by
  by_cases here : resource = write.resource
  · subst here
    cases write with
    | insert resource inserted =>
        rcases List.mem_append.mp (Write.rows_insert resource inserted ▸ member) with stored | new
        · exact .inl stored
        · cases List.mem_singleton.mp new
          exact .inr ⟨rfl, rfl, .inl rfl⟩
    | update resource id changes =>
        obtain ⟨old, stored, rfl⟩ := KeyedRows.mem_modify.mp
          (Write.rows_update resource id changes ▸ member)
        by_cases target : resource.id old = id
        · rw [if_pos target]
          have named := resource.id_apply changes old
          refine .inr ⟨rfl, named.trans target, ?_⟩
          cases assigned : resource.newKey changes with
          | none => exact .inr ⟨old, stored, named.symm, by simp [Resource.key_apply, assigned]⟩
          | some key => exact .inl (by simp [Write.key?, Resource.key_apply, assigned])
        · rw [if_neg target]
          exact .inl stored
  · rw [Write.rows_apply_of_ne here] at member
    exact .inl member

/-- Rows are never deleted. -/
theorem Write.row?_apply {resource : Resource} {id : UUID}
    (stored : (store.row? resource id).isSome = true) :
    ((write.apply store).row? resource id).isSome = true := by
  rw [Store.row?_isSome] at stored ⊢
  obtain ⟨row, member, named⟩ := stored
  by_cases here : resource = write.resource
  · subst here
    cases write with
    | insert resource inserted =>
        refine ⟨row, ?_, named⟩
        exact Write.rows_insert resource inserted ▸ List.mem_append_left _ member
    | update resource target changes =>
        refine ⟨if resource.id row = target then resource.apply changes row else row, ?_, ?_⟩
        · exact Write.rows_update resource target changes ▸
            KeyedRows.mem_modify.mpr ⟨row, member, rfl⟩
        · split
          · exact (resource.id_apply changes row).trans named
          · exact named
  · refine ⟨row, ?_, named⟩
    rw [Write.rows_apply_of_ne here]
    exact member

theorem Write.Sound.written (sound : write.Sound store) :
    ((write.apply store).row? write.resource write.id).isSome = true := by
  cases write with
  | insert resource row =>
      rw [Store.row?_isSome]
      refine ⟨row, ?_, rfl⟩
      exact Write.rows_insert resource row ▸ List.mem_append_right _ List.mem_cons_self
  | update resource id changes => exact Write.row?_apply sound.row.1

theorem Write.Sound.unique (sound : write.Sound store)
    (unique : KeyedRows.Unique write.resource.id write.resource.key (store.rows write.resource)) :
    KeyedRows.Unique write.resource.id write.resource.key
      ((write.apply store).rows write.resource) := by
  cases write with
  | insert resource row =>
      have free := Store.holder?_eq_none.mp (sound.free _ rfl)
      have unused := Store.row?_eq_none.mp sound.row.1
      exact Write.rows_insert resource row ▸ unique.append unused
        (fun other member same => unused other member (free other member same))
  | update resource id changes =>
      refine Write.rows_update resource id changes ▸
        unique.modify (resource.id_apply changes) ?_
      intro row stored target other storedToo elsewhere same
      rw [Resource.key_apply] at same
      cases assigned : resource.newKey changes with
      | none =>
          rw [assigned] at same
          have one := List.inj_on_of_nodup_map unique.keys storedToo stored same
          exact elsewhere (one ▸ target)
      | some key =>
          rw [assigned] at same
          exact elsewhere (Store.holder?_eq_none.mp (sound.free key assigned) other storedToo same)

theorem Write.Sound.inRange (sound : write.Sound store)
    (stored : ∀ row ∈ store.rows write.resource,
      write.resource.inRange (write.resource.columns row) = true) :
    ∀ row ∈ (write.apply store).rows write.resource,
      write.resource.inRange (write.resource.columns row) = true := by
  intro row member
  cases write with
  | insert resource inserted =>
      rcases List.mem_append.mp (Write.rows_insert resource inserted ▸ member) with old | new
      · exact stored row old
      · cases List.mem_singleton.mp new
        exact sound.row.2
  | update resource id changes =>
      obtain ⟨old, included, rfl⟩ := KeyedRows.mem_modify.mp
        (Write.rows_update resource id changes ▸ member)
      split
      · exact Resource.inRange_apply sound.row.2 (stored old included)
      · exact stored old included

theorem Store.Valid.apply (valid : store.Valid) (sound : write.Sound store) :
    (write.apply store).Valid where
  unique := by
    intro resource
    by_cases here : resource = write.resource
    · subst here
      exact sound.unique (valid.unique _)
    · rw [Write.rows_apply_of_ne here]
      exact valid.unique resource
  inRange := by
    intro resource
    by_cases here : resource = write.resource
    · subst here
      exact sound.inRange (valid.inRange _)
    · rw [Write.rows_apply_of_ne here]
      exact valid.inRange resource

/-- A commit leaves the flushed rows of the other transactions sound. -/
theorem Write.Sound.apply (sound : other.Sound store) (apart : write.Apart other) :
    other.Sound (write.apply store) where
  free := by
    intro key claimed
    have free := Store.holder?_eq_none.mp (sound.free key claimed)
    rw [Store.holder?_eq_none]
    intro row member same
    rcases Write.mem_apply member with stored | ⟨here, _, assigned | ⟨old, stored, id, kept⟩⟩
    · exact free row stored same
    · rw [same] at assigned
      exact absurd claimed ((apart here).2 key assigned)
    · exact id ▸ free old stored (kept.trans same)
  row := by
    cases other with
    | insert resource row =>
        obtain ⟨new, fits⟩ := sound.row
        have unused := Store.row?_eq_none.mp new
        refine ⟨Store.row?_eq_none.mpr ?_, fits⟩
        intro later member same
        rcases Write.mem_apply member with stored | ⟨here, written, _⟩
        · exact unused later stored same
        · exact (apart here).1 (written.symm.trans same)
    | update resource id changes => exact ⟨Write.row?_apply sound.row.1, sound.row.2⟩

end Writes

/-! Sessions. -/

def Session.Sound (session : Session) (store : Store) : Prop :=
  ∀ write ∈ session.pending, write.Sound store

def Session.Compatible (left right : Session) : Prop :=
  ∀ write ∈ left.pending, ∀ other ∈ right.pending, write.Apart other

/-- The changes of the tables a session has to expect from the others. -/
structure Session.Rely (session : Session) (before after : Store) : Prop where
  kept : ∀ (resource : Resource) (id : UUID),
    (before.row? resource id).isSome = true → (after.row? resource id).isSome = true
  sound : session.Sound before → session.Sound after

theorem Session.Rely.refl (session : Session) (store : Store) : session.Rely store store :=
  ⟨fun _ _ stored => stored, fun sound => sound⟩

section Flushes

variable {others : List Session} {before after store : Store} {session updated : Session}
variable {resource : Resource} {key : String} {id : UUID}

theorem lockedElsewhere_iff : lockedElsewhere others resource id = true ↔
    ∃ other ∈ others, ∃ write ∈ other.pending, write.resource = resource ∧ write.id = id := by
  simp [lockedElsewhere, Option.any_eq_true]

theorem claimedElsewhere_iff : claimedElsewhere others resource key = true ↔
    ∃ other ∈ others, ∃ write ∈ other.pending, write.resource = resource ∧
      write.key? = some key := by
  simp [claimedElsewhere, Option.any_eq_true]

theorem claimKey_done {Response : Type} {granted : Outcome Store Session Exception Response}
    {response : Response}
    (executed : claimKey others store resource key id granted = .done response after updated) :
    granted = .done response after updated ∧ claimedElsewhere others resource key = false ∧
      store.holder? resource key id = none := by
  unfold claimKey at executed
  split at executed
  · cases executed
  · next unclaimed =>
      cases held : store.holder? resource key id with
      | none =>
          rw [held] at executed
          exact ⟨executed, by simpa using unclaimed, rfl⟩
      | some row =>
          simp only [held] at executed
          split at executed <;> cases executed

/-- What a flush finds out before it is granted. -/
structure Flushed (others : List Session) (store : Store) (session : Session) (write : Write) :
    Prop where
  first : session.pending = none
  unlocked : lockedElsewhere others write.resource write.id = false
  unclaimed : ∀ key, write.key? = some key →
    claimedElsewhere others write.resource key = false
  sound : write.Sound store

theorem insert_done {row response : resource.Row}
    (executed : insert resource row others store session = .done response after updated) :
    response = row ∧ after = store ∧ updated = { pending := some (.insert resource row) } ∧
      Flushed others store session (.insert resource row) := by
  unfold insert at executed
  split at executed
  · cases executed
  next idle =>
  split at executed
  · cases executed
  next accepted =>
  split at executed
  · cases executed
  next unlocked =>
  split at executed
  · cases executed
  next new =>
  obtain ⟨granted, unclaimed, free⟩ := claimKey_done executed
  cases granted
  refine ⟨rfl, rfl, rfl, by simpa using idle, Bool.eq_false_iff.mpr unlocked, ?_, ?_, ?_, ?_⟩
  · intro key assigned
    cases assigned
    exact unclaimed
  · intro key assigned
    cases assigned
    exact free
  · simpa using new
  · exact (Resource.violation?_eq_none.mp accepted).1

theorem update_done {changes : resource.Changes} {response : Unit}
    (executed : update resource id changes others store session = .done response after updated) :
    after = store ∧ updated = { pending := some (.update resource id changes) } ∧
      Flushed others store session (.update resource id changes) := by
  unfold update at executed
  split at executed
  · cases executed
  next idle =>
  split at executed
  · cases executed
  next accepted =>
  split at executed
  · cases executed
  next unlocked =>
  split at executed
  · cases executed
  next stored =>
  have fits := (Resource.violation?_eq_none.mp accepted).1
  have here : (store.row? resource id).isSome = true := by
    cases found : store.row? resource id with
    | none => simp [found] at stored
    | some row => rfl
  have alone : lockedElsewhere others resource id = false := Bool.eq_false_iff.mpr unlocked
  have clean : session.pending = none := by simpa using idle
  cases assigned : resource.newKey changes with
  | none =>
      simp only [assigned] at executed
      cases executed
      exact ⟨rfl, rfl, clean, alone, fun key claimed => (by cases assigned.symm.trans claimed),
        fun key claimed => (by cases assigned.symm.trans claimed), here, fits⟩
  | some key =>
      simp only [assigned] at executed
      obtain ⟨granted, unclaimed, free⟩ := claimKey_done executed
      cases granted
      refine ⟨rfl, rfl, clean, alone, ?_, ?_, here, fits⟩
      · intro other claimed
        cases assigned.symm.trans claimed
        exact unclaimed
      · intro other claimed
        cases assigned.symm.trans claimed
        exact free

/-- Everything an answered statement can do. -/
theorem execute_cases {statement : Statement} {answer : Answer} {response : statement.Response}
    (executed : execute statement answer others before session = .done response after updated) :
    (after = before ∧ updated = session) ∨
      (after = before ∧ ∃ write, updated = { pending := some write } ∧
        Flushed others before session write) ∨
      (after = session.view before ∧ updated = {}) := by
  unfold execute at executed
  split at executed
  · cases executed
  cases statement with
  | get resource id =>
      cases executed
      exact .inl ⟨rfl, rfl⟩
  | selectByKey resource key =>
      simp only [respond, selectByKey] at executed
      split at executed
      · cases executed
      · cases executed
        exact .inl ⟨rfl, rfl⟩
  | insert resource row =>
      obtain ⟨_, same, flushed, granted⟩ := insert_done executed
      exact .inr (.inl ⟨same, _, flushed, granted⟩)
  | update resource id changes =>
      obtain ⟨same, flushed, granted⟩ := update_done executed
      exact .inr (.inl ⟨same, _, flushed, granted⟩)
  | refresh resource id =>
      simp only [respond, refresh] at executed
      split at executed
      · cases executed
      · cases executed
        exact .inl ⟨rfl, rfl⟩
  | commit =>
      cases executed
      exact .inr (.inr ⟨rfl, rfl⟩)

theorem Flushed.apart {write : Write} (flushed : Flushed others store session write)
    {other : Session} (member : other ∈ others) :
    Session.Compatible { pending := some write } other := by
  intro mine here theirs pending same
  cases here
  constructor
  · intro ids
    have locked := lockedElsewhere_iff.mpr ⟨other, member, theirs, pending, same.symm, ids.symm⟩
    rw [flushed.unlocked] at locked
    cases locked
  · intro key assigned taken
    have claimed := claimedElsewhere_iff.mpr ⟨other, member, theirs, pending, same.symm, taken⟩
    rw [flushed.unclaimed key assigned] at claimed
    cases claimed

end Flushes

theorem Session.Sound.view {session : Session} {store : Store} (sound : session.Sound store)
    (valid : store.Valid) : (session.view store).Valid := by
  obtain ⟨pending⟩ := session
  cases pending with
  | none => exact valid
  | some write => exact valid.apply (sound write rfl)

theorem Session.Compatible.rely_view {session other : Session} {store : Store}
    (apart : session.Compatible other) : other.Rely store (session.view store) := by
  obtain ⟨pending⟩ := session
  cases pending with
  | none => exact .refl _ _
  | some write =>
      constructor
      · intro resource id stored
        exact Write.row?_apply stored
      · intro sound mine pending
        exact (sound mine pending).apply (apart write rfl mine pending)

/-- The assumptions about PostgreSQL, independent of the services. -/
def catalogDiscipline : Discipline environment where
  invariant := Store.Valid
  sound := Session.Sound
  compatible := Session.Compatible
  rely := Session.Rely
  rely_refl := Session.Rely.refl
  rely_trans := fun _ _ _ _ earlier later =>
    ⟨fun resource id stored => later.kept resource id (earlier.kept resource id stored),
      fun sound => later.sound (earlier.sound sound)⟩
  compatible_symm := fun _ _ apart mine here theirs there => (apart theirs there mine here).symm
  sound_stable := fun _ _ _ sound relied => relied.sound sound
  execute_done := by
    intro statement answer others before session response after updated executed valid sound apart
    rcases execute_cases executed with ⟨rfl, rfl⟩ | ⟨rfl, write, rfl, flushed⟩ | ⟨rfl, rfl⟩
    · exact ⟨valid, sound, fun other member => ⟨(apart other member).1, .refl _ _⟩⟩
    · refine ⟨valid, ?_, fun other member => ⟨flushed.apart member, .refl _ _⟩⟩
      intro mine here
      cases here
      exact flushed.sound
    · refine ⟨sound.view valid, fun write pending => (by cases pending), ?_⟩
      intro other member
      exact ⟨fun write pending => (by cases pending), (apart other member).1.rely_view⟩
  close_sound := fun _ _ _ _ pending => (by cases pending)
  close_compatible := fun _ _ _ _ pending => (by cases pending)

theorem Session.fresh_sound (store : Store) : Session.Sound {} store :=
  fun _ pending => (by cases pending)

theorem Session.fresh_compatible (left right : Session) (first : left = {} ∨ left = Session.close {})
    (_ : right = {} ∨ right = Session.close {}) : left.Compatible right := by
  intro write pending
  rcases first with rfl | rfl <;> cases pending

end InventoryManagement.Catalog
