import InventoryManagement.Catalog.Discipline

/-! SKUs and warehouse codes stay unique in every interleaving. The loser of a race for
one gets the conflict only if the winner has committed before the loser's select. -/

set_option autoImplicit false

namespace InventoryManagement.Catalog

open Interleaving (Guard Outcome Program Reachable System Thread)

structure Store.DistinctKeys (store : Store) : Prop where
  skus : (store.products.map (·.sku)).Nodup
  codes : (store.warehouses.map (·.code)).Nodup

theorem Store.Valid.distinctKeys {store : Store} (valid : store.Valid) : store.DistinctKeys :=
  ⟨(valid.unique .product).keys, (valid.unique .warehouse).keys⟩

/-- An exception a call may end with: its entity did not exist, its key was taken, or
the database failed. -/
def Call.Refusal (store : Store) (call : Call) (error : Exception) : Prop :=
  (∃ id text, call.target? = some id ∧ store.row? call.resource id = none ∧
    error = .notFoundError text) ∨
  (∃ key, call.key? = some key ∧ error = call.resource.keyConflict key) ∨
  error = .operationalError

/-- `uuid.uuid4()` draws an id that no committed row has. -/
def drawsFreshIds : Guard Statement Answer Store Session :=
  fun answer _ store _ statement =>
    match statement with
    | .insert resource row => store.row? resource (resource.id (row answer.uuid)) = none
    | _ => True

/-- Every row is flushed while no other committed row has the natural key it is given,
unless the flush fails for a reason of its own. -/
def flushesFreeKeys : Guard Statement Answer Store Session :=
  fun answer others store session statement =>
    drawsFreshIds answer others store session statement ∧ (answer.fails = false →
      match statement with
      | .insert resource row => store.holder? resource (resource.key (row answer.uuid))
          (resource.id (row answer.uuid)) = none
      | .update resource id changes => ∀ key ∈ resource.newKey changes,
          store.holder? resource key id = none
      | _ => True)

instance (answer : Answer) (others : List Session) (store : Store) (session : Session)
    (statement : Statement) : Decidable (drawsFreshIds answer others store session statement) :=
  match statement with
  | .insert _ _ => inferInstanceAs (Decidable (_ = none))
  | .get _ _ | .selectByKey _ _ | .update _ _ _ | .refresh _ _ | .commit =>
      inferInstanceAs (Decidable True)

instance (answer : Answer) (others : List Session) (store : Store) (session : Session)
    (statement : Statement) : Decidable (flushesFreeKeys answer others store session statement) :=
  match statement with
  | .insert _ _ => inferInstanceAs (Decidable (drawsFreshIds _ _ _ _ _ ∧ (_ → _ = none)))
  | .update resource _ changes => inferInstanceAs (Decidable (drawsFreshIds _ _ _ _ _ ∧
      (_ → ∀ key ∈ resource.newKey changes, _ = none)))
  | .get _ _ | .selectByKey _ _ | .refresh _ _ | .commit =>
      inferInstanceAs (Decidable (drawsFreshIds _ _ _ _ _ ∧ (_ → True)))

section Refusals

variable {Value Result : Type} {allowed : Exception → Prop} {resource : Resource}
variable {key : String} {id : UUID} {store : Store} {session : Session}

/-- A part of a call that raises nothing else while every flush finds its key free. -/
abbrev RaisesOnly (allowed : Exception → Prop) (returns : Value → Session → Store → Prop)
    (program : Transaction Value) (session : Session) (store : Store) : Prop :=
  program.Verified catalogDiscipline flushesFreeKeys (fun _ _ _ => True) returns
    (fun error _ => allowed error) session store

theorem raisesOnly_bind {program : Transaction Value} {next : Value → Transaction Result}
    {returns : Result → Session → Store → Prop} (middle : Value → Session → Store → Prop)
    (first : RaisesOnly allowed middle program session store)
    (second : ∀ value session store, middle value session store →
      RaisesOnly allowed returns (next value) session store) :
    RaisesOnly allowed returns (program.bind next) session store :=
  Program.verified_bind (Program.verified_mono first second)

theorem raisesOnly_call {statement : Statement} {next : statement.Response → Transaction Value}
    {returns : Value → Session → Store → Prop} (failed : allowed .operationalError)
    (answered : ∀ current, session.Rely store current → current.Valid → session.Sound current →
      ∀ answer others, answer.fails = false →
        flushesFreeKeys answer others current session statement →
        (∀ error, respond statement answer others current session = .raise error →
          allowed error) ∧
        ∀ response after updated,
          respond statement answer others current session = .done response after updated →
          RaisesOnly allowed returns (next response) updated after) :
    RaisesOnly allowed returns (.call statement next) session store := by
  intro current relied valid sound
  refine ⟨trivial, fun answer others permitted => ?_⟩
  change (∀ error, execute statement answer others current session = .raise error → _) ∧
    ∀ response after updated,
      execute statement answer others current session = .done response after updated → _
  unfold execute
  split
  · constructor
    · intro error raised
      cases raised
      exact failed
    · intro response after updated executed
      cases executed
  · next healthy =>
      obtain ⟨raises, continues⟩ :=
        answered current relied valid sound answer others (by simpa using healthy) permitted
      exact ⟨raises, fun response after updated executed _ _ =>
        continues response after updated executed⟩

/-- A transaction that has flushed nothing, some time after it started. -/
def Waiting (start : Store) (session : Session) (store : Store) : Prop :=
  session = {} ∧ Session.Rely {} start store

theorem Waiting.later {start current : Store} (waiting : Waiting start session store)
    (relied : session.Rely store current) : Waiting start session current := by
  obtain ⟨rfl, earlier⟩ := waiting
  exact ⟨rfl, catalogDiscipline.rely_trans _ _ _ _ earlier relied⟩

theorem getByIdOrRaise_raisesOnly {start : Store} (failed : allowed .operationalError)
    (missing : start.row? resource id = none → ∀ text, allowed (.notFoundError text))
    (waiting : Waiting start session store) :
    RaisesOnly allowed
      (fun entity updated after => Waiting start updated after ∧ resource.id entity = id ∧
        resource.inRange (resource.columns entity) = true ∧
        (after.row? resource id).isSome = true)
      (getByIdOrRaise resource id) session store := by
  apply raisesOnly_call failed
  intro current relied valid _ answer others _ _
  have later := waiting.later relied
  obtain rfl := later.1
  constructor
  · intro error raised
    cases raised
  · intro response after updated executed
    cases response with
    | none =>
        obtain ⟨absent, rfl, rfl⟩ := Outcome.done.inj executed
        refine missing ?_ _
        cases found : start.row? resource id with
        | none => rfl
        | some row =>
            have here := later.2.kept resource id (by rw [found]; rfl)
            rw [show current.row? resource id = none from absent] at here
            cases here
    | some entity =>
        obtain ⟨found, rfl, rfl⟩ := Outcome.done.inj executed
        have here : current.row? resource id = some entity := found
        obtain ⟨stored, named⟩ := Store.mem_of_row? here
        exact ⟨later, named, valid.inRange resource entity stored, by rw [here]; rfl⟩

/-- The select finds at most one row, since the index keeps keys unique. -/
theorem requireFreeKey_raisesOnly {start : Store} (failed : allowed .operationalError)
    (conflict : allowed (resource.keyConflict key)) (sendable : Text.sendable key = true)
    (waiting : Waiting start session store) :
    RaisesOnly allowed (fun _ updated after => Waiting start updated after ∧
        Session.Rely {} store after)
      (requireFreeKey resource key) session store := by
  apply raisesOnly_call failed
  intro current relied valid _ answer others _ _
  have later := waiting.later relied
  obtain rfl := later.1
  have selected : respond (.selectByKey resource key) answer others current {} =
      .done ((current.rows resource).filter (fun row => resource.key row = key)) current {} := by
    simp [respond, selectByKey, sendable, Session.view]
  constructor
  · intro error raised
    rw [selected] at raised
    cases raised
  · intro response after updated executed
    rw [selected] at executed
    cases executed
    have one := (valid.unique resource).filter_key key
    cases found : (current.rows resource).filter (fun row => resource.key row = key) with
    | nil => exact ⟨later, relied⟩
    | cons row rest =>
        cases rest with
        | nil => exact conflict
        | cons _ _ => simp [found] at one

theorem insert_raisesOnly {start : Store} {row : UUID → resource.Row}
    (failed : allowed .operationalError)
    (accepted : ∀ uuid, resource.violation? (resource.columns (row uuid)) = none)
    (waiting : Waiting start session store) :
    RaisesOnly allowed (fun entity updated _ =>
        updated = { pending := some (.insert resource entity) })
      (send (.insert resource (row))) session store := by
  apply raisesOnly_call failed
  intro current relied _ _ answer others healthy permitted
  obtain ⟨rfl, _⟩ := waiting.later relied
  have new : current.row? resource (resource.id (row answer.uuid)) = none := permitted.1
  have free : current.holder? resource (resource.key (row answer.uuid))
      (resource.id (row answer.uuid)) = none := permitted.2 healthy
  constructor
  · intro error raised
    simp only [respond, insert, accepted, new, claimKey, free] at raised
    (repeat' split at raised) <;> simp_all
  · intro response after updated executed
    obtain ⟨rfl, _, flushed, _⟩ := insert_done executed
    exact flushed

theorem refresh_raisesOnly (failed : allowed .operationalError)
    (keeps : ∀ current, session.Rely store current → session.Sound current →
      ((session.view current).row? resource id).isSome = true) :
    RaisesOnly allowed (fun _ _ _ => True) (send (.refresh resource id)) session store := by
  apply raisesOnly_call failed
  intro current relied _ sound answer others _ _
  have here := keeps current relied sound
  constructor
  · intro error raised
    simp only [respond, refresh] at raised
    split at raised
    · next absent =>
        rw [absent] at here
        cases here
    · cases raised
  · intro response after updated executed
    simp only [respond, refresh] at executed
    split at executed
    · cases executed
    · cases executed
      trivial

theorem commit_raisesOnly (failed : allowed .operationalError) :
    RaisesOnly allowed
      (fun _ updated after => updated = {} ∧ ∀ (resource : Resource) (id : UUID),
        (store.row? resource id).isSome = true → (after.row? resource id).isSome = true)
      (send .commit) session store := by
  apply raisesOnly_call failed
  intro current relied _ _ answer others _ _
  constructor
  · intro error raised
    cases raised
  · intro response after updated executed
    cases executed
    refine ⟨rfl, fun resource id stored => ?_⟩
    have kept := relied.kept resource id stored
    obtain ⟨pending⟩ := session
    cases pending with
    | none => exact kept
    | some write => exact Write.row?_apply kept

theorem createEntity_raisesOnly {start : Store} {row : UUID → resource.Row}
    (failed : allowed .operationalError) (conflict : allowed (resource.keyConflict key))
    (sendable : Text.sendable key = true)
    (accepted : ∀ uuid, resource.violation? (resource.columns (row uuid)) = none)
    (waiting : Waiting start session store) :
    RaisesOnly allowed (fun _ _ _ => True) (createEntity resource key row) session store := by
  apply raisesOnly_bind _ (requireFreeKey_raisesOnly failed conflict sendable waiting)
  intro _ session store checked
  apply raisesOnly_bind (fun _ _ _ => True)
  · apply raisesOnly_bind _ (insert_raisesOnly failed accepted checked.1)
    intro entity session store flushed
    subst flushed
    exact refresh_raisesOnly failed (fun _ _ sound => (sound _ rfl).written)
  · intro entity session store _
    exact raisesOnly_bind _ (commit_raisesOnly failed) (fun _ _ _ _ => trivial)

theorem update_raisesOnly {start : Store} {changes : resource.Changes}
    (failed : allowed .operationalError) (accepted : resource.violation? changes = none)
    (there : (store.row? resource id).isSome = true) (waiting : Waiting start session store) :
    RaisesOnly allowed (fun _ _ after => (after.row? resource id).isSome = true)
      (send (.update resource id changes)) session store := by
  apply raisesOnly_call failed
  intro current relied _ _ answer others healthy permitted
  have free : ∀ key ∈ resource.newKey changes, current.holder? resource key id = none :=
    permitted.2 healthy
  have here := relied.kept resource id there
  obtain rfl := (waiting.later relied).1
  constructor
  · intro error raised
    simp only [respond, update, accepted] at raised
    split at raised
    · contradiction
    split at raised
    · cases raised
    split at raised
    · next absent =>
        rw [Option.isNone_iff_eq_none] at absent
        rw [absent] at here
        cases here
    cases assigned : resource.newKey changes with
    | none =>
        rw [assigned] at raised
        cases raised
    | some key =>
        simp only [assigned, claimKey, free key assigned] at raised
        split at raised <;> cases raised
  · intro response after updated executed
    obtain ⟨rfl, _⟩ := update_done executed
    exact here

theorem assign_raisesOnly {start : Store} {entity : resource.Row} {updates : resource.Changes}
    (failed : allowed .operationalError) (accepted : resource.violation? updates = none)
    (fits : resource.inRange (resource.columns entity) = true)
    (there : (store.row? resource (resource.id entity)).isSome = true)
    (waiting : Waiting start session store) :
    RaisesOnly allowed (fun _ _ _ => True) (assign resource entity updates) session store := by
  apply raisesOnly_bind (fun _ _ after => (after.row? resource (resource.id entity)).isSome = true)
  · unfold flush
    split
    · exact there
    · exact update_raisesOnly failed ((Resource.violation?_dirty fits).trans accepted) there waiting
  · intro _ session store here
    apply raisesOnly_bind _ (commit_raisesOnly failed)
    intro _ session after committed
    obtain ⟨rfl, kept⟩ := committed
    exact refresh_raisesOnly failed (fun current relied _ => relied.kept _ _ (kept _ _ here))

theorem updateEntity_raisesOnly {updates : resource.Changes}
    (failed : allowed .operationalError)
    (missing : store.row? resource id = none → ∀ text, allowed (.notFoundError text))
    (conflict : ∀ key, resource.newKey updates = some key → allowed (resource.keyConflict key))
    (accepted : resource.violation? updates = none) :
    RaisesOnly allowed (fun _ _ _ => True) (updateEntity resource id updates) {} store := by
  apply raisesOnly_bind _ (getByIdOrRaise_raisesOnly failed missing ⟨rfl, .refl _ _⟩)
  intro entity session current loaded
  obtain ⟨waiting, rfl, fits, here⟩ := loaded
  apply raisesOnly_bind (fun _ updated after => Waiting store updated after ∧
    (after.row? resource (resource.id entity)).isSome = true)
  · unfold requireFreeNewKey
    split
    · exact ⟨waiting, here⟩
    · next key assigned =>
        have sendable :=
          Resource.sendable_newKey (Resource.violation?_eq_none.mp accepted).1 assigned
        split
        · apply Program.verified_mono
            (requireFreeKey_raisesOnly failed (conflict key assigned) sendable waiting)
          intro _ _ _ checked
          exact ⟨checked.1, checked.2.kept _ _ here⟩
        · exact ⟨waiting, here⟩
  · intro _ session after checked
    exact assign_raisesOnly failed accepted fits checked.2 checked.1

end Refusals

/-- While every flush finds its key free, a call with storable values raises nothing but
its refusals. -/
theorem Call.raisesOnly (store : Store) (call : Call) (storable : call.storable = true) :
    RaisesOnly (call.Refusal store) (fun _ _ _ => True) call.program {} store := by
  have accepted : call.resource.violation? call.changes = none :=
    Option.isNone_iff_eq_none.mp storable
  have failed : call.Refusal store .operationalError := .inr (.inr rfl)
  have missing : ∀ id, call.target? = some id → store.row? call.resource id = none →
      ∀ text, call.Refusal store (.notFoundError text) :=
    fun id named absent text => .inl ⟨id, text, named, absent, rfl⟩
  have conflict : ∀ key, call.key? = some key →
      call.Refusal store (call.resource.keyConflict key) :=
    fun key assigned => .inr (.inl ⟨key, assigned, rfl⟩)
  refine raisesOnly_bind (fun _ _ _ => True) ?_ (fun _ _ _ _ => trivial)
  cases named : call.target? with
  | some id =>
      rw [Call.body_update named]
      exact updateEntity_raisesOnly failed (missing id named) conflict accepted
  | none =>
      obtain ⟨key, row, makes⟩ := Call.body_create named
      rw [makes.body]
      apply createEntity_raisesOnly failed (conflict key makes.named) _ _ ⟨rfl, .refl _ _⟩
      · exact Resource.sendable_newKey (Resource.violation?_eq_none.mp accepted).1 makes.named
      · intro uuid
        rw [makes.columns]
        exact accepted

/-- The calls before they make their first statement, each in a session of its own. -/
abbrev serving (store : Store) (calls : List Call) :
    System Call Statement Statement.Response Exception Store Session Entity :=
  System.start environment Call.program store {} calls

theorem serving_verified {store : Store} (valid : store.Valid) {calls : List Call}
    (storable : ∀ call ∈ calls, call.storable = true) :
    System.Verified catalogDiscipline flushesFreeKeys (fun _ _ _ _ => True)
      (fun (call : Call) result _ => ∀ error, result = .error error → call.Refusal store error)
      (serving store calls) := by
  apply System.start_verified valid (Session.fresh_sound store) Session.fresh_compatible
  intro call member
  apply Program.verified_raises (Program.verified_mono (call.raisesOnly store (storable call member))
    (fun _ _ _ _ _ ended => (by cases ended)))
  intro error _ refused other same
  cases same
  exact refused

/-- In every run keys are distinct in every committed state, and in a run in which every
flush finds its key free each call that fails is refused for a reason it documents. -/
theorem natural_keys {store : Store} (valid : store.Valid) (calls : List Call) :
    (∀ system, Reachable environment Guard.unrestricted (serving store calls) system →
      system.shared.DistinctKeys) ∧
    ((∀ call ∈ calls, call.storable = true) →
      ∀ system, Reachable environment flushesFreeKeys (serving store calls) system →
        ∀ thread ∈ system.threads, ∀ error, thread.program = .raise error →
          thread.label.Refusal store error) := by
  constructor
  · intro system reached
    have verified : System.Verified catalogDiscipline Guard.unrestricted (fun _ _ _ _ => True)
        (fun _ _ _ => True) (serving store calls) :=
      System.start_verified valid (Session.fresh_sound store) Session.fresh_compatible
        (fun call _ => Program.verified_trivially _ (fun _ _ _ => trivial) (fun _ _ _ => trivial)
          (fun _ _ => trivial) _ _)
    exact Store.Valid.distinctKeys (verified.reachable reached).valid
  · intro storable system reached thread member error ended
    obtain ⟨index, found⟩ := List.mem_iff_getElem?.mp member
    obtain ⟨label, program, session⟩ := thread
    cases ended
    exact ((serving_verified valid storable).reachable reached).threads _ _ found error rfl

def Sample.widget : ProductCreate where
  sku := "W-1"
  name := "Widget"
  price := 1999
  sku_length := by decide
  name_length := by decide
  description_length := by simp
  price_positive := by decide

def Sample.creations : List Call := [.createProduct Sample.widget, .createProduct Sample.widget]

theorem Sample.creations_storable : ∀ call ∈ Sample.creations, call.storable = true := by
  decide +kernel

theorem Store.empty_valid : Store.Valid {} := by
  constructor <;> intro resource <;> cases resource <;> first | constructor | skip
  all_goals simp [Store.rows]

/-- The first creation has committed when the second one selects. -/
def Sample.orderly : List (Nat × Answer) := [0, 0, 0, 0, 1].map (·, {})

theorem natural_keys_one_by_one :
    ∃ system, System.schedule environment (serving {} Sample.creations) Sample.orderly = some system ∧
      system.shared.DistinctKeys ∧
      ∀ thread ∈ system.threads, ∀ error, thread.program = .raise error →
        thread.label.Refusal {} error := by
  have completes : (System.schedule environment (serving {} Sample.creations)
      Sample.orderly).isSome = true := by decide +kernel
  have respected : System.respects flushesFreeKeys environment (serving {} Sample.creations)
      Sample.orderly = true := by decide +kernel
  have reached := System.respects_get respected completes
  have keys := natural_keys Store.empty_valid Sample.creations
  exact ⟨_, (Option.some_get completes).symm, keys.1 _ reached.unrestricted,
    keys.2 Sample.creations_storable _ reached⟩

/-- Both creations have selected before the first one is flushed. -/
def Sample.racing : List (Nat × Answer) :=
  [(0, {}), (1, {}), (0, { uuid := ⟨1⟩ }), (0, {}), (0, {}), (1, { uuid := ⟨2⟩ })]

theorem racing_creation_raises_integrity_error :
    ¬ ∀ (store : Store) (calls : List Call), store.Valid →
      (∀ call ∈ calls, call.storable = true) →
      ∀ system, Reachable environment drawsFreshIds (serving store calls) system →
        system.shared.DistinctKeys ∧
        ∀ thread ∈ system.threads, ∀ error, thread.program = .raise error →
          thread.label.Refusal store error := by
  intro documented
  have respected : System.respects drawsFreshIds environment (serving {} Sample.creations)
      Sample.racing = true := by decide +kernel
  have failed : (System.schedule environment (serving {} Sample.creations) Sample.racing).any
      (fun system => system.threads.any (fun thread => match thread.program with
        | .raise .integrityError => true
        | _ => false)) = true := by decide +kernel
  obtain ⟨system, ran, some⟩ := (Option.any_eq_true _ _).mp failed
  obtain ⟨thread, member, raised⟩ := List.any_eq_true.mp some
  split at raised
  · next ended =>
      have refused := (documented {} Sample.creations Store.empty_valid Sample.creations_storable
        system (System.respects_reachable .refl respected ran)).2 thread member _ ended
      rcases refused with ⟨_, _, _, _, other⟩ | ⟨_, _, other⟩ | other
      · cases other
      · generalize thread.label.resource = resource at other
        cases resource <;> cases other
      · cases other
  · cases raised

end InventoryManagement.Catalog
