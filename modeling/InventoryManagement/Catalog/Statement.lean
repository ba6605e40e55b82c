import InventoryManagement.Catalog.Resource
import InventoryManagement.Interleaving.Program
import InventoryManagement.KeyedRows

/-! The catalog tables, and what PostgreSQL at READ COMMITTED does with the statements
of the catalog services. -/

set_option autoImplicit false

namespace InventoryManagement.Catalog

open Interleaving (Outcome Semantics)

structure Store where
  products : List Product := []
  warehouses : List Warehouse := []
deriving DecidableEq

namespace Store

def rows (store : Store) : (resource : Resource) → List resource.Row
  | .product => store.products
  | .warehouse => store.warehouses

def withRows (store : Store) : (resource : Resource) → List resource.Row → Store
  | .product, products => { store with products }
  | .warehouse, warehouses => { store with warehouses }

@[simp] theorem rows_withRows (store : Store) (resource : Resource) (rows : List resource.Row) :
    (store.withRows resource rows).rows resource = rows := by
  cases resource <;> rfl

theorem rows_withRows_of_ne (store : Store) {resource other : Resource} (different : other ≠ resource)
    (rows : List resource.Row) : (store.withRows resource rows).rows other = store.rows other := by
  cases resource <;> cases other <;> first | rfl | exact absurd rfl different

@[simp] theorem withRows_rows (store : Store) (resource : Resource) :
    store.withRows resource (store.rows resource) = store := by
  cases resource <;> rfl

def row? (store : Store) (resource : Resource) (id : UUID) : Option resource.Row :=
  (store.rows resource).find? (fun row => resource.id row = id)

end Store

/-- The row a transaction has flushed. -/
inductive Write where
  | insert (resource : Resource) (row : resource.Row)
  | update (resource : Resource) (id : UUID) (changes : resource.Changes)

namespace Write

@[reducible] def resource : Write → Resource
  | .insert resource _ => resource
  | .update resource _ _ => resource

def id : Write → UUID
  | .insert resource row => resource.id row
  | .update _ id _ => id

def key? : Write → Option String
  | .insert resource row => some (resource.key row)
  | .update resource _ changes => resource.newKey changes

def apply (store : Store) : Write → Store
  | .insert resource row => store.withRows resource (store.rows resource ++ [row])
  | .update resource id changes => store.withRows resource
      (KeyedRows.modify resource.id id (resource.apply changes) (store.rows resource))

end Write

/-- A session, by its open transaction. The services flush one row in each. -/
structure Session where
  pending : Option Write := none

/-- Closing a session rolls its open transaction back. -/
def Session.close (_ : Session) : Session := {}

/-- What a session sees: the committed rows and its own flushed row. -/
def Session.view (session : Session) (store : Store) : Store :=
  match session.pending with
  | none => store
  | some write => write.apply store

/-- What the environment chooses for one statement: whether the database fails, and
the value of `uuid.uuid4()`. -/
structure Answer where
  fails : Bool := false
  uuid : UUID := ⟨0⟩

/-- An inserted row gets its id when it is flushed. -/
inductive Statement where
  | get (resource : Resource) (id : UUID)
  | selectByKey (resource : Resource) (key : String)
  | insert (resource : Resource) (row : UUID → resource.Row)
  | update (resource : Resource) (id : UUID) (changes : resource.Changes)
  | refresh (resource : Resource) (id : UUID)
  | commit

@[reducible] def Statement.Response : Statement → Type
  | .get resource _ => Option resource.Row
  | .selectByKey resource _ => List resource.Row
  | .insert resource _ => resource.Row
  | .update _ _ _ => Unit
  | .refresh resource _ => resource.Row
  | .commit => Unit

/-- Another open transaction has flushed this row. -/
def lockedElsewhere (others : List Session) (resource : Resource) (id : UUID) : Bool :=
  others.any (fun other =>
    other.pending.any (fun write => write.resource = resource ∧ write.id = id))

/-- Another open transaction has flushed a row with this natural key. -/
def claimedElsewhere (others : List Session) (resource : Resource) (key : String) : Bool :=
  others.any (fun other =>
    other.pending.any (fun write => write.resource = resource ∧ write.key? = some key))

/-- The committed row other than `id` that has a natural key. -/
def Store.holder? (store : Store) (resource : Resource) (key : String) (id : UUID) :
    Option resource.Row :=
  (store.rows resource).find? (fun row => resource.key row = key ∧ resource.id row ≠ id)

/-- The unique index: a flush waits for the transactions that might still give its
natural key to another row or take it from one, and fails when another row has it. -/
def claimKey (others : List Session) (store : Store) (resource : Resource) (key : String)
    (id : UUID) {Response : Type} (granted : Outcome Store Session Exception Response) :
    Outcome Store Session Exception Response :=
  if claimedElsewhere others resource key then .wait
  else
    match store.holder? resource key id with
    | none => granted
    | some row =>
        if lockedElsewhere others resource (resource.id row) then .wait
        else .raise .integrityError

def selectByKey (resource : Resource) (key : String) (store : Store) (session : Session) :
    Outcome Store Session Exception (List resource.Row) :=
  if ¬ Text.sendable key then .raise .dataError
  else .done (((session.view store).rows resource).filter (fun row => resource.key row = key))
    store session

def insert (resource : Resource) (row : resource.Row) (others : List Session) (store : Store)
    (session : Session) : Outcome Store Session Exception resource.Row :=
  if session.pending.isSome then .raise .invalidRequestError
  else
    match resource.violation? (resource.columns row) with
    | some error => .raise error
    | none =>
        if lockedElsewhere others resource (resource.id row) then .wait
        else if (store.row? resource (resource.id row)).isSome then .raise .integrityError
        else claimKey others store resource (resource.key row) (resource.id row)
          (.done row store { session with pending := some (.insert resource row) })

/-- An update waits for the row's lock; its row is never deleted. -/
def update (resource : Resource) (id : UUID) (changes : resource.Changes) (others : List Session)
    (store : Store) (session : Session) : Outcome Store Session Exception Unit :=
  if session.pending.isSome then .raise .invalidRequestError
  else
    match resource.violation? changes with
    | some error => .raise error
    | none =>
        if lockedElsewhere others resource id then .wait
        else if (store.row? resource id).isNone then .raise .invalidRequestError
        else
          let updated : Outcome Store Session Exception Unit :=
            .done () store { session with pending := some (.update resource id changes) }
          match resource.newKey changes with
          | none => updated
          | some key => claimKey others store resource key id updated

def refresh (resource : Resource) (id : UUID) (store : Store) (session : Session) :
    Outcome Store Session Exception resource.Row :=
  match (session.view store).row? resource id with
  | none => .raise .invalidRequestError
  | some row => .done row store session

def respond (statement : Statement) (answer : Answer) (others : List Session) (store : Store)
    (session : Session) : Outcome Store Session Exception statement.Response :=
  match statement with
  | .get resource id => .done ((session.view store).row? resource id) store session
  | .selectByKey resource key => selectByKey resource key store session
  | .insert resource row => insert resource (row answer.uuid) others store session
  | .update resource id changes => update resource id changes others store session
  | .refresh resource id => refresh resource id store session
  | .commit => .done () (session.view store) {}

def execute (statement : Statement) (answer : Answer) (others : List Session) (store : Store)
    (session : Session) : Outcome Store Session Exception statement.Response :=
  if answer.fails then .raise .operationalError
  else respond statement answer others store session

def environment : Semantics Statement Statement.Response Exception Answer Store Session where
  execute := execute
  close := Session.close

end InventoryManagement.Catalog
