import InventoryManagement.Catalog.CallAlone
import InventoryManagement.Catalog.NaturalKeys

/-! What the schemas accept and the columns do not. A call that runs alone and is not
refused stores its payload unless the payload holds such a value. -/

set_option autoImplicit false

namespace InventoryManagement.Catalog

open Interleaving (Outcome Program)

/-! Payloads. -/

/-- No null for a column that has none, no NUL character, and a price of at most twelve
digits. -/
def ProductChanges.plain (changes : ProductChanges) : Bool :=
  changes.notNull && Catalog.inRange Text.sendable changes.sku &&
    Catalog.inRange Text.sendable changes.name &&
    Catalog.inRange Text.sendable changes.description &&
    Catalog.inRange (fun amount => decide (amount < 10 ^ 12)) changes.price

def WarehouseChanges.plain (changes : WarehouseChanges) : Bool :=
  changes.notNull && Catalog.inRange Text.sendable changes.name &&
    Catalog.inRange Text.sendable changes.code && Catalog.inRange Text.sendable changes.address

def Resource.plain : (resource : Resource) → resource.Changes → Bool
  | .product => ProductChanges.plain
  | .warehouse => WarehouseChanges.plain

def Call.plain (call : Call) : Bool := call.resource.plain call.changes

section Columns

variable {Value : Type} {assigned : Option (Option Value)}

theorem inRange_congr {fits other : Value → Bool}
    (same : ∀ value, assigned = some (some value) → fits value = other value) :
    inRange fits assigned = inRange other assigned := by
  match assigned, same with
  | none, _ => rfl
  | some none, _ => rfl
  | some (some value), same => exact same value rfl

theorem inRange_text {assigned : Option (Option String)} {limit : Nat}
    (short : ∀ text, assigned = some (some text) → text.length ≤ limit) :
    inRange (Text.fits limit) assigned = inRange Text.sendable assigned := by
  apply inRange_congr
  intro text here
  simp [Text.fits, short text here]

theorem inRange_price {assigned : Option (Option Int)}
    (positive : ∀ amount, assigned = some (some amount) → 0 < amount) :
    inRange Numeric.fits assigned = inRange (fun amount => decide (amount < 10 ^ 12)) assigned := by
  apply inRange_congr
  intro amount here
  have above : -10 ^ 12 < amount := by
    have := positive amount here
    omega
  rw [Numeric.fits, decide_eq_true above, Bool.true_and]

end Columns

theorem ProductChanges.plain_eq {changes : ProductChanges}
    (sku : ∀ text, changes.sku = some (some text) → text.length ≤ 50)
    (name : ∀ text, changes.name = some (some text) → text.length ≤ 255)
    (description : ∀ text, changes.description = some (some text) → text.length ≤ 2000)
    (price : ∀ amount, changes.price = some (some amount) → 0 < amount) :
    changes.plain = (changes.inRange && changes.notNull) := by
  rw [plain, ProductChanges.inRange, inRange_text sku, inRange_text name,
    inRange_text description, inRange_price price]
  cases changes.notNull <;> simp

theorem WarehouseChanges.plain_eq {changes : WarehouseChanges}
    (name : ∀ text, changes.name = some (some text) → text.length ≤ 255)
    (code : ∀ text, changes.code = some (some text) → text.length ≤ 20)
    (address : ∀ text, changes.address = some (some text) → text.length ≤ 500) :
    changes.plain = (changes.inRange && changes.notNull) := by
  rw [plain, WarehouseChanges.inRange, inRange_text name, inRange_text code, inRange_text address]
  cases changes.notNull <;> simp

/-- Of what columns demand, a validated payload can only miss what is not plain. -/
theorem Call.storable_eq_plain (call : Call) : call.storable = call.plain := by
  rw [storable, Resource.violation?_isNone]
  symm
  cases call with
  | createProduct data =>
      apply ProductChanges.plain_eq
      · intro text same
        cases same
        exact data.sku_length.2
      · intro text same
        cases same
        exact data.name_length.2
      · intro text same
        exact data.description_length text (Option.some.inj same)
      · intro amount same
        cases same
        exact data.price_positive
  | updateProduct productId data =>
      exact ProductChanges.plain_eq (fun text same => (data.sku_length text same).2)
        (fun text same => (data.name_length text same).2) data.description_length
        data.price_positive
  | deactivateProduct productId => rfl
  | createWarehouse data =>
      apply WarehouseChanges.plain_eq
      · intro text same
        cases same
        exact data.name_length.2
      · intro text same
        cases same
        exact data.code_length.2
      · intro text same
        exact data.address_length text (Option.some.inj same)
  | updateWarehouse warehouseId data =>
      exact WarehouseChanges.plain_eq (fun text same => (data.name_length text same).2)
        (fun text same => (data.code_length text same).2) data.address_length
  | deactivateWarehouse warehouseId => rfl

/-! Whole calls. -/

/-- The call is refused whatever its payload holds otherwise: it names no stored entity, or
another row has its natural key. -/
def Call.Refused (store : Store) (call : Call) : Prop :=
  (∃ id, call.target? = some id ∧ store.row? call.resource id = none) ∨
    ∃ key, call.key? = some key ∧ store.Taken call.resource call.target? key

/-- What a call commits and returns: one row that the columns accept, and that has what
the payload sets and otherwise, in an update, what it had. -/
def Call.Commits (call : Call) (before after : Store) (entity : Entity) : Prop :=
  ∃ row, entity = ⟨call.resource, row⟩ ∧
    call.resource.inRange (call.resource.columns row) = true ∧
    match call.target? with
    | none => call.resource.columns row = call.changes ∧
        after = before.withRows call.resource (before.rows call.resource ++ [row])
    | some id => ∃ old, before.row? call.resource id = some old ∧
        call.resource.Carries call.changes old row ∧ after = before.replace call.resource row

/-- Running alone, the call is refused with the catalog unchanged, or stores its payload. -/
def Call.Stores (answers : Nat → Answer) (store : Store) (call : Call) : Prop :=
  match call.program.run environment answers 0 store {} with
  | ⟨outcome, after, _, _⟩ =>
      (∃ error, outcome = some (.error error) ∧ Refuses store error after) ∨
        ∃ entity, outcome = some (.ok entity) ∧ call.Commits store after entity

section Calls

variable {answers : Nat → Answer} {store : Store} {call : Call}

theorem Call.stores_of_raises
    (raises : call.body.Raises environment answers store {}
      (fun error after _ => Refuses store error after)) : call.Stores answers store := by
  have whole : call.program.Raises environment answers store {} _ := Program.Raises.bind raises
  obtain ⟨error, after, updated, later, ran, refuses⟩ := whole 0
  rw [Call.Stores, ran]
  exact .inl ⟨error, rfl, refuses⟩

theorem Call.stores_of_returns
    (returns : call.body.Returns environment answers store {}
      (fun row after _ => call.Commits store after ⟨call.resource, row⟩)) :
    call.Stores answers store := by
  have whole : call.program.Returns environment answers store {}
      (fun entity after _ => call.Commits store after entity) :=
    Program.Returns.bind returns (fun _ _ _ commits => Program.returns_ret commits)
  obtain ⟨entity, after, updated, later, ran, commits⟩ := whole 0
  rw [Call.Stores, ran]
  exact .inr ⟨entity, rfl, commits⟩

theorem Call.not_stores_of_rejects
    (raises : call.body.Raises environment answers store {} (fun error _ _ => Rejects error)) :
    ¬ call.Stores answers store := by
  have whole : call.program.Raises environment answers store {} _ := Program.Raises.bind raises
  obtain ⟨error, after, updated, later, ran, rejects⟩ := whole 0
  rw [Call.Stores, ran]
  intro stored
  rcases stored with ⟨_, same, ⟨text, refusal⟩, _⟩ | ⟨_, same, _⟩
  · cases same
    rcases rejects with rfl | rfl <;> rcases refusal with other | other <;> cases other
  · cases same

variable (healthy : ∀ n, (answers n).fails = false) (valid : store.Valid)
include healthy valid

theorem Call.stores_of_refused (refused : call.Refused store) : call.Stores answers store := by
  apply Call.stores_of_raises
  cases named : call.target? with
  | none =>
      obtain ⟨key, row, makes⟩ := Call.body_create named
      rw [makes.body]
      rcases refused with ⟨id, other, _⟩ | ⟨other, same, taken⟩
      · cases named.symm.trans other
      · cases makes.named.symm.trans same
        exact createEntity_taken healthy valid (named ▸ taken)
  | some id =>
      rw [Call.body_update named]
      cases found : store.row? call.resource id with
      | none => exact updateEntity_missing healthy found
      | some old =>
          rcases refused with ⟨other, same, absent⟩ | ⟨key, assigned, taken⟩
          · cases named.symm.trans same
            cases found.symm.trans absent
          · exact updateEntity_taken healthy valid found assigned (named ▸ taken)

theorem Call.stores_of_storable (fresh : ∀ n resource, store.row? resource (answers n).uuid = none)
    (unrefused : ¬ call.Refused store) (storable : call.storable = true) :
    call.Stores answers store := by
  have accepted : call.resource.violation? call.changes = none :=
    Option.isNone_iff_eq_none.mp storable
  obtain ⟨fits, _⟩ := Resource.violation?_eq_none.mp accepted
  apply Call.stores_of_returns
  cases named : call.target? with
  | none =>
      obtain ⟨key, row, makes⟩ := Call.body_create named
      rw [makes.body]
      have untaken : ∀ other ∈ store.rows call.resource, call.resource.key other ≠ key :=
        fun other included same => unrefused (.inr ⟨key, makes.named, other, included, same,
          fun here => (by cases named.symm.trans here)⟩)
      apply Program.Returns.mono (createEntity_alone healthy makes.ids makes.keys
        (Resource.sendable_newKey fits makes.named) (fun uuid => makes.columns uuid ▸ accepted)
        (fun n => fresh n _) untaken)
      intro entity after _ created
      obtain ⟨⟨uuid, rfl⟩, appended⟩ := created
      refine ⟨row uuid, rfl, makes.columns uuid ▸ fits, ?_⟩
      rw [named]
      exact ⟨makes.columns uuid, appended⟩
  | some id =>
      rw [Call.body_update named]
      cases found : store.row? call.resource id with
      | none => exact absurd (.inl ⟨id, named, found⟩) unrefused
      | some old =>
          have free : ∀ key, call.resource.newKey call.changes = some key →
              ¬ store.Taken call.resource (some id) key :=
            fun key assigned taken => unrefused (.inr ⟨key, assigned, named ▸ taken⟩)
          apply Program.Returns.mono (updateEntity_alone healthy valid found accepted free)
          intro row after _ updated
          obtain ⟨inRange, carries, replaced⟩ := updated
          refine ⟨row, rfl, inRange, ?_⟩
          rw [named]
          exact ⟨old, found, carries, replaced⟩

theorem Call.not_stores (unrefused : ¬ call.Refused store) (rejected : ¬ call.storable = true) :
    ¬ call.Stores answers store := by
  have violated : call.resource.violation? call.changes ≠ none :=
    fun none => rejected (Option.isNone_iff_eq_none.mpr none)
  apply Call.not_stores_of_rejects
  cases named : call.target? with
  | none =>
      obtain ⟨key, row, makes⟩ := Call.body_create named
      obtain ⟨error, here⟩ := Option.ne_none_iff_exists'.mp violated
      rw [makes.body]
      apply createEntity_rejected healthy _ (fun uuid => makes.columns uuid ▸ here)
      exact fun taken => unrefused (.inr ⟨key, makes.named, named ▸ taken⟩)
  | some id =>
      rw [Call.body_update named]
      cases found : store.row? call.resource id with
      | none => exact absurd (.inl ⟨id, named, found⟩) unrefused
      | some old =>
          exact updateEntity_rejected healthy valid found violated
            (fun key assigned taken => unrefused (.inr ⟨key, assigned, named ▸ taken⟩))

end Calls

/-- For every stored catalog and every accepted payload: the call is refused with the
catalog unchanged or stores the payload, unless it is not refused and its payload holds a
value that the columns reject. -/
theorem payload_stored_iff {store : Store} (valid : store.Valid) {answers : Nat → Answer}
    (healthy : ∀ n, (answers n).fails = false)
    (fresh : ∀ n resource, store.row? resource (answers n).uuid = none) (call : Call) :
    call.Stores answers store ↔ call.Refused store ∨ call.plain = true := by
  rw [← Call.storable_eq_plain]
  constructor
  · intro stores
    by_cases refused : call.Refused store
    · exact .inl refused
    · by_cases storable : call.storable = true
      · exact .inr storable
      · exact absurd stores (Call.not_stores healthy valid refused storable)
  · intro condition
    by_cases refused : call.Refused store
    · exact Call.stores_of_refused healthy valid refused
    · exact Call.stores_of_storable healthy valid fresh refused (condition.resolve_left refused)

/-! A stored product, and two of its updates. -/

def Sample.stocked : Store where
  products := [Sample.widget.row ⟨1⟩]

theorem Sample.stocked_valid : Sample.stocked.Valid where
  unique := by
    intro resource
    cases resource <;> constructor <;> decide
  inRange := by
    intro resource
    cases resource <;> decide +kernel

def Sample.repricing : ProductUpdate where
  price := some (some 2499)
  sku_length := by simp
  name_length := by simp
  description_length := by simp
  price_positive := by simp

/-- The JSON body has `"is_active": null`. -/
def Sample.nullActive : ProductUpdate where
  isActive := some none
  sku_length := by simp
  name_length := by simp
  description_length := by simp
  price_positive := by simp

theorem payload_stored_iff_repriced :
    (Call.updateProduct ⟨1⟩ Sample.repricing).Stores (fun _ => {}) Sample.stocked :=
  (payload_stored_iff Sample.stocked_valid (fun _ => rfl)
    (by intro n resource; cases resource <;> decide) _).mpr (.inr (by decide +kernel))

theorem null_update_raises_integrity_error :
    ¬ ∀ (store : Store) (answers : Nat → Answer) (call : Call), store.Valid →
      (∀ n, (answers n).fails = false) →
      (∀ n resource, store.row? resource (answers n).uuid = none) → call.Stores answers store := by
  intro documented
  have raised : ((Call.updateProduct ⟨1⟩ Sample.nullActive).program.run environment (fun _ => {}) 0
      Sample.stocked {}).outcome = some (.error .integrityError) := by rfl
  have stores := documented Sample.stocked (fun _ => {}) (.updateProduct ⟨1⟩ Sample.nullActive)
    Sample.stocked_valid (fun _ => rfl) (by intro n resource; cases resource <;> decide)
  rw [Call.Stores] at stores
  rcases stores with ⟨error, ended, ⟨text, refusal⟩, _⟩ | ⟨entity, ended, _⟩
  · cases raised.symm.trans ended
    rcases refusal with other | other <;> cases other
  · cases raised.symm.trans ended

end InventoryManagement.Catalog
