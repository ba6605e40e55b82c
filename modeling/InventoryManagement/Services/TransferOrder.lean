import InventoryManagement.ErrorHandlers
import InventoryManagement.Services.ColumnRange

/-! The two orders of a transfer's legs: what each leg comes to on the committed state,
and when the order shows. -/

set_option autoImplicit false

namespace InventoryManagement

open Interleaving (Completion Program)

section Fallible

variable {Error Left Right Result : Type}

/-- Two computations that can fail, one after the other. -/
def inOrder (combine : Left → Right → Result) (left : Except Error Left)
    (right : Except Error Right) : Except Error Result :=
  left.bind (fun first => right.map (fun second => combine first second))

/-- The order of two computations shows in nothing but which of two errors comes first. -/
theorem inOrder_comm_iff (combine : Left → Right → Result) {left : Except Error Left}
    {right : Except Error Right} :
    inOrder combine left right = inOrder (fun second first => combine first second) right left ↔
      ∀ first second, left = .error first → right = .error second → first = second := by
  cases left with
  | ok first => cases right <;> simp [inOrder, Except.bind, Except.map]
  | error first => cases right <;> simp [inOrder, Except.bind, Except.map]

theorem inOrder_ok_iff {combine : Left → Right → Result} {left : Except Error Left}
    {right : Except Error Right} {result : Result} :
    inOrder combine left right = .ok result ↔
      ∃ first second, left = .ok first ∧ right = .ok second ∧ combine first second = result := by
  cases left <;> cases right <;> simp [inOrder, Except.bind, Except.map]

def errorOf {Value : Type} : Except Error Value → Option Error
  | .ok _ => none
  | .error error => some error

theorem errorOf_map {Value : Type} (change : Value → Result) (result : Except Error Value) :
    errorOf (result.map change) = errorOf result := by
  cases result <;> rfl

theorem errorOf_inOrder (combine : Left → Right → Result) (left : Except Error Left)
    (right : Except Error Right) :
    errorOf (inOrder combine left right) = (errorOf left).or (errorOf right) := by
  cases left <;> cases right <;> rfl

theorem errors_agree_iff {left : Except Error Left} {right : Except Error Right} :
    (errorOf left).or (errorOf right) = (errorOf right).or (errorOf left) ↔
      ∀ first second, left = .error first → right = .error second → first = second := by
  cases left <;> cases right <;> simp [errorOf]

end Fallible

/-- The row that taking stock from a pair leaves, or the class of the exception. -/
def Tables.removed (tables : Tables) (pair : Pair) (quantity : Int) :
    Except ExceptionClass Inventory :=
  if tables.hasWarehouse pair.2 then
    match tables.inventoriesOf pair with
    | [] => .error .NotFoundError
    | row :: _ =>
        if row.quantity < quantity then .error .InsufficientStockError
        else .ok { row with quantity := row.quantity - quantity }
  else .error .NotFoundError

/-- The row that a pair's stock is added to. -/
def Tables.rowOrNew (tables : Tables) (pair : Pair) : Inventory :=
  (tables.inventoriesOf pair).headD { productId := pair.1, warehouseId := pair.2, quantity := 0 }

/-- The row that adding stock to a pair leaves, or the class of the exception. -/
def Tables.added (tables : Tables) (pair : Pair) (quantity : Int) :
    Except ExceptionClass Inventory :=
  if tables.hasWarehouse pair.2 then
    if Integer.fits ((tables.rowOrNew pair).quantity + quantity) then
      .ok { tables.rowOrNew pair with quantity := (tables.rowOrNew pair).quantity + quantity }
    else .error .DataError
  else .error .NotFoundError

variable {answers : Nat → Answer} {world : World} {session : Session} {pair other : Pair}
variable {quantity : Int}

/-- A leg leaves the committed state alone and, next to the rows from before, its own row
in the session. -/
def ComesTo (answers : Nat → Answer) (world : World) (before : Pair → Option Inventory)
    (session : Session) (pair : Pair) (leg : Transaction Inventory) :
    Except ExceptionClass Inventory → Prop
  | .ok row => leg.Returns environment answers world session (fun result after updated =>
      result = row ∧ world = after ∧
        ∀ other, updated.row? other = if other = pair then some row else before other)
  | .error type => leg.Raises environment answers world session (fun error after _ =>
      error.type = type ∧ world = after)

theorem comesTo_bind {Value : Type} {first : Transaction Value}
    {next : Value → Transaction Inventory} {middle : Value → World → Session → Prop}
    {before : Pair → Option Inventory} {result : Except ExceptionClass Inventory}
    (returns : first.Returns environment answers world session middle)
    (second : ∀ value after updated, middle value after updated →
      world = after ∧ ComesTo answers world before updated pair (next value) result) :
    ComesTo answers world before session pair (first.bind next) result := by
  cases result with
  | ok row =>
      apply returns.bind
      intro value after updated holds
      obtain ⟨rfl, continued⟩ := second value after updated holds
      exact continued
  | error type =>
      apply returns.bind_raises
      intro value after updated holds
      obtain ⟨rfl, continued⟩ := second value after updated holds
      exact continued

/-- The session's row of each pair, after it has locked or inserted one more. -/
theorem row?_append {row : Inventory} (free : session.row? pair = none) (here : row.pair = pair)
    (other : Pair) : (session.rows ++ [row]).find? (fun held => held.pair = other) =
      if other = pair then some row else session.row? other := by
  rw [List.find?_append, List.find?_singleton, here]
  by_cases same : other = pair
  · rw [if_pos same, same, show session.rows.find? _ = none from free]
    simp
  · have apart : pair ≠ other := fun equal => same equal.symm
    simp [same, apart, Session.row?]

/-- The session's row of each pair, after it has flushed one. -/
theorem row?_replace {row updated : Inventory} (mine : session.row? row.pair = some row)
    (here : updated.pair = row.pair) (other : Pair) :
    (replaceRow session.rows updated).find? (fun held => held.pair = other) =
      if other = row.pair then some updated else session.row? other := by
  obtain ⟨held, _⟩ := Session.row?_some mine
  have known : session.rows.any (fun held => held.pair = updated.pair) = true := by
    rw [List.any_eq_true]
    exact ⟨row, held, by simp [here]⟩
  have sought : ((fun held : Inventory => decide (held.pair = other)) ∘ fun held =>
      if held.pair = updated.pair then updated else held) =
        fun held => decide (held.pair = other) := by
    funext held
    by_cases same : held.pair = updated.pair <;> simp [same]
  rw [replaceRow, if_pos known, List.find?_map, sought]
  by_cases same : other = row.pair
  · rw [if_pos same, same, show session.rows.find? _ = some row from mine]
    simp [here]
  · rw [if_neg same]
    cases found : session.row? other with
    | none => rw [show session.rows.find? _ = none from found, Option.map_none]
    | some held =>
        rw [show session.rows.find? _ = some held from found, Option.map_some]
        obtain ⟨_, pair⟩ := Session.row?_some found
        rw [if_neg (by rwa [here, pair])]

section Legs

variable (healthy : ∀ n, (answers n).fails = false)
include healthy

theorem getWarehouse_unknown {id : UUID} (missing : world.tables.hasWarehouse id = false) :
    (getWarehouseByIdOrRaise id).Raises environment answers world session
      (fun error after _ => error.type = .NotFoundError ∧ world = after) := by
  apply raises_statement healthy
  intro n
  refine ⟨_, _, _, rfl, ?_⟩
  cases found : world.tables.warehouse? id with
  | none => exact Program.raises_raise ⟨rfl, rfl⟩
  | some warehouse => simp [Tables.hasWarehouse, found] at missing

theorem getForUpdate_locks (valid : world.Valid) (free : session.row? pair = none) :
    (getByProductAndWarehouseForUpdate pair.1 pair.2).Returns environment answers world session
      (fun found after updated => found = (world.tables.inventoriesOf pair).head? ∧ world = after ∧
        ∀ other, updated.row? other = if other = pair then found else session.row? other) := by
  apply returns_statement healthy
  intro n
  rcases valid.inventoriesOf_cases pair with none | ⟨row, one⟩
  · refine ⟨[], world, session, ?_, Program.returns_ret ⟨?_, rfl, ?_⟩⟩
    · simp only [respond, selectInventoryForUpdate, free, none]
    · rw [none]
      rfl
    · intro other
      by_cases same : other = pair
      · rw [if_pos same, same, free]
      · rw [if_neg same]
  · have here : row.pair = pair := (Tables.mem_inventoriesOf.mp (by rw [one]; simp)).2
    refine ⟨[row], world, { session with
      rows := session.rows ++ [row], objects := session.objects ++ [row] }, ?_,
      Program.returns_ret ⟨?_, rfl, ?_⟩⟩
    · simp only [respond, selectInventoryForUpdate, free, one, held, List.any_nil,
        Bool.false_eq_true, if_false]
    · rw [one]
      rfl
    · exact row?_append free here

theorem createInventory_locks (refers : world.tables.hasPair pair = true)
    (unused : world.tables.inventoriesOf pair = []) (free : session.row? pair = none) :
    (createInventory { productId := pair.1, warehouseId := pair.2, quantity := 0 }).Returns
      environment answers world session (fun row after updated =>
        row = { productId := pair.1, warehouseId := pair.2, quantity := 0 } ∧ world = after ∧
          ∀ other, updated.row? other = if other = pair then some row else session.row? other) := by
  have absent : session.holds pair = false := by
    rw [Session.holds, free]
    rfl
  have zero : Integer.fits 0 = true := by decide
  have here : Inventory.pair { productId := pair.1, warehouseId := pair.2, quantity := 0 } = pair :=
    rfl
  apply returns_statement healthy
  intro n
  refine ⟨{ productId := pair.1, warehouseId := pair.2, quantity := 0 }, world, { session with
      rows := session.rows ++ [{ productId := pair.1, warehouseId := pair.2, quantity := 0 }]
      inserted := pair :: session.inserted
      objects := session.objects ++ [{ productId := pair.1, warehouseId := pair.2, quantity := 0 }] },
    ?_, Program.returns_ret ⟨rfl, rfl, ?_⟩⟩
  · simp only [respond, insertInventory, insertedElsewhere, List.any_nil, Bool.false_eq_true,
      if_false, here, unused, absent, refers, zero, ne_eq, not_true_eq_false, or_self,
      Option.all_none, and_self]
  · exact row?_append free here

/-- A leg's last step: the locked row is flushed with its new quantity. -/
theorem flushQuantity_comesTo {row : Inventory} {before : Pair → Option Inventory}
    (here : row.pair = pair)
    (rows : ∀ other, session.row? other = if other = pair then some row else before other)
    (amount : Int) :
    ComesTo answers world before session pair (flushQuantity row amount)
      (if Integer.fits amount then .ok { row with quantity := amount } else .error .DataError) := by
  cases fits : Integer.fits amount with
  | false =>
      apply Program.raises_refused
      intro n
      refine ⟨.dataError, ?_, rfl, rfl⟩
      change execute _ _ _ _ _ = _
      rw [execute_healthy (healthy n)]
      simp [respond, updateInventory, fits]
  | true =>
      have mine : session.row? row.pair = some row := by rw [rows, if_pos here]
      have same : Inventory.pair { row with quantity := amount } = row.pair := rfl
      apply returns_statement healthy
      intro n
      refine ⟨(), world, { session with
        rows := replaceRow session.rows { row with quantity := amount }
        objects := replaceRow session.objects { row with quantity := amount } }, ?_,
        Program.returns_ret ⟨rfl, rfl, fun other => ?_⟩⟩
      · simp only [respond, updateInventory, fits, not_true_eq_false, if_false, same, mine]
      · refine (row?_replace mine same other).trans ?_
        rw [here]
        by_cases named : other = pair
        · rw [if_pos named, if_pos named]
        · rw [if_neg named, if_neg named, rows, if_neg named]

theorem removed_comesTo (pair : Pair) (valid : world.Valid) (positive : 0 < quantity)
    (free : session.row? pair = none) :
    ComesTo answers world session.row? session pair (decreaseStock pair.1 pair.2 quantity)
      (world.tables.removed pair quantity) := by
  unfold Tables.removed
  cases warehouse : world.tables.hasWarehouse pair.2 with
  | false => exact (getWarehouse_unknown healthy warehouse).bind
  | true =>
      apply comesTo_bind (getWarehouse_alone healthy warehouse)
      intro _ _ _ checked
      obtain ⟨rfl, rfl⟩ := checked
      refine ⟨rfl, comesTo_bind (getForUpdate_locks healthy valid free) ?_⟩
      intro found _ updated locked
      obtain ⟨rfl, rfl, rows⟩ := locked
      refine ⟨rfl, ?_⟩
      rcases valid.inventoriesOf_cases pair with none | ⟨row, one⟩
      · simp only [none, List.head?_nil, if_true]
        exact Program.raises_raise ⟨rfl, rfl⟩
      · obtain ⟨stored, here⟩ : row ∈ world.tables.inventories ∧ row.pair = pair :=
          Tables.mem_inventoriesOf.mp (by rw [one]; simp)
        rw [one, List.head?_cons] at rows
        simp only [one, List.head?_cons, if_true]
        by_cases short : row.quantity < quantity
        · simp only [short, if_true]
          exact Program.raises_raise ⟨rfl, rfl⟩
        · have fits : Integer.fits (row.quantity - quantity) = true := by
            have range := (valid.inventories_fit row stored).quantity
            simp only [Integer.fits, Bool.and_eq_true, decide_eq_true_eq] at range ⊢
            omega
          have flushed : ComesTo answers world _ _ pair _ _ :=
            flushQuantity_comesTo healthy here rows (row.quantity - quantity)
          rw [if_pos fits] at flushed
          simp only [short, if_false]
          exact flushed

theorem added_comesTo (pair : Pair) (quantity : Int) (valid : world.Valid)
    (product : world.tables.hasProduct pair.1 = true) (free : session.row? pair = none) :
    ComesTo answers world session.row? session pair (increaseStock pair.1 pair.2 quantity)
      (world.tables.added pair quantity) := by
  unfold Tables.added
  cases warehouse : world.tables.hasWarehouse pair.2 with
  | false => exact (getWarehouse_unknown healthy warehouse).bind
  | true =>
      apply comesTo_bind (getWarehouse_alone healthy warehouse)
      intro _ _ _ checked
      obtain ⟨rfl, rfl⟩ := checked
      refine ⟨rfl, comesTo_bind (getForUpdate_locks healthy valid free) ?_⟩
      intro found _ updated locked
      obtain ⟨rfl, rfl, rows⟩ := locked
      refine ⟨rfl, ?_⟩
      rcases valid.inventoriesOf_cases pair with none | ⟨row, one⟩
      · have refers : world.tables.hasPair pair = true := by
          simp [Tables.hasPair, product, warehouse]
        have unlocked : ∀ other, updated.row? other = session.row? other := by
          intro other
          rw [rows, none]
          by_cases same : other = pair
          · rw [if_pos same, same, free]
            rfl
          · rw [if_neg same]
        have base : world.tables.rowOrNew pair =
            { productId := pair.1, warehouseId := pair.2, quantity := 0 } := by
          rw [Tables.rowOrNew, none]
          rfl
        simp only [none, List.head?_nil, if_true]
        refine comesTo_bind (createInventory_locks healthy refers none
          ((unlocked pair).trans free)) ?_
        intro row _ middle created
        obtain ⟨rfl, rfl, created⟩ := created
        refine ⟨rfl, ?_⟩
        rw [base]
        apply flushQuantity_comesTo healthy rfl
        intro other
        rw [created, unlocked]
        rfl
      · have here : row.pair = pair := (Tables.mem_inventoriesOf.mp (by rw [one]; simp)).2
        have base : world.tables.rowOrNew pair = row := by
          rw [Tables.rowOrNew, one]
          rfl
        rw [one, List.head?_cons] at rows
        simp only [one, List.head?_cons, if_true, base]
        exact flushQuantity_comesTo healthy here rows _

end Legs

/-- The branch of `transferStock` that takes the stock out first. -/
def sourceFirst (productId sourceWarehouseId destinationWarehouseId : UUID) (quantity : Int) :
    Transaction (Inventory × Inventory) := do
  let source ← decreaseStock productId sourceWarehouseId quantity
  let destination ← increaseStock productId destinationWarehouseId quantity
  pure (source, destination)

/-- The other branch of `transferStock`. -/
def destinationFirst (productId sourceWarehouseId destinationWarehouseId : UUID) (quantity : Int) :
    Transaction (Inventory × Inventory) := do
  let destination ← increaseStock productId destinationWarehouseId quantity
  let source ← decreaseStock productId sourceWarehouseId quantity
  pure (source, destination)

theorem transferStock_eq (productId sourceId destinationId : UUID) (quantity : Int) :
    transferStock productId sourceId destinationId quantity =
      if (sortedByStr sourceId destinationId).1 = sourceId then
        sourceFirst productId sourceId destinationId quantity
      else destinationFirst productId sourceId destinationId quantity := rfl

/-- A transfer leaves the committed state alone, and its two rows in a fresh session. -/
def TransferComesTo (answers : Nat → Answer) (world : World) (source destination : Pair)
    (transfer : Transaction (Inventory × Inventory)) :
    Except ExceptionClass (Inventory × Inventory) → Prop
  | .ok rows => transfer.Returns environment answers world {} (fun result after updated =>
      result = rows ∧ world = after ∧ ∀ pair, updated.row? pair =
        if pair = source then some rows.1 else if pair = destination then some rows.2 else none)
  | .error type => transfer.Raises environment answers world {} (fun error after _ =>
      error.type = type ∧ world = after)

/-- One leg after the other, on different pairs. -/
theorem legs_comeTo {first second source destination : Pair} {leg rest : Transaction Inventory}
    {left right : Except ExceptionClass Inventory}
    (combine : Inventory → Inventory → Inventory × Inventory) (different : second ≠ first)
    (opens : ComesTo answers world (Session.row? {}) {} first leg left)
    (closes : ∀ session : Session, session.row? second = none →
      ComesTo answers world session.row? session second rest right)
    (places : ∀ one two pair,
      (if pair = second then some two else if pair = first then some one else none) =
        if pair = source then some (combine one two).1
        else if pair = destination then some (combine one two).2 else none) :
    TransferComesTo answers world source destination
      (leg.bind (fun one => rest.bind (fun two => .ret (combine one two))))
      (inOrder combine left right) := by
  cases left with
  | error type => exact Program.Raises.bind opens
  | ok one =>
      have unlocked : ∀ updated : Session,
          (∀ pair, updated.row? pair = if pair = first then some one else Session.row? {} pair) →
            updated.row? second = none := by
        intro updated rows
        rw [rows, if_neg different]
        rfl
      cases right with
      | error type =>
          apply Program.Returns.bind_raises opens
          intro _ _ updated locked
          obtain ⟨rfl, rfl, rows⟩ := locked
          exact Program.Raises.bind (closes updated (unlocked updated rows))
      | ok two =>
          apply Program.Returns.bind opens
          intro _ _ updated locked
          obtain ⟨rfl, rfl, rows⟩ := locked
          apply Program.Returns.bind (closes updated (unlocked updated rows))
          intro _ _ last lockedToo
          obtain ⟨rfl, rfl, rowsToo⟩ := lockedToo
          refine Program.returns_ret ⟨rfl, rfl, fun pair => ?_⟩
          rw [rowsToo, rows]
          exact places _ _ pair

section Transfer

variable {productId sourceId destinationId : UUID}
variable (healthy : ∀ n, (answers n).fails = false)
include healthy

theorem sourceFirst_comesTo (valid : world.Valid) (positive : 0 < quantity)
    (product : world.tables.hasProduct productId = true) (different : sourceId ≠ destinationId) :
    TransferComesTo answers world (productId, sourceId) (productId, destinationId)
      (sourceFirst productId sourceId destinationId quantity)
      (inOrder Prod.mk (world.tables.removed (productId, sourceId) quantity)
        (world.tables.added (productId, destinationId) quantity)) := by
  apply legs_comeTo Prod.mk (by simp [different.symm])
    (removed_comesTo healthy (productId, sourceId) valid positive rfl)
    (fun _ => added_comesTo healthy (productId, destinationId) quantity valid product)
  intro one two pair
  by_cases source : pair = (productId, sourceId) <;> simp [source, different]

theorem destinationFirst_comesTo (valid : world.Valid) (positive : 0 < quantity)
    (product : world.tables.hasProduct productId = true) (different : sourceId ≠ destinationId) :
    TransferComesTo answers world (productId, sourceId) (productId, destinationId)
      (destinationFirst productId sourceId destinationId quantity)
      (inOrder (fun destination source => (source, destination))
        (world.tables.added (productId, destinationId) quantity)
        (world.tables.removed (productId, sourceId) quantity)) := by
  apply legs_comeTo (fun destination source => (source, destination)) (by simp [different])
    (added_comesTo healthy (productId, destinationId) quantity valid product rfl)
    (fun _ => removed_comesTo healthy (productId, sourceId) valid positive)
  intro one two pair
  rfl

end Transfer

/-- Both transfers return the same rows and hold the same rows, or both raise an exception
of the same class. Neither has changed the committed state. -/
inductive SameOutcome (world : World)
    (left right : Completion World Session Exception (Inventory × Inventory)) : Prop where
  | both_return (rows : Inventory × Inventory) (returned : left.outcome = some (.ok rows))
      (returnedToo : right.outcome = some (.ok rows))
      (held : ∀ pair, left.session.row? pair = right.session.row? pair)
      (unchanged : left.shared = world) (unchangedToo : right.shared = world)
  | both_raise (error other : Exception) (raised : left.outcome = some (.error error))
      (raisedToo : right.outcome = some (.error other)) (class_eq : error.type = other.type)
      (unchanged : left.shared = world) (unchangedToo : right.shared = world)

theorem sameOutcome_iff {others : Nat → Answer} {source destination : Pair}
    {transfer other : Transaction (Inventory × Inventory)}
    {result expected : Except ExceptionClass (Inventory × Inventory)}
    (left : TransferComesTo answers world source destination transfer result)
    (right : TransferComesTo others world source destination other expected) :
    SameOutcome world (runAlone answers world transfer) (runAlone others world other) ↔
      result = expected := by
  cases result with
  | ok rows =>
      obtain ⟨_, _, _, _, ran, rfl, rfl, held⟩ := left 0
      cases expected with
      | ok rowsToo =>
          obtain ⟨_, _, _, _, ranToo, rfl, rfl, heldToo⟩ := right 0
          rw [runAlone, runAlone, ran, ranToo, Except.ok.injEq]
          constructor
          · intro same
            cases same with
            | both_return _ returned returnedToo =>
                cases returned
                cases returnedToo
                rfl
            | both_raise _ _ raised => cases raised
          · intro same
            subst same
            exact .both_return _ rfl rfl (fun pair => (held pair).trans (heldToo pair).symm) rfl rfl
      | error type =>
          obtain ⟨_, _, _, _, ranToo, _⟩ := right 0
          rw [runAlone, runAlone, ran, ranToo]
          refine iff_of_false ?_ (by simp)
          intro same
          cases same with
          | both_return _ _ returned => cases returned
          | both_raise _ _ raised => cases raised
  | error type =>
      obtain ⟨_, _, _, _, ran, rfl, rfl⟩ := left 0
      cases expected with
      | ok rowsToo =>
          obtain ⟨_, _, _, _, ranToo, _⟩ := right 0
          rw [runAlone, runAlone, ran, ranToo]
          refine iff_of_false ?_ (by simp)
          intro same
          cases same with
          | both_return _ returned => cases returned
          | both_raise _ _ _ raised => cases raised
      | error typeToo =>
          obtain ⟨_, _, _, _, ranToo, rfl, rfl⟩ := right 0
          rw [runAlone, runAlone, ran, ranToo, Except.error.injEq]
          constructor
          · intro same
            cases same with
            | both_return _ returned => cases returned
            | both_raise _ _ raised raisedToo class_eq =>
                cases raised
                cases raisedToo
                exact class_eq
          · intro same
            exact .both_raise _ _ rfl rfl same rfl rfl

/-- Both legs fail, with exceptions of different classes: the source is short of stock and
the destination unknown, or the source refuses and the destination overflows its column. -/
inductive Tables.Clash (tables : Tables) (source destination : Pair) (quantity : Int) : Prop where
  | unknown (row : Inventory) (warehouse : tables.hasWarehouse source.2 = true)
      (stored : row ∈ tables.inventories) (here : row.pair = source) (short : row.quantity < quantity)
      (missing : tables.hasWarehouse destination.2 = false)
  | full (refused : ¬ tables.Ships source quantity)
      (warehouse : tables.hasWarehouse destination.2 = true)
      (overflow : Integer.fits (tables.quantity destination + quantity) = false)

section Clash

theorem removed_short {row : Inventory} (valid : world.Valid)
    (warehouse : world.tables.hasWarehouse pair.2 = true) (stored : row ∈ world.tables.inventories)
    (here : row.pair = pair) (short : row.quantity < quantity) :
    world.tables.removed pair quantity = .error .InsufficientStockError := by
  have one := valid.inventoriesOf_of_mem stored
  rw [here] at one
  simp [Tables.removed, warehouse, one, short]

/-- A source refuses because it is short of stock, or because something is missing. -/
inductive Refusal (tables : Tables) (pair : Pair) (quantity : Int) : ExceptionClass → Prop where
  | missing : Refusal tables pair quantity .NotFoundError
  | short (row : Inventory) (warehouse : tables.hasWarehouse pair.2 = true)
      (stored : row ∈ tables.inventories) (here : row.pair = pair)
      (short : row.quantity < quantity) : Refusal tables pair quantity .InsufficientStockError

theorem removed_cases (pair : Pair) (quantity : Int) (valid : world.Valid) :
    (world.tables.Ships pair quantity ∧ ∃ row, world.tables.removed pair quantity = .ok row) ∨
      ¬ world.tables.Ships pair quantity ∧ ∃ type,
        world.tables.removed pair quantity = .error type ∧ Refusal world.tables pair quantity type := by
  cases warehouse : world.tables.hasWarehouse pair.2 with
  | false =>
      refine .inr ⟨?_, .NotFoundError, by simp [Tables.removed, warehouse], .missing⟩
      simp [Tables.Ships, warehouse]
  | true =>
      rcases valid.inventoriesOf_cases pair with none | ⟨row, one⟩
      · refine .inr ⟨?_, .NotFoundError, by simp [Tables.removed, warehouse, none], .missing⟩
        intro ships
        obtain ⟨_, row, stored, here, _⟩ := ships
        exact Tables.inventoriesOf_eq_nil.mp none (here ▸ List.mem_map_of_mem stored)
      · obtain ⟨stored, here⟩ : row ∈ world.tables.inventories ∧ row.pair = pair :=
          Tables.mem_inventoriesOf.mp (by rw [one]; simp)
        by_cases short : row.quantity < quantity
        · refine .inr ⟨?_, _, removed_short valid warehouse stored here short,
            .short row warehouse stored here short⟩
          intro ships
          obtain ⟨_, other, storedToo, hereToo, enough⟩ := ships
          have same := valid.inventoriesOf_of_mem storedToo
          rw [hereToo, one] at same
          cases same
          omega
        · refine .inl ⟨⟨warehouse, row, stored, here, by omega⟩,
            { row with quantity := row.quantity - quantity }, ?_⟩
          simp only [Tables.removed, warehouse, one, short, if_true, if_false]

theorem added_error_iff {type : ExceptionClass} (valid : world.Valid) :
    world.tables.added pair quantity = .error type ↔
      type = .NotFoundError ∧ world.tables.hasWarehouse pair.2 = false ∨
      type = .DataError ∧ world.tables.hasWarehouse pair.2 = true ∧
        Integer.fits (world.tables.quantity pair + quantity) = false := by
  have base : (world.tables.rowOrNew pair).quantity = world.tables.quantity pair := by
    rcases valid.inventoriesOf_cases pair with none | ⟨row, one⟩
    · simp [Tables.rowOrNew, Tables.quantity, none]
    · simp [Tables.rowOrNew, Tables.quantity, one]
  rw [Tables.added, base]
  cases world.tables.hasWarehouse pair.2 <;>
    cases Integer.fits (world.tables.quantity pair + quantity) <;> simp [eq_comm]

theorem clash_iff {source destination : Pair} (valid : world.Valid) :
    world.tables.Clash source destination quantity ↔
      ¬ ∀ first second, world.tables.removed source quantity = .error first →
        world.tables.added destination quantity = .error second → first = second := by
  constructor
  · intro clash same
    cases clash with
    | unknown row warehouse stored here short missing =>
        cases same _ _ (removed_short valid warehouse stored here short)
          ((added_error_iff valid).mpr (.inl ⟨rfl, missing⟩))
    | full refused warehouse overflow =>
        rcases removed_cases source quantity valid with ⟨ships, _⟩ | ⟨_, type, removed, refusal⟩
        · exact refused ships
        · cases same _ _ removed ((added_error_iff valid).mpr (.inr ⟨rfl, warehouse, overflow⟩))
          cases refusal
  · intro differ
    simp only [not_forall] at differ
    obtain ⟨first, second, removed, added, differ⟩ := differ
    rcases removed_cases source quantity valid with ⟨_, row, taken⟩ | ⟨refused, type, taken, refusal⟩
    · rw [taken] at removed
      cases removed
    · rw [taken] at removed
      cases removed
      rcases (added_error_iff valid).mp added with ⟨rfl, missing⟩ | ⟨rfl, warehouse, overflow⟩
      · cases refusal with
        | missing => exact absurd rfl differ
        | short row warehouse stored here short =>
            exact .unknown row warehouse stored here short missing
      · exact .full refused warehouse overflow

end Clash

/-- The two branches end alike unless both legs fail for different reasons. -/
theorem transferLegs_iff {productId sourceId destinationId : UUID} {others : Nat → Answer}
    (healthy : ∀ n, (answers n).fails = false) (healthyToo : ∀ n, (others n).fails = false)
    (valid : world.Valid) (product : world.tables.hasProduct productId = true)
    (different : sourceId ≠ destinationId) (positive : 0 < quantity) :
    SameOutcome world
        (runAlone answers world (sourceFirst productId sourceId destinationId quantity))
        (runAlone others world (destinationFirst productId sourceId destinationId quantity)) ↔
      ¬ world.tables.Clash (productId, sourceId) (productId, destinationId) quantity := by
  rw [sameOutcome_iff (sourceFirst_comesTo healthy valid positive product different)
    (destinationFirst_comesTo healthyToo valid positive product different), inOrder_comm_iff,
    clash_iff valid, not_not]

end InventoryManagement
