import InventoryManagement.Websockets.Manager
import Mathlib.Data.Finset.Card
import Mathlib.Data.List.Sort

/-! `ConnectionManager` as Python runs it: a dictionary of mutable set objects, with
statements that can raise. Each method is proved to return and to do what
`ConnectionManager` says. -/

set_option autoImplicit false

namespace InventoryManagement

/-- A set object, by its identity. -/
abbrev SetId := Nat

/-- `KeyError`, and the `RuntimeError` of a set that changes size during iteration. -/
inductive BuiltinError where
  | keyError (key : String)
  | runtimeError
deriving DecidableEq

/-- The set objects of a process and the dictionary `_connections` of references to them. -/
structure Memory where
  sets : SetId → Finset WebSocket := fun _ => ∅
  allocated : SetId := 0
  connections : String → Option SetId := fun _ => none

namespace Memory

/-- A new, empty set object. -/
def allocate (memory : Memory) : Memory :=
  { memory with
    sets := Function.update memory.sets memory.allocated ∅
    allocated := memory.allocated + 1 }

def assign (memory : Memory) (object : SetId) (sockets : Finset WebSocket) : Memory :=
  { memory with sets := Function.update memory.sets object sockets }

/-- Set or delete the entry of a channel. -/
def enter (memory : Memory) (channel : String) (entry : Option SetId) : Memory :=
  { memory with connections := Function.update memory.connections channel entry }

end Memory

/-- Synchronous code on the manager. -/
abbrev Method := EStateM BuiltinError Memory

/-- The order in which Python goes through a set: any order. -/
structure Iteration where
  list : Finset WebSocket → List WebSocket
  nodup : ∀ sockets, (list sockets).Nodup
  mem : ∀ sockets socket, socket ∈ list sockets ↔ socket ∈ sockets

/-- In ascending order. -/
def Sample.ascending : Iteration where
  list sockets := Quot.lift (List.insertionSort (· ≤ ·)) (fun _ _ same =>
    List.Perm.eq_of_sortedLE List.sortedLE_insertionSort List.sortedLE_insertionSort
      ((List.perm_insertionSort _ _).trans (same.trans (List.perm_insertionSort _ _).symm))) sockets.val
  nodup := by
    rintro ⟨⟨sockets⟩, nodup⟩
    exact (List.perm_insertionSort _ _).nodup_iff.mpr nodup
  mem := by
    rintro ⟨⟨sockets⟩, nodup⟩ socket
    exact (List.perm_insertionSort _ _).mem_iff

/-- The `channels` argument of `broadcast`: a name, or a set of names. -/
inductive Channels where
  | name (channel : String)
  | set (channels : List String)

/-- A name is made a set. -/
def Channels.list : Channels → List String
  | .name channel => [channel]
  | .set channels => channels

/-- `channels | {GLOBAL_CHANNEL}`. -/
def Channels.names (channels : Channels) : List String := channels.list.insert GLOBAL_CHANNEL

theorem Channels.mem_names {channels : Channels} {channel : String} :
    channel ∈ channels.names ↔ channel = GLOBAL_CHANNEL ∨ channel ∈ channels.list :=
  List.mem_insert_iff

namespace Method

/-- `set()`. -/
def newSet : Method SetId :=
  modifyGet (fun memory => (memory.allocated, memory.allocate))

def read (object : SetId) : Method (Finset WebSocket) := do
  return (← get).sets object

def write (object : SetId) (sockets : Finset WebSocket) : Method Unit :=
  modify (fun memory => memory.assign object sockets)

/-- `_connections.get(channel)`. -/
def lookup (channel : String) : Method (Option SetId) := do
  return (← get).connections channel

/-- `_connections[channel]`. -/
def item (channel : String) : Method SetId := do
  match ← lookup channel with
  | some object => return object
  | none => throw (.keyError channel)

/-- `_connections.setdefault(channel, default)`. -/
def setdefault (channel : String) (default : SetId) : Method SetId := do
  match ← lookup channel with
  | some object => return object
  | none =>
      modify (fun memory => memory.enter channel (some default))
      return default

/-- `del _connections[channel]`. -/
def delete (channel : String) : Method Unit := do
  let _ ← item channel
  modify (fun memory => memory.enter channel none)

/-- `connect` once the handshake is accepted; the log line reads the entry again. -/
def register (socket : WebSocket) (channel : String) : Method Unit := do
  let default ← newSet
  let connections ← setdefault channel default
  write connections (insert socket (← read connections))
  let _ ← item channel

def disconnect (socket : WebSocket) (channel : String) : Method Unit := do
  match ← lookup channel with
  | none => pure ()
  | some connections =>
      write connections ((← read connections).erase socket)
      if (← read connections) = ∅ then delete channel

/-- `targets |= _connections.get(channel, set())`. -/
def unite (targets : SetId) (channel : String) : Method Unit := do
  match ← lookup channel with
  | none => pure ()
  | some connections => write targets ((← read targets) ∪ (← read connections))

/-- The union of the channels' subscribers, in a new set object. -/
def collect (channels : List String) : Method SetId := do
  let targets ← newSet
  forM channels (unite targets)
  return targets

end Method

/-- A call of `broadcast` between two of its sends. The iteration goes through
`pending` next and compares the size of its set with the one it started with. -/
structure Frame (Message : Type) where
  message : Message
  channels : List String
  targets : SetId
  size : Nat
  pending : List WebSocket
  stale : List WebSocket

variable {Message : Type}

def Frame.start (message : Message) (channels : Channels) (order : Iteration) (targets : SetId)
    (sockets : Finset WebSocket) : Frame Message where
  message := message
  channels := channels.names
  targets := targets
  size := sockets.card
  pending := order.list sockets
  stale := []

/-- What the call goes on with when the send to the first pending socket is over. -/
def Frame.answered (frame : Frame Message) (socket : WebSocket) (rest : List WebSocket)
    (succeeds : Bool) : Frame Message :=
  { frame with
    pending := rest
    stale := if succeeds then frame.stale else frame.stale ++ [socket] }

namespace Method

/-- Up to the next send; when the iteration is over, the stale connections are dropped
and `broadcast` returns. -/
def next (frame : Frame Message) : Method (Option (Frame Message)) := do
  if (← read frame.targets).card ≠ frame.size then throw .runtimeError
  match frame.pending with
  | _ :: _ => return some frame
  | [] =>
      forM frame.stale (fun socket => forM frame.channels (disconnect socket))
      return none

/-- `broadcast` up to its first send. -/
def broadcast (message : Message) (channels : Channels) (order : Iteration) :
    Method (Option (Frame Message)) := do
  let targets ← collect channels.names
  let sockets ← read targets
  next (.start message channels order targets sockets)

end Method

namespace Memory

variable {memory between after : Memory} {manager : ConnectionManager} {socket : WebSocket}
variable {channel name : String} {channels : List String} {object other : SetId}
variable {sockets : Finset WebSocket} {entry : Option SetId}

@[simp] theorem allocate_connections : memory.allocate.connections = memory.connections := rfl

@[simp] theorem allocate_allocated : memory.allocate.allocated = memory.allocated + 1 := rfl

theorem allocate_sets (old : object ≠ memory.allocated) :
    memory.allocate.sets object = memory.sets object := Function.update_of_ne old _ _

@[simp] theorem allocate_sets_new : memory.allocate.sets memory.allocated = ∅ :=
  Function.update_self _ _ _

@[simp] theorem assign_connections :
    (memory.assign object sockets).connections = memory.connections := rfl

@[simp] theorem assign_allocated : (memory.assign object sockets).allocated = memory.allocated := rfl

@[simp] theorem assign_sets_self : (memory.assign object sockets).sets object = sockets :=
  Function.update_self _ _ _

theorem assign_sets (apart : other ≠ object) :
    (memory.assign object sockets).sets other = memory.sets other := Function.update_of_ne apart _ _

@[simp] theorem enter_sets : (memory.enter channel entry).sets = memory.sets := rfl

@[simp] theorem enter_allocated : (memory.enter channel entry).allocated = memory.allocated := rfl

@[simp] theorem enter_connections_self : (memory.enter channel entry).connections channel = entry :=
  Function.update_self _ _ _

theorem enter_connections (away : name ≠ channel) :
    (memory.enter channel entry).connections name = memory.connections name :=
  Function.update_of_ne away _ _

def Registered (memory : Memory) (socket : WebSocket) (channel : String) : Prop :=
  ∃ object, memory.connections channel = some object ∧ socket ∈ memory.sets object

/-- The dictionary's value; no two channels share a set object. -/
structure Represents (memory : Memory) (manager : ConnectionManager) : Prop where
  contents : ∀ channel, (memory.connections channel).map memory.sets = manager.connections channel
  allocated : ∀ channel object, memory.connections channel = some object → object < memory.allocated
  apart : ∀ channel other object, memory.connections channel = some object →
    memory.connections other = some object → channel = other

/-- An object that no channel refers to. -/
structure Private (memory : Memory) (object : SetId) : Prop where
  allocated : object < memory.allocated
  unshared : ∀ channel, memory.connections channel ≠ some object

def Keeps (memory after : Memory) : Prop :=
  ∀ object, memory.Private object → after.Private object ∧ after.sets object = memory.sets object

theorem Keeps.refl (memory : Memory) : memory.Keeps memory := fun _ own => ⟨own, rfl⟩

theorem Keeps.trans (first : memory.Keeps between) (second : between.Keeps after) :
    memory.Keeps after := by
  intro object own
  obtain ⟨still, same⟩ := first object own
  obtain ⟨last, sameToo⟩ := second object still
  exact ⟨last, sameToo.trans same⟩

theorem Represents.get (represents : memory.Represents manager) (channel : String) :
    manager.get channel = ((memory.connections channel).map memory.sets).getD ∅ := by
  rw [ConnectionManager.get, represents.contents]

theorem Represents.registered (represents : memory.Represents manager) :
    memory.Registered socket channel ↔ socket ∈ manager.get channel := by
  rw [represents.get, Registered]
  cases memory.connections channel <;> simp

theorem Represents.nonempty (represents : memory.Represents manager)
    (found : memory.connections channel = some object) : (memory.sets object).Nonempty := by
  apply manager.nonempty channel
  rw [← represents.contents, found, Option.map_some]

theorem represents_empty : Represents {} {} where
  contents _ := rfl
  allocated _ _ found := by cases found
  apart _ _ _ found := by cases found

theorem Represents.allocate (represents : memory.Represents manager) :
    memory.allocate.Represents manager where
  contents name := by
    rw [← represents.contents name, allocate_connections]
    cases found : memory.connections name with
    | none => rfl
    | some object => exact congrArg some (allocate_sets (represents.allocated name object found).ne)
  allocated name object found := (represents.allocated name object found).trans (Nat.lt_succ_self _)
  apart := represents.apart

theorem Represents.private_new (represents : memory.Represents manager) :
    memory.allocate.Private memory.allocated :=
  ⟨Nat.lt_succ_self _, fun name found => (represents.allocated name _ found).ne rfl⟩

theorem keeps_allocate : memory.Keeps memory.allocate := fun _ own =>
  ⟨⟨own.allocated.trans (Nat.lt_succ_self _), own.unshared⟩, allocate_sets own.allocated.ne⟩

/-- Writing to a set that no channel refers to. -/
theorem Represents.assign_private (represents : memory.Represents manager)
    (own : memory.Private object) : (memory.assign object sockets).Represents manager where
  contents name := by
    rw [← represents.contents name, assign_connections]
    cases found : memory.connections name with
    | none => rfl
    | some other =>
        have apart : other ≠ object := fun same => own.unshared name (same ▸ found)
        exact congrArg some (assign_sets apart)
  allocated := represents.allocated
  apart := represents.apart

/-- Writing to the set of a channel. -/
theorem Represents.assign_shared {changed : ConnectionManager} (represents : memory.Represents manager)
    (found : memory.connections channel = some object) (here : changed.connections channel = some sockets)
    (elsewhere : ∀ name, name ≠ channel → changed.connections name = manager.connections name) :
    (memory.assign object sockets).Represents changed where
  contents name := by
    by_cases same : name = channel
    · rw [same, here, assign_connections, found, Option.map_some, assign_sets_self]
    · rw [elsewhere name same, ← represents.contents name, assign_connections]
      cases foundToo : memory.connections name with
      | none => rfl
      | some other =>
          have apart : other ≠ object := fun equal =>
            same (represents.apart name channel object (equal ▸ foundToo) found)
          exact congrArg some (assign_sets apart)
  allocated := represents.allocated
  apart := represents.apart

theorem keeps_assign (found : memory.connections channel = some object) :
    memory.Keeps (memory.assign object sockets) := by
  intro other own
  have apart : other ≠ object := fun same => own.unshared channel (same ▸ found)
  exact ⟨⟨own.allocated, own.unshared⟩, assign_sets apart⟩

/-- Writing to the set of a channel and deleting its entry. -/
theorem Represents.remove {changed : ConnectionManager} (represents : memory.Represents manager)
    (found : memory.connections channel = some object) (here : changed.connections channel = none)
    (elsewhere : ∀ name, name ≠ channel → changed.connections name = manager.connections name) :
    ((memory.assign object sockets).enter channel none).Represents changed := by
  have kept : ∀ name other, ((memory.assign object sockets).enter channel none).connections name =
      some other → name ≠ channel ∧ memory.connections name = some other := by
    intro name other foundToo
    by_cases same : name = channel
    · rw [same, enter_connections_self] at foundToo
      cases foundToo
    · exact ⟨same, (enter_connections same).symm.trans foundToo⟩
  refine ⟨?_, fun name other foundToo => represents.allocated name other (kept name other foundToo).2,
    fun name other id foundToo last =>
      represents.apart name other id (kept name id foundToo).2 (kept other id last).2⟩
  intro name
  by_cases same : name = channel
  · rw [same, here, enter_connections_self, Option.map_none]
  · rw [elsewhere name same, ← represents.contents name, enter_connections same, enter_sets,
      assign_connections]
    cases foundToo : memory.connections name with
    | none => rfl
    | some other =>
        have apart : other ≠ object := fun equal =>
          same (represents.apart name channel object (equal ▸ foundToo) found)
        exact congrArg some (assign_sets apart)

theorem keeps_remove (found : memory.connections channel = some object) :
    memory.Keeps ((memory.assign object sockets).enter channel none) := by
  intro other own
  have assigned : memory.Keeps (memory.assign object sockets) := keeps_assign found
  obtain ⟨_, same⟩ := assigned other own
  refine ⟨⟨own.allocated, ?_⟩, same⟩
  intro name foundToo
  by_cases here : name = channel
  · rw [here, enter_connections_self] at foundToo
    cases foundToo
  · exact own.unshared name ((enter_connections here).symm.trans foundToo)

/-- A new entry, to a set that no channel refers to yet. -/
theorem Represents.add {changed : ConnectionManager} (represents : memory.Represents manager)
    (own : memory.Private object) (here : changed.connections channel = some sockets)
    (elsewhere : ∀ name, name ≠ channel → changed.connections name = manager.connections name) :
    ((memory.enter channel (some object)).assign object sockets).Represents changed := by
  have cases : ∀ name other, ((memory.enter channel (some object)).assign object sockets).connections
      name = some other → (name = channel ∧ other = object) ∨
        (name ≠ channel ∧ other ≠ object ∧ memory.connections name = some other) := by
    intro name other found
    rw [assign_connections] at found
    by_cases same : name = channel
    · rw [same, enter_connections_self, Option.some.injEq] at found
      exact .inl ⟨same, found.symm⟩
    · rw [enter_connections same] at found
      exact .inr ⟨same, fun equal => own.unshared name (equal ▸ found), found⟩
  refine ⟨?_, ?_, ?_⟩
  · intro name
    by_cases same : name = channel
    · rw [same, here, assign_connections, enter_connections_self, Option.map_some, assign_sets_self]
    · rw [elsewhere name same, ← represents.contents name, assign_connections, enter_connections same]
      cases found : memory.connections name with
      | none => rfl
      | some other =>
          have apart : other ≠ object := fun equal => own.unshared name (equal ▸ found)
          exact congrArg some (assign_sets apart)
  · intro name other found
    rcases cases name other found with ⟨_, rfl⟩ | ⟨_, _, old⟩
    · exact own.allocated
    · exact represents.allocated name other old
  · intro name other id found foundToo
    rcases cases name id found with ⟨here, new⟩ | ⟨_, apart, old⟩
    · rcases cases other id foundToo with ⟨hereToo, _⟩ | ⟨_, apart, _⟩
      · exact here.trans hereToo.symm
      · exact absurd new apart
    · rcases cases other id foundToo with ⟨_, new⟩ | ⟨_, _, oldToo⟩
      · exact absurd new apart
      · exact represents.apart name other id old oldToo

theorem keeps_add : memory.Keeps
    ((memory.allocate.enter channel (some memory.allocated)).assign memory.allocated sockets) := by
  intro other own
  obtain ⟨still, same⟩ := keeps_allocate other own
  refine ⟨⟨still.allocated, ?_⟩, (assign_sets own.allocated.ne).trans same⟩
  intro name found
  by_cases here : name = channel
  · rw [assign_connections, here, enter_connections_self, Option.some.injEq] at found
    exact own.allocated.ne found.symm
  · exact own.unshared name ((enter_connections here).symm.trans found)

theorem assign_same : memory.assign object (memory.sets object) = memory :=
  congrArg (fun sets => { memory with sets }) (Function.update_eq_self object memory.sets)

theorem assign_assign (before : Finset WebSocket) :
    (memory.assign object before).assign object sockets = memory.assign object sockets :=
  congrArg (fun sets : SetId → Finset WebSocket => { memory with sets }) (Function.update_idem _ _ _)

end Memory

/-! What each statement does. -/

namespace Method

variable {α β : Type} {memory : Memory} {object : SetId} {socket : WebSocket} {channel : String}

theorem bind_apply (method : Method α) (rest : α → Method β) :
    (method >>= rest) memory = match method memory with
      | .ok value next => rest value next
      | .error error next => .error error next := by
  simp only [bind, EStateM.bind]
  cases method memory <;> rfl

@[simp] theorem pure_apply (value : α) : (pure value : Method α) memory = .ok value memory := rfl

@[simp] theorem newSet_apply : newSet memory = .ok memory.allocated memory.allocate := rfl

@[simp] theorem read_apply : read object memory = .ok (memory.sets object) memory := rfl

@[simp] theorem write_apply (sockets : Finset WebSocket) :
    write object sockets memory = .ok () (memory.assign object sockets) := rfl

@[simp] theorem lookup_apply : lookup channel memory = .ok (memory.connections channel) memory := rfl

theorem item_apply (found : memory.connections channel = some object) :
    item channel memory = .ok object memory := by
  simp only [item, bind_apply, lookup_apply, found, pure_apply]

theorem setdefault_present (default : SetId) (found : memory.connections channel = some object) :
    setdefault channel default memory = .ok object memory := by
  simp only [setdefault, bind_apply, lookup_apply, found, pure_apply]

theorem setdefault_absent (default : SetId) (absent : memory.connections channel = none) :
    setdefault channel default memory = .ok default (memory.enter channel (some default)) := by
  simp only [setdefault, bind_apply, lookup_apply, absent]
  rfl

theorem delete_apply (found : memory.connections channel = some object) :
    delete channel memory = .ok () (memory.enter channel none) := by
  simp only [delete, bind_apply, item_apply found]
  rfl

theorem disconnect_absent (absent : memory.connections channel = none) :
    disconnect socket channel memory = .ok () memory := by
  simp only [disconnect, bind_apply, lookup_apply, absent, pure_apply]

theorem disconnect_last (found : memory.connections channel = some object)
    (last : (memory.sets object).erase socket = ∅) : disconnect socket channel memory =
      .ok () ((memory.assign object ∅).enter channel none) := by
  simp only [disconnect, bind_apply, lookup_apply, found, read_apply, write_apply,
    Memory.assign_sets_self, last, if_true]
  exact delete_apply found

theorem disconnect_others (found : memory.connections channel = some object)
    (others : (memory.sets object).erase socket ≠ ∅) : disconnect socket channel memory =
      .ok () (memory.assign object ((memory.sets object).erase socket)) := by
  simp only [disconnect, bind_apply, lookup_apply, found, read_apply, write_apply,
    Memory.assign_sets_self, others, if_false, pure_apply]

theorem register_present (found : memory.connections channel = some object) :
    register socket channel memory = .ok ()
      (memory.allocate.assign object (insert socket (memory.allocate.sets object))) := by
  have foundToo : memory.allocate.connections channel = some object := found
  have still : (memory.allocate.assign object (insert socket (memory.allocate.sets object))).connections
      channel = some object := found
  simp only [register, bind_apply, newSet_apply, setdefault_present _ foundToo, read_apply,
    write_apply, item_apply still, pure_apply]

theorem register_absent (absent : memory.connections channel = none) :
    register socket channel memory = .ok () ((memory.allocate.enter channel
      (some memory.allocated)).assign memory.allocated (insert socket ∅)) := by
  have absentToo : memory.allocate.connections channel = none := absent
  have entered : ((memory.allocate.enter channel (some memory.allocated)).assign memory.allocated
      (insert socket ∅)).connections channel = some memory.allocated := Memory.enter_connections_self
  simp only [register, bind_apply, newSet_apply, setdefault_absent _ absentToo, read_apply,
    write_apply, Memory.enter_sets, Memory.allocate_sets_new, item_apply entered, pure_apply]

end Method

/-! What each method does to the dictionary. -/

/-- The method returns, the dictionary then holds `changed`, and the sets that other
coroutines iterate over are as they were. -/
def Method.Returns {α : Type} (method : Method α) (memory : Memory) (changed : ConnectionManager)
    (result : α → Memory → Prop) : Prop :=
  ∃ value after, method memory = .ok value after ∧ after.Represents changed ∧
    memory.Keeps after ∧ result value after

namespace Method

variable {α β : Type} {memory : Memory} {manager middle changed : ConnectionManager}
variable {socket : WebSocket} {channel : String} {channels : List String}

theorem Returns.bind {method : Method α} {rest : α → Method β} {between : α → Memory → Prop}
    {result : β → Memory → Prop} (first : method.Returns memory middle between)
    (second : ∀ value next, next.Represents middle → memory.Keeps next → between value next →
      (rest value).Returns next changed result) : (method >>= rest).Returns memory changed result := by
  obtain ⟨value, next, returned, represents, keeps, holds⟩ := first
  obtain ⟨last, after, returnedToo, represented, kept, holdsToo⟩ :=
    second value next represents keeps holds
  refine ⟨last, after, ?_, represented, keeps.trans kept, holdsToo⟩
  rw [bind_apply, returned]
  exact returnedToo

theorem Returns.pure {result : α → Memory → Prop} (represents : memory.Represents manager)
    (value : α) (holds : result value memory) :
    (pure value : Method α).Returns memory manager result :=
  ⟨value, memory, rfl, represents, .refl memory, holds⟩

theorem register_returns (represents : memory.Represents manager) :
    (register socket channel).Returns memory (manager.connect socket channel) (fun _ _ => True) := by
  have elsewhere : ∀ name, name ≠ channel → (manager.connect socket channel).connections name =
      manager.connections name := fun name away => Function.update_of_ne away _ _
  have here : (manager.connect socket channel).connections channel =
      some (insert socket (manager.get channel)) := Function.update_self _ _ _
  have allocated := represents.allocate
  rw [allocated.get channel] at here
  cases found : memory.connections channel with
  | none =>
      rw [Memory.allocate_connections, found, Option.map_none, Option.getD_none] at here
      exact ⟨(), _, register_absent found, allocated.add represents.private_new here elsewhere,
        Memory.keeps_add, trivial⟩
  | some object =>
      rw [Memory.allocate_connections, found, Option.map_some, Option.getD_some] at here
      exact ⟨(), _, register_present found, allocated.assign_shared found here elsewhere,
        Memory.keeps_allocate.trans (Memory.keeps_assign found), trivial⟩

theorem disconnect_returns (represents : memory.Represents manager) :
    (disconnect socket channel).Returns memory (manager.disconnect socket channel)
      (fun _ _ => True) := by
  have elsewhere : ∀ name, name ≠ channel → (manager.disconnect socket channel).connections name =
      manager.connections name := fun name away => Function.update_of_ne away _ _
  have here : (manager.disconnect socket channel).connections channel =
      (manager.connections channel).bind (fun sockets =>
        if sockets.erase socket = ∅ then none else some (sockets.erase socket)) :=
    Function.update_self _ _ _
  rw [← represents.contents channel] at here
  cases found : memory.connections channel with
  | none =>
      rw [found, Option.map_none, Option.bind_none] at here
      refine ⟨(), memory, disconnect_absent found, ⟨?_, represents.allocated, represents.apart⟩,
        .refl memory, trivial⟩
      intro name
      by_cases same : name = channel
      · rw [same, here, found, Option.map_none]
      · rw [elsewhere name same, represents.contents]
  | some object =>
      rw [found, Option.map_some, Option.bind_some] at here
      by_cases last : (memory.sets object).erase socket = ∅
      · rw [if_pos last] at here
        exact ⟨(), _, disconnect_last found last, represents.remove found here elsewhere,
          Memory.keeps_remove found, trivial⟩
      · rw [if_neg last] at here
        exact ⟨(), _, disconnect_others found last, represents.assign_shared found here elsewhere,
          Memory.keeps_assign found, trivial⟩

theorem disconnectAll_returns (represents : memory.Represents manager) :
    (forM channels (disconnect socket)).Returns memory
      (channels.foldl (fun manager channel => manager.disconnect socket channel) manager)
      (fun _ _ => True) := by
  induction channels generalizing memory manager with
  | nil => exact .pure represents () trivial
  | cons channel rest ih =>
      rw [List.forM_cons]
      exact (disconnect_returns represents).bind (fun _ _ represented _ _ => ih represented)

theorem prune_returns {stale : List WebSocket} (represents : memory.Represents manager) :
    (forM stale (fun socket => forM channels (disconnect socket))).Returns memory
      (manager.prune stale channels) (fun _ _ => True) := by
  induction stale generalizing memory manager with
  | nil => exact .pure represents () trivial
  | cons socket rest ih =>
      rw [List.forM_cons]
      exact (disconnectAll_returns represents).bind (fun _ _ represented _ _ => ih represented)

theorem unite_apply {targets : SetId} (represents : memory.Represents manager) :
    unite targets channel memory =
      .ok () (memory.assign targets (memory.sets targets ∪ manager.get channel)) := by
  rw [represents.get channel]
  cases found : memory.connections channel with
  | none =>
      rw [Option.map_none, Option.getD_none, Finset.union_empty, Memory.assign_same]
      simp only [unite, bind_apply, lookup_apply, found, pure_apply]
  | some connections => simp [unite, bind_apply, found]

/-- The loop writes to the new set only. -/
theorem uniteAll_apply {targets : SetId} (represents : memory.Represents manager)
    (own : memory.Private targets) : forM channels (unite targets) memory =
      .ok () (memory.assign targets (channels.foldl (fun targets channel =>
        targets ∪ manager.get channel) (memory.sets targets))) := by
  induction channels generalizing memory with
  | nil =>
      rw [List.foldl_nil, Memory.assign_same]
      rfl
  | cons channel rest ih =>
      rw [List.forM_cons, bind_apply, unite_apply represents]
      simp only [ih (represents.assign_private own) ⟨own.allocated, own.unshared⟩,
        Memory.assign_sets_self, Memory.assign_assign, List.foldl_cons]

theorem collect_returns (represents : memory.Represents manager) :
    (collect channels).Returns memory manager (fun targets after =>
      after.Private targets ∧ after.sets targets = manager.targets channels) := by
  have own := represents.private_new
  refine ⟨memory.allocated, memory.allocate.assign memory.allocated (manager.targets channels), ?_,
    represents.allocate.assign_private own, ?_, ⟨own.allocated, own.unshared⟩, Memory.assign_sets_self⟩
  · simp only [collect, bind_apply, newSet_apply, uniteAll_apply represents.allocate own,
      Memory.allocate_sets_new, pure_apply, ConnectionManager.targets]
  · intro other old
    obtain ⟨still, same⟩ := Memory.keeps_allocate other old
    exact ⟨⟨still.allocated, still.unshared⟩, (Memory.assign_sets old.allocated.ne).trans same⟩

end Method

/-- What a suspended call relies on: its set is its own and has the size it had. -/
structure Frame.Sound (frame : Frame Message) (memory : Memory) : Prop where
  own : memory.Private frame.targets
  size : (memory.sets frame.targets).card = frame.size

theorem Frame.Sound.keep {frame : Frame Message} {memory after : Memory} (sound : frame.Sound memory)
    (keeps : memory.Keeps after) : frame.Sound after := by
  obtain ⟨still, same⟩ := keeps frame.targets sound.own
  exact ⟨still, same ▸ sound.size⟩

theorem Frame.Sound.answered {frame : Frame Message} {memory : Memory} (sound : frame.Sound memory)
    (socket : WebSocket) (rest : List WebSocket) (succeeds : Bool) :
    (frame.answered socket rest succeeds).Sound memory := ⟨sound.own, sound.size⟩

/-- The call awaits the send to the first pending socket, or there was none left. -/
def Frame.Continues (frame : Frame Message) (result : Option (Frame Message)) : Prop :=
  if frame.pending = [] then result = none else result = some frame

theorem Frame.Continues.finished {frame : Frame Message} {result : Option (Frame Message)}
    (continues : frame.Continues result) (empty : frame.pending = []) : result = none := by
  rwa [Frame.Continues, if_pos empty] at continues

theorem Frame.Continues.awaits {frame : Frame Message} {result : Option (Frame Message)}
    (continues : frame.Continues result) (more : frame.pending ≠ []) : result = some frame := by
  rwa [Frame.Continues, if_neg more] at continues

theorem Frame.Continues.same {frame other : Frame Message} (continues : frame.Continues (some other)) :
    frame = other := by
  rw [Frame.Continues] at continues
  split at continues
  · cases continues
  · exact (Option.some.inj continues).symm

namespace Method

variable {memory : Memory} {manager : ConnectionManager} {frame : Frame Message}

theorem next_apply (sound : frame.Sound memory) : next frame memory =
    (match frame.pending with
      | _ :: _ => pure (some frame)
      | [] => do
          forM frame.stale (fun socket => forM frame.channels (disconnect socket))
          return none : Method (Option (Frame Message))) memory := by
  simp only [next, bind_apply, read_apply, sound.size, ne_eq, not_true_eq_false, if_false]

/-- `next` does to the dictionary what `resumeBroadcast` does. -/
theorem next_returns (represents : memory.Represents manager) (sound : frame.Sound memory) :
    (next frame).Returns memory
      (manager.resumeBroadcast frame.message frame.channels frame.pending.toFinset frame.stale).1
      (fun result after => frame.Sound after ∧ frame.Continues result) := by
  simp only [Frame.Continues]
  cases rest : frame.pending with
  | nil =>
      have pruned : (forM frame.stale (fun socket => forM frame.channels (disconnect socket))).Returns
          memory (manager.prune frame.stale frame.channels) (fun _ _ => True) :=
        prune_returns represents
      obtain ⟨_, after, returned, represented, keeps, _⟩ := pruned
      rw [List.toFinset_nil, ConnectionManager.resume_done]
      simp only [if_true]
      refine ⟨none, after, ?_, represented, keeps, sound.keep keeps, rfl⟩
      rw [next_apply sound, rest]
      simp only [bind_apply, returned, pure_apply]
  | cons socket others =>
      rw [ConnectionManager.resume_unfinished ⟨socket, by simp⟩]
      simp only [List.cons_ne_nil, if_false]
      refine ⟨some frame, memory, ?_, represents, .refl memory, sound, rfl⟩
      rw [next_apply sound, rest]
      rfl

/-- `broadcast` does to the dictionary what `ConnectionManager.broadcast` does. -/
theorem broadcast_returns {message : Message} {channels : Channels} {order : Iteration}
    (represents : memory.Represents manager) :
    (broadcast message channels order).Returns memory
      (manager.broadcast message channels.list).1
      (fun result after => ∃ targets,
        (Frame.start message channels order targets (manager.targets channels.names)).Sound after ∧
        (Frame.start message channels order targets (manager.targets channels.names)).Continues result) := by
  apply (collect_returns represents).bind
  intro targets middle represented _ collected
  obtain ⟨own, union⟩ := collected
  have sound : (Frame.start message channels order targets (manager.targets channels.names)).Sound middle :=
    ⟨own, congrArg Finset.card union⟩
  have all : (order.list (manager.targets channels.names)).toFinset = manager.targets channels.names := by
    ext socket
    rw [List.mem_toFinset, order.mem]
  obtain ⟨result, after, returned, last, keeps, holds⟩ := next_returns represented sound
  refine ⟨result, after, ?_, ?_, keeps, targets, holds⟩
  · rw [bind_apply, read_apply, union]
    exact returned
  · rw [Frame.start, all] at last
    exact last

end Method

end InventoryManagement
