import InventoryManagement.Websockets.Objects

/-! One `broadcast` while nothing else runs: whom it sends to and whom it drops. -/

set_option autoImplicit false

namespace InventoryManagement

variable {Message : Type}

namespace Method

/-- The loop over the sends; those to the sockets that `raises` tells raise. -/
def sendAll (raises : WebSocket → Bool) : List WebSocket → Frame Message →
    Method (List (WebSocket × Message))
  | [], _ => return []
  | socket :: rest, frame => do
      match ← next (frame.answered socket rest (!raises socket)) with
      | some continued => return (socket, frame.message) :: (← sendAll raises rest continued)
      | none => return [(socket, frame.message)]

/-- The sends of one call, in their order. -/
def broadcastAlone (message : Message) (channels : Channels) (order : Iteration)
    (raises : WebSocket → Bool) : Method (List (WebSocket × Message)) := do
  match ← broadcast message channels order with
  | some frame => sendAll raises frame.pending frame
  | none => return []

end Method

/-- A call on the manager that runs alone. -/
inductive ManagerCall (Message : Type) where
  | connect (socket : WebSocket) (channel : String)
  | disconnect (socket : WebSocket) (channel : String)
  | broadcast (message : Message) (channels : Channels) (order : Iteration)
      (raises : WebSocket → Bool)

def ManagerCall.method : ManagerCall Message → Method Unit
  | .connect socket channel => Method.register socket channel
  | .disconnect socket channel => Method.disconnect socket channel
  | .broadcast message channels order raises => do
      let _ ← Method.broadcastAlone message channels order raises

/-- The memory after some calls. -/
def Memory.Reached (Message : Type) (memory : Memory) : Prop :=
  ∃ calls : List (ManagerCall Message), forM calls ManagerCall.method {} = .ok () memory

/-- Registered under a requested channel or the global one. -/
def Memory.Targeted (memory : Memory) (socket : WebSocket) (channels : Channels) : Prop :=
  ∃ channel, (channel ∈ channels.list ∨ channel = GLOBAL_CHANNEL) ∧ memory.Registered socket channel

namespace Method

variable {memory : Memory} {manager : ConnectionManager} {message : Message} {channels : Channels}
variable {order : Iteration} {raises : WebSocket → Bool}

theorem answered_stale (frame : Frame Message) (socket : WebSocket) (rest : List WebSocket) :
    (frame.answered socket rest (!raises socket)).stale = frame.stale ++ [socket].filter raises := by
  cases raising : raises socket <;> simp [Frame.answered, raising]

/-- The stale connections when the loop is over: those there were and those that raise. -/
theorem sendAll_returns {socket : WebSocket} {rest : List WebSocket} {frame : Frame Message}
    (represents : memory.Represents manager) (sound : frame.Sound memory) :
    (sendAll raises (socket :: rest) frame).Returns memory
      (manager.prune (frame.stale ++ (socket :: rest).filter raises) frame.channels)
      (fun sent _ => sent = (socket :: rest).map (·, frame.message)) := by
  induction rest generalizing memory manager socket frame with
  | nil =>
      apply (next_returns represents (sound.answered socket [] (!raises socket))).bind
      intro continued after represented _ holds
      rw [holds.2.finished rfl]
      rw [Frame.answered, List.toFinset_nil, ConnectionManager.resume_done] at represented
      refine .pure ?_ _ rfl
      rw [← answered_stale frame socket []]
      exact represented
  | cons another others ih =>
      apply (next_returns represents
        (sound.answered socket (another :: others) (!raises socket))).bind
      intro continued after represented _ holds
      rw [holds.2.awaits (List.cons_ne_nil _ _)]
      rw [ConnectionManager.resume_unfinished ⟨another, by simp [Frame.answered]⟩] at represented
      have rest : (sendAll raises (another :: others) _).Returns after _ _ := ih represented holds.1
      rw [answered_stale, List.append_assoc, ← List.filter_append] at rest
      apply rest.bind
      intro sent last represented _ sends
      exact .pure represented _ (by rw [sends]; rfl)

theorem broadcastAlone_returns (represents : memory.Represents manager) (message : Message)
    (channels : Channels) (order : Iteration) (raises : WebSocket → Bool) :
    (broadcastAlone message channels order raises).Returns memory
      (manager.prune ((order.list (manager.targets channels.names)).filter raises) channels.names)
      (fun sent _ => sent = (order.list (manager.targets channels.names)).map (·, message)) := by
  apply (broadcast_returns represents).bind
  intro continued after represented _ holds
  obtain ⟨targets, still, continues⟩ := holds
  have all : (order.list (manager.targets channels.names)).toFinset = manager.targets channels.names := by
    ext socket
    rw [List.mem_toFinset, order.mem]
  rw [ConnectionManager.broadcast, ← Channels.names, ← all] at represented
  cases pending : order.list (manager.targets channels.names) with
  | nil =>
      rw [continues.finished pending]
      rw [pending, List.toFinset_nil, ConnectionManager.resume_done] at represented
      exact .pure represented _ rfl
  | cons socket rest =>
      have more : (Frame.start message channels order targets
          (manager.targets channels.names)).pending = socket :: rest := pending
      rw [continues.awaits (by rw [more]; exact List.cons_ne_nil _ _)]
      rw [ConnectionManager.resume_unfinished ⟨socket, by simp [pending]⟩] at represented
      have sends : (sendAll raises (socket :: rest) _).Returns after _ _ :=
        sendAll_returns represented still
      rw [Frame.start, List.nil_append, ← Frame.start] at sends
      simp only [more]
      exact sends

end Method

/-- Every memory that is reached represents a manager. -/
theorem ManagerCall.returns {memory : Memory} {manager : ConnectionManager}
    (represents : memory.Represents manager) (call : ManagerCall Message) :
    ∃ changed, call.method.Returns memory changed (fun _ _ => True) := by
  cases call with
  | connect socket channel => exact ⟨_, Method.register_returns represents⟩
  | disconnect socket channel => exact ⟨_, Method.disconnect_returns represents⟩
  | broadcast message channels order raises =>
      exact ⟨_, (Method.broadcastAlone_returns represents message channels order raises).bind
        (fun _ _ represented _ _ => .pure represented () trivial)⟩

theorem Memory.Reached.represents {memory : Memory} (reached : memory.Reached Message) :
    ∃ manager, memory.Represents manager := by
  obtain ⟨calls, ran⟩ := reached
  have general : ∀ (first : Memory) (manager : ConnectionManager), first.Represents manager →
      forM calls ManagerCall.method first = .ok () memory → ∃ manager, memory.Represents manager := by
    clear ran
    induction calls with
    | nil =>
        intro first manager represents ran
        cases ran
        exact ⟨manager, represents⟩
    | cons call rest ih =>
        intro first manager represents ran
        obtain ⟨changed, _, next, returned, represented, _⟩ := call.returns represents
        rw [List.forM_cons, Method.bind_apply, returned] at ran
        exact ih next changed represented ran
  exact general {} {} Memory.represents_empty ran

theorem Memory.Represents.targeted {memory : Memory} {manager : ConnectionManager}
    {socket : WebSocket} {channels : Channels} (represents : memory.Represents manager) :
    memory.Targeted socket channels ↔ socket ∈ manager.targets channels.names := by
  rw [ConnectionManager.mem_targets, Memory.Targeted]
  simp only [Channels.mem_names, represents.registered, or_comm]

/-- What a broadcast does when it runs alone. -/
theorem broadcast_reaches_union {Message : Type} (memory : Memory) (reached : memory.Reached Message)
    (message : Message) (channels : Channels) (order : Iteration) (raises : WebSocket → Bool) :
    ∃ sent after, Method.broadcastAlone message channels order raises memory = .ok sent after ∧
      (sent.map Prod.fst).Nodup ∧
      (∀ socket received, (socket, received) ∈ sent ↔
        received = message ∧ memory.Targeted socket channels) ∧
      (∀ socket name, after.Registered socket name ↔ memory.Registered socket name ∧
        ¬ (raises socket = true ∧ memory.Targeted socket channels ∧
          (name ∈ channels.list ∨ name = GLOBAL_CHANNEL))) ∧
      (∀ name, (after.connections name).isSome ↔ ∃ socket, after.Registered socket name) := by
  obtain ⟨manager, represents⟩ := reached.represents
  obtain ⟨sent, after, returned, represented, _, sends⟩ :=
    Method.broadcastAlone_returns represents message channels order raises
  refine ⟨sent, after, returned, ?_, ?_, ?_, ?_⟩
  · rw [sends, List.map_map]
    exact (List.map_id _).symm ▸ order.nodup _
  · intro socket received
    rw [sends, List.mem_map, represents.targeted]
    constructor
    · intro found
      obtain ⟨target, member, same⟩ := found
      cases same
      exact ⟨rfl, (order.mem _ _).mp member⟩
    · intro holds
      exact ⟨socket, (order.mem _ _).mpr holds.2, by rw [holds.1]⟩
  · intro socket name
    rw [represented.registered, represents.registered, ConnectionManager.mem_get_prune,
      List.mem_filter, order.mem, represents.targeted, Channels.mem_names]
    tauto
  · intro name
    constructor
    · intro present
      obtain ⟨object, found⟩ := Option.isSome_iff_exists.mp present
      obtain ⟨socket, member⟩ := represented.nonempty found
      exact ⟨socket, object, found, member⟩
    · intro registered
      obtain ⟨_, object, found, _⟩ := registered
      rw [found, Option.isSome_some]

/-- Socket 0 on two channels. -/
def Sample.subscribed : Memory :=
  ((({} : Memory).allocate.enter "warehouse" (some 0)).assign 0 {0}).allocate.enter "other"
    (some 1) |>.assign 1 {0}

theorem Sample.subscribed_reached : Sample.subscribed.Reached String :=
  ⟨[.connect 0 "warehouse", .connect 0 "other"], rfl⟩

/-- One of the two channels is requested, and the send raises. -/
theorem broadcast_reaches_union_failing : ∃ sent after, Method.broadcastAlone "stock"
      (.name "warehouse") Sample.ascending (fun _ => true) Sample.subscribed = .ok sent after ∧
    (0, "stock") ∈ sent ∧ ¬ after.Registered 0 "warehouse" ∧ after.Registered 0 "other" := by
  have requested : Sample.subscribed.Registered 0 "warehouse" := ⟨0, rfl, by decide⟩
  have other : Sample.subscribed.Registered 0 "other" := ⟨1, rfl, by decide⟩
  have targeted : Sample.subscribed.Targeted 0 (.name "warehouse") :=
    ⟨"warehouse", .inl (List.mem_singleton_self _), requested⟩
  obtain ⟨sent, after, returned, _, sends, registered, _⟩ := broadcast_reaches_union
    Sample.subscribed Sample.subscribed_reached "stock" (.name "warehouse") Sample.ascending
    (fun _ => true)
  refine ⟨sent, after, returned, (sends 0 "stock").mpr ⟨rfl, targeted⟩, ?_, ?_⟩
  · intro still
    exact ((registered 0 "warehouse").mp still).2
      ⟨rfl, targeted, .inl (List.mem_singleton_self _)⟩
  · refine (registered 0 "other").mpr ⟨other, ?_⟩
    simp [Channels.list, GLOBAL_CHANNEL]

end InventoryManagement
