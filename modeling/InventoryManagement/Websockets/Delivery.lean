import InventoryManagement.Websockets.Cluster

/-! What the steps of a cluster preserve: a client receives a message as often as its
process broadcasts it for the client's channel, and every process broadcasts what the
handlers of all processes publish. -/

set_option autoImplicit false

namespace InventoryManagement

open Transition (run)

variable {n : Nat} {cluster next final : Cluster Envelope Message n} {action : Action n}
variable {roles : Fin n → Role} {id : Fin n} {socket : WebSocket} {channel : String} {message : Message}

inductive Cluster.Step (cluster : Cluster Envelope Message n) :
    Action n → Cluster Envelope Message n → Prop where
  | publish (id : Fin n) (event : DomainEvent) :
      Step cluster (.publish id event) { cluster with
        tasks := cluster.tasks ++ (cluster.processes id).eventPublisher.publish event }
  | handle {index : Nat} {envelope : Envelope} (found : cluster.tasks[index]? = some envelope) :
      Step cluster (.handle index) { cluster with
        processes := fun id => (cluster.processes id).receive envelope
        tasks := cluster.tasks.eraseIdx index }
  | relay {id : Fin n} {envelope : Envelope} {rest : List Envelope}
      (arrived : (cluster.processes id).inbox = envelope :: rest)
      (free : (cluster.processes id).sending .relay = none) :
      Step cluster (.relay id) (cluster.update id ((cluster.processes id).relay .direct envelope rest))
  | heartbeat {id : Fin n} (free : (cluster.processes id).sending .heartbeat = none) :
      Step cluster (.heartbeat id) (cluster.update id ((cluster.processes id).heartbeat .direct))
  | succeed {id : Fin n} {sender : Sender} {broadcast : Broadcast Message} {socket : WebSocket}
      (awaits : (cluster.processes id).sending sender = some broadcast)
      (target : socket ∈ broadcast.targets) :
      Step cluster (.send id sender socket true)
        ((cluster.update id ((cluster.processes id).proceed sender
          ((cluster.processes id).manager.sent broadcast socket true))).record socket
            broadcast.message)
  | fail {id : Fin n} {sender : Sender} {broadcast : Broadcast Message} {socket : WebSocket}
      (awaits : (cluster.processes id).sending sender = some broadcast)
      (target : socket ∈ broadcast.targets) :
      Step cluster (.send id sender socket false)
        (cluster.update id ((cluster.processes id).proceed sender
          ((cluster.processes id).manager.sent broadcast socket false)))
  | connect {id : Fin n} {socket : WebSocket} (channel : String)
      (serves : (cluster.processes id).role = .api) (fresh : cluster.sockets socket = none) :
      Step cluster (.connect id socket channel) { cluster.update id { cluster.processes id with
            manager := (cluster.processes id).manager.connect socket channel } with
          sockets := Function.update cluster.sockets socket (some { process := id, channel }) }
  | disconnect {socket : WebSocket} {client : Socket Message n}
      (accepted : cluster.sockets socket = some client) :
      Step cluster (.disconnect socket) (cluster.update client.process
        { cluster.processes client.process with manager :=
            (cluster.processes client.process).manager.disconnect socket client.channel })

theorem Cluster.step_cases (stepped : cluster.step .direct action = some next) :
    cluster.Step action next := by
  cases action with
  | publish id event =>
      cases stepped
      exact .publish id event
  | handle index =>
      simp only [Cluster.step] at stepped
      split at stepped
      · next found =>
          cases stepped
          exact .handle found
      · cases stepped
  | relay id =>
      simp only [Cluster.step] at stepped
      split at stepped
      · next arrived free =>
          cases stepped
          exact .relay arrived free
      · cases stepped
  | heartbeat id =>
      simp only [Cluster.step] at stepped
      split at stepped
      · next free =>
          cases stepped
          exact .heartbeat free
      · cases stepped
  | send id sender socket succeeds =>
      simp only [Cluster.step] at stepped
      split at stepped
      · next awaits =>
          split at stepped
          · next target =>
              cases succeeds with
              | true =>
                  cases stepped
                  exact .succeed awaits target
              | false =>
                  cases stepped
                  exact .fail awaits target
          · cases stepped
      · cases stepped
  | connect id socket channel =>
      simp only [Cluster.step] at stepped
      split at stepped
      · next serves fresh =>
          cases stepped
          exact .connect channel serves fresh
      · cases stepped
  | disconnect socket =>
      simp only [Cluster.step] at stepped
      split at stepped
      · next accepted =>
          cases stepped
          exact .disconnect accepted
      · cases stepped

/-! Updating one process, field by field. -/

section Fields

variable {process : Process Envelope Message} {envelope : Envelope} {rest : List Envelope} {sender : Sender}
variable {progress : ConnectionManager × Option (Broadcast Message)}

@[simp] theorem Process.receive_role : (process.receive envelope).role = process.role := by
  rw [Process.receive]; split <;> rfl

@[simp] theorem Process.receive_eventPublisher :
    (process.receive envelope).eventPublisher = process.eventPublisher := by
  rw [Process.receive]; split <;> rfl

@[simp] theorem Process.receive_manager :
    (process.receive envelope).manager = process.manager := by
  rw [Process.receive]; split <;> rfl

@[simp] theorem Process.receive_sending :
    (process.receive envelope).sending = process.sending := by
  rw [Process.receive]; split <;> rfl

@[simp] theorem Process.receive_begun : (process.receive envelope).begun = process.begun := by
  rw [Process.receive]; split <;> rfl

theorem Process.receive_inbox (serves : process.role = .api) :
    (process.receive envelope).inbox = process.inbox ++ [envelope] := by
  rw [Process.receive, if_pos serves]

theorem Process.relay_direct : process.relay .direct envelope rest =
    ({ process with inbox := rest, begun := process.begun ++ [envelope] } :
      Process Envelope Message).proceed .relay
        (process.manager.broadcast envelope.message envelope.channels) := rfl

theorem Process.heartbeat_direct : process.heartbeat .direct =
    process.proceed .heartbeat (process.manager.broadcast heartbeatMessage [GLOBAL_CHANNEL]) := rfl

theorem Process.proceed_sending (other : Sender) : (process.proceed sender progress).sending other =
    if other = sender then progress.2 else process.sending other := by
  simp only [Process.proceed, Function.update_apply]

theorem Cluster.update_processes (other : Fin n) :
    (cluster.update id process).processes other =
      if other = id then process else cluster.processes other := by
  rw [Cluster.update]
  by_cases here : other = id
  · subst here; simp
  · simp [here]

theorem Cluster.proceed_begun {here : Fin n} :
    ((cluster.update here ((cluster.processes here).proceed sender progress)).processes id).begun =
      (cluster.processes id).begun := by
  rw [Cluster.update_processes]
  split
  · next same => exact same ▸ rfl
  · rfl

@[simp] theorem Cluster.update_sockets : (cluster.update id process).sockets = cluster.sockets := rfl

@[simp] theorem Cluster.update_tasks : (cluster.update id process).tasks = cluster.tasks := rfl

end Fields

/-! Nothing subscribes after the start, and what has begun stays begun. -/

section Kept

theorem Cluster.Step.wired (stepped : cluster.Step action next) (id : Fin n) :
    (next.processes id).role = (cluster.processes id).role ∧
      (next.processes id).eventPublisher = (cluster.processes id).eventPublisher := by
  cases stepped with
  | publish => exact ⟨rfl, rfl⟩
  | handle => simp
  | relay | heartbeat | fail | disconnect =>
      rw [Cluster.update_processes]
      split
      · next here => exact here ▸ ⟨rfl, rfl⟩
      · exact ⟨rfl, rfl⟩
  | succeed | connect =>
      simp only [Cluster.record, Cluster.update_processes]
      split
      · next here => exact here ▸ ⟨rfl, rfl⟩
      · exact ⟨rfl, rfl⟩

theorem Cluster.Step.begun (stepped : cluster.Step action next) {envelope : Envelope}
    (begun : envelope ∈ (cluster.processes id).begun) :
    envelope ∈ (next.processes id).begun := by
  cases stepped with
  | publish => exact begun
  | handle => simpa using begun
  | relay =>
      rw [Cluster.update_processes]
      split
      · next here => exact here ▸ List.mem_append_left _ begun
      · exact begun
  | heartbeat | fail | disconnect =>
      rw [Cluster.update_processes]
      split
      · next here => exact here ▸ begun
      · exact begun
  | succeed | connect =>
      simp only [Cluster.record, Cluster.update_processes]
      split
      · next here => exact here ▸ begun
      · exact begun

theorem Cluster.Step.client (stepped : cluster.Step action next) {client : Socket Message n}
    (accepted : cluster.sockets socket = some client) :
    ∃ received, next.sockets socket = some { client with received } := by
  cases stepped with
  | publish | handle | relay | heartbeat | fail | disconnect => exact ⟨_, accepted⟩
  | @succeed _ _ broadcast other =>
      by_cases same : socket = other
      · subst same
        simp [Cluster.record, accepted]
      · refine ⟨client.received, ?_⟩
        simp [Cluster.record, same, accepted]
  | @connect _ other _ _ fresh =>
      have different : socket ≠ other := by
        intro same
        rw [same, fresh] at accepted
        cases accepted
      refine ⟨client.received, ?_⟩
      simp [different, accepted]

end Kept

/-! Every message on its way to a client is a heartbeat or was taken from the inbox
of the client's process, and is on its way there only. -/

/-- The relay of a process has begun to broadcast a message. -/
def Cluster.Begun (cluster : Cluster Envelope Message n) (id : Fin n) (message : Message) : Prop :=
  ∃ envelope ∈ (cluster.processes id).begun, envelope.message = message

structure Cluster.Sound (roles : Fin n → Role) (cluster : Cluster Envelope Message n) : Prop where
  role : ∀ id, (cluster.processes id).role = roles id
  eventPublisher : ∀ id, (cluster.processes id).eventPublisher = (roles id).eventPublisher
  serves : ∀ socket client, cluster.sockets socket = some client → roles client.process = .api
  registered : ∀ id channel socket, socket ∈ (cluster.processes id).manager.get channel →
    ∃ received, cluster.sockets socket = some ⟨id, channel, received⟩
  targeted : ∀ id sender broadcast socket, (cluster.processes id).sending sender = some broadcast →
    socket ∈ broadcast.targets → ∃ channel received,
      cluster.sockets socket = some ⟨id, channel, received⟩
  sending : ∀ id sender broadcast, (cluster.processes id).sending sender = some broadcast →
    broadcast.message ≠ heartbeatMessage → cluster.Begun id broadcast.message
  received : ∀ socket client, cluster.sockets socket = some client → ∀ message ∈ client.received,
    message ≠ heartbeatMessage → cluster.Begun client.process message

section Sound

theorem Cluster.start_sound (roles : Fin n → Role) : (Cluster.start roles).Sound roles where
  role _ := rfl
  eventPublisher _ := rfl
  serves _ _ accepted := by cases accepted
  registered _ _ _ member := by simp [Cluster.start, Process.start, ConnectionManager.get] at member
  targeted _ _ _ _ awaits := by cases awaits
  sending _ _ _ awaits := by cases awaits
  received _ _ accepted := by cases accepted

theorem Cluster.Step.Begun (stepped : cluster.Step action next)
    (begun : cluster.Begun id message) : next.Begun id message := by
  obtain ⟨envelope, member, same⟩ := begun
  exact ⟨envelope, stepped.begun member, same⟩

theorem Cluster.Step.accepted (stepped : cluster.Step action next)
    (accepted : ∃ received, cluster.sockets socket = some ⟨id, channel, received⟩) :
    ∃ received, next.sockets socket = some ⟨id, channel, received⟩ := by
  obtain ⟨received, accepted⟩ := accepted
  exact stepped.client accepted

/-- A registration is an old one or that of a client that has just connected. -/
theorem Cluster.Step.get (stepped : cluster.Step action next)
    (member : socket ∈ (next.processes id).manager.get channel) :
    socket ∈ (cluster.processes id).manager.get channel ∨
      next.sockets socket = some ⟨id, channel, []⟩ := by
  cases stepped with
  | publish => exact .inl member
  | handle =>
      rw [Process.receive_manager] at member
      exact .inl member
  | relay | heartbeat | fail =>
      rw [Cluster.update_processes] at member
      split at member
      · next here => exact .inl (here ▸ ConnectionManager.get_resume_subset member)
      · exact .inl member
  | succeed =>
      simp only [Cluster.record, Cluster.update_processes] at member
      split at member
      · next here => exact .inl (here ▸ ConnectionManager.get_resume_subset member)
      · exact .inl member
  | connect =>
      simp only [Cluster.update_processes] at member
      split at member
      · next here =>
          rw [ConnectionManager.get_connect] at member
          split at member
          · next same =>
              rcases Finset.mem_insert.mp member with rfl | before
              · subst here same
                exact .inr (by simp)
              · exact .inl (here ▸ before)
          · exact .inl (here ▸ member)
      · exact .inl member
  | disconnect =>
      rw [Cluster.update_processes] at member
      split at member
      · next here =>
          rw [ConnectionManager.get_disconnect] at member
          split at member
          · exact .inl (here ▸ Finset.mem_of_mem_erase member)
          · exact .inl (here ▸ member)
      · exact .inl member

theorem Cluster.Step.sending (stepped : cluster.Step action next) {sender : Sender}
    {broadcast : Broadcast Message}
    (awaits : (next.processes id).sending sender = some broadcast) :
    (∃ before, (cluster.processes id).sending sender = some before ∧
      broadcast.message = before.message ∧ broadcast.targets ⊆ before.targets) ∨
    ((broadcast.message ≠ heartbeatMessage → next.Begun id broadcast.message) ∧
      ∀ socket ∈ broadcast.targets, ∃ channel,
        socket ∈ (cluster.processes id).manager.get channel) := by
  have kept : (cluster.processes id).sending sender = some broadcast →
      ∃ before, (cluster.processes id).sending sender = some before ∧
        broadcast.message = before.message ∧ broadcast.targets ⊆ before.targets :=
    fun awaits => ⟨broadcast, awaits, rfl, Finset.Subset.refl _⟩
  cases stepped with
  | publish => exact .inl (kept awaits)
  | handle =>
      rw [Process.receive_sending] at awaits
      exact .inl (kept awaits)
  | @relay other envelope rest =>
      rw [Cluster.update_processes] at awaits
      split at awaits
      · next here =>
          subst here
          rw [Process.relay_direct, Process.proceed_sending] at awaits
          split at awaits
          · obtain ⟨same, targets, _⟩ := ConnectionManager.resume_some awaits
            refine .inr ⟨fun _ => ⟨envelope, ?_, same.symm⟩, ?_⟩
            · simp [Cluster.update, Process.relay_direct, Process.proceed]
            · intro socket member
              rw [targets] at member
              obtain ⟨channel, _, registered⟩ := ConnectionManager.mem_targets.mp member
              exact ⟨channel, registered⟩
          · exact .inl (kept awaits)
      · exact .inl (kept awaits)
  | heartbeat =>
      rw [Cluster.update_processes] at awaits
      split at awaits
      · next here =>
          subst here
          rw [Process.heartbeat_direct, Process.proceed_sending] at awaits
          split at awaits
          · obtain ⟨same, targets, _⟩ := ConnectionManager.resume_some awaits
            refine .inr ⟨fun other => absurd same other, ?_⟩
            intro socket member
            rw [targets] at member
            obtain ⟨channel, _, registered⟩ := ConnectionManager.mem_targets.mp member
            exact ⟨channel, registered⟩
          · exact .inl (kept awaits)
      · exact .inl (kept awaits)
  | succeed before | fail before =>
      simp only [Cluster.record, Cluster.update_processes] at awaits
      split at awaits
      · next here =>
          subst here
          rw [Process.proceed_sending] at awaits
          split at awaits
          · next same =>
              subst same
              obtain ⟨message, targets, _⟩ := ConnectionManager.resume_some awaits
              exact .inl ⟨_, before, message, targets ▸ Finset.erase_subset _ _⟩
          · exact .inl (kept awaits)
      · exact .inl (kept awaits)
  | connect | disconnect =>
      simp only [Cluster.update_processes] at awaits
      split at awaits
      · next here => exact .inl (kept (here ▸ awaits))
      · exact .inl (kept awaits)

/-- Only API processes accept clients. -/
theorem Cluster.Step.origin (stepped : cluster.Step action next) {client : Socket Message n}
    (accepted : next.sockets socket = some client) :
    (∃ before, cluster.sockets socket = some before ∧ before.process = client.process) ∨
      (cluster.processes client.process).role = .api := by
  cases stepped with
  | publish | handle | relay | heartbeat | fail | disconnect => exact .inl ⟨client, accepted, rfl⟩
  | @succeed _ _ _ other =>
      by_cases same : socket = other
      · subst same
        simp only [Cluster.record, Cluster.update_sockets, Function.update_self,
          Option.map_eq_some_iff] at accepted
        obtain ⟨before, found, rfl⟩ := accepted
        exact .inl ⟨before, found, rfl⟩
      · simp only [Cluster.record, Cluster.update_sockets, Function.update_of_ne same] at accepted
        exact .inl ⟨client, accepted, rfl⟩
  | @connect _ other _ serves =>
      by_cases same : socket = other
      · subst same
        simp only [Function.update_self, Option.some.injEq] at accepted
        subst accepted
        exact .inr serves
      · simp only [Function.update_of_ne same] at accepted
        exact .inl ⟨client, accepted, rfl⟩

/-- A message was received before, or its broadcast was awaiting the client. -/
theorem Cluster.Step.received (stepped : cluster.Step action next) {client : Socket Message n}
    (accepted : next.sockets socket = some client) (member : message ∈ client.received) :
    (∃ before, cluster.sockets socket = some before ∧ before.process = client.process ∧
      message ∈ before.received) ∨
    ∃ id sender broadcast, (cluster.processes id).sending sender = some broadcast ∧
      socket ∈ broadcast.targets ∧ broadcast.message = message := by
  cases stepped with
  | publish | handle | relay | heartbeat | fail | disconnect =>
      exact .inl ⟨client, accepted, rfl, member⟩
  | @succeed id sender broadcast other awaits target =>
      by_cases same : socket = other
      · subst same
        simp only [Cluster.record, Cluster.update_sockets, Function.update_self,
          Option.map_eq_some_iff] at accepted
        obtain ⟨before, found, rfl⟩ := accepted
        rcases List.mem_append.mp member with earlier | now
        · exact .inl ⟨before, found, rfl, earlier⟩
        · exact .inr ⟨id, sender, broadcast, awaits, target, (List.mem_singleton.mp now).symm⟩
      · simp only [Cluster.record, Cluster.update_sockets, Function.update_of_ne same] at accepted
        exact .inl ⟨client, accepted, rfl, member⟩
  | @connect _ other =>
      by_cases same : socket = other
      · subst same
        simp only [Function.update_self, Option.some.injEq] at accepted
        subst accepted
        cases member
      · simp only [Function.update_of_ne same] at accepted
        exact .inl ⟨client, accepted, rfl, member⟩

theorem Cluster.Step.sound (stepped : cluster.Step action next) (sound : cluster.Sound roles) :
    next.Sound roles where
  role id := (stepped.wired id).1.trans (sound.role id)
  eventPublisher id := (stepped.wired id).2.trans (sound.eventPublisher id)
  serves socket client accepted := by
    rcases stepped.origin accepted with ⟨before, found, same⟩ | api
    · exact same ▸ sound.serves socket before found
    · exact (sound.role client.process).symm.trans api
  registered id channel socket member := by
    rcases stepped.get member with before | connected
    · exact stepped.accepted (sound.registered id channel socket before)
    · exact ⟨[], connected⟩
  targeted id sender broadcast socket awaits target := by
    rcases stepped.sending awaits with ⟨before, found, _, fewer⟩ | ⟨_, targets⟩
    · obtain ⟨channel, accepted⟩ := sound.targeted id sender before socket found (fewer target)
      exact ⟨channel, stepped.accepted accepted⟩
    · obtain ⟨channel, member⟩ := targets socket target
      exact ⟨channel, stepped.accepted (sound.registered id channel socket member)⟩
  sending id sender broadcast awaits other := by
    rcases stepped.sending awaits with ⟨before, found, same, _⟩ | ⟨begun, _⟩
    · rw [same] at other ⊢
      exact stepped.Begun (sound.sending id sender before found other)
    · exact begun other
  received socket client accepted message member other := by
    rcases stepped.received accepted member with
      ⟨before, found, same, earlier⟩ | ⟨id, sender, broadcast, awaits, target, rfl⟩
    · exact same ▸ stepped.Begun (sound.received socket before found message earlier other)
    · obtain ⟨channel, found⟩ := sound.targeted id sender broadcast socket awaits target
      obtain ⟨received, still⟩ := stepped.accepted found
      rw [still, Option.some.injEq] at accepted
      subst accepted
      exact stepped.Begun (sound.sending id sender broadcast awaits other)

end Sound

/-! A client that stays connected and whose sends succeed. -/

/-- Connected, and no send to it has failed in a broadcast under way. -/
structure Cluster.Listening (cluster : Cluster Envelope Message n) (socket : WebSocket) (id : Fin n)
    (channel : String) : Prop where
  accepted : ∃ received, cluster.sockets socket = some ⟨id, channel, received⟩
  registered : socket ∈ (cluster.processes id).manager.get channel
  healthy : ∀ sender broadcast, (cluster.processes id).sending sender = some broadcast →
    socket ∉ broadcast.stale

/-- An action other than the client's leaving and a failing send to it. -/
def Action.keeps (socket : WebSocket) : Action n → Prop
  | .send _ _ other succeeds => other = socket → succeeds = true
  | .disconnect other => other ≠ socket
  | _ => True

def Cluster.copies (cluster : Cluster Envelope Message n) (socket : WebSocket) (message : Message) : Nat :=
  ((cluster.sockets socket).map (fun client => client.received.count message)).getD 0

/-- Whether a client waits for a message in one call of `broadcast`. -/
def awaited (sending : Option (Broadcast Message)) (socket : WebSocket) (message : Message) : Nat :=
  match sending with
  | some broadcast => if broadcast.message = message ∧ socket ∈ broadcast.targets then 1 else 0
  | none => 0

/-- In how many calls of `broadcast` a client waits for a message. -/
def Process.pending (process : Process Envelope Message) (socket : WebSocket) (message : Message) : Nat :=
  awaited (process.sending .relay) socket message +
    awaited (process.sending .heartbeat) socket message

/-- Whether a client on a channel is among those an envelope is meant for. -/
def Envelope.reaches (envelope : Envelope) (channel : String) : Prop :=
  channel = GLOBAL_CHANNEL ∨ channel ∈ envelope.channels

instance (envelope : Envelope) (channel : String) : Decidable (envelope.reaches channel) :=
  inferInstanceAs (Decidable (_ ∨ _))

/-- The broadcasts of a message that were begun for a channel. -/
def Cluster.broadcasts (cluster : Cluster Envelope Message n) (id : Fin n) (channel : String)
    (message : Message) : Nat :=
  (cluster.processes id).begun.countP
    (fun envelope => envelope.message = message ∧ envelope.reaches channel)

section Listening

theorem Cluster.Step.registered (stepped : cluster.Step action next) (keeps : action.keeps socket)
    (listening : cluster.Listening socket id channel) :
    socket ∈ (next.processes id).manager.get channel := by
  have registered := listening.registered
  cases stepped with
  | publish => exact registered
  | handle => simpa using registered
  | relay | heartbeat =>
      rw [Cluster.update_processes]
      split
      · next here => exact (ConnectionManager.mem_get_resume (by simp)).mpr (here ▸ registered)
      · exact registered
  | @succeed _ _ broadcast _ awaits =>
      simp only [Cluster.record, Cluster.update_processes]
      split
      · next here =>
          subst here
          exact (ConnectionManager.mem_get_resume (listening.healthy _ _ awaits)).mpr registered
      · exact registered
  | @fail _ _ broadcast other awaits =>
      rw [Cluster.update_processes]
      split
      · next here =>
          subst here
          refine (ConnectionManager.mem_get_resume ?_).mpr registered
          have different : socket ≠ other := fun same => by cases keeps same.symm
          simpa [different] using listening.healthy _ _ awaits
      · exact registered
  | connect =>
      simp only [Cluster.update_processes]
      split
      · next here =>
          rw [ConnectionManager.get_connect]
          split
          · exact Finset.mem_insert_of_mem (here ▸ registered)
          · exact here ▸ registered
      · exact registered
  | disconnect =>
      rw [Cluster.update_processes]
      split
      · next here =>
          rw [ConnectionManager.get_disconnect]
          split
          · exact Finset.mem_erase.mpr ⟨fun same => keeps same.symm, here ▸ registered⟩
          · exact here ▸ registered
      · exact registered

theorem Cluster.Step.healthy (stepped : cluster.Step action next) (keeps : action.keeps socket)
    (listening : cluster.Listening socket id channel) {sender : Sender}
    {broadcast : Broadcast Message}
    (awaits : (next.processes id).sending sender = some broadcast) :
    socket ∉ broadcast.stale := by
  have healthy := listening.healthy
  cases stepped with
  | publish => exact healthy _ _ awaits
  | handle =>
      rw [Process.receive_sending] at awaits
      exact healthy _ _ awaits
  | relay | heartbeat =>
      rw [Cluster.update_processes] at awaits
      split at awaits
      · next here =>
          subst here
          simp only [Process.relay_direct, Process.heartbeat_direct, Process.proceed_sending] at awaits
          split at awaits
          · simp [(ConnectionManager.resume_some awaits).2.2]
          · exact healthy _ _ awaits
      · exact healthy _ _ awaits
  | succeed before =>
      simp only [Cluster.record, Cluster.update_processes] at awaits
      split at awaits
      · next here =>
          subst here
          rw [Process.proceed_sending] at awaits
          split at awaits
          · rw [(ConnectionManager.resume_some awaits).2.2]
            exact healthy _ _ before
          · exact healthy _ _ awaits
      · exact healthy _ _ awaits
  | @fail _ _ _ other before =>
      rw [Cluster.update_processes] at awaits
      split at awaits
      · next here =>
          subst here
          rw [Process.proceed_sending] at awaits
          split at awaits
          · rw [(ConnectionManager.resume_some awaits).2.2]
            have different : socket ≠ other := fun same => by cases keeps same.symm
            simpa [different] using healthy _ _ before
          · exact healthy _ _ awaits
      · exact healthy _ _ awaits
  | connect | disconnect =>
      simp only [Cluster.update_processes] at awaits
      split at awaits
      · next here => exact healthy _ _ (here ▸ awaits)
      · exact healthy _ _ awaits

theorem Cluster.Step.listening (stepped : cluster.Step action next) (keeps : action.keeps socket)
    (listening : cluster.Listening socket id channel) : next.Listening socket id channel where
  accepted := stepped.accepted listening.accepted
  registered := stepped.registered keeps listening
  healthy _ _ awaits := stepped.healthy keeps listening awaits

/-- A client belongs to one process and to one channel. -/
theorem Cluster.Listening.only (listening : cluster.Listening socket id channel) {here : Fin n}
    {name : String} (accepted : ∃ received, cluster.sockets socket = some ⟨here, name, received⟩) :
    here = id ∧ name = channel := by
  obtain ⟨_, there⟩ := accepted
  obtain ⟨_, accepted⟩ := listening.accepted
  rw [there, Option.some.injEq, Socket.mk.injEq] at accepted
  exact ⟨accepted.1, accepted.2.1⟩

theorem awaited_resume {manager : ConnectionManager} {sent : Message} {channels : List String}
    {targets : Finset WebSocket} {stale : List WebSocket} :
    awaited (manager.resumeBroadcast sent channels targets stale).2 socket message =
      if sent = message ∧ socket ∈ targets then 1 else 0 := by
  rw [ConnectionManager.resumeBroadcast]
  split
  · rfl
  · next empty =>
      rw [Finset.not_nonempty_iff_eq_empty.mp empty]
      simp [awaited]

theorem Process.pending_proceed (process : Process Envelope Message) (sender : Sender)
    (progress : ConnectionManager × Option (Broadcast Message)) (socket : WebSocket)
    (message : Message) :
    (process.proceed sender progress).pending socket message +
        awaited (process.sending sender) socket message =
      process.pending socket message + awaited progress.2 socket message := by
  simp only [Process.pending, Process.proceed_sending]
  cases sender <;> simp <;> omega

theorem Cluster.Listening.target_iff (listening : cluster.Listening socket id channel)
    (sound : cluster.Sound roles) (envelope : Envelope) :
    socket ∈ (cluster.processes id).manager.targets (envelope.channels.insert GLOBAL_CHANNEL) ↔
      envelope.reaches channel := by
  rw [ConnectionManager.mem_targets, Envelope.reaches, ← List.mem_insert_iff]
  constructor
  · intro holds
    obtain ⟨name, among, registered⟩ := holds
    obtain ⟨_, rfl⟩ := listening.only (sound.registered id name socket registered)
    exact among
  · intro among
    exact ⟨channel, among, listening.registered⟩

/-- The calls of `broadcast` of the client's process and their messages to it: a send
that returns turns a pending message into a received one. -/
theorem Cluster.Listening.sent (listening : cluster.Listening socket id channel)
    (sound : cluster.Sound roles) (message : Message) (succeeds : Bool) {here : Fin n}
    {sender : Sender} {broadcast : Broadcast Message} {other : WebSocket}
    (awaits : (cluster.processes here).sending sender = some broadcast)
    (target : other ∈ broadcast.targets) :
    ((cluster.update here ((cluster.processes here).proceed sender
        ((cluster.processes here).manager.sent broadcast other succeeds))).processes id).pending
          socket message + (if other = socket ∧ broadcast.message = message then 1 else 0) =
      (cluster.processes id).pending socket message := by
  rw [Cluster.update_processes]
  split
  · next same =>
      subst same
      have moved := (cluster.processes id).pending_proceed sender
        ((cluster.processes id).manager.sent broadcast other succeeds) socket message
      have before : awaited (some broadcast) socket message =
          if broadcast.message = message ∧ socket ∈ broadcast.targets then 1 else 0 := rfl
      have after : awaited ((cluster.processes id).manager.sent broadcast other succeeds).2 socket
          message = if broadcast.message = message ∧ socket ∈ broadcast.targets.erase other then 1
            else 0 := awaited_resume
      rw [awaits, before, after] at moved
      by_cases self : other = socket
      · subst self
        simpa [target] using moved
      · have different : socket ≠ other := fun same => self same.symm
        simpa [self, different] using moved
  · next elsewhere =>
      have different : other ≠ socket := by
        intro same
        subst same
        obtain ⟨_, there⟩ := sound.targeted here sender broadcast other awaits target
        exact elsewhere (listening.only there).1.symm
      simp [different]

/-- The relay takes an envelope: its clients wait for one more message. -/
theorem Cluster.Listening.relayed (listening : cluster.Listening socket id channel)
    (sound : cluster.Sound roles) (message : Message) {envelope : Envelope} {rest : List Envelope}
    (free : (cluster.processes id).sending .relay = none) :
    ((cluster.processes id).relay .direct envelope rest).pending socket message =
      (cluster.processes id).pending socket message +
        if envelope.message = message ∧ envelope.reaches channel then 1 else 0 := by
  have moved := Process.pending_proceed { cluster.processes id with
      inbox := rest, begun := (cluster.processes id).begun ++ [envelope] } .relay
    ((cluster.processes id).manager.broadcast envelope.message envelope.channels) socket message
  rw [free, ConnectionManager.broadcast, awaited_resume] at moved
  simp only [listening.target_iff sound] at moved
  exact moved

theorem Process.pending_heartbeat {process : Process Envelope Message}
    (free : process.sending .heartbeat = none) (other : message ≠ heartbeatMessage) :
    (process.heartbeat .direct).pending socket message = process.pending socket message := by
  have moved := process.pending_proceed .heartbeat
    (process.manager.broadcast heartbeatMessage [GLOBAL_CHANNEL]) socket message
  rw [free, ConnectionManager.broadcast, awaited_resume,
    if_neg (fun both => other both.1.symm)] at moved
  exact moved

theorem Cluster.copies_record (accepted : ∃ client, cluster.sockets socket = some client)
    (target : WebSocket) (sent : Message) :
    (cluster.record target sent).copies socket message = cluster.copies socket message +
      (if target = socket ∧ sent = message then 1 else 0) := by
  obtain ⟨client, accepted⟩ := accepted
  simp only [Cluster.copies, Cluster.record]
  by_cases self : target = socket
  · subst self
    by_cases this : sent = message <;> simp [accepted, this]
  · have different : socket ≠ target := fun same => self same.symm
    simp [self, different]

/-- A message a listening client has received or waits for has been broadcast for its
channel, and the other way round. -/
theorem Cluster.Step.copies (stepped : cluster.Step action next) (sound : cluster.Sound roles)
    (listening : cluster.Listening socket id channel) (keeps : action.keeps socket)
    (other : message ≠ heartbeatMessage) :
    next.copies socket message + (next.processes id).pending socket message +
        cluster.broadcasts id channel message =
      cluster.copies socket message + (cluster.processes id).pending socket message +
        next.broadcasts id channel message := by
  obtain ⟨received, accepted⟩ := listening.accepted
  cases stepped with
  | publish => rfl
  | handle => simp [Cluster.copies, Process.pending, Cluster.broadcasts]
  | @relay here envelope rest arrived free =>
      simp only [Cluster.copies, Cluster.update_sockets, Cluster.broadcasts,
        Cluster.update_processes]
      split
      · next same =>
          subst same
          have gained : [envelope].countP (fun envelope =>
              decide (envelope.message = message ∧ envelope.reaches channel)) =
                if envelope.message = message ∧ envelope.reaches channel then 1 else 0 := by
            rw [List.countP_singleton]
            simp only [decide_eq_true_eq]
          rw [listening.relayed sound message free]
          simp only [Process.relay_direct, Process.proceed, List.countP_append, gained]
          omega
      · rfl
  | @heartbeat here free =>
      simp only [Cluster.copies, Cluster.update_sockets, Cluster.broadcasts,
        Cluster.update_processes]
      split
      · next same =>
          subst same
          rw [Process.pending_heartbeat free other]
          rfl
      · rfl
  | @succeed here sender broadcast target awaits member =>
      have moved := listening.sent sound message true awaits member
      rw [Cluster.copies_record]
      · simp only [Cluster.record, Cluster.broadcasts, Cluster.copies, Cluster.update_sockets,
          Cluster.proceed_begun]
        omega
      · exact ⟨_, accepted⟩
  | @fail here sender broadcast target awaits member =>
      have moved := listening.sent sound message false awaits member
      have different : target ≠ socket := fun same => by cases keeps same
      rw [if_neg (fun both => different both.1), Nat.add_zero] at moved
      rw [moved, Cluster.broadcasts, Cluster.broadcasts, Cluster.proceed_begun]
      rfl
  | @connect here newcomer _ _ fresh =>
      have different : socket ≠ newcomer := by
        intro same
        rw [← same, accepted] at fresh
        cases fresh
      simp only [Cluster.copies, Function.update_of_ne different, Cluster.broadcasts,
        Cluster.update_processes, Process.pending]
      split
      · next same => exact same ▸ rfl
      · rfl
  | disconnect =>
      simp only [Cluster.copies, Cluster.update_sockets, Cluster.broadcasts,
        Cluster.update_processes, Process.pending]
      split
      · next same => exact same ▸ rfl
      · rfl

end Listening

/-! Every published envelope is a handler call, then in every inbox, then begun. -/

/-- The envelopes an action makes the handlers publish. -/
def Action.published (roles : Fin n → Role) : Action n → List Envelope
  | .publish id event => (roles id).eventPublisher.publish event
  | _ => []

/-- The copies of an envelope that concern one process. -/
def Cluster.accounted (cluster : Cluster Envelope Message n) (id : Fin n) (envelope : Envelope) : Nat :=
  cluster.tasks.count envelope + (cluster.processes id).inbox.count envelope +
    (cluster.processes id).begun.count envelope

section Accounted

theorem Cluster.Step.accounted (stepped : cluster.Step action next) (sound : cluster.Sound roles)
    (serves : roles id = .api) (envelope : Envelope) :
    next.accounted id envelope =
      cluster.accounted id envelope + (action.published roles).count envelope := by
  cases stepped with
  | publish here event =>
      simp only [Cluster.accounted, Action.published, List.count_append, sound.eventPublisher here]
      omega
  | @handle index sent found =>
      obtain ⟨bound, value⟩ := List.getElem?_eq_some_iff.mp found
      have removed := (List.getElem_cons_eraseIdx_perm bound).count_eq envelope
      rw [value, List.count_cons] at removed
      have role : (cluster.processes id).role = .api := (sound.role id).trans serves
      simp only [Cluster.accounted, Action.published, Process.receive_inbox role,
        Process.receive_begun, List.count_append, List.count_singleton, List.count_nil]
      omega
  | @relay here sent rest arrived =>
      simp only [Cluster.accounted, Cluster.update_tasks, Cluster.update_processes,
        Action.published, List.count_nil, Nat.add_zero]
      split
      · next same =>
          subst same
          rw [arrived]
          simp only [Process.relay_direct, Process.proceed, List.count_append, List.count_cons,
            List.count_nil]
          omega
      · rfl
  | heartbeat | fail | disconnect =>
      simp only [Cluster.accounted, Cluster.update_tasks, Cluster.update_processes,
        Action.published, List.count_nil, Nat.add_zero]
      split
      · next same => exact same ▸ rfl
      · rfl
  | succeed | connect =>
      simp only [Cluster.accounted, Cluster.record, Cluster.update_tasks, Cluster.update_processes,
        Action.published, List.count_nil, Nat.add_zero]
      split
      · next same => exact same ▸ rfl
      · rfl

theorem Cluster.run_sound {actions : List (Action n)} (sound : cluster.Sound roles)
    (ran : run (Cluster.step .direct) cluster actions = some final) : final.Sound roles :=
  Transition.run_invariant (Cluster.Sound roles)
    (fun _ _ _ _ sound stepped => (Cluster.step_cases stepped).sound sound) sound ran

theorem Cluster.run_accounted {actions : List (Action n)} (sound : cluster.Sound roles)
    (ran : run (Cluster.step .direct) cluster actions = some final) (serves : roles id = .api)
    (envelope : Envelope) :
    final.accounted id envelope = cluster.accounted id envelope +
      (actions.flatMap (Action.published roles)).count envelope := by
  induction actions generalizing cluster with
  | nil =>
      cases ran
      rfl
  | cons action rest ih =>
      obtain ⟨next, stepped, ran⟩ := Transition.run_cons.mp ran
      have moved := Cluster.step_cases stepped
      rw [ih (moved.sound sound) ran, moved.accounted sound serves, List.flatMap_cons,
        List.count_append]
      omega

end Accounted

end InventoryManagement
