import InventoryManagement.Json.Reader
import InventoryManagement.Websockets.Delivery
import InventoryManagement.Websockets.Relay

/-! The cluster with text on its Redis channel and in its inboxes: what `publish` has
dumped and each relay has loaded again is the envelope that was published. -/

set_option autoImplicit false

namespace InventoryManagement

open Json (FloatText Scalar Value loads loads_dumps)
open Transition (run)

/-- What `RedisBroadcaster.publish` hands to Redis. -/
def publishText (envelope : Envelope) : String := (publishedValue envelope).dumps

/-- The channels that can be keys of `_connections`. -/
def channelNames (channels : List Value) : List String :=
  channels.filterMap (fun channel =>
    match channel with
    | .scalar (.string name) => some name
    | _ => none)

section Envelopes

variable {float : List Char → FloatText}

theorem messageValue_proper {message : Message} (unique : (message.map Prod.fst).Nodup) :
    (messageValue message).Proper float := by
  constructor
  · rwa [List.map_map]
  · intro member listed
    obtain ⟨field, _, rfl⟩ := List.mem_map.mp listed
    constructor
    intro number same
    cases kind : field.2 <;> rw [kind] at same <;> cases same

theorem publishedValue_proper {envelope : Envelope} (unique : (envelope.message.map Prod.fst).Nodup) :
    (publishedValue envelope).Proper float := by
  rw [publishedValue_eq]
  constructor
  · exact (by decide : ["message", "channels"].Nodup)
  · intro member listed
    simp only [List.mem_cons, List.not_mem_nil, or_false] at listed
    rcases listed with rfl | rfl
    · exact messageValue_proper unique
    · constructor
      intro item named
      obtain ⟨channel, _, rfl⟩ := List.mem_map.mp named
      exact .scalar (fun _ same => by cases same)

theorem channelNames_names (channels : List String) :
    channelNames (channels.map (fun channel => .scalar (.string channel))) = channels := by
  induction channels with
  | nil => rfl
  | cons channel rest ih =>
      rw [channelNames] at ih ⊢
      rw [List.map_cons, List.filterMap_cons, ih]

/-- What a relay reads is what was published. -/
theorem readEnvelope_published {envelope : Envelope}
    (unique : (envelope.message.map Prod.fst).Nodup) :
    readEnvelope (loads float) (publishText envelope) = .ok {
      message := messageValue envelope.message
      channels := envelope.channels.map (fun channel => .scalar (.string channel)) } := by
  have loaded : loads float (publishText envelope) = some (publishedValue envelope) :=
    loads_dumps (publishedValue_proper unique)
  exact readEnvelope_wellFormed (wellFormed_published envelope loaded)

theorem serializeEvent_keys (event : DomainEvent) : ((serializeEvent event).map Prod.fst).Nodup := by
  obtain ⟨id, time, inventory⟩ := event
  cases inventory <;> (simp only [serializeEvent, DomainEvent.fields, InventoryEvent.fields,
    List.map_cons, List.map_nil]; decide)

end Envelopes

/-- Text on the channel, and in the inboxes. A relay logs and skips what it cannot read. -/
def Transport.text (loads : String → Option Value) : Transport String Value where
  publish := publishText
  read data :=
    match readEnvelope loads data with
    | .error _ => none
    | .ok broadcast => some (broadcast.message, channelNames broadcast.channels)
  heartbeat := messageValue heartbeatMessage

/-! A cluster with something else in its inboxes and in its messages. -/

section Images

variable {Item Payload Image Body : Type} {n : Nat} (item : Item → Image) (payload : Payload → Body)

def Broadcast.map (broadcast : Broadcast Payload) : Broadcast Body :=
  { broadcast with message := payload broadcast.message }

def Process.map (process : Process Item Payload) : Process Image Body where
  role := process.role
  eventPublisher := process.eventPublisher
  manager := process.manager
  inbox := process.inbox.map item
  sending := fun sender => (process.sending sender).map (Broadcast.map payload)
  begun := process.begun.map item

def Socket.map (client : Socket Payload n) : Socket Body n where
  process := client.process
  channel := client.channel
  received := client.received.map payload

def Cluster.map (cluster : Cluster Item Payload n) : Cluster Image Body n where
  processes := fun id => (cluster.processes id).map item payload
  sockets := fun socket => (cluster.sockets socket).map (Socket.map payload)
  tasks := cluster.tasks

/-- What the second transport makes of an envelope is the image of what the first one
makes of it, and is read as the image of what is read of that. -/
structure Carries (first : Transport Item Payload) (second : Transport Image Body)
    (proper : Envelope → Prop) : Prop where
  publish : ∀ envelope, second.publish envelope = item (first.publish envelope)
  read : ∀ envelope, proper envelope → second.read (item (first.publish envelope)) =
    (first.read (first.publish envelope)).map (Prod.map payload id)
  heartbeat : second.heartbeat = payload first.heartbeat

/-- Everything on its way to the relays was published as a proper envelope. -/
structure Cluster.Proper (transport : Transport Item Payload) (proper : Envelope → Prop)
    (cluster : Cluster Item Payload n) : Prop where
  tasks : ∀ envelope ∈ cluster.tasks, proper envelope
  inbox : ∀ id, ∀ item ∈ (cluster.processes id).inbox, ∃ envelope, proper envelope ∧
    item = transport.publish envelope

variable {first : Transport Item Payload} {second : Transport Image Body}
variable {proper : Envelope → Prop} {item payload} {cluster : Cluster Item Payload n}
variable {manager : ConnectionManager} {message : Payload} {channels : List String}

variable (payload) in
def mapProgress (progress : ConnectionManager × Option (Broadcast Payload)) :
    ConnectionManager × Option (Broadcast Body) := (progress.1, progress.2.map (Broadcast.map payload))

variable (payload) in
theorem resume_map {targets : Finset WebSocket} {stale : List WebSocket} :
    manager.resumeBroadcast (payload message) channels targets stale =
      mapProgress payload (manager.resumeBroadcast message channels targets stale) := by
  rw [ConnectionManager.resumeBroadcast, ConnectionManager.resumeBroadcast]
  split <;> rfl

theorem proceed_map (process : Process Item Payload) (sender : Sender)
    (progress : ConnectionManager × Option (Broadcast Payload)) :
    (process.proceed sender progress).map item payload =
      (process.map item payload).proceed sender (mapProgress payload progress) := by
  simp only [Process.map, Process.proceed, mapProgress, Process.mk.injEq, true_and, and_true]
  funext other
  by_cases same : other = sender
  · rw [same, Function.update_self, Function.update_self]
  · rw [Function.update_of_ne same, Function.update_of_ne same]

theorem receive_map (process : Process Item Payload) (arrived : Item) :
    (process.receive arrived).map item payload =
      (process.map item payload).receive (item arrived) := by
  rw [Process.receive, Process.receive]
  split
  · next api =>
      rw [if_pos (show (process.map item payload).role = .api from api)]
      simp only [Process.map, List.map_append, List.map_cons, List.map_nil]
  · next other => rw [if_neg (show (process.map item payload).role ≠ .api from other)]

variable (item payload cluster) in
theorem update_map (id : Fin n) (process : Process Item Payload) :
    (cluster.update id process).map item payload =
      (cluster.map item payload).update id (process.map item payload) := by
  simp only [Cluster.map, Cluster.update, Cluster.mk.injEq, and_true]
  funext other
  by_cases same : other = id
  · rw [same, Function.update_self, Function.update_self]
  · rw [Function.update_of_ne same, Function.update_of_ne same]

theorem record_map (socket : WebSocket) (message : Payload) :
    (cluster.record socket message).map item payload =
      (cluster.map item payload).record socket (payload message) := by
  simp only [Cluster.map, Cluster.record, Cluster.mk.injEq, and_true, true_and]
  funext other
  by_cases same : other = socket
  · rw [same, Function.update_self, Function.update_self]
    cases cluster.sockets socket with
    | none => rfl
    | some client => simp [Socket.map]
  · rw [Function.update_of_ne same, Function.update_of_ne same]

variable (cluster) in
theorem connect_map (id : Fin n) (process : Process Item Payload) (socket : WebSocket)
    (channel : String) :
    ({ cluster.update id process with
        sockets := Function.update cluster.sockets socket (some { process := id, channel }) } :
      Cluster Item Payload n).map item payload =
    { (cluster.map item payload).update id (process.map item payload) with
        sockets := Function.update (cluster.map item payload).sockets socket
          (some { process := id, channel, received := [] }) } := by
  rw [← update_map]
  simp only [Cluster.map, Cluster.mk.injEq, true_and, and_true]
  funext other
  by_cases same : other = socket
  · rw [same, Function.update_self, Function.update_self]
    rfl
  · rw [Function.update_of_ne same, Function.update_of_ne same]

/-! The image of a cluster, field by field. -/

@[simp] theorem map_processes (id : Fin n) :
    (cluster.map item payload).processes id = (cluster.processes id).map item payload := rfl

@[simp] theorem map_tasks : (cluster.map item payload).tasks = cluster.tasks := rfl

@[simp] theorem map_sockets (socket : WebSocket) :
    (cluster.map item payload).sockets socket =
      (cluster.sockets socket).map (Socket.map payload) := rfl

@[simp] theorem map_role (process : Process Item Payload) :
    (process.map item payload).role = process.role := rfl

@[simp] theorem map_inbox (process : Process Item Payload) :
    (process.map item payload).inbox = process.inbox.map item := rfl

@[simp] theorem map_sending (process : Process Item Payload) (sender : Sender) :
    (process.map item payload).sending sender =
      (process.sending sender).map (Broadcast.map payload) := rfl

theorem sent_map (broadcast : Broadcast Payload) (socket : WebSocket) (succeeds : Bool) :
    manager.sent (broadcast.map payload) socket succeeds =
      mapProgress payload (manager.sent broadcast socket succeeds) := by
  rw [ConnectionManager.sent, ConnectionManager.sent]
  exact resume_map payload

theorem Carries.relay_map (carries : Carries item payload first second proper)
    (process : Process Item Payload) {envelope : Envelope} (rest : List Item)
    (passes : proper envelope) :
    (process.relay first (first.publish envelope) rest).map item payload =
      (process.map item payload).relay second (item (first.publish envelope)) (rest.map item) := by
  simp only [Process.relay, carries.read envelope passes]
  cases first.read (first.publish envelope) with
  | none => rfl
  | some contents =>
      simp only [Option.map_some, Prod.map, proceed_map, ConnectionManager.broadcast, resume_map]
      simp only [Process.map, List.map_append, List.map_cons, List.map_nil, id]

theorem Carries.heartbeat_map (carries : Carries item payload first second proper)
    (process : Process Item Payload) :
    (process.heartbeat first).map item payload = (process.map item payload).heartbeat second := by
  rw [Process.heartbeat, proceed_map, Process.heartbeat, carries.heartbeat,
    ConnectionManager.broadcast, ConnectionManager.broadcast]
  exact congrArg _ (resume_map payload).symm

/-- Each step is the same step with the other transport. -/
theorem Carries.step_map (carries : Carries item payload first second proper)
    (known : cluster.Proper first proper) (action : Action n) :
    Cluster.step second (cluster.map item payload) action =
      (cluster.step first action).map (Cluster.map item payload) := by
  cases action with
  | publish id event => rfl
  | handle index =>
      simp only [Cluster.step, map_tasks, map_processes]
      cases found : cluster.tasks[index]? with
      | none => rfl
      | some envelope =>
          simp only [Option.map_some, carries.publish, ← receive_map]
          rfl
  | relay id =>
      simp only [Cluster.step, map_processes, map_inbox, map_sending]
      cases arrived : (cluster.processes id).inbox with
      | nil => rfl
      | cons next rest =>
          obtain ⟨envelope, passes, rfl⟩ := known.inbox id next (arrived ▸ List.mem_cons_self)
          cases (cluster.processes id).sending .relay with
          | some broadcast => rfl
          | none =>
              simp only [Option.map_none, Option.map_some, List.map_cons, update_map]
              rw [carries.relay_map (cluster.processes id) rest passes]
  | heartbeat id =>
      simp only [Cluster.step, map_processes, map_role, map_sending]
      cases (cluster.processes id).role with
      | worker => rfl
      | api =>
          cases (cluster.processes id).sending .heartbeat with
          | some broadcast => rfl
          | none => simp only [Option.map_none, Option.map_some, update_map, carries.heartbeat_map]
  | send id sender socket succeeds =>
      simp only [Cluster.step, map_processes, map_sending]
      cases (cluster.processes id).sending sender with
      | none => rfl
      | some broadcast =>
          simp only [Option.map_some]
          by_cases target : socket ∈ broadcast.targets
          · rw [if_pos target, if_pos (show socket ∈ (broadcast.map payload).targets from target)]
            have moved := (update_map item payload cluster id ((cluster.processes id).proceed sender
              ((cluster.processes id).manager.sent broadcast socket succeeds))).symm
            rw [proceed_map, ← sent_map] at moved
            cases succeeds with
            | true =>
                rw [if_pos rfl, if_pos rfl, Option.map_some, record_map, ← moved]
                rfl
            | false =>
                simp only [Bool.false_eq_true, if_false, Option.map_some, ← moved]
                rfl
          · rw [if_neg target, if_neg (show socket ∉ (broadcast.map payload).targets from target)]
            rfl
  | connect id socket channel =>
      simp only [Cluster.step, map_processes, map_role, map_sockets]
      cases (cluster.processes id).role with
      | worker => rfl
      | api =>
          cases cluster.sockets socket with
          | some client => rfl
          | none => exact congrArg some (connect_map cluster id { cluster.processes id with
              role := .api
              manager := (cluster.processes id).manager.connect socket channel } socket channel).symm
  | disconnect socket =>
      simp only [Cluster.step, map_sockets]
      cases cluster.sockets socket with
      | none => rfl
      | some client => exact congrArg some (update_map item payload cluster client.process {
          cluster.processes client.process with
          manager := (cluster.processes client.process).manager.disconnect socket
            client.channel }).symm

end Images

/-! Envelopes with each key once. -/

section Keyed

variable {n : Nat} {cluster next : Cluster Envelope Message n} {float : List Char → FloatText}
variable {roles : Fin n → Role} {action : Action n}

def Envelope.Keyed (envelope : Envelope) : Prop := (envelope.message.map Prod.fst).Nodup

theorem text_carries (float : List Char → FloatText) :
    Carries publishText messageValue .direct (.text (loads float)) Envelope.Keyed where
  publish _ := rfl
  read envelope keyed := by
    simp only [Transport.text, Transport.direct, readEnvelope_published keyed, channelNames_names]
    rfl
  heartbeat := rfl

theorem Process.mem_receive_inbox {process : Process Envelope Message} {envelope other : Envelope}
    (member : other ∈ (process.receive envelope).inbox) :
    other ∈ process.inbox ∨ other = envelope := by
  rw [Process.receive] at member
  split at member
  · simpa using member
  · exact .inl member

theorem Cluster.Step.inbox (stepped : cluster.Step action next) {id : Fin n}
    {envelope : Envelope} (member : envelope ∈ (next.processes id).inbox) :
    envelope ∈ (cluster.processes id).inbox ∨ envelope ∈ cluster.tasks := by
  cases stepped with
  | publish => exact .inl member
  | handle found =>
      rcases Process.mem_receive_inbox member with before | rfl
      · exact .inl before
      · exact .inr (List.mem_of_getElem? found)
  | relay arrived =>
      rw [Cluster.update_processes] at member
      split at member
      · next here =>
          rw [here, arrived]
          exact .inl (List.mem_cons_of_mem _ member)
      · exact .inl member
  | heartbeat | fail | disconnect =>
      rw [Cluster.update_processes] at member
      split at member
      · next here => exact .inl (here ▸ member)
      · exact .inl member
  | succeed | connect =>
      simp only [Cluster.record, Cluster.update_processes] at member
      split at member
      · next here => exact .inl (here ▸ member)
      · exact .inl member

theorem Cluster.Step.tasks (stepped : cluster.Step action next)
    (sound : cluster.Sound roles) {envelope : Envelope} (member : envelope ∈ next.tasks) :
    envelope ∈ cluster.tasks ∨ ∃ event, envelope = broadcastEvent event := by
  cases stepped with
  | publish id event =>
      rcases List.mem_append.mp member with before | published
      · exact .inl before
      · rw [sound.eventPublisher, Role.publish_event] at published
        exact .inr ⟨event, List.eq_of_mem_replicate published⟩
  | handle => exact .inl (List.mem_of_mem_eraseIdx member)
  | relay | heartbeat | succeed | fail | connect | disconnect => exact .inl member

theorem Cluster.Step.keyed (stepped : cluster.Step action next) (sound : cluster.Sound roles)
    (keyed : cluster.Proper .direct Envelope.Keyed) : next.Proper .direct Envelope.Keyed where
  tasks envelope member := by
    rcases stepped.tasks sound member with before | ⟨event, rfl⟩
    · exact keyed.tasks envelope before
    · exact serializeEvent_keys event
  inbox id envelope member := by
    rcases stepped.inbox member with before | handled
    · exact keyed.inbox id envelope before
    · exact ⟨envelope, keyed.tasks envelope handled, rfl⟩

theorem Cluster.start_keyed (roles : Fin n → Role) :
    (Cluster.start roles).Proper .direct Envelope.Keyed where
  tasks _ member := by cases member
  inbox _ _ member := by cases member

end Keyed

/-- The channel carries text, and nothing is different for it: a deployment that dumps
every envelope and loads it again in each API process takes the same steps to the same
sockets as one that hands over the envelopes themselves. -/
theorem wire_carries_envelopes {n : Nat} (float : List Char → FloatText) (roles : Fin n → Role)
    (actions : List (Action n)) :
    run (Cluster.step (.text (loads float))) (Cluster.start roles) actions =
      (run (Cluster.step .direct) (Cluster.start roles) actions).map
        (Cluster.map publishText messageValue) := by
  change run _ ((Cluster.start roles).map publishText messageValue) actions = _
  apply Transition.run_image (Cluster.map publishText messageValue)
    (fun cluster => cluster.Sound roles ∧ cluster.Proper .direct Envelope.Keyed)
  · intro cluster next action kept stepped
    have moved := Cluster.step_cases stepped
    exact ⟨moved.sound kept.1, moved.keyed kept.1 kept.2⟩
  · intro cluster action kept
    exact (text_carries float).step_map kept.2 action
  · exact ⟨Cluster.start_sound roles, Cluster.start_keyed roles⟩

end InventoryManagement
