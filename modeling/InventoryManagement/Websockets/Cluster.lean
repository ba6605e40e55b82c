import InventoryManagement.Transition
import InventoryManagement.Websockets.Manager
import InventoryManagement.Websockets.Wiring

/-! API processes, Celery workers and WebSocket clients around one Redis channel.
Redis hands every published envelope once to each process that runs
`relay_to_local_clients`, in the order of publication. -/

set_option autoImplicit false

namespace InventoryManagement

/-- The two callers of `broadcast` in an API process. Neither starts a second call
while one is under way. -/
inductive Sender where
  | relay
  | heartbeat
deriving DecidableEq

/-- The message of `_broadcast_heartbeat`. -/
def heartbeatMessage : Message := [("event_type", .string "heartbeat")]

/-- What goes through the channel: what `publish` makes of an envelope, what a relay reads
of an item (`none` is logged and skipped), and the heartbeat, which goes no such way. -/
structure Transport (Item Payload : Type) where
  publish : Envelope → Item
  read : Item → Option (Payload × List String)
  heartbeat : Payload

/-- The envelopes themselves. -/
def Transport.direct : Transport Envelope Message where
  publish envelope := envelope
  read envelope := some (envelope.message, envelope.channels)
  heartbeat := heartbeatMessage

structure Process (Item Payload : Type) where
  role : Role
  eventPublisher : InProcessEventPublisher Envelope
  manager : ConnectionManager := {}
  inbox : List Item := []
  sending : Sender → Option (Broadcast Payload) := fun _ => none
  /-- The items whose broadcast has begun. No step reads it. -/
  begun : List Item := []

namespace Process

variable {Item Payload : Type}

def start (role : Role) : Process Item Payload where
  role := role
  eventPublisher := role.eventPublisher

/-- Redis delivers an item to the processes that are subscribed. -/
def receive (process : Process Item Payload) (item : Item) : Process Item Payload :=
  if process.role = .api then { process with inbox := process.inbox ++ [item] } else process

def proceed (process : Process Item Payload) (sender : Sender)
    (progress : ConnectionManager × Option (Broadcast Payload)) : Process Item Payload :=
  { process with
    manager := progress.1
    sending := Function.update process.sending sender progress.2 }

/-- `relay_to_local_clients` takes the next item. -/
def relay (transport : Transport Item Payload) (process : Process Item Payload) (item : Item)
    (rest : List Item) : Process Item Payload :=
  match transport.read item with
  | none => { process with inbox := rest }
  | some (message, channels) =>
      ({ process with inbox := rest, begun := process.begun ++ [item] } :
        Process Item Payload).proceed .relay (process.manager.broadcast message channels)

def heartbeat (transport : Transport Item Payload) (process : Process Item Payload) :
    Process Item Payload :=
  process.proceed .heartbeat (process.manager.broadcast transport.heartbeat [GLOBAL_CHANNEL])

end Process

/-- A client: where it is connected, on which channel, and what it has received. -/
structure Socket (Payload : Type) (n : Nat) where
  process : Fin n
  channel : String
  received : List Payload := []

/-- `tasks` are the handler calls under way, each by what it is about to publish. -/
structure Cluster (Item Payload : Type) (n : Nat) where
  processes : Fin n → Process Item Payload
  sockets : WebSocket → Option (Socket Payload n) := fun _ => none
  tasks : List Envelope := []

inductive Action (n : Nat) where
  | publish (id : Fin n) (event : DomainEvent)
  | handle (index : Nat)
  | relay (id : Fin n)
  | heartbeat (id : Fin n)
  | send (id : Fin n) (sender : Sender) (socket : WebSocket) (succeeds : Bool)
  | connect (id : Fin n) (socket : WebSocket) (channel : String)
  | disconnect (socket : WebSocket)

namespace Cluster

variable {Item Payload : Type} {n : Nat}

def start (roles : Fin n → Role) : Cluster Item Payload n where
  processes id := Process.start (roles id)

def update (cluster : Cluster Item Payload n) (id : Fin n) (process : Process Item Payload) :
    Cluster Item Payload n :=
  { cluster with processes := Function.update cluster.processes id process }

def record (cluster : Cluster Item Payload n) (socket : WebSocket) (message : Payload) :
    Cluster Item Payload n :=
  { cluster with
    sockets := Function.update cluster.sockets socket
      ((cluster.sockets socket).map (fun client =>
        { client with received := client.received ++ [message] })) }

/-- One atomic step, between two awaits. -/
def step (transport : Transport Item Payload) (cluster : Cluster Item Payload n) :
    Action n → Option (Cluster Item Payload n)
  | .publish id event => some { cluster with
      tasks := cluster.tasks ++ (cluster.processes id).eventPublisher.publish event }
  | .handle index =>
      match cluster.tasks[index]? with
      | some envelope => some { cluster with
          processes := fun id => (cluster.processes id).receive (transport.publish envelope)
          tasks := cluster.tasks.eraseIdx index }
      | none => none
  | .relay id =>
      match (cluster.processes id).inbox, (cluster.processes id).sending .relay with
      | item :: rest, none =>
          some (cluster.update id ((cluster.processes id).relay transport item rest))
      | _, _ => none
  | .heartbeat id =>
      match (cluster.processes id).role, (cluster.processes id).sending .heartbeat with
      | .api, none => some (cluster.update id ((cluster.processes id).heartbeat transport))
      | _, _ => none
  | .send id sender socket succeeds =>
      match (cluster.processes id).sending sender with
      | some broadcast =>
          if socket ∈ broadcast.targets then
            let moved := cluster.update id ((cluster.processes id).proceed sender
              ((cluster.processes id).manager.sent broadcast socket succeeds))
            some (if succeeds then moved.record socket broadcast.message else moved)
          else none
      | none => none
  | .connect id socket channel =>
      match (cluster.processes id).role, cluster.sockets socket with
      | .api, none => some { cluster.update id { cluster.processes id with
            manager := (cluster.processes id).manager.connect socket channel } with
          sockets := Function.update cluster.sockets socket (some { process := id, channel }) }
      | _, _ => none
  | .disconnect socket =>
      match cluster.sockets socket with
      | some client => some (cluster.update client.process { cluster.processes client.process with
          manager := (cluster.processes client.process).manager.disconnect socket client.channel })
      | none => none

end Cluster

end InventoryManagement
