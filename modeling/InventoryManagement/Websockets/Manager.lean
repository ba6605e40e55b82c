import Mathlib.Data.Finset.Basic
import Mathlib.Data.Finset.Lattice.Lemmas
import Mathlib.Logic.Function.Basic

/-! `ConnectionManager`: the connected clients of one process, by channel, and its
`broadcast`, which awaits one send after the other. -/

set_option autoImplicit false

namespace InventoryManagement

abbrev WebSocket := Nat

def GLOBAL_CHANNEL : String := "global"

/-- A channel without subscribers has no entry. -/
structure ConnectionManager where
  connections : String → Option (Finset WebSocket) := fun _ => none
  nonempty : ∀ channel sockets, connections channel = some sockets → sockets.Nonempty := by simp

namespace ConnectionManager

variable {manager : ConnectionManager} {socket other : WebSocket} {channel name : String}
variable {channels : List String} {stale : List WebSocket}

/-- `_connections.get(channel, set())`. -/
def get (manager : ConnectionManager) (channel : String) : Finset WebSocket :=
  (manager.connections channel).getD ∅

def connect (manager : ConnectionManager) (socket : WebSocket) (channel : String) :
    ConnectionManager where
  connections := Function.update manager.connections channel (some (insert socket (manager.get channel)))
  nonempty := by
    intro name sockets found
    by_cases here : name = channel
    · subst here
      rw [Function.update_self, Option.some.injEq] at found
      rw [← found]
      exact Finset.insert_nonempty _ _
    · rw [Function.update_of_ne here] at found
      exact manager.nonempty name sockets found

def disconnect (manager : ConnectionManager) (socket : WebSocket) (channel : String) :
    ConnectionManager where
  connections := Function.update manager.connections channel
    ((manager.connections channel).bind (fun sockets =>
      if sockets.erase socket = ∅ then none else some (sockets.erase socket)))
  nonempty := by
    intro name sockets found
    by_cases here : name = channel
    · subst here
      rw [Function.update_self, Option.bind_eq_some_iff] at found
      obtain ⟨before, _, found⟩ := found
      split at found
      · cases found
      · next left =>
          rw [Option.some.injEq] at found
          rw [← found]
          exact Finset.nonempty_iff_ne_empty.mpr left
    · rw [Function.update_of_ne here] at found
      exact manager.nonempty name sockets found

def targets (manager : ConnectionManager) (channels : List String) : Finset WebSocket :=
  channels.foldl (fun targets channel => targets ∪ manager.get channel) ∅

/-- Drop the stale connections from every channel of a broadcast. -/
def prune (manager : ConnectionManager) (stale : List WebSocket) (channels : List String) :
    ConnectionManager :=
  stale.foldl (fun manager socket =>
    channels.foldl (fun manager channel => manager.disconnect socket channel) manager) manager

theorem get_connect : (manager.connect socket channel).get name =
    if name = channel then insert socket (manager.get name) else manager.get name := by
  by_cases here : name = channel <;> simp [get, connect, here]

theorem get_disconnect : (manager.disconnect socket channel).get name =
    if name = channel then (manager.get name).erase socket else manager.get name := by
  by_cases here : name = channel
  · subst here
    simp only [get, disconnect, Function.update_self, if_true]
    cases manager.connections name with
    | none => rfl
    | some sockets =>
        rw [Option.bind_some, Option.getD_some]
        split
        · next empty => rw [empty, Option.getD_none]
        · rfl
  · simp [get, disconnect, here]

theorem mem_targets :
    socket ∈ manager.targets channels ↔ ∃ channel ∈ channels, socket ∈ manager.get channel := by
  have general : ∀ before : Finset WebSocket,
      socket ∈ channels.foldl (fun targets channel => targets ∪ manager.get channel) before ↔
        socket ∈ before ∨ ∃ channel ∈ channels, socket ∈ manager.get channel := by
    induction channels with
    | nil => simp
    | cons channel rest ih =>
        intro before
        rw [List.foldl_cons, ih, Finset.mem_union]
        simp [or_assoc]
  rw [targets, general]
  simp

private theorem mem_get_disconnect_all :
    socket ∈ (channels.foldl (fun manager channel => manager.disconnect other channel)
        manager).get name ↔
      socket ∈ manager.get name ∧ (socket = other → name ∉ channels) := by
  induction channels generalizing manager with
  | nil => simp
  | cons channel rest ih =>
      rw [List.foldl_cons, ih, get_disconnect]
      by_cases here : name = channel
      · by_cases same : socket = other <;> simp [here, same]
      · simp [here]

theorem mem_get_prune : socket ∈ (manager.prune stale channels).get name ↔
    socket ∈ manager.get name ∧ (socket ∈ stale → name ∉ channels) := by
  induction stale generalizing manager with
  | nil => simp [prune]
  | cons other rest ih =>
      rw [prune, List.foldl_cons]
      refine ih.trans ?_
      rw [mem_get_disconnect_all]
      by_cases same : socket = other
      · simp [same, and_assoc]
        tauto
      · simp [same]

end ConnectionManager

section Broadcast

variable {Message : Type}

/-- A broadcast that awaits a send: `targets` have not been sent to yet. -/
structure Broadcast (Message : Type) where
  message : Message
  channels : List String
  targets : Finset WebSocket
  stale : List WebSocket
  unfinished : targets.Nonempty

namespace ConnectionManager

/-- The loop of `broadcast` up to its next send; with no target left it drops the
stale connections and returns. -/
def resumeBroadcast (manager : ConnectionManager) (message : Message) (channels : List String)
    (targets : Finset WebSocket) (stale : List WebSocket) :
    ConnectionManager × Option (Broadcast Message) :=
  if unfinished : targets.Nonempty then
    (manager, some { message, channels, targets, stale, unfinished })
  else (manager.prune stale channels, none)

/-- `broadcast` up to its first send; the global channel is always included. -/
def broadcast (manager : ConnectionManager) (message : Message) (channels : List String) :
    ConnectionManager × Option (Broadcast Message) :=
  let channels := channels.insert GLOBAL_CHANNEL
  manager.resumeBroadcast message channels (manager.targets channels) []

/-- One `send_json` has returned or raised. -/
def sent (manager : ConnectionManager) (broadcast : Broadcast Message) (socket : WebSocket)
    (succeeds : Bool) : ConnectionManager × Option (Broadcast Message) :=
  manager.resumeBroadcast broadcast.message broadcast.channels (broadcast.targets.erase socket)
    (if succeeds then broadcast.stale else broadcast.stale ++ [socket])

variable {manager : ConnectionManager} {message : Message} {channels : List String}
variable {targets : Finset WebSocket} {stale : List WebSocket} {socket : WebSocket} {name : String}

@[simp] theorem resume_done :
    (manager.resumeBroadcast message channels ∅ stale).1 = manager.prune stale channels := by
  rw [resumeBroadcast, dif_neg Finset.not_nonempty_empty]

theorem resume_unfinished (unfinished : targets.Nonempty) :
    (manager.resumeBroadcast message channels targets stale).1 = manager := by
  rw [resumeBroadcast, dif_pos unfinished]

/-- Only stale connections are dropped. -/
theorem mem_get_resume (fresh : socket ∉ stale) :
    socket ∈ (manager.resumeBroadcast message channels targets stale).1.get name ↔
      socket ∈ manager.get name := by
  rw [resumeBroadcast]
  split
  · rfl
  · simp [mem_get_prune, fresh]

theorem get_resume_subset
    (member : socket ∈ (manager.resumeBroadcast message channels targets stale).1.get name) :
    socket ∈ manager.get name := by
  rw [resumeBroadcast] at member
  split at member
  · exact member
  · exact (mem_get_prune.mp member).1

theorem resume_some {broadcast : Broadcast Message}
    (awaits : (manager.resumeBroadcast message channels targets stale).2 = some broadcast) :
    broadcast.message = message ∧ broadcast.targets = targets ∧ broadcast.stale = stale := by
  rw [resumeBroadcast] at awaits
  split at awaits
  · cases awaits
    exact ⟨rfl, rfl, rfl⟩
  · cases awaits

def waiting (sending : Option (Broadcast Message)) : Finset WebSocket :=
  (sending.map (·.targets)).getD ∅

theorem waiting_resume :
    waiting (manager.resumeBroadcast message channels targets stale).2 = targets := by
  rw [resumeBroadcast]
  split
  · rfl
  · next empty =>
      rw [Finset.not_nonempty_iff_eq_empty.mp empty]
      rfl

end ConnectionManager

end Broadcast

end InventoryManagement
