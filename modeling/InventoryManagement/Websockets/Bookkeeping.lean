import InventoryManagement.Transition
import InventoryManagement.Websockets.Objects

/-! The sessions of `websocket_endpoint` and the calls of `broadcast` in one process,
interleaved at their awaits. -/

set_option autoImplicit false

namespace InventoryManagement

open Transition (run)

/-- Where a session of the endpoint is: in `accept`, in `receive_text`, or over. -/
inductive Phase where
  | accepting
  | receiving
  | ended
deriving DecidableEq

structure WebsocketSession where
  channel : String
  phase : Phase := .accepting
deriving DecidableEq

abbrev CallId := Nat

inductive SendLoop (Message : Type) where
  | sending (frame : Frame Message)
  | returned
  | raised

/-- Where a call is when its code has run up to the next await. -/
def SendLoop.after {Message : Type} : Option (Frame Message) → SendLoop Message
  | some frame => .sending frame
  | none => .returned

/-- A send that returned. -/
structure Sent (Message : Type) where
  call : CallId
  socket : WebSocket
  message : Message

/-- `raised` are the exceptions that left a method of the manager, `delivered` the
sends that returned; no step reads them. -/
structure Server (Message : Type) where
  memory : Memory := {}
  sessions : WebSocket → Option WebsocketSession := fun _ => none
  calls : CallId → Option (SendLoop Message) := fun _ => none
  delivered : List (Sent Message) := []
  raised : List BuiltinError := []

/-- What a coroutine goes on after: the start of a session, the end of its `accept`, a
message or an exception of its `receive_text`, the start of a broadcast, the end of a
send. -/
inductive ServerAction (Message : Type) where
  | handshake (socket : WebSocket) (channel : String)
  | accept (socket : WebSocket) (succeeds : Bool)
  | text (socket : WebSocket)
  | close (socket : WebSocket)
  | broadcast (call : CallId) (message : Message) (channels : Channels) (order : Iteration)
  | send (call : CallId) (socket : WebSocket) (succeeds : Bool)

namespace Server

variable {Message α : Type}

/-- Run a method; an exception is recorded. -/
def perform (server : Server Message) (method : Method α) : Option α × Server Message :=
  match method server.memory with
  | .ok value memory => (some value, { server with memory })
  | .error error memory => (none, { server with memory, raised := server.raised ++ [error] })

def enterPhase (server : Server Message) (socket : WebSocket) (channel : String) (phase : Phase) :
    Server Message :=
  { server with sessions := Function.update server.sessions socket (some { channel, phase }) }

def setCall (server : Server Message) (call : CallId) (state : SendLoop Message) : Server Message :=
  { server with calls := Function.update server.calls call (some state) }

def record (server : Server Message) (sent : Sent Message) : Server Message :=
  { server with delivered := server.delivered ++ [sent] }

/-- `connect` after the handshake. It is outside of the `try`, so that an exception ends
the session. -/
def accepted (server : Server Message) (socket : WebSocket) (channel : String) : Server Message :=
  match server.perform (Method.register socket channel) with
  | (some (), next) => next.enterPhase socket channel .receiving
  | (none, next) => next.enterPhase socket channel .ended

/-- The `finally` of the endpoint. -/
def closed (server : Server Message) (socket : WebSocket) (channel : String) : Server Message :=
  (server.perform (Method.disconnect socket channel)).2.enterPhase socket channel .ended

def proceed (server : Server Message) (call : CallId) (method : Method (Option (Frame Message))) :
    Server Message :=
  match server.perform method with
  | (some continued, next) => next.setCall call (.after continued)
  | (none, next) => next.setCall call .raised

/-- What a call has delivered to a socket. -/
def copies (server : Server Message) (call : CallId) (socket : WebSocket) : List (Sent Message) :=
  server.delivered.filter (fun sent => decide (sent.call = call ∧ sent.socket = socket))

/-- One atomic step, between two awaits. -/
def step (server : Server Message) : ServerAction Message → Option (Server Message)
  | .handshake socket channel =>
      match server.sessions socket with
      | none => some (server.enterPhase socket channel .accepting)
      | some _ => none
  | .accept socket succeeds =>
      match server.sessions socket with
      | some ⟨channel, .accepting⟩ =>
          some (if succeeds then server.accepted socket channel
            else server.enterPhase socket channel .ended)
      | _ => none
  | .text socket =>
      match server.sessions socket with
      | some ⟨_, .receiving⟩ => some server
      | _ => none
  | .close socket =>
      match server.sessions socket with
      | some ⟨channel, .receiving⟩ => some (server.closed socket channel)
      | _ => none
  | .broadcast call message channels order =>
      match server.calls call with
      | none => some (server.proceed call (Method.broadcast message channels order))
      | some _ => none
  | .send call socket succeeds =>
      match server.calls call with
      | some (.sending frame) =>
          match frame.pending with
          | target :: rest =>
              if socket = target then
                some ((if succeeds then server.record ⟨call, socket, frame.message⟩ else server).proceed
                  call (Method.next (frame.answered socket rest succeeds)))
              else none
          | [] => none
      | _ => none

/-- The steps, by what they find. -/
inductive Step (server : Server Message) : ServerAction Message → Server Message → Prop where
  | handshake {socket : WebSocket} (channel : String) (fresh : server.sessions socket = none) :
      Step server (.handshake socket channel) (server.enterPhase socket channel .accepting)
  | accept {socket : WebSocket} {channel : String}
      (waiting : server.sessions socket = some ⟨channel, .accepting⟩) :
      Step server (.accept socket true) (server.accepted socket channel)
  | refuse {socket : WebSocket} {channel : String}
      (waiting : server.sessions socket = some ⟨channel, .accepting⟩) :
      Step server (.accept socket false) (server.enterPhase socket channel .ended)
  | text {socket : WebSocket} {channel : String}
      (reading : server.sessions socket = some ⟨channel, .receiving⟩) :
      Step server (.text socket) server
  | close {socket : WebSocket} {channel : String}
      (reading : server.sessions socket = some ⟨channel, .receiving⟩) :
      Step server (.close socket) (server.closed socket channel)
  | broadcast {call : CallId} (message : Message) (channels : Channels) (order : Iteration)
      (fresh : server.calls call = none) :
      Step server (.broadcast call message channels order)
        (server.proceed call (Method.broadcast message channels order))
  | succeed {call : CallId} {frame : Frame Message} {socket : WebSocket} {rest : List WebSocket}
      (awaits : server.calls call = some (.sending frame)) (first : frame.pending = socket :: rest) :
      Step server (.send call socket true) ((server.record ⟨call, socket, frame.message⟩).proceed call
        (Method.next (frame.answered socket rest true)))
  | fail {call : CallId} {frame : Frame Message} {socket : WebSocket} {rest : List WebSocket}
      (awaits : server.calls call = some (.sending frame)) (first : frame.pending = socket :: rest) :
      Step server (.send call socket false)
        (server.proceed call (Method.next (frame.answered socket rest false)))

variable {server next : Server Message} {action : ServerAction Message}

theorem step_cases (stepped : server.step action = some next) : server.Step action next := by
  cases action with
  | handshake socket channel =>
      simp only [step] at stepped
      split at stepped
      · next fresh =>
          cases stepped
          exact .handshake channel fresh
      · cases stepped
  | accept socket succeeds =>
      simp only [step] at stepped
      split at stepped
      · next waiting =>
          cases succeeds with
          | true =>
              cases stepped
              exact .accept waiting
          | false =>
              cases stepped
              exact .refuse waiting
      · cases stepped
  | text socket =>
      simp only [step] at stepped
      split at stepped
      · next reading =>
          cases stepped
          exact .text reading
      · cases stepped
  | close socket =>
      simp only [step] at stepped
      split at stepped
      · next reading =>
          cases stepped
          exact .close reading
      · cases stepped
  | broadcast call message channels order =>
      simp only [step] at stepped
      split at stepped
      · next fresh =>
          cases stepped
          exact .broadcast message channels order fresh
      · cases stepped
  | send call socket succeeds =>
      simp only [step] at stepped
      split at stepped
      · next awaits =>
          split at stepped
          · next first =>
              split at stepped
              · next here =>
                  subst here
                  cases succeeds with
                  | true =>
                      cases stepped
                      exact .succeed awaits first
                  | false =>
                      cases stepped
                      exact .fail awaits first
              · cases stepped
          · cases stepped
      · cases stepped

/-! What every step preserves. -/

/-- The dictionary holds `manager`; who is registered is in `receive_text`. -/
structure Sound (server : Server Message) (manager : ConnectionManager) : Prop where
  represents : server.memory.Represents manager
  registered : ∀ socket channel, socket ∈ manager.get channel →
    server.sessions socket = some ⟨channel, .receiving⟩
  frames : ∀ call frame, server.calls call = some (.sending frame) → frame.Sound server.memory
  known : ∀ sent ∈ server.delivered, server.calls sent.call ≠ none
  silent : server.raised = []

variable {manager changed : ConnectionManager} {socket other : WebSocket} {channel : String}
variable {phase : Phase} {call : CallId} {method : Method α} {actions : List (ServerAction Message)}

theorem start_sound : ({} : Server Message).Sound {} where
  represents := Memory.represents_empty
  registered _ _ member := by simp [ConnectionManager.get] at member
  frames _ _ awaits := by cases awaits
  known _ member := by cases member
  silent := rfl

/-- What a method that returns leaves of a sound server. -/
theorem perform_returns {result : α → Memory → Prop}
    (returns : method.Returns server.memory changed result) :
    ∃ value after, server.perform method = (some value, { server with memory := after }) ∧
      after.Represents changed ∧ server.memory.Keeps after ∧ result value after := by
  obtain ⟨value, after, returned, holds⟩ := returns
  refine ⟨value, after, ?_, holds⟩
  rw [perform, returned]

theorem Sound.enterPhase (sound : server.Sound manager)
    (absent : ∀ channel, socket ∉ manager.get channel) :
    (server.enterPhase socket channel phase).Sound manager where
  represents := sound.represents
  registered other name member := by
    have apart : other ≠ socket := fun same => absent name (same ▸ member)
    exact (Function.update_of_ne apart _ _).trans (sound.registered other name member)
  frames := sound.frames
  known := sound.known
  silent := sound.silent

/-- A session that is not in `receive_text` has no registration. -/
theorem Sound.absent (sound : server.Sound manager)
    (elsewhere : ∀ channel, server.sessions socket ≠ some ⟨channel, .receiving⟩) (channel : String) :
    socket ∉ manager.get channel :=
  fun member => elsewhere channel (sound.registered socket channel member)

theorem Sound.accepted (sound : server.Sound manager)
    (waiting : server.sessions socket = some ⟨channel, .accepting⟩) :
    (server.accepted socket channel).Sound (manager.connect socket channel) := by
  obtain ⟨_, after, performed, represents, keeps, _⟩ :=
    perform_returns (Method.register_returns sound.represents)
  rw [Server.accepted, performed]
  refine ⟨represents, ?_, fun call frame awaits => (sound.frames call frame awaits).keep keeps,
    sound.known, sound.silent⟩
  intro other name member
  rw [ConnectionManager.get_connect] at member
  have before : ∀ name, socket ∉ manager.get name :=
    sound.absent (fun name reading => by rw [waiting] at reading; cases reading)
  by_cases same : other = socket
  · subst same
    by_cases here : name = channel
    · rw [here]
      exact Function.update_self _ _ _
    · rw [if_neg here] at member
      exact absurd member (before name)
  · refine (Function.update_of_ne same _ _).trans (sound.registered other name ?_)
    split at member
    · exact (Finset.mem_insert.mp member).resolve_left same
    · exact member

theorem Sound.closed (sound : server.Sound manager)
    (reading : server.sessions socket = some ⟨channel, .receiving⟩) :
    (server.closed socket channel).Sound (manager.disconnect socket channel) := by
  obtain ⟨_, after, performed, represents, keeps, _⟩ :=
    perform_returns (Method.disconnect_returns sound.represents)
  rw [Server.closed, performed]
  refine ⟨represents, ?_, fun call frame awaits => (sound.frames call frame awaits).keep keeps,
    sound.known, sound.silent⟩
  intro other name member
  rw [ConnectionManager.get_disconnect] at member
  by_cases same : other = socket
  · subst same
    split at member
    · exact absurd rfl (Finset.mem_erase.mp member).1
    · next away =>
        have registered := sound.registered other name member
        rw [reading, Option.some.injEq, WebsocketSession.mk.injEq] at registered
        exact absurd registered.1.symm away
  · refine (Function.update_of_ne same _ _).trans (sound.registered other name ?_)
    split at member
    · exact (Finset.mem_erase.mp member).2
    · exact member

@[simp] theorem setCall_calls_self {state : SendLoop Message} :
    (server.setCall call state).calls call = some state := Function.update_self _ _ _

theorem setCall_calls {state : SendLoop Message} {another : CallId} (apart : another ≠ call) :
    (server.setCall call state).calls another = server.calls another :=
  Function.update_of_ne apart _ _

/-- A call whose method returns goes on or returns; it loses registrations only. -/
theorem Sound.proceed {broadcast : Method (Option (Frame Message))}
    {result : Option (Frame Message) → Memory → Prop} (sound : server.Sound manager) (call : CallId)
    (returns : broadcast.Returns server.memory changed result)
    (fewer : ∀ socket channel, socket ∈ changed.get channel → socket ∈ manager.get channel)
    (owned : ∀ frame after, result (some frame) after → frame.Sound after) :
    ∃ continued after, server.proceed call broadcast =
        Server.setCall { server with memory := after } call (.after continued) ∧
      result continued after ∧ (server.proceed call broadcast).Sound changed := by
  obtain ⟨continued, after, performed, represents, keeps, holds⟩ := perform_returns returns
  have proceeded : server.proceed call broadcast =
      Server.setCall { server with memory := after } call (.after continued) := by
    rw [Server.proceed, performed]
  refine ⟨continued, after, proceeded, holds, ?_⟩
  rw [proceeded]
  refine ⟨represents, fun socket channel member => sound.registered _ _ (fewer _ _ member), ?_, ?_,
    sound.silent⟩
  · intro other frame awaits
    by_cases same : other = call
    · rw [same, setCall_calls_self, Option.some.injEq] at awaits
      cases continued with
      | none => cases awaits
      | some last =>
          cases awaits
          exact owned frame after holds
    · exact (sound.frames other frame ((setCall_calls same).symm.trans awaits)).keep keeps
  · intro sent member
    by_cases same : sent.call = call
    · simp [same]
    · exact fun absent => sound.known sent member ((setCall_calls same).symm.trans absent)

theorem Sound.record (sound : server.Sound manager) {sent : Sent Message}
    (known : server.calls sent.call ≠ none) : (server.record sent).Sound manager where
  represents := sound.represents
  registered := sound.registered
  frames := sound.frames
  known other member := by
    rcases List.mem_append.mp member with before | last
    · exact sound.known other before
    · exact List.mem_singleton.mp last ▸ known
  silent := sound.silent

/-- A suspended call goes on. -/
theorem Sound.resume (sound : server.Sound manager) (call : CallId) {frame : Frame Message}
    (owned : frame.Sound server.memory) : ∃ continued after, server.proceed call (Method.next frame) =
        Server.setCall { server with memory := after } call (.after continued) ∧
      frame.Continues continued ∧ ∃ changed, (server.proceed call (Method.next frame)).Sound changed := by
  obtain ⟨continued, after, proceeded, holds, last⟩ := sound.proceed call
    (Method.next_returns sound.represents owned)
    (fun _ _ member => ConnectionManager.get_resume_subset member)
    (fun _ _ holds => holds.2.same ▸ holds.1)
  exact ⟨continued, after, proceeded, holds.2, _, last⟩

/-- A new call. -/
theorem Sound.broadcast (sound : server.Sound manager) (call : CallId) (message : Message)
    (channels : Channels) (order : Iteration) : ∃ continued after targets,
      server.proceed call (Method.broadcast message channels order) =
        Server.setCall { server with memory := after } call (.after continued) ∧
      (Frame.start message channels order targets (manager.targets channels.names)).Continues continued ∧
      ∃ changed, (server.proceed call (Method.broadcast message channels order)).Sound changed := by
  obtain ⟨continued, after, proceeded, holds, last⟩ := sound.proceed call
    (Method.broadcast_returns sound.represents)
    (fun _ _ member => ConnectionManager.get_resume_subset member)
    (fun _ _ holds => holds.elim (fun _ holds => holds.2.same ▸ holds.1))
  obtain ⟨targets, _, continues⟩ := holds
  exact ⟨continued, after, targets, proceeded, continues, _, last⟩

theorem Step.sound (stepped : server.Step action next) (sound : server.Sound manager) :
    ∃ changed, next.Sound changed := by
  cases stepped with
  | handshake channel fresh =>
      exact ⟨manager, sound.enterPhase (sound.absent (fun name reading => by
        rw [fresh] at reading
        cases reading))⟩
  | accept waiting => exact ⟨_, sound.accepted waiting⟩
  | refuse waiting =>
      exact ⟨manager, sound.enterPhase (sound.absent (fun name reading => by
        rw [waiting] at reading
        cases reading))⟩
  | text => exact ⟨manager, sound⟩
  | close reading => exact ⟨_, sound.closed reading⟩
  | broadcast message channels order =>
      obtain ⟨_, _, _, _, _, holds⟩ := sound.broadcast _ message channels order
      exact holds
  | @succeed call frame socket rest awaits =>
      have recorded : (server.record ⟨call, socket, frame.message⟩).Sound manager :=
        sound.record (by simp [awaits])
      obtain ⟨_, _, _, _, holds⟩ := recorded.resume call
        ((sound.frames call frame awaits).answered socket rest true)
      exact holds
  | @fail call frame socket rest awaits =>
      obtain ⟨_, _, _, _, holds⟩ := sound.resume call
        ((sound.frames call frame awaits).answered socket rest false)
      exact holds

theorem run_sound {first : Server Message} (sound : first.Sound manager)
    (ran : run step first actions = some server) : ∃ changed, server.Sound changed :=
  Transition.run_invariant (fun server : Server Message => ∃ manager, server.Sound manager)
    (fun _ _ _ _ holds stepped => holds.elim (fun _ sound => (step_cases stepped).sound sound))
    ⟨manager, sound⟩ ran

@[simp] theorem perform_sessions : (server.perform method).2.sessions = server.sessions := by
  rw [perform]
  split <;> rfl

@[simp] theorem perform_calls : (server.perform method).2.calls = server.calls := by
  rw [perform]
  split <;> rfl

@[simp] theorem perform_delivered : (server.perform method).2.delivered = server.delivered := by
  rw [perform]
  split <;> rfl

section Proceed

variable {broadcast : Method (Option (Frame Message))}

@[simp] theorem proceed_sessions : (server.proceed call broadcast).sessions = server.sessions := by
  have same : (server.perform broadcast).2.sessions = server.sessions := perform_sessions
  rw [proceed]
  split <;> next performed => rw [performed] at same; exact same

@[simp] theorem proceed_delivered :
    (server.proceed call broadcast).delivered = server.delivered := by
  have same : (server.perform broadcast).2.delivered = server.delivered := perform_delivered
  rw [proceed]
  split <;> next performed => rw [performed] at same; exact same

theorem proceed_calls {another : CallId} (apart : another ≠ call) :
    (server.proceed call broadcast).calls another = server.calls another := by
  have same : (server.perform broadcast).2.calls = server.calls := perform_calls
  rw [proceed]
  split <;> next performed =>
    rw [performed] at same
    exact (setCall_calls apart).trans (congrFun same another)

end Proceed

theorem enterPhase_sessions (apart : other ≠ socket) :
    (server.enterPhase socket channel phase).sessions other = server.sessions other :=
  Function.update_of_ne apart _ _

theorem accepted_phase : ∃ phase, server.accepted socket channel =
    (server.perform (Method.register socket channel)).2.enterPhase socket channel phase := by
  rw [accepted]
  split
  · next performed => exact ⟨.receiving, by rw [performed]⟩
  · next performed => exact ⟨.ended, by rw [performed]⟩

theorem accepted_sessions (apart : other ≠ socket) :
    (server.accepted socket channel).sessions other = server.sessions other := by
  obtain ⟨phase, entered⟩ : ∃ phase, server.accepted socket channel = _ := accepted_phase
  rw [entered, enterPhase_sessions apart, perform_sessions]

theorem closed_sessions (apart : other ≠ socket) :
    (server.closed socket channel).sessions other = server.sessions other :=
  (enterPhase_sessions apart).trans (congrFun perform_sessions other)

/-- A session that is over stays over. -/
theorem Step.finished (stepped : server.Step action next)
    (finished : server.sessions socket = some ⟨channel, .ended⟩) :
    next.sessions socket = some ⟨channel, .ended⟩ := by
  have apart : ∀ other found, server.sessions other = found → found ≠ some ⟨channel, .ended⟩ →
      socket ≠ other := by
    intro other found here differs same
    exact differs (here.symm.trans (same ▸ finished))
  cases stepped with
  | handshake _ fresh => exact (enterPhase_sessions (apart _ _ fresh (by simp))).trans finished
  | accept waiting => exact (accepted_sessions (apart _ _ waiting (by simp))).trans finished
  | refuse waiting => exact (enterPhase_sessions (apart _ _ waiting (by simp))).trans finished
  | text => exact finished
  | close reading => exact (closed_sessions (apart _ _ reading (by simp))).trans finished
  | broadcast | succeed | fail =>
      rw [proceed_sessions]
      exact finished

/-- A broadcast is on its way to the socket, or has reached it. -/
structure Delivers (server : Server Message) (call : CallId) (socket : WebSocket) (message : Message) :
    Prop where
  begun : server.calls call ≠ none
  sending : ∀ frame, server.calls call = some (.sending frame) →
    frame.message = message ∧ frame.pending.Nodup ∧ server.copies call socket =
      if socket ∈ frame.pending then [] else [⟨call, socket, message⟩]
  returned : server.calls call = some .returned → server.copies call socket = [⟨call, socket, message⟩]

variable {message : Message}

theorem Delivers.keep (delivers : server.Delivers call socket message)
    (calls : next.calls call = server.calls call)
    (copies : next.copies call socket = server.copies call socket) :
    next.Delivers call socket message := by
  refine ⟨calls ▸ delivers.begun, ?_, ?_⟩
  · intro frame awaits
    rw [copies]
    exact delivers.sending frame (calls ▸ awaits)
  · intro finished
    rw [copies]
    exact delivers.returned (calls ▸ finished)

/-- A call that has run up to its next await. -/
theorem delivers_after {frame : Frame Message} {continued : Option (Frame Message)}
    (continues : frame.Continues continued) (calls : next.calls call = some (.after continued))
    (same : frame.message = message) (nodup : frame.pending.Nodup)
    (copies : next.copies call socket =
      if socket ∈ frame.pending then [] else [⟨call, socket, message⟩]) :
    next.Delivers call socket message := by
  refine ⟨by simp [calls], ?_, ?_⟩
  · intro other awaits
    rw [calls, Option.some.injEq] at awaits
    cases continued with
    | none => cases awaits
    | some last =>
        cases awaits
        rw [← continues.same]
        exact ⟨same, nodup, copies⟩
  · intro finished
    rw [calls, Option.some.injEq] at finished
    cases continued with
    | none =>
        rw [Frame.Continues] at continues
        split at continues
        · next empty => simpa [empty] using copies
        · cases continues
    | some last => cases finished

theorem copies_record {sent : Sent Message} : (server.record sent).copies call socket =
    server.copies call socket ++ if sent.call = call ∧ sent.socket = socket then [sent] else [] := by
  rw [copies, copies, record, List.filter_append]
  congr 1
  split
  · next same => simp [same]
  · next apart => simpa using apart

theorem Step.delivers (stepped : server.Step action next) (sound : server.Sound manager)
    (succeeds : action ≠ .send call socket false) (delivers : server.Delivers call socket message) :
    next.Delivers call socket message := by
  cases stepped with
  | handshake | refuse | text => exact delivers.keep rfl rfl
  | @accept other channel =>
      obtain ⟨phase, entered⟩ : ∃ phase, server.accepted other channel = _ := accepted_phase
      rw [entered]
      exact delivers.keep (congrFun perform_calls call)
        (by rw [copies, enterPhase, perform_delivered, copies])
  | close =>
      exact delivers.keep (congrFun perform_calls call)
        (by rw [copies, closed, enterPhase, perform_delivered, copies])
  | @broadcast another message channels order fresh =>
      have apart : call ≠ another := fun same => delivers.begun (same ▸ fresh)
      exact delivers.keep (proceed_calls apart) (by rw [copies, proceed_delivered, copies])
  | @succeed another frame target rest awaits first =>
      have proceeded : (((server.record ⟨another, target, frame.message⟩).proceed another
          (Method.next (frame.answered target rest true))).copies call socket) =
            (server.record ⟨another, target, frame.message⟩).copies call socket := by
        rw [copies, proceed_delivered, copies]
      by_cases same : call = another
      · subst same
        obtain ⟨message_eq, nodup, copied⟩ := delivers.sending frame awaits
        have recorded : (server.record ⟨call, target, frame.message⟩).Sound manager :=
          sound.record (by simp [awaits])
        obtain ⟨continued, after, moved, continues, _⟩ := recorded.resume call
          ((sound.frames call frame awaits).answered target rest true)
        rw [first, List.nodup_cons] at nodup
        refine delivers_after continues (by rw [moved, setCall_calls_self]) message_eq nodup.2 ?_
        rw [proceeded, copies_record, copied, first]
        by_cases here : target = socket
        · subst here
          simp [Frame.answered, nodup.1, message_eq]
        · simp [Frame.answered, here, Ne.symm here]
      · refine delivers.keep (proceed_calls same) ?_
        rw [proceeded, copies_record, if_neg (fun both => same both.1.symm), List.append_nil]
  | @fail another frame target rest awaits first =>
      by_cases same : call = another
      · subst same
        obtain ⟨message_eq, nodup, copied⟩ := delivers.sending frame awaits
        obtain ⟨continued, after, moved, continues, _⟩ := sound.resume call
          ((sound.frames call frame awaits).answered target rest false)
        have here : socket ≠ target := fun same => succeeds (same ▸ rfl)
        rw [first, List.nodup_cons] at nodup
        refine delivers_after continues (by rw [moved, setCall_calls_self]) message_eq nodup.2 ?_
        rw [copies, proceed_delivered, ← copies, copied, first]
        simp [Frame.answered, here]
      · exact delivers.keep (proceed_calls same) (by rw [copies, proceed_delivered, copies])

/-- From the start of a broadcast to a registered socket until its end. -/
theorem Sound.delivered_once (sound : server.Sound manager) {last : Server Message}
    {channels : Channels} {order : Iteration}
    (ran : run step server (.broadcast call message channels order :: actions) = some last)
    (requested : channel ∈ channels.list ∨ channel = GLOBAL_CHANNEL)
    (registered : server.memory.Registered socket channel)
    (succeeds : .send call socket false ∉ actions) (finished : last.calls call = some .returned) :
    last.copies call socket = [⟨call, socket, message⟩] := by
  obtain ⟨begun, stepped, ran⟩ := Transition.run_cons.mp ran
  have delivers : (∃ manager, begun.Sound manager) ∧ begun.Delivers call socket message := by
    cases step_cases stepped with
    | broadcast _ _ _ fresh =>
        obtain ⟨continued, after, targets, proceeded, continues, sound'⟩ :=
          sound.broadcast call message channels order
        refine ⟨sound', delivers_after continues (by rw [proceeded, setCall_calls_self]) rfl
          (order.nodup _) ?_⟩
        have target : socket ∈ manager.targets channels.names := by
          rw [ConnectionManager.mem_targets]
          exact ⟨channel, Channels.mem_names.mpr requested.symm, sound.represents.registered.mp registered⟩
        have unsent : server.copies call socket = [] := by
          rw [copies, List.filter_eq_nil_iff]
          intro sent member same
          exact sound.known sent member ((of_decide_eq_true same).1 ▸ fresh)
        rw [copies, proceed_delivered, ← copies, unsent, Frame.start, if_pos ((order.mem _ _).mpr target)]
  obtain ⟨_, holds⟩ := Transition.run_invariant
    (fun server : Server Message => (∃ manager, server.Sound manager) ∧
      server.Delivers call socket message)
    (fun before after action member holds stepped => by
      obtain ⟨⟨_, sound⟩, delivers⟩ := holds
      have moved := step_cases stepped
      exact ⟨moved.sound sound, moved.delivers sound (fun same => succeeds (same ▸ member)) delivers⟩)
    delivers ran
  exact holds.returned finished

/-- The bookkeeping of connections along every run. -/
structure Consistent (server : Server Message) : Prop where
  raises_nothing : server.raised = []
  no_empty_channel : ∀ channel object, server.memory.connections channel = some object →
    (server.memory.sets object).Nonempty
  registered_open : ∀ socket channel, server.memory.Registered socket channel →
    server.sessions socket = some ⟨channel, .receiving⟩
  ended_gone : ∀ socket channel, server.sessions socket = some ⟨channel, .ended⟩ →
    ∀ actions later, run step server actions = some later →
      ∀ name, ¬ later.memory.Registered socket name
  delivers_once : ∀ call message channels order actions last socket channel,
    run step server (.broadcast call message channels order :: actions) = some last →
    last.calls call = some .returned →
    channel ∈ channels.list ∨ channel = GLOBAL_CHANNEL → server.memory.Registered socket channel →
    .send call socket false ∉ actions → last.copies call socket = [⟨call, socket, message⟩]

end Server

/-- However sessions and broadcasts are interleaved. -/
theorem bookkeeping_survives {Message : Type} (actions : List (ServerAction Message))
    (server : Server Message) (ran : run Server.step {} actions = some server) :
    server.Consistent := by
  obtain ⟨manager, sound⟩ := Server.run_sound Server.start_sound ran
  refine ⟨sound.silent, fun channel object found => sound.represents.nonempty found, ?_, ?_, ?_⟩
  · intro socket channel registered
    exact sound.registered socket channel (sound.represents.registered.mp registered)
  · intro socket channel finished actions later continues name registered
    have still : later.sessions socket = some ⟨channel, .ended⟩ :=
      Transition.run_invariant
        (fun server : Server Message => server.sessions socket = some ⟨channel, .ended⟩)
        (fun _ _ _ _ finished stepped => (Server.step_cases stepped).finished finished) finished continues
    obtain ⟨_, soundLater⟩ := Server.run_sound sound continues
    have reading := soundLater.registered socket name (soundLater.represents.registered.mp registered)
    rw [still] at reading
    cases reading
  · intro call message channels order actions last socket channel continues finished requested registered
      succeeds
    exact sound.delivered_once continues requested registered succeeds finished

/-- Client 0 is on the global channel, client 1 on a warehouse's. -/
def Sample.sessions : List (ServerAction String) :=
  [.handshake 0 GLOBAL_CHANNEL, .accept 0 true, .handshake 1 "warehouse", .accept 1 true]

/-- What follows the start of two broadcasts to both. Both find the socket of client 1
dead, and its session ends in between. -/
def Sample.sends : List (ServerAction String) :=
  [.send 0 0 true, .send 1 0 true, .send 0 1 false, .close 1, .send 1 1 false]

/-- Two overlapping broadcasts with a dead socket. -/
theorem bookkeeping_survives_broadcast : ∃ server between last : Server String,
    run Server.step {} Sample.sessions = some server ∧
      run Server.step server [.broadcast 0 "stock" (.name "warehouse") Sample.ascending] =
        some between ∧
      run Server.step between (.broadcast 1 "heartbeat" (.set ["warehouse"]) Sample.ascending ::
        Sample.sends) = some last ∧
      last.Consistent ∧ last.raised = [] ∧ (∀ name, ¬ last.memory.Registered 1 name) ∧
      last.copies 0 0 = [⟨0, 0, "stock"⟩] ∧ last.copies 1 0 = [⟨1, 0, "heartbeat"⟩] := by
  have opened : run Server.step {} Sample.sessions = some (_ : Server String) := rfl
  have begun : run Server.step {} (Sample.sessions ++
      [.broadcast 0 "stock" (.name "warehouse") Sample.ascending]) = some (_ : Server String) := rfl
  have ran : run Server.step {} (Sample.sessions ++
      [.broadcast 0 "stock" (.name "warehouse") Sample.ascending,
        .broadcast 1 "heartbeat" (.set ["warehouse"]) Sample.ascending] ++ Sample.sends) =
    some (_ : Server String) := rfl
  have before := bookkeeping_survives _ _ opened
  have between := bookkeeping_survives _ _ begun
  have consistent := bookkeeping_survives _ _ ran
  refine ⟨_, _, _, opened, rfl, rfl, consistent, consistent.raises_nothing, ?_, ?_, ?_⟩
  · exact consistent.ended_gone 1 "warehouse" rfl [] _ rfl
  · exact before.delivers_once 0 "stock" (.name "warehouse") Sample.ascending
      (.broadcast 1 "heartbeat" (.set ["warehouse"]) Sample.ascending :: Sample.sends) _ 0
      GLOBAL_CHANNEL rfl rfl (.inr rfl) ⟨0, rfl, by decide⟩ (by simp [Sample.sends])
  · exact between.delivers_once 1 "heartbeat" (.set ["warehouse"]) Sample.ascending Sample.sends _ 0
      GLOBAL_CHANNEL rfl rfl (.inr rfl) ⟨0, rfl, by decide⟩ (by simp [Sample.sends])

end InventoryManagement
