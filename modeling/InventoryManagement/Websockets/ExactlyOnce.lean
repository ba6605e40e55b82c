import InventoryManagement.Websockets.Delivery
import Mathlib.Algebra.Order.BigOperators.Group.Finset
import Mathlib.Data.Fin.VecNotation
import Mathlib.Data.Fintype.BigOperators
import Mathlib.Data.Prod.Lex

/-! How often a client receives an event: once for each registration of the listeners
in the process that published it. -/

set_option autoImplicit false

namespace InventoryManagement

open Transition (Settles run)

variable {n : Nat} {cluster next final : Cluster Envelope Message n} {action : Action n}
variable {roles : Fin n → Role} {id : Fin n} {socket : WebSocket} {channel : String} {message : Message}

/-! One event, published once. -/

/-- The only publication of an event's id. -/
def PublishedOnce (id : Fin n) (event : DomainEvent) (actions : List (Action n)) : Prop :=
  ∃ earlier later, actions = earlier ++ .publish id event :: later ∧
    ∀ other published, .publish other published ∈ earlier ++ later →
      published.eventId ≠ event.eventId

section PublishedOnce

variable {event : DomainEvent} {actions : List (Action n)}

theorem mem_published {envelope : Envelope}
    (member : envelope ∈ actions.flatMap (Action.published roles)) :
    ∃ id event, .publish id event ∈ actions ∧ envelope = broadcastEvent event := by
  obtain ⟨action, among, member⟩ := List.mem_flatMap.mp member
  cases action with
  | publish id event =>
      rw [Action.published, Role.publish_event] at member
      exact ⟨id, event, among, List.eq_of_mem_replicate member⟩
  | handle | relay | heartbeat | send | connect | disconnect => cases member

variable (roles) in
theorem PublishedOnce.envelope (once : PublishedOnce id event actions) {envelope : Envelope}
    (member : envelope ∈ actions.flatMap (Action.published roles))
    (same : envelope.message = serializeEvent event) : envelope = broadcastEvent event := by
  obtain ⟨other, published, among, rfl⟩ := mem_published member
  obtain ⟨earlier, later, rfl, unique⟩ := once
  rcases List.mem_append.mp among with before | after
  · exact absurd (eventId_of_serializeEvent same)
      (unique other published (List.mem_append_left _ before))
  · rcases List.mem_cons.mp after with here | after
    · cases here
      rfl
    · exact absurd (eventId_of_serializeEvent same)
        (unique other published (List.mem_append_right _ after))

variable (roles) in
theorem PublishedOnce.count (once : PublishedOnce id event actions) :
    (actions.flatMap (Action.published roles)).count (broadcastEvent event) =
      (roles id).registrations := by
  obtain ⟨earlier, later, rfl, unique⟩ := once
  have absent : ∀ part : List (Action n), part ⊆ earlier ++ later →
      (part.flatMap (Action.published roles)).count (broadcastEvent event) = 0 := by
    intro part included
    rw [List.count_eq_zero]
    intro member
    obtain ⟨other, published, among, same⟩ := mem_published member
    have equal := eventId_of_serializeEvent (congrArg Envelope.message same)
    exact unique other published (included among) equal.symm
  rw [List.flatMap_append, List.flatMap_cons, List.count_append, List.count_append,
    absent earlier (List.subset_append_left _ _), absent later (List.subset_append_right _ _),
    Action.published, Role.publish_event, List.count_replicate_self]
  omega

end PublishedOnce

/-! Delivering what is under way. -/

/-- The steps that deliver what has been published, without the client failing. -/
def Action.delivers (socket : WebSocket) : Action n → Prop
  | .handle _ | .relay _ => True
  | .send _ _ other succeeds => other = socket → succeeds = true
  | _ => False

theorem Action.delivers.keeps (delivers : action.delivers socket) : action.keeps socket := by
  cases action with
  | handle | relay => trivial
  | send => exact delivers
  | publish | heartbeat | connect | disconnect => cases delivers

theorem Action.delivers.published (delivers : action.delivers socket) :
    action.published roles = [] := by
  cases action with
  | handle | relay | send => rfl
  | publish | heartbeat | connect | disconnect => cases delivers

def Process.unsent (process : Process Envelope Message) : Nat :=
  (ConnectionManager.waiting (process.sending .relay)).card +
    (ConnectionManager.waiting (process.sending .heartbeat)).card

/-- What is left to deliver: a handler call may fill inboxes, an envelope may take
many sends. -/
def Cluster.work (cluster : Cluster Envelope Message n) : ℕ ×ₗ ℕ ×ₗ ℕ :=
  toLex (cluster.tasks.length, toLex (∑ id, (cluster.processes id).inbox.length,
    ∑ id, (cluster.processes id).unsent))

section Termination

theorem sum_update_lt (measure : Process Envelope Message → Nat) {process : Process Envelope Message}
    (less : measure process < measure (cluster.processes id)) :
    ∑ other, measure ((cluster.update id process).processes other) <
      ∑ other, measure (cluster.processes other) := by
  apply Finset.sum_lt_sum
  · intro other _
    rw [Cluster.update_processes]
    split
    · next here => exact here ▸ less.le
    · exact Nat.le_refl _
  · exact ⟨id, Finset.mem_univ _, by simpa [Cluster.update_processes] using less⟩

theorem sum_update_eq (measure : Process Envelope Message → Nat) {process : Process Envelope Message}
    (same : measure process = measure (cluster.processes id)) :
    ∑ other, measure ((cluster.update id process).processes other) =
      ∑ other, measure (cluster.processes other) := by
  apply Finset.sum_congr rfl
  intro other _
  rw [Cluster.update_processes]
  split
  · next here => exact here ▸ same
  · rfl

theorem Process.unsent_sent (process : Process Envelope Message) {sender : Sender}
    {broadcast : Broadcast Message}
    (awaits : process.sending sender = some broadcast) (target : socket ∈ broadcast.targets)
    (succeeds : Bool) :
    (process.proceed sender (process.manager.sent broadcast socket succeeds)).unsent <
      process.unsent := by
  have fewer := Finset.card_erase_lt_of_mem target
  have before : ConnectionManager.waiting (process.sending sender) = broadcast.targets := by
    rw [awaits]
    rfl
  simp only [Process.unsent, Process.proceed_sending, ConnectionManager.sent]
  cases sender <;> simp [ConnectionManager.waiting_resume, before] <;> omega

theorem Cluster.Step.work (stepped : cluster.Step action next) (delivers : action.delivers socket) :
    next.work < cluster.work := by
  rw [Cluster.work, Cluster.work, Prod.Lex.toLex_lt_toLex, Prod.Lex.toLex_lt_toLex]
  cases stepped with
  | publish | heartbeat | connect | disconnect => cases delivers
  | handle found =>
      obtain ⟨bound, _⟩ := List.getElem?_eq_some_iff.mp found
      left
      rw [List.length_eraseIdx_of_lt bound]
      omega
  | @relay here envelope rest arrived =>
      have fewer : ((cluster.processes here).relay .direct envelope rest).inbox.length <
          (cluster.processes here).inbox.length := by
        rw [arrived]
        exact Nat.lt_succ_self _
      exact .inr ⟨rfl, .inl (sum_update_lt (fun process => process.inbox.length) fewer)⟩
  | @succeed here sender broadcast target awaits member =>
      exact .inr ⟨rfl, .inr ⟨sum_update_eq (fun process => process.inbox.length) rfl,
        sum_update_lt Process.unsent (Process.unsent_sent _ awaits member true)⟩⟩
  | @fail here sender broadcast target awaits member =>
      exact .inr ⟨rfl, .inr ⟨sum_update_eq (fun process => process.inbox.length) rfl,
        sum_update_lt Process.unsent (Process.unsent_sent _ awaits member false)⟩⟩

theorem Cluster.deliveries_end (socket : WebSocket) :
    WellFounded (fun next cluster : Cluster Envelope Message n =>
      ∃ action, Action.delivers socket action ∧ cluster.step .direct action = some next) :=
  Subrelation.wf
    (fun later => later.elim (fun _ moved => (Cluster.step_cases moved.2).work moved.1))
    (InvImage.wf Cluster.work wellFounded_lt)

/-- With nothing left to deliver there is no call of a handler or of `broadcast` under
way, and every inbox is empty. -/
theorem Cluster.idle
    (rest : ∀ action : Action n, action.delivers socket → cluster.step .direct action = none) :
    cluster.tasks = [] ∧ ∀ id, (cluster.processes id).inbox = [] ∧
      ∀ sender, (cluster.processes id).sending sender = none := by
  have silent : ∀ id sender, (cluster.processes id).sending sender = none := by
    intro id sender
    cases awaits : (cluster.processes id).sending sender with
    | none => rfl
    | some broadcast =>
        obtain ⟨target, member⟩ := broadcast.unfinished
        have stuck := rest (.send id sender target true) (fun _ => rfl)
        simp [Cluster.step, awaits, member] at stuck
  refine ⟨?_, fun id => ⟨?_, silent id⟩⟩
  · cases tasks : cluster.tasks with
    | nil => rfl
    | cons envelope others =>
        have stuck := rest (.handle 0) trivial
        simp [Cluster.step, tasks] at stuck
  · cases arrived : (cluster.processes id).inbox with
    | nil => rfl
    | cons envelope others =>
        have stuck := rest (.relay id) trivial
        simp [Cluster.step, arrived, silent id] at stuck

end Termination

/-- The client's channel is the global one or that of a warehouse of the event. -/
def DomainEvent.concerns (event : DomainEvent) (channel : String) : Prop :=
  channel = GLOBAL_CHANNEL ∨ ∃ warehouseId ∈ event.inventory.warehouseIds, channel = warehouseId.str

instance (event : DomainEvent) (channel : String) : Decidable (event.concerns channel) :=
  inferInstanceAs (Decidable (_ ∨ _))

/-- However the deliveries under way end, the client has then received the event once
if it concerns its channel, and never otherwise. -/
def ReceivedOnce (cluster : Cluster Envelope Message n) (socket : WebSocket) (channel : String)
    (event : DomainEvent) : Prop :=
  Settles (Cluster.step .direct) (Action.delivers socket) (fun last =>
    last.copies socket (serializeEvent event) = if event.concerns channel then 1 else 0) cluster

section ReceivedOnce

variable {event : DomainEvent} {first second : List (Action n)} {connected : Cluster Envelope Message n}
variable {publisher : Fin n}

theorem reaches_broadcastEvent : (broadcastEvent event).reaches channel ↔ event.concerns channel := by
  rw [Envelope.reaches, DomainEvent.concerns]
  exact or_congr_right mem_channelsFor

theorem serializeEvent_ne_heartbeat (event : DomainEvent) :
    serializeEvent event ≠ heartbeatMessage := by
  intro same
  simp [serializeEvent, heartbeatMessage, DomainEvent.fields] at same

/-- The balance of a client and a message: nothing lost, nothing twice. -/
theorem Cluster.run_balance {actions : List (Action n)} (sound : cluster.Sound roles)
    (listening : cluster.Listening socket id channel)
    (ran : run (Cluster.step .direct) cluster actions = some final)
    (keeps : ∀ action ∈ actions, action.keeps socket) (other : message ≠ heartbeatMessage)
    (balance : cluster.copies socket message + (cluster.processes id).pending socket message =
      cluster.broadcasts id channel message) :
    final.Listening socket id channel ∧
      final.copies socket message + (final.processes id).pending socket message =
        final.broadcasts id channel message := by
  have all := Transition.run_invariant (fun cluster : Cluster Envelope Message n => cluster.Sound roles ∧
    cluster.Listening socket id channel ∧
      cluster.copies socket message + (cluster.processes id).pending socket message =
        cluster.broadcasts id channel message) ?_ ⟨sound, listening, balance⟩ ran
  · exact all.2
  · intro before after action member holds stepped
    obtain ⟨sound, listening, balance⟩ := holds
    have moved := Cluster.step_cases stepped
    have kept := moved.copies sound listening (keeps action member) other
    refine ⟨moved.sound sound, moved.listening (keeps action member) listening, ?_⟩
    omega

theorem Cluster.Listening.balanced (listening : cluster.Listening socket id channel)
    (sound : cluster.Sound roles) (other : message ≠ heartbeatMessage)
    (ahead : ¬ cluster.Begun id message) :
    cluster.copies socket message + (cluster.processes id).pending socket message =
      cluster.broadcasts id channel message := by
  obtain ⟨received, accepted⟩ := listening.accepted
  have copies : cluster.copies socket message = 0 := by
    rw [Cluster.copies, accepted, Option.map_some, Option.getD_some, List.count_eq_zero]
    exact fun member => ahead (sound.received socket _ accepted message member other)
  have silent : ∀ sender, awaited ((cluster.processes id).sending sender) socket message = 0 := by
    intro sender
    cases awaits : (cluster.processes id).sending sender with
    | none => rfl
    | some broadcast =>
        have different : broadcast.message ≠ message := by
          intro same
          subst same
          exact ahead (sound.sending id sender broadcast awaits other)
        simp [awaited, different]
  have broadcasts : cluster.broadcasts id channel message = 0 := by
    rw [Cluster.broadcasts, List.countP_eq_zero]
    intro envelope begun both
    exact ahead ⟨envelope, begun, (of_decide_eq_true both).1⟩
  rw [copies, Process.pending, silent, silent, broadcasts]

theorem broadcasts_eq (unique : ∀ envelope ∈ (cluster.processes id).begun,
    envelope.message = serializeEvent event → envelope = broadcastEvent event) :
    cluster.broadcasts id channel (serializeEvent event) =
      if event.concerns channel then (cluster.processes id).begun.count (broadcastEvent event)
      else 0 := by
  have same : ∀ envelope ∈ (cluster.processes id).begun,
      (envelope.message = serializeEvent event ∧ envelope.reaches channel) ↔
        envelope = broadcastEvent event ∧ event.concerns channel := by
    intro envelope begun
    constructor
    · intro holds
      obtain ⟨message, reaches⟩ := holds
      have equal := unique envelope begun message
      exact ⟨equal, reaches_broadcastEvent.mp (equal ▸ reaches)⟩
    · intro holds
      obtain ⟨equal, concerns⟩ := holds
      exact ⟨equal ▸ rfl, equal ▸ reaches_broadcastEvent.mpr concerns⟩
  have counted : cluster.broadcasts id channel (serializeEvent event) =
      (cluster.processes id).begun.countP (fun envelope =>
        decide (envelope = broadcastEvent event ∧ event.concerns channel)) :=
    List.countP_congr (fun envelope begun => by simpa using same envelope begun)
  rw [counted]
  by_cases concerns : event.concerns channel
  · simp only [concerns, and_true, if_true, List.count, beq_eq_decide]
  · simp [concerns]

/-- However the deliveries under way end, the client has received an event that
concerns it once for each registration in the process that published it. -/
theorem received_per_registration
    (arrives : run (Cluster.step .direct) (Cluster.start roles) first = some connected)
    (continues : run (Cluster.step .direct) connected second = some final)
    (once : PublishedOnce publisher event (first ++ second))
    (listening : connected.Listening socket id channel)
    (ahead : ¬ connected.Begun id (serializeEvent event))
    (keeps : ∀ action ∈ second, action.keeps socket) :
    Settles (Cluster.step .direct) (Action.delivers socket) (fun last =>
      last.copies socket (serializeEvent event) =
        if event.concerns channel then (roles publisher).registrations else 0) final := by
  have other := serializeEvent_ne_heartbeat event
  have soundBefore := Cluster.run_sound (Cluster.start_sound roles) arrives
  have sound := Cluster.run_sound soundBefore continues
  obtain ⟨_, accepted⟩ := listening.accepted
  have serves : roles id = .api := soundBefore.serves socket _ accepted
  obtain ⟨still, balance⟩ := Cluster.run_balance soundBefore listening continues keeps other
    (listening.balanced soundBefore other ahead)
  have accounted : ∀ envelope, final.accounted id envelope =
      ((first ++ second).flatMap (Action.published roles)).count envelope := by
    intro envelope
    have whole := Transition.run_append.mpr ⟨connected, arrives, continues⟩
    rw [Cluster.run_accounted (Cluster.start_sound roles) whole serves envelope]
    simp [Cluster.accounted, Cluster.start, Process.start]
  apply Transition.settles_of_invariant (Cluster.deliveries_end socket)
    (fun cluster : Cluster Envelope Message n => cluster.Sound roles ∧ cluster.Listening socket id channel ∧
      cluster.copies socket (serializeEvent event) +
        (cluster.processes id).pending socket (serializeEvent event) =
          cluster.broadcasts id channel (serializeEvent event) ∧
      ∀ envelope, cluster.accounted id envelope =
        ((first ++ second).flatMap (Action.published roles)).count envelope)
  · intro before after action delivers holds stepped
    obtain ⟨sound, listening, balance, accounted⟩ := holds
    have moved := Cluster.step_cases stepped
    have kept := moved.copies sound listening delivers.keeps other
    refine ⟨moved.sound sound, moved.listening delivers.keeps listening, by omega, ?_⟩
    intro envelope
    rw [moved.accounted sound serves, delivers.published, accounted]
    rfl
  · intro last holds rest
    obtain ⟨sound, listening, balance, accounted⟩ := holds
    obtain ⟨tasks, processes⟩ := Cluster.idle rest
    obtain ⟨inbox, silent⟩ := processes id
    have begun : ∀ envelope, (last.processes id).begun.count envelope =
        ((first ++ second).flatMap (Action.published roles)).count envelope := by
      intro envelope
      rw [← accounted envelope, Cluster.accounted, tasks, inbox]
      simp
    have unique : ∀ envelope ∈ (last.processes id).begun,
        envelope.message = serializeEvent event → envelope = broadcastEvent event := by
      intro envelope member same
      apply once.envelope roles _ same
      rw [← List.count_pos_iff, ← begun]
      exact List.count_pos_iff.mpr member
    have total : last.broadcasts id channel (serializeEvent event) =
        if event.concerns channel then (roles publisher).registrations else 0 := by
      rw [← once.count roles, ← begun]
      exact broadcasts_eq unique
    rw [← total, ← balance, Process.pending, silent, silent]
    rfl
  · exact ⟨sound, still, balance, accounted⟩

end ReceivedOnce

/-- A client that stays connected receives an event as it should if and only if the
event was published by a worker or does not concern the client: an API process
registers the listeners twice. -/
theorem event_received_once_iff {n : Nat} (roles : Fin n → Role) (first second : List (Action n))
    (connected final : Cluster Envelope Message n)
    (arrives : run (Cluster.step .direct) (Cluster.start roles) first = some connected)
    (continues : run (Cluster.step .direct) connected second = some final)
    (publisher : Fin n) (event : DomainEvent)
    (once : PublishedOnce publisher event (first ++ second))
    (socket : WebSocket) (id : Fin n) (channel : String)
    (listening : connected.Listening socket id channel)
    (ahead : ¬ connected.Begun id (serializeEvent event))
    (keeps : ∀ action ∈ second, action.keeps socket) :
    ReceivedOnce final socket channel event ↔
      roles publisher = .worker ∨ ¬ event.concerns channel := by
  have settles := received_per_registration arrives continues once listening ahead keeps
  constructor
  · intro received
    obtain ⟨last, actual, expected⟩ := settles.meet received
    by_cases concerns : event.concerns channel
    · rw [actual, if_pos concerns, if_pos concerns] at expected
      cases role : roles publisher with
      | worker => exact .inl rfl
      | api =>
          rw [role] at expected
          cases expected
    · exact .inr concerns
  · intro holds
    rw [ReceivedOnce]
    rcases holds with worker | apart
    · rw [worker] at settles
      exact settles
    · rw [if_neg apart] at settles ⊢
      exact settles

def Sample.receivedEvent : DomainEvent where
  eventId := ⟨0⟩
  occurredAt := ⟨2026, 1, 1, 0, 0, 0, 0⟩
  inventory := .stockReceived ⟨1⟩ ⟨2⟩ 5 5

def Sample.accept {n : Nat} (roles : Fin n → Role) (id : Fin n) : Cluster Envelope Message n :=
  let process : Process Envelope Message := .start (roles id)
  { (Cluster.start roles).update id { process with
      manager := process.manager.connect 0 GLOBAL_CHANNEL } with
    sockets := Function.update (fun _ => none) 0
      (some { process := id, channel := GLOBAL_CHANNEL }) }

theorem Sample.accept_listening {n : Nat} (roles : Fin n → Role) (id : Fin n) :
    (Sample.accept roles id).Listening 0 id GLOBAL_CHANNEL ∧
      ∀ message, ¬ (Sample.accept roles id).Begun id message := by
  refine ⟨⟨⟨[], by simp [Sample.accept]⟩, ?_, ?_⟩, ?_⟩
  · simp [Sample.accept, Cluster.update, ConnectionManager.get_connect]
  · intro sender broadcast awaits
    simp [Sample.accept, Cluster.update, Process.start] at awaits
  · intro message begun
    simp [Cluster.Begun, Sample.accept, Cluster.update, Process.start] at begun

theorem Sample.accept_run {n : Nat} (roles : Fin n → Role) (id : Fin n) (serves : roles id = .api) :
    run (Cluster.step .direct) (Cluster.start roles) [.connect id 0 GLOBAL_CHANNEL] =
      some (Sample.accept roles id) := by
  refine Transition.run_cons.mpr ⟨_, ?_, rfl⟩
  simp only [Cluster.step]
  split
  · rfl
  · next refused => exact absurd rfl (refused serves)

theorem Sample.publishedOnce {n : Nat} (id publisher : Fin n) :
    PublishedOnce publisher Sample.receivedEvent
      ([.connect id 0 GLOBAL_CHANNEL] ++ [.publish publisher Sample.receivedEvent]) :=
  ⟨[.connect id 0 GLOBAL_CHANNEL], [], rfl, by simp⟩

/-- A client of an API process, and an event of a worker. -/
theorem event_received_once_iff_worker : ∃ final : Cluster Envelope Message 2,
    run (Cluster.step .direct) (Cluster.start ![.api, .worker])
        [.connect 0 0 GLOBAL_CHANNEL, .publish 1 Sample.receivedEvent] = some final ∧
      ReceivedOnce final 0 GLOBAL_CHANNEL Sample.receivedEvent := by
  have arrives := Sample.accept_run ![.api, .worker] 0 rfl
  obtain ⟨listening, ahead⟩ := Sample.accept_listening ![.api, .worker] (0 : Fin 2)
  have continues : run (Cluster.step .direct) (Sample.accept ![.api, .worker] (0 : Fin 2))
      [.publish 1 Sample.receivedEvent] = some _ := rfl
  refine ⟨_, Transition.run_append.mpr ⟨_, arrives, continues⟩, ?_⟩
  exact (event_received_once_iff ![.api, .worker] [.connect 0 0 GLOBAL_CHANNEL]
    [.publish 1 Sample.receivedEvent] _ _ arrives continues 1 Sample.receivedEvent (Sample.publishedOnce 0 1) 0
    0 GLOBAL_CHANNEL listening (ahead _) (by simp [Action.keeps])).mpr (.inl rfl)

/-- A client of an API process receives that process's own event twice. -/
theorem api_event_received_twice :
    ¬ ∀ (n : Nat) (roles : Fin n → Role) (first second : List (Action n))
      (connected final : Cluster Envelope Message n),
      run (Cluster.step .direct) (Cluster.start roles) first = some connected →
      run (Cluster.step .direct) connected second = some final →
      ∀ (publisher : Fin n) (event : DomainEvent), PublishedOnce publisher event (first ++ second) →
      ∀ (socket : WebSocket) (id : Fin n) (channel : String),
        connected.Listening socket id channel → ¬ connected.Begun id (serializeEvent event) →
        (∀ action ∈ second, action.keeps socket) → ReceivedOnce final socket channel event := by
  intro always
  have arrives := Sample.accept_run (fun _ : Fin 1 => .api) 0 rfl
  obtain ⟨listening, ahead⟩ := Sample.accept_listening (fun _ : Fin 1 => .api) 0
  have continues : run (Cluster.step .direct) (Sample.accept (fun _ : Fin 1 => .api) 0)
      [.publish 0 Sample.receivedEvent] = some _ := rfl
  have keeps : ∀ action ∈ [(Action.publish 0 Sample.receivedEvent : Action 1)], action.keeps 0 := by
    simp [Action.keeps]
  have received := always 1 (fun _ => .api) _ _ _ _ arrives continues 0 Sample.receivedEvent
    (Sample.publishedOnce 0 0) 0 0 GLOBAL_CHANNEL listening (ahead _) keeps
  obtain ⟨last, twice, once⟩ := (received_per_registration arrives continues
    (Sample.publishedOnce 0 0) listening (ahead _) keeps).meet received
  rw [twice, if_pos (.inl rfl), if_pos (.inl rfl)] at once
  cases once

end InventoryManagement
