import InventoryManagement.Json
import InventoryManagement.Websockets.Listeners

/-! The loop of `relay_to_local_clients`, from one item of `pubsub.listen()` to the next. -/

set_option autoImplicit false

namespace InventoryManagement

open Json (Scalar Value)

/-- What goes wrong inside of the inner `try`. -/
inductive RelayError where
  | jsonDecodeError
  | keyError
  | typeError
  | broadcastError
deriving DecidableEq

/-- `value[key]`. -/
def subscript (value : Value) (key : String) : Except RelayError Value :=
  match value with
  | .object members =>
      match members.lookup key with
      | some member => .ok member
      | none => .error .keyError
  | .scalar _ | .array _ => .error .typeError

def hashable : Value → Bool
  | .scalar _ => true
  | .array _ | .object _ => false

/-- `set(value)`: the items of a list, the keys of a dictionary, the characters of a
string. Neither the order of a set nor a repetition matters. -/
def toSet : Value → Except RelayError (List Value)
  | .array items => if items.all hashable then .ok items else .error .typeError
  | .object members => .ok (members.map (fun member => .scalar (.string member.1)))
  | .scalar (.string text) =>
      .ok (text.toList.map (fun char => .scalar (.string (String.singleton char))))
  | .scalar _ => .error .typeError

/-- The arguments of `connection_manager.broadcast`. -/
structure LocalBroadcast where
  message : Value
  channels : List Value

/-- The body of the inner `try` up to the call of `broadcast`; `loads` is `json.loads`. -/
def readEnvelope (loads : String → Option Value) (data : String) :
    Except RelayError LocalBroadcast := do
  let envelope ← match loads data with
    | some value => .ok value
    | none => .error .jsonDecodeError
  let message ← subscript envelope "message"
  let channels ← toSet (← subscript envelope "channels")
  return { message, channels }

/-- What the iteration over `listen()` comes to next: an item and, should it lead to a
broadcast, whether that call returns; or an exception of the listener itself. -/
inductive Heard where
  | item (type : String) (data : String) (broadcastReturns : Bool)
  | raises
deriving DecidableEq

structure Relay where
  running : Bool := true
  broadcasts : List LocalBroadcast := []

/-- The inner `try`: the broadcasts it makes, and how it ends. -/
def attempt (loads : String → Option Value) (data : String) (broadcastReturns : Bool) :
    List LocalBroadcast × Except RelayError Unit :=
  match readEnvelope loads data with
  | .error error => ([], .error error)
  | .ok broadcast => ([broadcast], if broadcastReturns then .ok () else .error .broadcastError)

/-- One turn of the loop. The inner handler logs whatever `attempt` ends with; an
exception of the listener is raised outside of it. -/
def Relay.hear (loads : String → Option Value) (relay : Relay) : Heard → Relay
  | .raises => { relay with running := false }
  | .item type data broadcastReturns =>
      if type ≠ "message" then relay
      else { relay with broadcasts := relay.broadcasts ++ (attempt loads data broadcastReturns).1 }

/-- The loop of a relay that nobody cancels; once it has terminated it hears nothing. -/
def listenLoop (loads : String → Option Value) : Relay → List Heard → Relay
  | relay, [] => relay
  | relay, heard :: rest =>
      if relay.running then listenLoop loads (relay.hear loads heard) rest else relay

/-- An exception of `pubsub.subscribe` leaves the coroutine before its loop. -/
def relayToLocalClients (loads : String → Option Value) (subscribed : Bool)
    (outcomes : List Heard) : Relay :=
  if subscribed then listenLoop loads {} outcomes else { running := false }

/-- `RedisBroadcaster.publish`, before `json.dumps`. -/
def publishedValue (envelope : Envelope) : Value :=
  .object [
    ("message", .object (envelope.message.map (fun field => (field.1, .scalar (match field.2 with
      | .string text => .string text
      | .number value => .integer value))))),
    ("channels", .array (envelope.channels.map (fun channel => .scalar (.string channel))))]

def JsonValue.scalar : JsonValue → Scalar
  | .string text => .string text
  | .number value => .integer value

/-- A message as `json.dumps` is given it. -/
def messageValue (message : Message) : Value :=
  .object (message.map (fun field => (field.1, .scalar field.2.scalar)))

def isName : Value → Bool
  | .scalar (.string _) => true
  | _ => false

/-- A dictionary under `message`, a list of channel names under `channels`. -/
def envelopeOf : (message channels : Value) → Option LocalBroadcast
  | .object message, .array channels =>
      if channels.all isName then some { message := .object message, channels } else none
  | _, _ => none

/-- The well-formed envelopes. -/
def wellFormed (loads : String → Option Value) (data : String) : Option LocalBroadcast :=
  match loads data with
  | some (.object members) =>
      match members.lookup "message", members.lookup "channels" with
      | some message, some channels => envelopeOf message channels
      | _, _ => none
  | _ => none

/-- What passes for an envelope and is none: `set` takes the channels, but they are no
list of names, or the message is no dictionary. -/
def passes : (message channels : Value) → Bool
  | _, .scalar (.string _) => true
  | _, .object _ => true
  | .object _, .array channels => channels.all hashable && !channels.all isName
  | .scalar _, .array channels | .array _, .array channels => channels.all hashable
  | _, .scalar _ => false

/-- The malformed payloads that are broadcast all the same. -/
def misread (loads : String → Option Value) (data : String) : Bool :=
  match loads data with
  | some (.object members) =>
      match members.lookup "message", members.lookup "channels" with
      | some message, some channels => passes message channels
      | _, _ => false
  | _ => false

variable {loads : String → Option Value} {data : String} {broadcast : LocalBroadcast}
variable {relay : Relay} {heard : Heard} {outcomes : List Heard}

theorem publishedValue_eq (envelope : Envelope) : publishedValue envelope =
    .object [("message", messageValue envelope.message),
      ("channels", .array (envelope.channels.map (fun channel => .scalar (.string channel))))] := by
  simp only [publishedValue, messageValue]
  congr 4

/-- What `publish` hands over is a well-formed envelope. -/
theorem wellFormed_published (envelope : Envelope)
    (sent : loads data = some (publishedValue envelope)) :
    wellFormed loads data = some {
      message := messageValue envelope.message
      channels := envelope.channels.map (fun channel => .scalar (.string channel)) } := by
  have names : (envelope.channels.map
      (fun channel => (.scalar (.string channel) : Value))).all isName = true := by
    rw [List.all_map]
    exact List.all_eq_true.mpr (fun _ _ => rfl)
  rw [wellFormed, sent, publishedValue_eq]
  exact if_pos names

theorem hashable_of_isName {value : Value} (name : isName value = true) : hashable value = true := by
  cases value with
  | scalar value => rfl
  | array items => cases name
  | object members => cases name

/-- The loop reads a well-formed envelope as what it is. -/
theorem readEnvelope_wellFormed (valid : wellFormed loads data = some broadcast) :
    readEnvelope loads data = .ok broadcast := by
  rw [wellFormed] at valid
  split at valid
  · next members loaded =>
      split at valid
      · next message channels body names =>
          rw [envelopeOf.eq_def] at valid
          split at valid
          · next fields items =>
              split at valid
              · next strings =>
                  have hashed : items.all hashable = true := by
                    rw [List.all_eq_true] at strings ⊢
                    exact fun channel member => hashable_of_isName (strings channel member)
                  cases valid
                  simp [readEnvelope, loaded, subscript, body, names, toSet, hashed, bind,
                    Except.bind, pure, Except.pure]
              · cases valid
          · cases valid
      · cases valid
  · cases valid

/-- The broadcast an item leads to when payloads are read in this way. -/
def Heard.calls (read : String → Option LocalBroadcast) : Heard → Option LocalBroadcast
  | .raises => none
  | .item type data _ => if type = "message" then read data else none

def readBroadcast (loads : String → Option Value) (data : String) : Option LocalBroadcast :=
  (readEnvelope loads data).toOption

theorem Relay.hear_item (item : heard ≠ .raises) : relay.hear loads heard =
    { relay with broadcasts := relay.broadcasts ++
        (heard.calls (readBroadcast loads)).toList } := by
  cases heard with
  | raises => exact absurd rfl item
  | item type data broadcastReturns =>
      rw [Relay.hear, Heard.calls]
      by_cases message : type = "message"
      · rw [if_neg (not_not.mpr message), if_pos message, attempt, readBroadcast]
        cases readEnvelope loads data <;> rfl
      · rw [if_pos message, if_neg message, Option.toList_none, List.append_nil]

/-- While the listener raises nothing the relay goes on. -/
theorem relay_goes_on (running : relay.running = true) (quiet : .raises ∉ outcomes) :
    listenLoop loads relay outcomes =
      { running := true
        broadcasts := relay.broadcasts ++
          outcomes.filterMap (Heard.calls (readBroadcast loads)) } := by
  induction outcomes generalizing relay with
  | nil =>
      rw [listenLoop, List.filterMap_nil, List.append_nil, ← running]
  | cons heard rest ih =>
      rw [List.mem_cons, not_or] at quiet
      rw [listenLoop, if_pos running, Relay.hear_item (Ne.symm quiet.1)]
      rw [ih (by exact running) quiet.2, List.append_assoc]
      congr 2
      cases produced : heard.calls (readBroadcast loads) with
      | none => rw [List.filterMap_cons_none produced]; rfl
      | some broadcast => rw [List.filterMap_cons_some produced]; rfl

theorem relay_stopped (stopped : relay.running = false) :
    listenLoop loads relay outcomes = relay := by
  cases outcomes with
  | nil => rfl
  | cons heard rest => rw [listenLoop, stopped, if_neg Bool.false_ne_true]

theorem relay_terminates (raised : .raises ∈ outcomes) :
    (listenLoop loads relay outcomes).running = false := by
  induction outcomes generalizing relay with
  | nil => cases raised
  | cons heard rest ih =>
      rw [listenLoop]
      split
      · rcases List.mem_cons.mp raised with here | later
        · rw [← here, relay_stopped rfl]
          rfl
        · exact ih later
      · next stopped => exact eq_false_of_ne_true stopped

/-- The relay has not terminated and has made one broadcast for each well-formed
envelope, in the order of their arrival, and none for anything else. -/
def RelaysEvery (loads : String → Option Value) (subscribed : Bool) (outcomes : List Heard) :
    Prop :=
  (relayToLocalClients loads subscribed outcomes).running = true ∧
    (relayToLocalClients loads subscribed outcomes).broadcasts =
      outcomes.filterMap (Heard.calls (wellFormed loads))

private theorem filterMap_eq_iff {Item Result : Type} {actual expected : Item → Option Result}
    (sound : ∀ item result, expected item = some result → actual item = some result)
    (items : List Item) : items.filterMap actual = items.filterMap expected ↔
      ∀ item ∈ items, (actual item).isSome → (expected item).isSome := by
  induction items with
  | nil => simp
  | cons item rest ih =>
      rw [List.forall_mem_cons]
      cases wanted : expected item with
      | some result =>
          have made := sound item result wanted
          rw [List.filterMap_cons_some made, List.filterMap_cons_some wanted, List.cons.injEq, ih]
          simp
      | none =>
          cases made : actual item with
          | none =>
              rw [List.filterMap_cons_none made, List.filterMap_cons_none wanted, ih]
              simp
          | some result =>
              rw [List.filterMap_cons_some made, List.filterMap_cons_none wanted]
              constructor
              · intro same
                have fewer : (rest.filterMap expected).length ≤ (rest.filterMap actual).length := by
                  rw [List.length_filterMap_eq_countP, List.length_filterMap_eq_countP]
                  apply List.countP_mono_left
                  intro other _ some
                  obtain ⟨value, found⟩ := Option.isSome_iff_exists.mp some
                  rw [sound other value found, Option.isSome_some]
                have longer := congrArg List.length same
                rw [List.length_cons] at longer
                omega
              · intro holds
                exact absurd (holds.1 rfl) Bool.false_ne_true

theorem toSet_isSome (message channels : Value) : (toSet channels).toOption.isSome =
    (passes message channels || (envelopeOf message channels).isSome) := by
  cases channels with
  | object members => cases message <;> rfl
  | scalar value => cases value <;> cases message <;> rfl
  | array items =>
      have hashed : items.all isName = true → items.all hashable = true := by
        intro names
        rw [List.all_eq_true] at names ⊢
        exact fun channel member => hashable_of_isName (names channel member)
      rw [toSet]
      cases names : items.all isName with
      | true =>
          rw [if_pos (hashed names)]
          cases message <;> simp [passes, envelopeOf, names, hashed names, Except.toOption]
      | false =>
          cases unique : items.all hashable <;> cases message <;>
            simp only [passes, envelopeOf, names, unique, Except.toOption] <;> rfl

/-- What the loop broadcasts is an envelope, or passes for one. -/
theorem readBroadcast_isSome (loads : String → Option Value) (data : String) :
    (readBroadcast loads data).isSome = (misread loads data || (wellFormed loads data).isSome) := by
  rw [readBroadcast, readEnvelope, wellFormed, misread]
  cases loads data with
  | none => rfl
  | some envelope =>
      cases envelope with
      | scalar value => rfl
      | array items => rfl
      | object members =>
          simp only [bind, Except.bind, subscript]
          cases members.lookup "message" with
          | none => rfl
          | some message =>
              cases members.lookup "channels" with
              | none => rfl
              | some channels =>
                  have collected := toSet_isSome message channels
                  simp only [← collected]
                  cases toSet channels <;> rfl

theorem envelopeOf_passes {message channels : Value} (passed : passes message channels = true) :
    envelopeOf message channels = none := by
  cases channels with
  | object members => cases message <;> rfl
  | scalar value => cases message <;> rfl
  | array items =>
      cases message with
      | scalar value => rfl
      | array others => rfl
      | object fields =>
          rw [passes, Bool.and_eq_true, Bool.not_eq_true'] at passed
          rw [envelopeOf, passed.2, if_neg Bool.false_ne_true]

theorem wellFormed_misread (wrong : misread loads data = true) : wellFormed loads data = none := by
  rw [misread] at wrong
  split at wrong
  · next members loaded =>
      split at wrong
      · next message channels body names =>
          simp only [wellFormed, loaded, body, names]
          exact envelopeOf_passes wrong
      · cases wrong
  · cases wrong

theorem misread_iff (loads : String → Option Value) (data : String) :
    ((readBroadcast loads data).isSome → (wellFormed loads data).isSome) ↔
      misread loads data = false := by
  rw [readBroadcast_isSome]
  cases wrong : misread loads data with
  | false => simp
  | true => simp [wellFormed_misread wrong]

/-- The relay relays every envelope for as long as it is subscribed, the listener raises
nothing and no malformed payload passes for an envelope. -/
theorem relay_relays_every_iff (loads : String → Option Value) (subscribed : Bool)
    (outcomes : List Heard) :
    RelaysEvery loads subscribed outcomes ↔ subscribed = true ∧ .raises ∉ outcomes ∧
      ∀ data broadcastReturns, .item "message" data broadcastReturns ∈ outcomes →
        misread loads data = false := by
  have sound : ∀ heard broadcast, Heard.calls (wellFormed loads) heard = some broadcast →
      Heard.calls (readBroadcast loads) heard = some broadcast := by
    intro heard broadcast wanted
    cases heard with
    | raises => cases wanted
    | item type data broadcastReturns =>
        rw [Heard.calls] at wanted ⊢
        split at wanted
        · next message =>
            rw [if_pos message, readBroadcast, readEnvelope_wellFormed wanted, Except.toOption]
        · cases wanted
  cases subscribed with
  | false => simp [RelaysEvery, relayToLocalClients]
  | true =>
      rw [RelaysEvery, relayToLocalClients, if_pos rfl]
      by_cases raised : .raises ∈ outcomes
      · rw [relay_terminates raised]
        simp [raised]
      · rw [relay_goes_on rfl raised, List.nil_append]
        simp only [true_and, raised, not_false_eq_true]
        rw [filterMap_eq_iff sound]
        constructor
        · intro holds data broadcastReturns member
          have wanted := holds _ member
          simp only [Heard.calls, if_true] at wanted
          exact (misread_iff loads data).mp wanted
        · intro holds heard member
          cases heard with
          | raises => exact absurd member raised
          | item type data broadcastReturns =>
              rw [Heard.calls, Heard.calls]
              split
              · next message =>
                  exact (misread_iff loads data).mpr (holds data broadcastReturns (message ▸ member))
              · exact id

/-- A stand-in for `json.loads` that knows one text. -/
def Sample.jsonLoads : String → Option Value
  | "envelope" => some (publishedValue ⟨[("event_type", .string "heartbeat")], ["global"]⟩)
  | _ => none

/-- An outage of Redis, followed by an envelope. -/
theorem relay_stops_when_listener_raises :
    ¬ ∀ loads outcomes, RelaysEvery loads true outcomes := by
  intro always
  have running := (always Sample.jsonLoads [.raises, .item "message" "envelope" true]).1
  cases running

end InventoryManagement
