import InventoryManagement.Events

/-! `DomainEvent` with its envelope, and the in-process event publisher. -/

set_option autoImplicit false

namespace InventoryManagement

/-- An aware `datetime` in UTC. -/
structure DateTime where
  year : Nat
  month : Nat
  day : Nat
  hour : Nat
  minute : Nat
  second : Nat
  microsecond : Nat
deriving DecidableEq

def zeroPadded (width value : Nat) : String :=
  String.ofList (List.replicate (width - (toString value).length) '0') ++ toString value

/-- `isoformat()`; the microseconds appear only when there are some. -/
def DateTime.isoformat (time : DateTime) : String :=
  zeroPadded 4 time.year ++ "-" ++ zeroPadded 2 time.month ++ "-" ++ zeroPadded 2 time.day ++ "T" ++
    zeroPadded 2 time.hour ++ ":" ++ zeroPadded 2 time.minute ++ ":" ++ zeroPadded 2 time.second ++
    (if time.microsecond = 0 then "" else "." ++ zeroPadded 6 time.microsecond) ++ "+00:00"

/-- The envelope every event carries, around what its class adds. -/
structure DomainEvent where
  eventId : UUID
  occurredAt : DateTime
  inventory : InventoryEvent
deriving DecidableEq

def DomainEvent.eventType (event : DomainEvent) : String := event.inventory.eventType

/-- `InProcessEventPublisher`, generic in what a call of a handler does. -/
structure InProcessEventPublisher (Effect : Type) where
  handlers : String → List (DomainEvent → Effect) := fun _ => []

namespace InProcessEventPublisher

variable {Effect : Type}

def subscribe (publisher : InProcessEventPublisher Effect) (eventType : String)
    (handler : DomainEvent → Effect) : InProcessEventPublisher Effect where
  handlers other :=
    if other = eventType then publisher.handlers other ++ [handler] else publisher.handlers other

/-- The handler calls that `gather` runs concurrently. -/
def publish (publisher : InProcessEventPublisher Effect) (event : DomainEvent) : List Effect :=
  (publisher.handlers event.eventType).map (fun handler => handler event)

theorem handlers_subscribe (publisher : InProcessEventPublisher Effect) (eventType other : String)
    (handler : DomainEvent → Effect) :
    (publisher.subscribe eventType handler).handlers other =
      publisher.handlers other ++ if other = eventType then [handler] else [] := by
  by_cases here : other = eventType <;> simp [subscribe, here]

theorem handlers_subscribe_all (publisher : InProcessEventPublisher Effect)
    {eventTypes : List String} (unique : eventTypes.Nodup) (other : String)
    (handler : DomainEvent → Effect) :
    (eventTypes.foldl (fun publisher eventType => publisher.subscribe eventType handler)
      publisher).handlers other =
      publisher.handlers other ++ if other ∈ eventTypes then [handler] else [] := by
  induction eventTypes generalizing publisher with
  | nil => simp
  | cons eventType rest ih =>
      obtain ⟨fresh, unique⟩ := List.nodup_cons.mp unique
      rw [List.foldl_cons, ih _ unique, handlers_subscribe]
      by_cases here : other = eventType
      · simp [here, fresh]
      · simp [here]

end InProcessEventPublisher

end InventoryManagement
