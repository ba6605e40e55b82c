import InventoryManagement.Events.Publisher
import Mathlib.Data.List.Dedup

/-! `register_websocket_listeners`: every inventory event is serialized and handed
to the Redis broadcaster together with its warehouse channels. -/

set_option autoImplicit false

namespace InventoryManagement

inductive JsonValue where
  | string (value : String)
  | number (value : Int)
deriving DecidableEq

/-- A JSON object, in the order its keys were set. -/
abbrev Message := List (String × JsonValue)

/-- What is published on `BROADCAST_CHANNEL`. The channels are a set: neither their
order nor a repetition matters. -/
structure Envelope where
  message : Message
  channels : List String
deriving DecidableEq

/-- The type of a dataclass field's value. -/
inductive FieldValue where
  | uuid (value : UUID)
  | datetime (value : DateTime)
  | int (value : Int)

def FieldValue.serialize : FieldValue → JsonValue
  | .uuid value => .string value.str
  | .datetime value => .string value.isoformat
  | .int value => .number value

def InventoryEvent.fields : InventoryEvent → List (String × FieldValue)
  | .stockReceived productId warehouseId quantity resultingQuantity
  | .stockRemoved productId warehouseId quantity resultingQuantity => [
      ("product_id", .uuid productId), ("warehouse_id", .uuid warehouseId),
      ("quantity", .int quantity), ("resulting_quantity", .int resultingQuantity)]
  | .stockTransferred productId sourceWarehouseId destinationWarehouseId quantity => [
      ("product_id", .uuid productId), ("source_warehouse_id", .uuid sourceWarehouseId),
      ("destination_warehouse_id", .uuid destinationWarehouseId), ("quantity", .int quantity)]
  | .lowStockDetected productId warehouseId quantity threshold => [
      ("product_id", .uuid productId), ("warehouse_id", .uuid warehouseId),
      ("quantity", .int quantity), ("threshold", .int threshold)]
  | .outOfStockDetected productId warehouseId => [
      ("product_id", .uuid productId), ("warehouse_id", .uuid warehouseId)]

/-- `dataclasses.fields(event)`: those of the base class come first. -/
def DomainEvent.fields (event : DomainEvent) : List (String × FieldValue) :=
  ("event_id", .uuid event.eventId) :: ("occurred_at", .datetime event.occurredAt) ::
    event.inventory.fields

def serializeEvent (event : DomainEvent) : Message :=
  ("event_type", .string event.eventType) ::
    event.fields.map (fun field => (field.1, field.2.serialize))

def channelsFor (event : DomainEvent) : List String :=
  match event.inventory with
  | .stockTransferred _ sourceWarehouseId destinationWarehouseId _ =>
      [sourceWarehouseId.str, destinationWarehouseId.str].dedup
  | .stockReceived _ warehouseId _ _ | .stockRemoved _ warehouseId _ _
  | .lowStockDetected _ warehouseId _ _ | .outOfStockDetected _ warehouseId => [warehouseId.str]

/-- The handler: what `RedisBroadcaster.publish` sends for an event. -/
def broadcastEvent (event : DomainEvent) : Envelope where
  message := serializeEvent event
  channels := channelsFor event

/-- The values of `_BROADCAST_EVENT_TYPES`. -/
def broadcastEventTypes : List String := [
  "inventory.stock_received", "inventory.stock_removed", "inventory.stock_transferred",
  "inventory.low_stock_detected", "inventory.out_of_stock_detected"]

def registerWebsocketListeners (publisher : InProcessEventPublisher Envelope) :
    InProcessEventPublisher Envelope :=
  broadcastEventTypes.foldl (fun publisher eventType => publisher.subscribe eventType broadcastEvent)
    publisher

theorem eventType_broadcast (event : DomainEvent) : event.eventType ∈ broadcastEventTypes := by
  rw [DomainEvent.eventType]
  cases event.inventory <;> simp [InventoryEvent.eventType, broadcastEventTypes]

/-- Each registration adds one broadcast of every event. -/
theorem publish_register (publisher : InProcessEventPublisher Envelope) (event : DomainEvent) :
    (registerWebsocketListeners publisher).publish event =
      publisher.publish event ++ [broadcastEvent event] := by
  rw [InProcessEventPublisher.publish, registerWebsocketListeners,
    InProcessEventPublisher.handlers_subscribe_all _ (by decide), if_pos (eventType_broadcast event),
    List.map_append]
  rfl

theorem eventId_of_serializeEvent {left right : DomainEvent}
    (same : serializeEvent left = serializeEvent right) : left.eventId = right.eventId := by
  simp only [serializeEvent, DomainEvent.fields, List.map_cons, List.cons.injEq, Prod.mk.injEq,
    FieldValue.serialize, JsonValue.string.injEq, true_and] at same
  exact UUID.str_injective same.2.1

def InventoryEvent.warehouseIds : InventoryEvent → List UUID
  | .stockTransferred _ sourceWarehouseId destinationWarehouseId _ =>
      [sourceWarehouseId, destinationWarehouseId]
  | .stockReceived _ warehouseId _ _ | .stockRemoved _ warehouseId _ _
  | .lowStockDetected _ warehouseId _ _ | .outOfStockDetected _ warehouseId => [warehouseId]

theorem mem_channelsFor {event : DomainEvent} {channel : String} :
    channel ∈ channelsFor event ↔ ∃ id ∈ event.inventory.warehouseIds, channel = id.str := by
  rw [channelsFor]
  cases event.inventory <;> simp [InventoryEvent.warehouseIds]

end InventoryManagement
