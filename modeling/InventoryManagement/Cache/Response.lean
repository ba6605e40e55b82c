import InventoryManagement.Cache.Keys
import InventoryManagement.Interleaving.Assertion

/-! Functions wrapped by `cache_response`, called concurrently over one Redis while
the data behind them changes, time passes and Redis fails. -/

set_option autoImplicit false

namespace InventoryManagement.Cache

open Interleaving (Program Outcome Semantics System Thread)

/-- A function under `@cache_response(key_prefix, ttl_seconds)`, with the JSON of its
return type. -/
structure CachedFunction (Data Error : Type) where
  keyPrefix : String
  ttlSeconds : Int
  Model : Type
  body : Data → Keywords → Except Error Model
  modelDumpJson : Model → String
  modelValidateJson : String → Option Model
  restores : ∀ model, modelValidateJson (modelDumpJson model) = some model

structure Call (Function : Type) where
  function : Function
  kwargs : Keywords

inductive RedisError where
  | redisError

/-- What leaves the wrapper: an exception of the wrapped function, or pydantic's. -/
inductive Failure (Error : Type) where
  | raised (error : Error)
  | validationError

/-- What the wrapper awaits. -/
inductive Statement (Function : Type) where
  | func (call : Call Function)
  | get (key : String)
  | set (key text : String) (ex : Int)

variable {Function Data Error : Type}

@[reducible] def Statement.Response (functions : Function → CachedFunction Data Error) :
    Statement Function → Type
  | .func call => Except Error (functions call.function).Model
  | .get _ => Except RedisError (Option String)
  | .set _ _ _ => Except RedisError Unit

abbrev Awaiting (functions : Function → CachedFunction Data Error) (Value : Type) : Type :=
  Program (Statement Function) (Statement.Response functions) (Failure Error) Value

section Wrapper

variable (functions : Function → CachedFunction Data Error) (sha256 : Sha256)

/-- `await func(*args, **kwargs)`. -/
def func (call : Call Function) : Awaiting functions (functions call.function).Model :=
  .call (.func call) fun
    | .ok result => .ret result
    | .error error => .raise (.raised error)

def cacheKey (call : Call Function) : String :=
  buildCacheKey sha256 (functions call.function).keyPrefix call.kwargs

/-- What follows a cache miss; a `RedisError` of the write is logged. -/
def populate (call : Call Function) : Awaiting functions (functions call.function).Model :=
  (func functions call).bind fun result =>
    .call (.set (cacheKey functions sha256 call) ((functions call.function).modelDumpJson result)
      (functions call.function).ttlSeconds) fun _ => .ret result

/-- `return_type.model_validate_json(cached)`. -/
def validated (call : Call Function) (cached : String) :
    Awaiting functions (functions call.function).Model :=
  match (functions call.function).modelValidateJson cached with
  | some model => .ret model
  | none => .raise .validationError

def wrapper (call : Call Function) : Awaiting functions (functions call.function).Model :=
  if call.kwargs.hasRedis then
    .call (.get (cacheKey functions sha256 call)) fun
      | .error .redisError => func functions call
      | .ok (some cached) => validated functions call cached
      | .ok none => populate functions sha256 call
  else func functions call

end Wrapper

/-! Redis and the wrapped functions. -/

/-- A key of Redis: what it was set to, when, and for how long. -/
structure Entry where
  text : String
  time : Nat
  ex : Int

/-- Times are milliseconds. -/
def Entry.Live (entry : Entry) (clock : Nat) : Prop := (clock : Int) < entry.time + 1000 * entry.ex

instance Entry.decidableLive (entry : Entry) (clock : Nat) : Decidable (entry.Live clock) :=
  inferInstanceAs (Decidable ((clock : Int) < entry.time + 1000 * entry.ex))

section World

variable (functions : Function → CachedFunction Data Error)

/-- A call of a wrapped function that ended. -/
structure Computed where
  call : Call Function
  result : Except Error (functions call.function).Model

inductive Event where
  | computed (computed : Computed functions)
  | written (key : String) (entry : Entry)

/-- `history` has what happened so far, and is read by no step. -/
structure World where
  clock : Nat := 0
  entries : String → Option Entry := fun _ => none
  history : List (Event functions) := []

/-- When a call read the cache, and what had happened before. -/
structure Lookup where
  history : List (Event functions)
  clock : Nat

/-- What one call did; no step reads it. -/
structure Session where
  computed : List (Computed functions) := []
  lookup : Option (Lookup functions) := none

end World

/-- A command of Redis is carried out, or it is not, or the connection is lost after it. -/
inductive Connection where
  | available
  | unavailable
  | unacknowledged
deriving DecidableEq

/-- The time that passes before a statement, the data at that time, and Redis. -/
structure Answer (Data : Type) where
  elapsed : Nat
  data : Data
  connection : Connection

namespace World

variable {functions : Function → CachedFunction Data Error}

def elapse (world : World functions) (elapsed : Nat) : World functions :=
  { world with clock := world.clock + elapsed }

def record (world : World functions) (event : Event functions) : World functions :=
  { world with history := world.history ++ [event] }

def read (world : World functions) (key : String) : Option String :=
  match world.entries key with
  | some entry => if entry.Live world.clock then some entry.text else none
  | none => none

/-- `SET key text EX ex`, of a positive `ex`. -/
def write (world : World functions) (key text : String) (ex : Int) : World functions :=
  let entry : Entry := ⟨text, world.clock, ex⟩
  { world with
    entries := fun name => if name = key then some entry else world.entries name
    history := world.history ++ [.written key entry] }

end World

section Redis

variable (functions : Function → CachedFunction Data Error)

/-- Redis refuses an expire time that is not positive, which is a `RedisError` too. -/
def execute : (statement : Statement Function) → Answer Data → List (Session functions) →
    World functions → Session functions →
      Outcome (World functions) (Session functions) (Failure Error) (statement.Response functions)
  | .func call, answer, _, world, session =>
      let result := (functions call.function).body answer.data call.kwargs
      .done result ((world.elapse answer.elapsed).record (.computed ⟨call, result⟩))
        { session with computed := session.computed ++ [⟨call, result⟩] }
  | .get key, answer, _, world, session =>
      let world := world.elapse answer.elapsed
      .done (if answer.connection = .available then .ok (world.read key) else .error .redisError) world
        { session with lookup := some ⟨world.history, world.clock⟩ }
  | .set key text ex, answer, _, world, session =>
      let world := world.elapse answer.elapsed
      .done (if answer.connection = .available ∧ 0 < ex then .ok () else .error .redisError)
        (if answer.connection ≠ .unavailable ∧ 0 < ex then world.write key text ex else world) session

def redis : Semantics (Statement Function) (Statement.Response functions) (Failure Error) (Answer Data)
    (World functions) (Session functions) where
  execute := execute functions
  close := id

abbrev Result : Type := Sigma fun function => (functions function).Model

abbrev Running : Type :=
  Thread (Call Function) (Statement Function) (Statement.Response functions) (Failure Error)
    (Session functions) (Result functions)

abbrev Serving : Type :=
  System (Call Function) (Statement Function) (Statement.Response functions) (Failure Error)
    (World functions) (Session functions) (Result functions)

/-- The calls of wrapped functions over an empty Redis. -/
abbrev serving (sha256 : Sha256) (calls : List (Call Function)) : Serving functions :=
  System.start (redis functions)
    (fun call => (wrapper functions sha256 call).bind fun model => .ret ⟨call.function, model⟩) {} {} calls

end Redis

end InventoryManagement.Cache
