import InventoryManagement.Websockets.Listeners
import Mathlib.Logic.Function.Iterate

/-! What importing the application does to a process. Left out are the modules from
which neither the event publisher nor a registration can be reached. -/

set_option autoImplicit false

namespace InventoryManagement

inductive Module where
  | main
  | apiRouter
  | endpointsAlerts
  | endpointsInventory
  | endpointsReports
  | endpointsWebsockets
  | apiDeps
  | coreScheduler
  | eventsPublisher
  | servicesAlert
  | servicesInventoryCommand
  | tasksAlerts
  | tasksCeleryApp
  | tasksNotifications
  | tasksReports
  | websocketsListeners
  | websocketsManager
  | websocketsPubsub
deriving DecidableEq

/-- The statements of a module body that matter here. -/
inductive ModuleStatement where
  | importModule (module : Module)
  | createEventPublisher
  | registerWebsocketListeners

/-- The module bodies, in the order of their statements. -/
def Module.body : Module → List ModuleStatement
  | .main => [.importModule .apiRouter, .importModule .coreScheduler,
      .importModule .eventsPublisher, .importModule .websocketsListeners,
      .importModule .websocketsManager, .importModule .websocketsPubsub,
      .registerWebsocketListeners]
  | .apiRouter => [.importModule .endpointsAlerts, .importModule .endpointsInventory,
      .importModule .endpointsReports, .importModule .endpointsWebsockets]
  | .endpointsAlerts => [.importModule .apiDeps, .importModule .servicesAlert]
  | .endpointsInventory => [.importModule .apiDeps, .importModule .servicesInventoryCommand]
  | .endpointsReports => [.importModule .apiDeps]
  | .endpointsWebsockets => [.importModule .websocketsManager]
  | .apiDeps => [.importModule .eventsPublisher]
  | .coreScheduler => [.importModule .websocketsManager]
  | .eventsPublisher => [.createEventPublisher]
  | .servicesAlert => [.importModule .tasksNotifications]
  | .servicesInventoryCommand => [.importModule .servicesAlert]
  | .tasksAlerts => [.importModule .eventsPublisher, .importModule .servicesAlert,
      .importModule .tasksCeleryApp]
  | .tasksCeleryApp => [.importModule .eventsPublisher, .importModule .websocketsListeners,
      .importModule .websocketsPubsub, .registerWebsocketListeners]
  | .tasksNotifications => [.importModule .tasksCeleryApp]
  | .tasksReports => [.importModule .tasksCeleryApp]
  | .websocketsListeners => [.importModule .websocketsPubsub]
  | .websocketsManager => []
  | .websocketsPubsub => [.importModule .websocketsManager]

/-- `sys.modules`, and the `EventPublisher` singleton once its module has run. -/
structure Interpreter where
  modules : List Module := []
  eventPublisher : Option (InProcessEventPublisher Envelope) := none

/-- An import runs a module's body unless the module is in `sys.modules`. The first
argument bounds how deep imports nest. -/
def Interpreter.importModule : Nat → Module → Interpreter → Option Interpreter
  | 0, _, _ => none
  | depth + 1, module, interpreter =>
      if module ∈ interpreter.modules then some interpreter
      else module.body.foldlM (fun interpreter statement =>
        match statement with
        | .importModule module => importModule depth module interpreter
        | .createEventPublisher => some { interpreter with eventPublisher := some {} }
        | .registerWebsocketListeners => interpreter.eventPublisher.map (fun publisher =>
            { interpreter with eventPublisher := some (registerWebsocketListeners publisher) }))
        { interpreter with modules := module :: interpreter.modules }

inductive Role where
  | api
  | worker
deriving DecidableEq

/-- The modules a process starts with; a worker goes on to Celery's `include`. -/
def Role.entry : Role → List Module
  | .api => [.main]
  | .worker => [.tasksCeleryApp, .tasksAlerts, .tasksNotifications, .tasksReports]

def Role.initialise (role : Role) : Option Interpreter :=
  role.entry.foldlM (fun interpreter module => interpreter.importModule 18 module) {}

/-- The `EventPublisher` singleton of an initialised process. -/
def Role.eventPublisher (role : Role) : InProcessEventPublisher Envelope :=
  (role.initialise.bind (·.eventPublisher)).getD {}

/-- How often `register_websocket_listeners` runs while a process starts. -/
def Role.registrations : Role → Nat
  | .api => 2
  | .worker => 1

theorem Role.initialise_eventPublisher (role : Role) :
    role.initialise.bind (·.eventPublisher) =
      some ((registerWebsocketListeners^[role.registrations]) {}) := by
  cases role <;> rfl

theorem publish_iterate_register (count : Nat) (event : DomainEvent) :
    ((registerWebsocketListeners^[count]) {}).publish event =
      List.replicate count (broadcastEvent event) := by
  induction count with
  | zero => rfl
  | succ count ih =>
      rw [Function.iterate_succ_apply', publish_register, ih, List.replicate_succ']

/-- Every event is broadcast once for each registration. -/
theorem Role.publish_event (role : Role) (event : DomainEvent) :
    role.eventPublisher.publish event =
      List.replicate role.registrations (broadcastEvent event) := by
  rw [Role.eventPublisher, Role.initialise_eventPublisher, Option.getD_some,
    publish_iterate_register]

end InventoryManagement
