import InventoryManagement.Core

/-! `app.core.error_handlers`: what a client is told of an exception depends on its class. -/

set_option autoImplicit false

namespace InventoryManagement

inductive ExceptionClass where
  | NotFoundError
  | ConflictError
  | ValidationError
  | InsufficientStockError
  | InactiveResourceError
  | MultipleResultsFound
  | IntegrityError
  | DataError
  | OperationalError
  | InvalidRequestError
  | AssertionError
  | outOfFuel
deriving DecidableEq

/-- `type(exc)`. -/
def Exception.type : Exception → ExceptionClass
  | .notFoundError _ => .NotFoundError
  | .conflictError _ => .ConflictError
  | .validationError _ => .ValidationError
  | .insufficientStockError _ => .InsufficientStockError
  | .inactiveResourceError _ => .InactiveResourceError
  | .multipleResultsFound => .MultipleResultsFound
  | .integrityError => .IntegrityError
  | .dataError => .DataError
  | .operationalError => .OperationalError
  | .invalidRequestError => .InvalidRequestError
  | .assertionError => .AssertionError
  | .outOfFuel => .outOfFuel

/-- `_STATUS_CODE_BY_EXCEPTION`, and the catch-all handler for the other classes. -/
def ExceptionClass.statusCode : ExceptionClass → Nat
  | .NotFoundError => 404
  | .ConflictError => 409
  | .InsufficientStockError => 409
  | .InactiveResourceError => 409
  | .ValidationError => 422
  | .MultipleResultsFound | .IntegrityError | .DataError | .OperationalError
  | .InvalidRequestError | .AssertionError | .outOfFuel => 500

/-- The status of the response to an exception. -/
def Exception.statusCode (error : Exception) : Nat := error.type.statusCode

end InventoryManagement
