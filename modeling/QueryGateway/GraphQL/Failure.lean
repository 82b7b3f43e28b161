import QueryGateway.Http.Message
import QueryGateway.Json.Fault

/-!
# Failures of requests

Why a request has no answer.  A rejection is found before anything is executed; the other failures come from
an execution.  `Failure.response` is what the client is told.
-/

namespace QueryGateway.GraphQL

open Http

/-- Why a request is refused before anything is executed. -/
inductive Rejection where
  | queryMissing
  | invalidQueryString (detail : String)
  | invalidVariables (error : Json.Error)
  | invalidBody (error : Json.Error)
  | invalidUtf8 (fault : Utf8.Fault)
  | bodyUnreadable (detail : String)
  | payloadTooLarge
  | batchingDisabled
  | unsupportedMediaType (essence : String)
  | methodNotAllowed (method : String)
  | unrecognizedPayload
  deriving DecidableEq, Repr

namespace Rejection

/-- The text of a rejection. -/
def message : Rejection → String
  | .queryMissing => "Query is missing"
  | .invalidQueryString detail => "Invalid query string: " ++ detail
  | .invalidVariables error => "Invalid variables: " ++ error.message
  | .invalidBody error => "Invalid request body: " ++ error.message
  | .invalidUtf8 _ => "Request body is not valid UTF-8"
  | .bodyUnreadable detail => "Failed to read request body: " ++ detail
  | .payloadTooLarge => "Request body too large"
  | .batchingDisabled => "Request batching is disabled"
  | .unsupportedMediaType essence => "Unsupported content type: " ++ essence
  | .methodNotAllowed method => "Method not allowed: " ++ method
  | .unrecognizedPayload => "Unrecognized GraphQL payload"

/-- The status of a rejection. -/
def status : Rejection → Nat
  | .payloadTooLarge => 413
  | .unsupportedMediaType _ => 415
  | .methodNotAllowed _ => 405
  | .unrecognizedPayload => 500
  | _ => 400

/-- The text of the fault behind a rejection. -/
def source? : Rejection → Option String
  | .invalidVariables error => some error.message
  | .invalidBody error => some error.message
  | .invalidUtf8 fault => some fault.message
  | .bodyUnreadable detail => some detail
  | _ => none

end Rejection

/-- A failure that the engine reports, with the status it chooses. -/
structure EngineFailure where
  message : String
  chosenStatus : Option Nat
  deriving DecidableEq, Repr

/-- The status of a failure that the engine reports. -/
def EngineFailure.status (failure : EngineFailure) : Nat := failure.chosenStatus.getD 500

/-- Why a request has no answer. -/
inductive Failure where
  | rejected (rejection : Rejection)
  /-- An execution of a batch panicked. -/
  | taskFailed (message : String)
  | engine (failure : EngineFailure)
  deriving DecidableEq, Repr

namespace Failure

/-- What stands in messages in place of the number of a task. -/
def taskLabel : String := "N"

/-- The text of a failed task. -/
def taskMessage (message : String) : String :=
  "task " ++ taskLabel ++ " panicked with message " ++ Text.quote message

/-- The text of a failure. -/
def message : Failure → String
  | .rejected rejection => rejection.message
  | .taskFailed message => "Execution task failed: " ++ taskMessage message
  | .engine failure => failure.message

/-- The status of a failure. -/
def status : Failure → Nat
  | .rejected rejection => rejection.status
  | .taskFailed _ => 500
  | .engine failure => failure.status

/-- The text of the fault behind a failure. -/
def source? : Failure → Option String
  | .rejected rejection => rejection.source?
  | .taskFailed message => some (taskMessage message)
  | .engine _ => none

/-- The methods that a client may use. -/
def allowedMethods : String := "GET, POST"

/-- What the client is told: the text, and the methods it may use when it used another. -/
def response (failure : Failure) : Response :=
  let plain := Response.message failure.status failure.message
  if failure.status = 405 then
    { plain with headers := plain.headers.set "allow" (Bytes.ofString allowedMethods) }
  else plain

end Failure

end QueryGateway.GraphQL
