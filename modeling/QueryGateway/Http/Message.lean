import QueryGateway.Http.Body
import QueryGateway.Http.MediaType
import QueryGateway.Http.Uri

/-!
# Requests and responses
-/

namespace QueryGateway.Http

/-- What precedes the body of a request. -/
structure Head where
  method : String
  uri : Uri
  headers : Headers
  deriving DecidableEq, Repr

/-- The name of the field that identifies a request. -/
def requestIdName : String := "x-request-id"

/-- The identifier of a request, if it is plain text. -/
def Head.requestId? (head : Head) : Option String := (head.headers.first? requestIdName).bind plainText?

/-- A request head as it is written: a token as method, a valid target, valid header fields. -/
def Head.build? (method target : String) (fields : List (String × Bytes)) : Option Head :=
  if isToken method then do
    let uri ← Uri.parse? target
    let headers ← Headers.build? fields
    some ⟨method, uri, headers⟩
  else none

/-- A request. -/
structure Request where
  head : Head
  body : Body
  deriving DecidableEq, Repr

/-- A response. -/
structure Response where
  status : Nat
  headers : Headers
  body : String
  deriving DecidableEq, Repr

namespace Response

/-- A response with a message for people. -/
def message (status : Nat) (text : String) : Response :=
  ⟨status, [("content-type", Bytes.ofString MediaType.plainText)], text⟩

/-- A response with a JSON text. -/
def json (text : String) : Response :=
  ⟨200, [("content-type", Bytes.ofString MediaType.json)], text⟩

/-- A response with nothing but its status. -/
def empty (status : Nat) : Response := ⟨status, [], ""⟩

/-- The length of the body, in octets. -/
def length (response : Response) : Nat := (Bytes.ofString response.body).length

end Response

end QueryGateway.Http
