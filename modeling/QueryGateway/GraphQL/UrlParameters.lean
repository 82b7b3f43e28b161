import QueryGateway.GraphQL.Failure
import QueryGateway.Http.Form
import QueryGateway.Shape.OfText

/-!
# Parameters in the target of a request

Of each parameter the first value counts.  The variables are a JSON object in a text, which is read only when
it is asked for.
-/

namespace QueryGateway.GraphQL

open Http Shape

/-- The parameters in the target of a request. -/
structure UrlParameters where
  query : Option String
  variablesText : Option String
  operationName : Option String
  deriving DecidableEq, Repr

namespace UrlParameters

/-- The parameters among some pairs. -/
def ofPairs (pairs : List (String × String)) : UrlParameters :=
  ⟨Form.first? pairs "query", Form.first? pairs "variables", Form.first? pairs "operationName"⟩

/-- The parameters in a target. -/
def ofUri (uri : Uri) : UrlParameters := ofPairs (Form.pairs (uri.query.getD ""))

/-- The variables, if there is a parameter for them. -/
def variableValues (parameters : UrlParameters) : Except Rejection (Option Members) :=
  match parameters.variablesText with
  | none => .ok none
  | some text =>
    match TextReader.parse JsonFormat.members (Bytes.ofString text) with
    | .ok members => .ok (some members)
    | .error error => .error (.invalidVariables error)

end UrlParameters

end QueryGateway.GraphQL
