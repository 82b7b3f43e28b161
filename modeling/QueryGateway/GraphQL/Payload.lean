import QueryGateway.GraphQL.Failure
import QueryGateway.GraphQL.Query
import QueryGateway.Shape.OfTree

/-!
# Payloads

What a JSON body asks for: one query, or a batch of queries in order.  The whole text is read before its
shape is looked at, so a violation of the grammar anywhere counts before a mismatch.
-/

namespace QueryGateway.GraphQL

open Shape

/-- What a body asks for. -/
inductive Payload where
  | single (query : Query)
  | batch (queries : List Query)

namespace Payload

/-- A value of a shape in a value that was read. -/
def fit {α : Type} (reader : TreeReader Json α) (value : Json) : Except Rejection α :=
  match reader.run value with
  | .ok a => .ok a
  | .error misfit => .error (.invalidBody ⟨.shape misfit.mismatch, none⟩)

/-- The payload of a JSON value: an object is a query, an array a batch. -/
def ofJson : Json → Except Rejection Payload
  | .object members => (fit Query.shape (.object members)).map .single
  | .array items => (fit (Format.list Query.shape) (.array items)).map .batch
  | _ => .error .unrecognizedPayload

/-- The payload of a body. -/
def ofBytes (bs : Bytes) : Except Rejection Payload :=
  match Json.parse bs with
  | .error error => .error (.invalidBody error)
  | .ok value => ofJson value

end Payload

end QueryGateway.GraphQL
