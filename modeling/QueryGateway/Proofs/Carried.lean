import QueryGateway.GraphQL.Handler
import QueryGateway.Proofs.QueryShapes
import QueryGateway.Proofs.Utf8
import Mathlib.Data.List.Forall2

/-!
# The queries that a request carries

How a client writes queries into a request, said without the handler: in the target, as the text of the body,
as an object in a JSON body, or as a list of them.  `Carries` is that relation; a request carries at most one
list of queries.
-/

namespace QueryGateway.GraphQL

open Http

/-- A request brings a body of a content type: it may, and its target asks for nothing. -/
structure Brings (limit : Option Nat) (request : Request) (essence : String) (octets : Bytes) :
    Prop where
  method : request.head.method = "POST"
  target : (UrlParameters.ofUri request.head.uri).query = none
  contentType : Handler.contentType request.head = essence
  body : Body.collect limit request.body = .ok octets

/-- A request carries queries, in order. -/
inductive Carries (limit : Option Nat) (request : Request) : List Query → Prop
  /-- The target asks for one query. -/
  | target {text : String} (method : request.head.method = "GET" ∨ request.head.method = "POST")
      (query : (UrlParameters.ofUri request.head.uri).query = some text) :
      Carries limit request [⟨some text, none, (UrlParameters.ofUri request.head.uri).operationName⟩]
  /-- The body is the text of one query. -/
  | text {text : String} (brings : Brings limit request MediaType.graphql (Bytes.ofString text)) :
      Carries limit request [⟨some text, none, (UrlParameters.ofUri request.head.uri).operationName⟩]
  /-- The body writes one query as an object. -/
  | object {octets : Bytes} {members : Members} {query : Query}
      (brings : Brings limit request MediaType.json octets)
      (read : Json.parse octets = .ok (.object members))
      (written : query.WrittenAs (.object members)) : Carries limit request [query]
  /-- The body writes a list of queries. -/
  | batch {octets : Bytes} {items : List Json} {queries : List Query}
      (brings : Brings limit request MediaType.json octets)
      (read : Json.parse octets = .ok (.array items))
      (written : List.Forall₂ (fun item query => query.WrittenAs item) items queries) :
      Carries limit request queries

theorem Brings.not_target {limit : Option Nat} {request : Request} {essence text : String}
    {octets : Bytes} (brings : Brings limit request essence octets) :
    (UrlParameters.ofUri request.head.uri).query ≠ some text := by
  rw [brings.target]
  exact nofun

theorem Brings.unique {limit : Option Nat} {request : Request} {essence other : String}
    {octets more : Bytes} (first : Brings limit request essence octets)
    (second : Brings limit request other more) : essence = other ∧ octets = more := by
  have sameOctets : Except.ok octets = (.ok more : Except BodyFault Bytes) := by
    rw [← first.body, second.body]
  exact ⟨by rw [← first.contentType, second.contentType], Except.ok.inj sameOctets⟩

theorem Brings.not_text_and_json {limit : Option Nat} {request : Request} {octets more : Bytes}
    (first : Brings limit request MediaType.graphql octets)
    (second : Brings limit request MediaType.json more) : False :=
  absurd (first.unique second).1 (by decide)

theorem Brings.value_unique {limit : Option Nat} {request : Request} {octets more : Bytes}
    {value other : Json} (first : Brings limit request MediaType.json octets)
    (read : Json.parse octets = .ok value) (second : Brings limit request MediaType.json more)
    (readOther : Json.parse more = .ok other) : value = other := by
  rw [← (first.unique second).2, read] at readOther
  exact Except.ok.inj readOther

/-- A request carries at most one list of queries. -/
theorem Carries.unique {limit : Option Nat} {request : Request} {queries others : List Query}
    (first : Carries limit request queries) (second : Carries limit request others) :
    queries = others := by
  cases first with
  | target _ query =>
      cases second with
      | target _ query' =>
          rw [query] at query'
          cases query'
          rfl
      | text brings => exact absurd query brings.not_target
      | object brings => exact absurd query brings.not_target
      | batch brings => exact absurd query brings.not_target
  | text brings =>
      cases second with
      | target _ query => exact absurd query brings.not_target
      | text brings' => rw [Bytes.ofString_injective (brings.unique brings').2]
      | object brings' => exact (brings.not_text_and_json brings').elim
      | batch brings' => exact (brings.not_text_and_json brings').elim
  | object brings read written =>
      cases second with
      | target _ query => exact absurd query brings.not_target
      | text brings' => exact (brings'.not_text_and_json brings).elim
      | object brings' read' written' =>
          cases brings.value_unique read brings' read'
          rw [written.unique written']
      | batch brings' read' => cases brings.value_unique read brings' read'
  | batch brings read written =>
      cases second with
      | target _ query => exact absurd query brings.not_target
      | text brings' => exact (brings'.not_text_and_json brings).elim
      | object brings' read' => cases brings.value_unique read brings' read'
      | batch brings' read' written' =>
          cases brings.value_unique read brings' read'
          exact Query.WrittenAs.rightUnique.forall₂ written written'

end QueryGateway.GraphQL
