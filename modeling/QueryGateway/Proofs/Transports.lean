import QueryGateway.Proofs.QueryTexts
import QueryGateway.Proofs.TargetDocuments

/-!
# Ways to send a query

A query can be sent in the target of a request, with its text in the body and the rest in the target, or in the body
as the text of an object.  Each way decodes it on its own: from form-encoded pairs, from a JSON text inside one of
them, from UTF-8, from a JSON document.  They agree: the engine is asked for the same query, once, and what it
answers ends the handling in the same way.
-/

namespace QueryGateway

namespace GraphQL

open Http

/-! ## Ways to send a query -/

/-- A request sends a query in one of four ways. -/
inductive Sent (limit : Option Nat) (text : String) (values : Option Members) (operationName : Option String) :
    Request → Prop
  /-- In the target of a request with the method `GET`. -/
  | get {head : Head} {body : Body} (method : head.method = "GET")
      (given : InTarget head.uri (some text) values operationName) :
      Sent limit text values operationName ⟨head, body⟩
  /-- In the target of a request with the method `POST`, whatever its body is. -/
  | post {head : Head} {body : Body} (method : head.method = "POST")
      (given : InTarget head.uri (some text) values operationName) :
      Sent limit text values operationName ⟨head, body⟩
  /-- The text in the body, everything else in the target. -/
  | graphql {head : Head} {body : Body} (method : head.method = "POST")
      (type : Handler.contentType head = MediaType.graphql) (given : InTarget head.uri none values operationName)
      (arrives : Arrives limit body (.ok (Bytes.ofString text))) :
      Sent limit text values operationName ⟨head, body⟩
  /-- Everything in the body, as the text of an object. -/
  | json {head : Head} {body : Body} {octets : Bytes} (method : head.method = "POST")
      (type : Handler.contentType head = MediaType.json) (given : InTarget head.uri none none none)
      (arrives : Arrives limit body (.ok octets))
      (textIs : (⟨some text, values, operationName⟩ : Query).TextIs octets) :
      Sent limit text values operationName ⟨head, body⟩

/-- A query in a target is planned as it was sent, whatever the body is. -/
theorem InTarget.plan_eq {head : Head} {text : String} {values : Option Members} {operationName : Option String}
    (given : InTarget head.uri (some text) values operationName) (method : head.method = "GET" ∨ head.method = "POST")
    (handler : Handler) (limit : Option Nat) (body : Body) :
    handler.plan limit ⟨head, body⟩ =
      .ok (.single (handler.providers.execution head ⟨some text, values, operationName⟩)) := by
  have plan := @Handler.plan_of_targetQuery limit handler ⟨head, body⟩ _ method _ given.query_eq
    given.targetVariables
  rwa [given.operationName_eq] at plan

/-- A query that is sent is planned alone, as it was sent. -/
theorem Sent.plan_eq {limit : Option Nat} {text : String} {values : Option Members} {operationName : Option String}
    {request : Request} (sent : Sent limit text values operationName request) (handler : Handler) :
    handler.plan limit request =
      .ok (.single (handler.providers.execution request.head ⟨some text, values, operationName⟩)) := by
  cases sent with
  | get method given => exact given.plan_eq (Or.inl method) handler limit _
  | post method given => exact given.plan_eq (Or.inr method) handler limit _
  | @graphql head body method type given arrives =>
      have asks : AsksInBody ⟨head, body⟩ values := ⟨method, given.query_eq, given.targetVariables⟩
      have noFault : Utf8.fault? (Bytes.ofString text) = none := Utf8.fault?_eq_none_iff.mpr ⟨text, rfl⟩
      rw [asks.plan_graphql type, Handler.readBody_of_arrives arrives]
      dsimp only [bind, Except.bind]
      rw [noFault, Bytes.ofString, Utf8.decodeLossy_encode, String.ofList_toList]
      rw [Handler.planQuery_eq, given.operationName_eq]
  | @json head body octets method type given arrives textIs =>
      have asks : AsksInBody ⟨head, body⟩ none := ⟨method, given.query_eq, given.targetVariables⟩
      rw [asks.plan_json type, Handler.readBody_of_arrives arrives]
      dsimp only [bind, Except.bind]
      rw [textIs.ofBytes_eq]
      -- The target gives no variables that the query could inherit.
      show Except.ok (Plan.single _) = _
      rw [Query.inheritVariables, Option.or_none]

/-- A query with a number as its only variable. -/
def numbered : Query := ⟨some "a+b", some [("n", .number (.whole default))], some "A"⟩

end GraphQL

end QueryGateway
