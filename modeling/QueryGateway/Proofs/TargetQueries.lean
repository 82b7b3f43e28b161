import QueryGateway.Proofs.SameButType

/-!
# Queries in targets make bodies irrelevant

A request with the method `GET`, and one with the method `POST` and a query in its target, is decided by its target
alone.  Its body is never read, so it does not matter how it is cut, whether it fails on the way, or how long it may
be; and neither do its content types, whatever they say and however many there are.
-/

namespace QueryGateway

open Http

namespace GraphQL

/-- A request asks for something in its target, and may not or need not ask in a body. -/
def AsksInTarget (head : Head) : Prop :=
  head.method = "GET" ∨ head.method = "POST" ∧ (UrlParameters.ofUri head.uri).query ≠ none

/-- A rejection tells of nothing but the target. -/
def Rejection.IsOfTarget (rejection : Rejection) : Prop :=
  rejection = .queryMissing ∨ ∃ error, rejection = .invalidVariables error

section

variable {head : Head} (asks : AsksInTarget head)
include asks

theorem AsksInTarget.method : head.method = "GET" ∨ head.method = "POST" := asks.imp_right And.left

/-- One verdict holds for all requests with the same method and the same target, and if it rejects them then because
of the target. -/
theorem AsksInTarget.exists_planned : ∃ verdict : Verdict,
    (∀ status rejection, verdict = .reject status rejection → rejection.IsOfTarget) ∧
      ∀ (handler : Handler) (limit : Option Nat) (request : Request), request.head.method = head.method →
        request.head.uri = head.uri → Planned handler limit request verdict := by
  cases query : (UrlParameters.ofUri head.uri).query with
  | none =>
      have get : head.method = "GET" := asks.resolve_right fun post => post.2 query
      refine ⟨.reject 400 .queryMissing, ?_, ?_⟩
      · rintro _ _ ⟨⟩
        exact Or.inl rfl
      · intro handler limit request method uri
        refine ⟨?_, rfl⟩
        rw [Handler.plan_get (method.trans get), Handler.planGet, uri]
        simp only [query]
        rfl
  | some text =>
      rcases targetVariables_cases ⟨head, []⟩ with ⟨values, given⟩ | ⟨_, written, error, given, -, read, -⟩
      · refine ⟨.single ⟨some text, values, (UrlParameters.ofUri head.uri).operationName⟩, ?_, ?_⟩
        · rintro _ _ ⟨⟩
        intro handler limit request method uri
        have planned := @Handler.plan_of_targetQuery limit handler request values (method ▸ asks.method) text
          (uri ▸ query) (uri ▸ given)
        rw [uri] at planned
        exact ⟨planned, trivial⟩
      · refine ⟨.reject 400 (.invalidVariables error), ?_, ?_⟩
        · rintro _ _ ⟨⟩
          exact Or.inr ⟨error, rfl⟩
        · intro handler limit request method uri
          have asked : (UrlParameters.ofUri request.head.uri).query ≠ none := by
            rw [uri, query]
            exact Option.some_ne_none text
          have faulty := @variableValues_of_fault request written error (uri ▸ given) read
          exact ⟨Handler.plan_of_faultyVariables (method ▸ asks.method) (fun _ => asked) faulty, rfl⟩

/-- A request that asks in its target is handled without its body and without its content types.  With another body
the handling is the same, under any limit, even if the body fails.  With other content types as well, the same is
handed to the engine, and if nobody reads the type then it ends in the same response or failure.  And it is never
rejected because of a body or a type. -/
theorem target_decides_alone (handler : Handler) (engine : Engine) (ordinal : Nat) :
    (∀ limit limit' body body', handler.handle engine ordinal limit' ⟨head, body'⟩ =
        handler.handle engine ordinal limit ⟨head, body⟩) ∧
      (∀ other, SameButType head other → ∀ limit limit' body body',
        HandledAlike handler engine head other (handler.handle engine ordinal limit ⟨head, body⟩)
          (handler.handle engine ordinal limit' ⟨other, body'⟩)) ∧
      ∀ limit body rejection,
        (handler.handle engine ordinal limit ⟨head, body⟩).ending = .failure (.rejected rejection) →
          rejection.IsOfTarget := by
  obtain ⟨verdict, ofTarget, planned⟩ := asks.exists_planned
  have own (limit : Option Nat) (body : Body) : Planned handler limit ⟨head, body⟩ verdict :=
    planned handler limit _ rfl rfl
  refine ⟨?_, ?_, ?_⟩
  · intro limit limit' body body'
    exact handle_of_plan_eq ((own limit' body').1.trans (own limit body).1.symm) engine ordinal
  · intro other same limit limit' body body'
    have others := planned handler limit' ⟨other, body'⟩ same.method same.uri
    exact (own limit body).handledAlike others same engine ordinal
  · intro limit body rejection ending
    have met := (own limit body).isMet engine ordinal
    cases verdict with
    | reject status told =>
        rw [met.1] at ending
        cases ending
        exact ofTarget status rejection rfl
    | single query => exact absurd ⟨rejection, ending⟩ met.2.2
    | batch queries => exact absurd ⟨rejection, ending⟩ met.2.2

end

/-- The head of a request with a query in its target, and with content types. -/
def headWithTypes (types : List String) : Head :=
  ⟨"POST", ⟨"/graphql", some "query=a"⟩, types.map fun type => ("content-type", Bytes.ofString type)⟩

/-- A query in the target is executed, though the type is not supported and the body breaks off; it is answered as
without a type, with a body that would be too long. -/
theorem answered_beside_broken_body :
    let broken := (Handler.new ⟨false⟩).handle Engine.echo 0 none
      ⟨headWithTypes ["text/xml", "application/json"], [.failure "reset"]⟩
    let long := (Handler.new ⟨false⟩).handle Engine.echo 0 (some 3) ⟨headWithTypes [], .whole (Bytes.ofString "long")⟩
    (∃ response, broken.ending = .response response) ∧ long.ending = broken.ending := by
  intro broken long
  have asks : AsksInTarget (headWithTypes ["text/xml", "application/json"]) := Or.inr ⟨rfl, by with_unfolding_all nofun⟩
  have same : SameButType (headWithTypes ["text/xml", "application/json"]) (headWithTypes []) := ⟨rfl, rfl, rfl⟩
  obtain ⟨-, alike, -⟩ := target_decides_alone asks (Handler.new ⟨false⟩) Engine.echo 0
  obtain ⟨-, -, ending⟩ := (alike _ same none (some 3) [.failure "reset"] (.whole (Bytes.ofString "long"))).blind
    Providers.ignoreType_standard Engine.ignoresType_echo
  exact ⟨⟨_, by with_unfolding_all rfl⟩, ending⟩

end GraphQL

end QueryGateway
