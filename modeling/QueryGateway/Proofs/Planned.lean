import QueryGateway.Proofs.Carried

/-!
# What a plan executes

A request that is accepted is executed as the queries that it carries, each with a text, and with the variables
of the target where it has none of its own.
-/

namespace QueryGateway.GraphQL

open Http Shape

namespace Handler

/-- Executions are those of the queries that a request carries, in order. -/
structure Executes (handler : Handler) (limit : Option Nat) (request : Request) (queries : List Query)
    (executions : List Execution) : Prop where
  carried : Carries limit request queries
  complete : ∀ query ∈ queries, ∃ text, query.text = some text
  inherited : ∃ values, (UrlParameters.ofUri request.head.uri).variableValues = .ok values ∧
    executions = queries.map fun query =>
      handler.providers.execution request.head (query.inheritVariables values)

theorem exists_text {query : Query} (present : ¬query.text.isNone = true) :
    ∃ text, query.text = some text := by
  cases given : query.text with
  | none =>
      rw [given] at present
      exact absurd rfl present
  | some text => exact ⟨text, rfl⟩

/-- The queries of a batch that is accepted all have a text, and each inherits the variables for itself. -/
theorem completeQueries_eq_ok {values : Option Members} {queries completed : List Query}
    (done : completeQueries values queries = .ok completed) :
    (∀ query ∈ queries, ∃ text, query.text = some text) ∧
      completed = queries.map fun query => query.inheritVariables values := by
  induction queries generalizing completed with
  | nil =>
      cases done
      exact ⟨fun query member => absurd member List.not_mem_nil, rfl⟩
  | cons query queries ih =>
      unfold completeQueries at done
      split at done
      · cases done
      next present =>
        obtain ⟨others, othersDone, rfl⟩ := map_eq_ok done
        obtain ⟨texts, rfl⟩ := ih othersDone
        refine ⟨?_, rfl⟩
        intro other member
        rcases List.mem_cons.mp member with rfl | member
        · exact exists_text present
        · exact texts other member

theorem collect_of_readBody {limit : Option Nat} {body : Body} {octets : Bytes}
    (done : readBody limit body = .ok octets) : Body.collect limit body = .ok octets := by
  unfold readBody at done
  split at done
  · next collected =>
    cases done
    exact collected
  · cases done
  · cases done

variable {handler : Handler} {limit : Option Nat} {request : Request}

theorem executes_of_text {text : String} {values : Option Members}
    (carried : Carries limit request
      [⟨some text, none, (UrlParameters.ofUri request.head.uri).operationName⟩])
    (read : (UrlParameters.ofUri request.head.uri).variableValues = .ok values) :
    handler.Executes limit request
      [⟨some text, none, (UrlParameters.ofUri request.head.uri).operationName⟩]
      (handler.planQuery request.head (UrlParameters.ofUri request.head.uri) text values).executions where
  carried := carried
  complete := by
    intro query member
    rw [List.mem_singleton] at member
    exact ⟨text, by rw [member]⟩
  inherited := ⟨values, read, rfl⟩

theorem executes_of_planGet {plan : Plan} (method : request.head.method = "GET")
    (accepted : handler.planGet request.head = .ok plan) :
    ∃ queries, handler.Executes limit request queries plan.executions := by
  simp only [planGet] at accepted
  split at accepted
  · cases accepted
  next text query =>
    obtain ⟨values, read, done⟩ := bind_eq_ok accepted
    cases done
    exact ⟨_, executes_of_text (.target (Or.inl method) query) read⟩

/-- What a JSON body asks for. -/
inductive Asks (octets : Bytes) : Payload → Prop
  | single {members : Members} {query : Query} (read : Json.parse octets = .ok (.object members))
      (written : query.WrittenAs (.object members)) : Asks octets (.single query)
  | batch {items : List Json} {queries : List Query} (read : Json.parse octets = .ok (.array items))
      (written : List.Forall₂ (fun item query => query.WrittenAs item) items queries) :
      Asks octets (.batch queries)

theorem run_of_fit {α : Type} {reader : TreeReader Json α} {value : Json} {a : α}
    (done : Payload.fit reader value = .ok a) : reader.run value = .ok a := by
  unfold Payload.fit at done
  split at done
  · next read =>
    cases done
    exact read
  · cases done

theorem writtenAs_of_shapedAs {items : List Json} {queries : List Query}
    (shaped : List.Forall₂ Query.ShapedAs items queries) :
    List.Forall₂ (fun item query => query.WrittenAs item) items queries :=
  shaped.imp fun _ _ own => own.written

theorem asks_of_ofBytes {octets : Bytes} {payload : Payload}
    (done : Payload.ofBytes octets = .ok payload) : Asks octets payload := by
  unfold Payload.ofBytes at done
  split at done
  · cases done
  next value parsed =>
    have plain := Json.plain_of_parse parsed
    unfold Payload.ofJson at done
    split at done
    · obtain ⟨query, read, rfl⟩ := map_eq_ok done
      exact .single parsed (Query.shapedAs_of_read plain (run_of_fit read)).written
    · obtain ⟨queries, read, rfl⟩ := map_eq_ok done
      exact .batch parsed (writtenAs_of_shapedAs ((Query.mapM_run_shape_iff plain).mp (run_of_fit read)))
    · cases done

theorem executes_of_planPayload {values : Option Members} {octets : Bytes} {payload : Payload}
    {plan : Plan} (brings : Brings limit request MediaType.json octets) (asks : Asks octets payload)
    (read : (UrlParameters.ofUri request.head.uri).variableValues = .ok values)
    (accepted : handler.planPayload request.head values payload = .ok plan) :
    ∃ queries, handler.Executes limit request queries plan.executions := by
  cases asks with
  | @single members query parsed written =>
      rw [planPayload] at accepted
      split at accepted
      · cases accepted
      next present =>
        cases accepted
        refine ⟨[query], .object brings parsed written, ?_, values, read, rfl⟩
        intro other member
        rw [List.mem_singleton] at member
        rw [member]
        exact exists_text present
  | @batch items queries parsed written =>
      rw [planPayload] at accepted
      split at accepted
      · cases accepted
      · obtain ⟨completed, completedEq, rfl⟩ := map_eq_ok accepted
        obtain ⟨texts, rfl⟩ := completeQueries_eq_ok completedEq
        refine ⟨queries, .batch brings parsed written, texts, values, read, ?_⟩
        exact List.map_map

theorem executes_of_planPost {plan : Plan} (method : request.head.method = "POST")
    (accepted : handler.planPost limit request.head request.body = .ok plan) :
    ∃ queries, handler.Executes limit request queries plan.executions := by
  simp only [planPost] at accepted
  obtain ⟨values, read, accepted⟩ := bind_eq_ok accepted
  split at accepted
  · next text query =>
    cases accepted
    exact ⟨_, executes_of_text (.target (Or.inr method) query) read⟩
  next noQuery =>
  split at accepted
  · next json =>
    obtain ⟨octets, body, accepted⟩ := bind_eq_ok accepted
    obtain ⟨payload, payloadRead, accepted⟩ := bind_eq_ok accepted
    exact executes_of_planPayload ⟨method, noQuery, json, collect_of_readBody body⟩
      (asks_of_ofBytes payloadRead) read accepted
  · split at accepted
    · next graphql =>
      obtain ⟨octets, body, accepted⟩ := bind_eq_ok accepted
      split at accepted
      · cases accepted
      next sound =>
        cases accepted
        refine ⟨_, executes_of_text (.text ⟨method, noQuery, graphql, ?_⟩) read⟩
        rw [Bytes.ofString_ofList, Utf8.encode_decodeLossy sound]
        exact collect_of_readBody body
    · cases accepted

/-- A request that is accepted is executed as the queries that it carries. -/
theorem executes_of_plan {plan : Plan} (accepted : handler.plan limit request = .ok plan) :
    ∃ queries, handler.Executes limit request queries plan.executions := by
  unfold Handler.plan at accepted
  split at accepted
  · next method => exact executes_of_planGet method accepted
  · split at accepted
    · next method => exact executes_of_planPost method accepted
    · cases accepted

end Handler

/-! ## Batches that are posted -/

/-- The request that posts a batch of queries. -/
def postedBatch (queries : List Query) : Request :=
  ⟨⟨"POST", ⟨"/graphql", none⟩, []⟩,
    Body.whole (Bytes.ofString (Json.array (queries.map Query.toJson)).text)⟩

/-- A batch of two queries. -/
def twoQueries : Request := postedBatch [.ofText "first", .ofText "second"]

/-- An execution of `twoQueries` by a new handler. -/
def executionOfTwo (text : String) : Execution := ⟨text, none, [], .request twoQueries.head, none⟩

theorem plan_twoQueries : (Handler.new ⟨true⟩).plan none twoQueries =
    .ok (.batch [executionOfTwo "first", executionOfTwo "second"]) := by
  with_unfolding_all rfl

end QueryGateway.GraphQL
