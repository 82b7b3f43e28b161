import QueryGateway.Proofs.Precedence
import QueryGateway.Proofs.QueryTexts

/-!
# A batch and its queries sent alone

A batch is read, executed and answered on a way of its own.  It agrees with its queries sent alone: if each of them
is accepted alone, the batch asks the engine for the same executions in the same order, and its answer is put
together from the texts of their answers; and if one of them is rejected alone, the batch is rejected as a whole.
-/

namespace QueryGateway

namespace Json

/-! ## The text of a list -/

theorem itemsChars_eq (items : List Json) :
    itemsChars items = items.flatMap (fun item => ',' :: item.chars) ++ [']'] := by
  induction items with
  | nil => rfl
  | cons item items ih =>
      rw [itemsChars, ih, List.flatMap_cons, List.cons_append, List.cons_append, List.append_assoc]

theorem flatMap_eq_intercalate (item : Json) (items : List Json) :
    item.chars ++ items.flatMap (fun item => ',' :: item.chars) =
      [','].intercalate ((item :: items).map chars) := by
  induction items generalizing item with
  | nil => rw [List.flatMap_nil, List.append_nil, List.map_cons, List.map_nil, List.intercalate_singleton]
  | cons next items ih =>
      rw [List.flatMap_cons, List.cons_append, ih, List.map_cons, List.map_cons, List.map_cons,
        List.intercalate_cons_cons, List.append_assoc]
      rfl

/-- The text of a list is put together from the texts of its items. -/
theorem text_array (items : List Json) :
    (Json.array items).text = "[" ++ ",".intercalate (items.map text) ++ "]" := by
  refine String.toList_inj.mp ?_
  have texts : (items.map text).map String.toList = items.map chars := by
    rw [List.map_map]
    exact List.map_congr_left fun item _ => String.toList_ofList
  rw [text, String.toList_ofList, String.toList_append, String.toList_append, String.toList_intercalate, texts]
  cases items with
  | nil => rfl
  | cons item items =>
      rw [← show [','] = ",".toList from rfl, ← flatMap_eq_intercalate, chars, itemsChars_eq, ← List.append_assoc]
      rfl

end Json

namespace GraphQL

open Http Shape

/-! ## Reading documents -/

/-- From the value of a document a reader reads something. -/
def ReadAs {α : Type} (reader : TreeReader Json α) (document : Document) (a : α) : Prop :=
  ∃ value, document.value? = some value ∧ reader.run value = .ok a

section

variable {α : Type} {reader : TreeReader Json α}

/-- A list is read item by item. -/
theorem readAs_list_iff {items : List Document} {as : List α} :
    ReadAs (TreeReader.list reader) (.array items) as ↔ List.Forall₂ (ReadAs reader) items as := by
  have array : ReadAs (TreeReader.list reader) (.array items) as ↔
      ∃ values, Document.itemValues? items = some values ∧ values.mapM reader.run = .ok as := by
    constructor
    · rintro ⟨_, stands, read⟩
      obtain ⟨values, itemsOf, rfl⟩ := Option.map_eq_some_iff.mp stands
      exact ⟨values, itemsOf, read⟩
    · rintro ⟨values, itemsOf, read⟩
      exact ⟨.array values, by rw [Document.value?, itemsOf]; rfl, read⟩
  simp only [array, mapM_eq_ok_iff]
  clear array
  induction items generalizing as with
  | nil =>
      constructor
      · rintro ⟨_, ⟨⟩, ⟨⟩⟩
        exact .nil
      · rintro ⟨⟩
        exact ⟨[], rfl, .nil⟩
  | cons item items ih =>
      constructor
      · rintro ⟨_, stands, done⟩
        obtain ⟨value, valueOf, stands⟩ := Option.bind_eq_some_iff.mp stands
        obtain ⟨values, itemsOf, rfl⟩ := Option.map_eq_some_iff.mp stands
        cases done with
        | cons read reads => exact .cons ⟨value, valueOf, read⟩ (ih.mp ⟨values, itemsOf, reads⟩)
      · rintro (_ | ⟨⟨value, valueOf, read⟩, others⟩)
        obtain ⟨values, itemsOf, reads⟩ := ih.mpr others
        refine ⟨value :: values, ?_, .cons read reads⟩
        rw [Document.itemValues?, valueOf, itemsOf]
        rfl

/-- The payload of a text whose value has to fit a shape is made of what is read of it, or the text is rejected. -/
theorem ofBytes_of_shape {n : Nat} {document : Document} {octets : Bytes} {make : α → Payload}
    (text : Json.TextOf n document octets) (shallow : n < Json.depthLimit)
    (shaped : ∀ value, document.value? = some value →
      Payload.ofJson value = (Payload.fit reader value).map make) :
    (∀ a, ReadAs reader document a → Payload.ofBytes octets = .ok (make a)) ∧
      ((∀ a, ¬ReadAs reader document a) → ∃ rejection, Payload.ofBytes octets = .error rejection) := by
  rcases Payload.ofBytes_cases text shallow with ⟨value, stands, result⟩ | ⟨rejection, outOfRange, result⟩
  · rw [result, shaped value stands]
    rcases Payload.fit_cases reader value with ⟨a, read, fits⟩ | ⟨error, unread, misfits⟩
    · rw [fits]
      refine ⟨?_, fun none => absurd ⟨value, stands, read⟩ (none a)⟩
      rintro b ⟨_, again, readAgain⟩
      cases stands.symm.trans again
      cases read.symm.trans readAgain
      rfl
    · rw [misfits]
      refine ⟨?_, fun _ => ⟨_, rfl⟩⟩
      rintro b ⟨_, again, readAgain⟩
      cases stands.symm.trans again
      exact absurd readAgain (unread b)
  · refine ⟨?_, fun _ => ⟨rejection, result⟩⟩
    rintro b ⟨_, stands, -⟩
    rw [outOfRange] at stands
    cases stands

end

/-- A query is read from a document. -/
def Query.ReadFrom : Document → Query → Prop := ReadAs Query.shape

/-- The JSON value of a query is read as an object, if it is read. -/
theorem exists_members_of_value? {query : Query} {value : Json}
    (stands : query.toJson.document.value? = some value) : ∃ members, value = .object members := by
  obtain ⟨text, values, operationName⟩ := query
  have notEmbedded : "query" ≠ Json.embeddedName := by decide
  rw [Query.toJson, Json.document, List.cons_append, Json.memberDocuments, Document.value?,
    if_neg notEmbedded] at stands
  obtain ⟨_, -, stands⟩ := Option.bind_eq_some_iff.mp stands
  obtain ⟨members, -, rfl⟩ := Option.map_eq_some_iff.mp stands
  exact ⟨members, rfl⟩

section

variable {octets : Bytes} {n : Nat}

/-- The text of a query alone is the payload that is read from it, or it is rejected. -/
theorem ofBytes_of_query {query : Query} (text : Json.TextOf n query.toJson.document octets)
    (shallow : n < Json.depthLimit) :
    (∀ read, Query.ReadFrom query.toJson.document read → Payload.ofBytes octets = .ok (.single read)) ∧
      ((∀ read, ¬Query.ReadFrom query.toJson.document read) →
        ∃ rejection, Payload.ofBytes octets = .error rejection) := by
  refine ofBytes_of_shape text shallow fun value stands => ?_
  obtain ⟨members, rfl⟩ := exists_members_of_value? stands
  rfl

/-- The text of a list is the batch of the queries that are read from its items, or it is rejected. -/
theorem ofBytes_of_list {items : List Document} (text : Json.TextOf n (.array items) octets)
    (shallow : n < Json.depthLimit) :
    (∀ reads, List.Forall₂ Query.ReadFrom items reads → Payload.ofBytes octets = .ok (.batch reads)) ∧
      ((∀ reads, ¬List.Forall₂ Query.ReadFrom items reads) →
        ∃ rejection, Payload.ofBytes octets = .error rejection) := by
  have shaped := @ofBytes_of_shape _ (TreeReader.list Query.shape) n _ octets Payload.batch text shallow ?_
  · simp only [readAs_list_iff] at shaped
    exact shaped
  · intro value stands
    obtain ⟨values, -, rfl⟩ := Option.map_eq_some_iff.mp stands
    rfl

end

/-! ## Plans -/

/-- A body arrives whole, as a text of a value: as it is printed, or with other blanks and escapes. -/
def IsBodyOf (limit : Option Nat) (value : Json) (body : Body) : Prop :=
  ∃ octets, Json.TextOf value.nesting value.document octets ∧ Arrives limit body (.ok octets)

/-- A head announces a JSON document, in which a query is asked for, and its target gives variables for it. -/
structure AsksInDocument (head : Head) (values : Option Members) : Prop where
  method : head.method = "POST"
  type : Handler.contentType head = MediaType.json
  target : (UrlParameters.ofUri head.uri).query = none
  given : TargetVariables head.uri values

/-- A query that has a text is read from the JSON value of a query. -/
def Query.Accepted (query read : Query) : Prop := Query.ReadFrom query.toJson.document read ∧ read.text ≠ none

/-- A query with portable variables is read as itself. -/
theorem Query.HasPortableVariables.readFrom {query : Query} (portable : query.HasPortableVariables) :
    Query.ReadFrom query.toJson.document query := by
  obtain ⟨-, ordinary, inRange⟩ := portable.readable
  obtain ⟨value, stands⟩ := Option.isSome_iff_exists.mp inRange
  exact ⟨value, stands, (Query.run_shape_iff_writtenIn ordinary stands).mpr portable.writtenIn⟩

theorem Query.HasPortableVariables.accepted {query : Query} (portable : query.HasPortableVariables)
    (given : query.text ≠ none) : query.Accepted query :=
  ⟨portable.readFrom, given⟩

/-- The execution of a query, with the variables that it inherits. -/
def Handler.executionOf (handler : Handler) (head : Head) (values : Option Members) (query : Query) : Execution :=
  handler.providers.execution head (query.inheritVariables values)

section

variable {handler : Handler} {limit : Option Nat} {head : Head} {values : Option Members}

theorem AsksInDocument.plan_eq (asks : AsksInDocument head values) {body : Body} {octets : Bytes}
    (arrives : Arrives limit body (.ok octets)) :
    handler.plan limit ⟨head, body⟩ =
      (Payload.ofBytes octets >>= fun payload => handler.planPayload head values payload) := by
  have inBody : AsksInBody ⟨head, body⟩ values := ⟨asks.method, asks.target, asks.given⟩
  rw [inBody.plan_json asks.type, Handler.readBody_of_arrives arrives]
  rfl

/-- A query alone is planned as it is read, or rejected. -/
theorem AsksInDocument.plan_query (asks : AsksInDocument head values) {query : Query} {body : Body}
    (shallow : query.toJson.nesting < Json.depthLimit) (carries : IsBodyOf limit query.toJson body) :
    (∀ read, query.Accepted read →
        handler.plan limit ⟨head, body⟩ = .ok (.single (handler.executionOf head values read))) ∧
      ((∀ read, ¬query.Accepted read) → ∃ rejection, handler.plan limit ⟨head, body⟩ = .error rejection) := by
  obtain ⟨octets, text, arrives⟩ := carries
  obtain ⟨accepts, rejects⟩ := ofBytes_of_query text shallow
  rw [asks.plan_eq arrives]
  constructor
  · rintro read ⟨readFrom, given⟩
    obtain ⟨text, given⟩ := Option.ne_none_iff_exists'.mp given
    rw [accepts read readFrom]
    show handler.planPayload head values (.single read) = _
    rw [Handler.planPayload, given]
    rfl
  · intro unaccepted
    -- Either nothing is read, or something without a text.
    by_cases readable : ∃ read, Query.ReadFrom query.toJson.document read
    · obtain ⟨read, readFrom⟩ := readable
      have missing : read.text = none := by_contra fun given => unaccepted read ⟨readFrom, given⟩
      rw [accepts read readFrom]
      show ∃ rejection, handler.planPayload head values (.single read) = .error rejection
      rw [Handler.planPayload, missing]
      exact ⟨_, rfl⟩
    · obtain ⟨rejection, rejected⟩ := rejects fun read readFrom => readable ⟨read, readFrom⟩
      rw [rejected]
      exact ⟨rejection, rfl⟩

theorem itemsNesting_lt {queries : List Query}
    (shallow : ∀ query ∈ queries, query.toJson.nesting + 1 < Json.depthLimit) :
    (Json.array (queries.map Query.toJson)).nesting < Json.depthLimit := by
  rw [Json.nesting]
  induction queries with
  | nil => decide
  | cons query queries ih =>
      obtain ⟨first, others⟩ := List.forall_mem_cons.mp shallow
      have rest := ih others
      rw [List.map_cons, Json.itemsNesting]
      omega

theorem forall₂_itemDocuments_iff {queries reads : List Query} :
    List.Forall₂ Query.ReadFrom (Json.itemDocuments (queries.map Query.toJson)) reads ↔
      List.Forall₂ (fun query read => Query.ReadFrom query.toJson.document read) queries reads := by
  have documents : Json.itemDocuments (queries.map Query.toJson) =
      queries.map fun query => query.toJson.document := by
    induction queries with
    | nil => rfl
    | cons query queries ih => rw [List.map_cons, Json.itemDocuments, ih, List.map_cons]
  rw [documents, List.forall₂_map_left_iff]

/-- A batch is planned as its queries are read, or rejected if one of them is. -/
theorem AsksInDocument.plan_batch (asks : AsksInDocument head values) (batching : handler.options.batching = true)
    {queries : List Query} {body : Body} (shallow : ∀ query ∈ queries, query.toJson.nesting + 1 < Json.depthLimit)
    (carries : IsBodyOf limit (.array (queries.map Query.toJson)) body) :
    (∀ reads, List.Forall₂ Query.Accepted queries reads →
        handler.plan limit ⟨head, body⟩ = .ok (.batch (reads.map (handler.executionOf head values)))) ∧
      ((∃ query ∈ queries, ∀ read, ¬query.Accepted read) →
        ∃ rejection, handler.plan limit ⟨head, body⟩ = .error rejection) := by
  obtain ⟨octets, text, arrives⟩ := carries
  obtain ⟨accepts, rejects⟩ := ofBytes_of_list text (itemsNesting_lt shallow)
  simp only [forall₂_itemDocuments_iff] at accepts rejects
  rw [asks.plan_eq arrives]
  constructor
  · intro reads accepted
    have texts : ∀ read ∈ reads, read.text ≠ none := by
      intro read member
      obtain ⟨query, -, accepted⟩ := exists_of_forall₂ accepted.flip member
      exact accepted.2
    rw [accepts reads (accepted.imp fun _ _ accepted => accepted.1)]
    show handler.planPayload head values (.batch reads) = _
    rw [Handler.planPayload, batching, Handler.completeQueries_of_texts texts]
    show Except.ok (Plan.batch _) = _
    rw [List.map_map]
    rfl
  · rintro ⟨query, member, unaccepted⟩
    by_cases readable : ∃ reads,
        List.Forall₂ (fun query read => Query.ReadFrom query.toJson.document read) queries reads
    · obtain ⟨reads, readFrom⟩ := readable
      obtain ⟨read, isRead, first⟩ := exists_of_forall₂ readFrom member
      have missing : ∃ read ∈ reads, read.text = none :=
        ⟨read, isRead, by_contra fun given => unaccepted read ⟨first, given⟩⟩
      rw [accepts reads readFrom]
      show ∃ rejection, handler.planPayload head values (.batch reads) = .error rejection
      rw [Handler.planPayload, batching, Handler.completeQueries_of_missing missing]
      exact ⟨_, rfl⟩
    · obtain ⟨rejection, rejected⟩ := rejects fun reads readFrom => readable ⟨reads, readFrom⟩
      rw [rejected]
      exact ⟨rejection, rfl⟩

end

/-! ## Answers -/

/-- The client is answered with the status 200 and a text. -/
def Ending.Answers (ending : Ending) (text : String) : Prop :=
  ∃ response, ending = .response response ∧ response.status = 200 ∧ response.body = text

theorem answers_ofOutcome {outcome : Outcome} {text : String} (answers : (Ending.ofOutcome outcome).Answers text) :
    ∃ result, outcome = .result result ∧ result.toJson.text = text := by
  obtain ⟨response, same, -, body⟩ := answers
  cases outcome with
  | result result =>
      cases same
      exact ⟨result, rfl, body⟩
  | failure | panic => cases same

/-- If every outcome alone is an answer, together they are answered with the list of the answers. -/
theorem answers_ofOutcomes {outcomes : List Outcome} {texts : List String}
    (answers : List.Forall₂ (fun outcome text => (Ending.ofOutcome outcome).Answers text) outcomes texts) :
    (Ending.ofOutcomes outcomes).Answers ("[" ++ ",".intercalate texts ++ "]") := by
  have items : ∃ items, envelopes outcomes = .ok items ∧ items.map Json.text = texts := by
    induction answers with
    | nil => exact ⟨[], rfl, rfl⟩
    | cons first _ ih =>
        obtain ⟨result, rfl, rfl⟩ := answers_ofOutcome first
        obtain ⟨items, same, rfl⟩ := ih
        exact ⟨result.toJson :: items, by rw [envelopes, same]; rfl, rfl⟩
  obtain ⟨items, same, rfl⟩ := items
  refine ⟨.json (Json.array items).text, ?_, rfl, Json.text_array items⟩
  rw [Ending.ofOutcomes, same]

/-! ## Agreement -/

section

variable {handler : Handler} {engine : Engine} {outcome : Execution → Outcome} {limit : Option Nat} {head : Head}
  {values : Option Members} {queries : List Query} {alone : List Body} {together : Body}
  {executions : List Execution}

theorem Engine.map_outcome_of_depends
    (depends : ∀ ordinal execution, (engine ordinal execution).outcome = outcome execution) (ordinal : Nat)
    (executions : List Execution) :
    (engine.start ordinal executions).map Started.outcome = executions.map outcome := by
  induction executions generalizing ordinal with
  | nil => rfl
  | cons execution executions ih =>
      rw [Engine.start, List.map_cons, ih, List.map_cons]
      exact congrArg (· :: _) (depends ordinal execution)

/-- Queries that are accepted are each planned alone as the execution of what is read. -/
theorem AsksInDocument.plans_alone (asks : AsksInDocument head values)
    (shallow : ∀ query ∈ queries, query.toJson.nesting + 1 < Json.depthLimit)
    (bodies : List.Forall₂ (fun query body => IsBodyOf limit query.toJson body) queries alone) {reads : List Query}
    (accepted : List.Forall₂ Query.Accepted queries reads) :
    List.Forall₂ (fun body execution => handler.plan limit ⟨head, body⟩ = .ok (.single execution)) alone
      (reads.map (handler.executionOf head values)) := by
  induction bodies generalizing reads with
  | nil =>
      cases accepted
      exact .nil
  | cons carries _ ih =>
      obtain ⟨first, shallow⟩ := List.forall_mem_cons.mp shallow
      cases accepted with
      | cons accepts others =>
          exact .cons ((asks.plan_query (Nat.lt_of_succ_lt first) carries).1 _ accepts) (ih shallow others)

/-- A query alone is handled as its only execution. -/
theorem Handler.handle_single {request : Request} {execution : Execution}
    (accepted : handler.plan limit request = .ok (.single execution)) (engine : Engine) (ordinal : Nat) :
    handler.handle engine ordinal limit request =
      ⟨[⟨execution, engine ordinal execution⟩], none, .ofOutcome (engine ordinal execution).outcome⟩ := by
  rw [handle_of_accepted accepted]
  rfl

/-- What is planned alone is answered alone with the outcomes of the executions. -/
theorem answers_of_plans (depends : ∀ ordinal execution, (engine ordinal execution).outcome = outcome execution)
    (plans : List.Forall₂ (fun body execution => handler.plan limit ⟨head, body⟩ = .ok (.single execution)) alone
      executions) {preceding : Body → Nat} {texts : List String}
    (answers : List.Forall₂ (fun body text =>
      (handler.handle engine (preceding body) limit ⟨head, body⟩).ending.Answers text) alone texts) :
    List.Forall₂ (fun outcome text => (Ending.ofOutcome outcome).Answers text) (executions.map outcome) texts := by
  induction plans generalizing texts with
  | nil =>
      cases answers
      exact .nil
  | cons plan _ ih =>
      cases answers with
      | cons first others =>
          rw [Handler.handle_single plan, depends] at first
          exact .cons first (ih others)

/-- If every query of a batch is accepted alone, the batch asks the engine for the same executions in the same
order, and where each is answered alone, it is answered with the list of these answers; if one of them is rejected
alone, the batch is rejected, and nothing of it is executed.  A query with a text and with portable variables is
not rejected. -/
theorem batch_agrees_with_queries (batching : handler.options.batching = true)
    (depends : ∀ ordinal execution, (engine ordinal execution).outcome = outcome execution)
    (asks : AsksInDocument head values)
    (shallow : ∀ query ∈ queries, query.toJson.nesting + 1 < Json.depthLimit)
    (bodies : List.Forall₂ (fun query body => IsBodyOf limit query.toJson body) queries alone)
    (body : IsBodyOf limit (.array (queries.map Query.toJson)) together) (preceding : Body → Nat) :
    let handling body := handler.handle engine (preceding body) limit ⟨head, body⟩
    ((∀ body ∈ alone, ¬(handling body).IsRejected) →
      ¬(handling together).IsRejected ∧ (handling together).batchSize = some queries.length ∧
        List.Forall₂ (fun body execution => (handling body).started.map Started.execution = [execution]) alone
          ((handling together).started.map Started.execution) ∧
        ∀ texts, List.Forall₂ (fun body text => (handling body).ending.Answers text) alone texts →
          (handling together).ending.Answers ("[" ++ ",".intercalate texts ++ "]")) ∧
      ((∃ body ∈ alone, (handling body).IsRejected) →
        (handling together).IsRejected ∧ (handling together).started = []) ∧
      ((∀ query ∈ queries, query.text ≠ none ∧ query.HasPortableVariables) →
        ∀ body ∈ alone, ¬(handling body).IsRejected) := by
  intro handling
  obtain ⟨accepts, rejects⟩ := asks.plan_batch batching shallow body
  -- Whether a query is accepted is decided by what is read of it, which is the same alone and in the batch.
  by_cases all : ∀ query ∈ queries, ∃ read, query.Accepted read
  · obtain ⟨reads, accepted⟩ := exists_forall₂_iff.mpr all
    have batch := accepts reads accepted
    have plans : List.Forall₂ (fun body execution => handler.plan limit ⟨head, body⟩ = .ok (.single execution)) alone
        (reads.map (handler.executionOf head values)) := asks.plans_alone shallow bodies accepted
    have same : handling together = _ := Handler.handle_batch batch engine (preceding together)
    have sound : ∀ body ∈ alone, ¬(handling body).IsRejected := by
      intro body member
      obtain ⟨execution, -, plan⟩ := exists_of_forall₂ plans member
      exact Handler.not_isRejected_of_plan plan
    refine ⟨fun _ => ⟨Handler.not_isRejected_of_plan batch, ?_, ?_, fun texts answers => ?_⟩, ?_, fun _ => sound⟩
    · rw [same, List.length_map, accepted.length_eq]
    · rw [same, Engine.map_execution_start]
      refine plans.imp fun body execution plan => ?_
      have single : handling body = _ := Handler.handle_single plan engine (preceding body)
      rw [single]
      rfl
    · rw [same, ← Engine.map_outcome_start, Engine.map_outcome_of_depends depends]
      exact answers_ofOutcomes (answers_of_plans depends plans answers)
    · rintro ⟨body, member, rejected⟩
      exact absurd rejected (sound body member)
  · rw [not_forall] at all
    obtain ⟨query, unaccepted⟩ := all
    obtain ⟨member, unaccepted⟩ := Classical.not_imp.mp unaccepted
    obtain ⟨rejection, batch⟩ := rejects ⟨query, member, fun read accepted => unaccepted ⟨read, accepted⟩⟩
    have same : handling together = _ := Handler.handle_of_rejected batch engine (preceding together)
    refine ⟨fun accepted => ?_, fun _ => ?_, fun portable => ?_⟩
    · obtain ⟨body, isBody, carries⟩ := exists_of_forall₂ bodies member
      obtain ⟨own, plan⟩ := (asks.plan_query (Nat.lt_of_succ_lt (shallow query member)) carries).2
        fun read accepted => unaccepted ⟨read, accepted⟩
      exact absurd ⟨own, congrArg Handling.ending (Handler.handle_of_rejected plan engine _)⟩ (accepted body isBody)
    · rw [same]
      exact ⟨⟨rejection, rfl⟩, rfl⟩
    · obtain ⟨given, portable⟩ := portable query member
      exact absurd ⟨query, portable.accepted given⟩ unaccepted

end

/-- The body that arrives with the printed form of a value. -/
def printedBody (value : Json) : Body := .whole (Bytes.ofString value.text)

theorem isBodyOf_printedBody (value : Json) : IsBodyOf none value (printedBody value) :=
  ⟨_, Json.textOf_text (Nat.le_refl _), arrives_whole _⟩

theorem asksInDocument_twoQueries : AsksInDocument twoQueries.head none := ⟨rfl, rfl, rfl, .absent⟩

/-- A query with a text is answered alone with its text. -/
theorem answers_alone {text answer : String}
    (plan : (Handler.new ⟨true⟩).plan none ⟨twoQueries.head, printedBody (Query.ofText text).toJson⟩ =
      .ok (.single (executionOfTwo text))) (same : (Engine.plainResult text).toJson.text = answer) :
    ((Handler.new ⟨true⟩).handle (Engine.scripted []) 0 none
      ⟨twoQueries.head, printedBody (Query.ofText text).toJson⟩).ending.Answers answer := by
  rw [Handler.handle_single plan]
  exact ⟨_, rfl, rfl, same⟩

/-- Two queries are answered together with the list of what they are answered alone. -/
theorem two_answers_in_list :
    ((Handler.new ⟨true⟩).handle (Engine.scripted []) 0 none twoQueries).ending.Answers
      "[\x7b\"data\":\x7b\"query\":\"first\"\x7d\x7d,\x7b\"data\":\x7b\"query\":\"second\"\x7d\x7d]" := by
  have first : (Handler.new ⟨true⟩).plan none ⟨twoQueries.head, printedBody (Query.ofText "first").toJson⟩ =
      .ok (.single (executionOfTwo "first")) := by with_unfolding_all rfl
  have second : (Handler.new ⟨true⟩).plan none ⟨twoQueries.head, printedBody (Query.ofText "second").toJson⟩ =
      .ok (.single (executionOfTwo "second")) := by with_unfolding_all rfl
  obtain ⟨agrees, -⟩ := @batch_agrees_with_queries (Handler.new ⟨true⟩) (Engine.scripted [])
    (fun execution => .result (Engine.plainResult execution.query)) none twoQueries.head none
    [.ofText "first", .ofText "second"] _ _ rfl (fun _ _ => rfl) asksInDocument_twoQueries (by decide)
    (.cons (isBodyOf_printedBody _) (.cons (isBodyOf_printedBody _) .nil)) (isBodyOf_printedBody _) fun _ => 0
  obtain ⟨-, -, -, answers⟩ := agrees (List.forall_mem_cons.mpr ⟨Handler.not_isRejected_of_plan first,
    List.forall_mem_singleton.mpr (Handler.not_isRejected_of_plan second)⟩)
  exact answers ["\x7b\"data\":\x7b\"query\":\"first\"\x7d\x7d", "\x7b\"data\":\x7b\"query\":\"second\"\x7d\x7d"]
    (.cons (answers_alone first (by with_unfolding_all rfl))
      (.cons (answers_alone second (by with_unfolding_all rfl)) .nil))

/-- A query whose variables stand for a document that is no text. -/
def unreadable : Query := ⟨some "b", some [(Json.embeddedName, .number (.whole default))], none⟩

/-- A query that is executed alone may not be executed in a batch. -/
theorem batch_not_always_as_alone :
    ¬∀ queries : List Query, (∀ query ∈ queries, query.text ≠ none) → (∀ query ∈ queries, query.toJson.nesting ≤ 100) →
      ((Handler.new ⟨true⟩).handle (Engine.scripted []) 0 none (postedBatch queries)).started.map Started.execution =
        queries.flatMap fun query => ((Handler.new ⟨true⟩).handle (Engine.scripted []) 0 none
          ⟨twoQueries.head, printedBody query.toJson⟩).started.map Started.execution := by
  intro all
  have same := all [.ofText "a", unreadable] (by decide) (by decide)
  have nothing : ((Handler.new ⟨true⟩).handle (Engine.scripted []) 0 none
      (postedBatch [.ofText "a", unreadable])).started = [] := by with_unfolding_all rfl
  have alone : ((Handler.new ⟨true⟩).handle (Engine.scripted []) 0 none
      ⟨twoQueries.head, printedBody (Query.ofText "a").toJson⟩).started.map Started.execution =
        [executionOfTwo "a"] := by with_unfolding_all rfl
  rw [nothing, List.flatMap_cons, alone] at same
  cases same

end GraphQL

end QueryGateway
