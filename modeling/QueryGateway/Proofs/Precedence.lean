import QueryGateway.Proofs.Arrivals
import QueryGateway.Proofs.Essences
import QueryGateway.Proofs.FormTexts
import QueryGateway.Proofs.Rejections
import QueryGateway.Proofs.VariableTexts
import Mathlib.Data.List.Forall2

/-!
# Which fault counts

A request may have several faults at once.  What becomes of it is said by a list of rules, in a fixed order: the
first rule that applies gives the verdict.  The rules are said without the handler and its readers: by the octets that
arrive, by what they are a text of, by the shape of this value and by the type of the body.  What the handler does with
a request is what its verdict asks for.

An item of a batch may be an object or, against what is documented, a short list of the parts of a query.  The rules
are therefore stated for any shape of items.  With both shapes they decide every request; with objects only, they
decide those that have no such list as an item, and not the others.
-/

namespace QueryGateway

namespace GraphQL

open Http Shape

/-! ## Rules -/

/-- What becomes of a request. -/
inductive Verdict where
  /-- It is rejected, and the client is told so with a status. -/
  | reject (status : Nat) (rejection : Rejection)
  /-- Its only query is executed. -/
  | single (query : Query)
  /-- Its queries are executed as a batch. -/
  | batch (queries : List Query)

/-- A rule says which verdicts it gives.  It applies if it gives one. -/
abbrev Rule := Verdict → Prop

/-- The first of some rules that applies gives a verdict. -/
inductive FirstOf : List Rule → Verdict → Prop
  | here {rule : Rule} {rules : List Rule} {verdict : Verdict} (gives : rule verdict) :
      FirstOf (rule :: rules) verdict
  | later {rule : Rule} {rules : List Rule} {verdict : Verdict} (idle : ∀ other, ¬rule other)
      (first : FirstOf rules verdict) : FirstOf (rule :: rules) verdict

/-- The variables in a target: an object, if there is a parameter for them. -/
def TargetVariables (uri : Uri) (values : Option Members) : Prop :=
  GivesVariables (UrlParameters.ofUri uri).variablesText values

/-- The body of a request is a text of a value. -/
def Holds (limit : Option Nat) (request : Request) (value : Json) : Prop :=
  ∃ octets, Arrives limit request.body (.ok octets) ∧ value.HasText octets

/-- An error tells the misfit that a reader finds in a value. -/
def TellsMisfit {α : Type} (reader : TreeReader Json α) (value : Json) (error : Json.Error) : Prop :=
  ∀ misfit, reader.run value = .error misfit → error = ⟨.shape misfit.mismatch, none⟩

namespace Rule

variable (Item : Json → Query → Prop) (head : Head) (limit : Option Nat) (options : Options) (request : Request)

/-- Only two methods are allowed. -/
def otherMethod : Rule := fun verdict =>
  head.method ≠ "GET" ∧ head.method ≠ "POST" ∧
    verdict = .reject 405 (.methodNotAllowed head.method)

/-- A request with the method `GET` asks for a query in its target. -/
def getWithoutQuery : Rule := fun verdict =>
  head.method = "GET" ∧ (UrlParameters.ofUri head.uri).query = none ∧
    verdict = .reject 400 .queryMissing

/-- The variables in a target are a JSON object. -/
def faultyVariables : Rule := fun verdict => ∃ text error,
  (UrlParameters.ofUri head.uri).variablesText = some text ∧ (∀ values, ¬TargetVariables head.uri values) ∧
    TextReader.parse (JsonFormat.members : TextReader Members) (Bytes.ofString text) = .error error ∧
    verdict = .reject 400 (.invalidVariables error)

/-- A query in the target is executed. -/
def targetQuery : Rule := fun verdict => ∃ text values,
  (UrlParameters.ofUri head.uri).query = some text ∧ TargetVariables head.uri values ∧
    verdict = .single ⟨some text, values, (UrlParameters.ofUri head.uri).operationName⟩

/-- A body is a JSON document or the text of a query. -/
def otherMediaType : Rule := fun verdict => ∃ essence,
  TypeIs head essence ∧ essence ≠ "application/json" ∧ essence ≠ "application/graphql" ∧
    verdict = .reject 415 (.unsupportedMediaType essence)

/-- A body arrives without a failure of the connection. -/
def brokenBody : Rule := fun verdict => ∃ message,
  Arrives limit request.body (.error (.broken message)) ∧ verdict = .reject 400 (.bodyUnreadable message)

/-- A body keeps to the limit. -/
def longBody : Rule := fun verdict =>
  Arrives limit request.body (.error .tooLarge) ∧ verdict = .reject 413 .payloadTooLarge

/-- The text of a query is well-formed. -/
def notText : Rule := fun verdict => ∃ octets fault,
  TypeIs request.head "application/graphql" ∧ Arrives limit request.body (.ok octets) ∧
    (¬∃ text, octets = Bytes.ofString text) ∧ Utf8.fault? octets = some fault ∧
    verdict = .reject 400 (.invalidUtf8 fault)

/-- The text of a query is executed. -/
def bodyText : Rule := fun verdict => ∃ text values,
  TypeIs request.head "application/graphql" ∧
    Arrives limit request.body (.ok (Bytes.ofString text)) ∧ TargetVariables request.head.uri values ∧
    verdict = .single ⟨some text, values, (UrlParameters.ofUri request.head.uri).operationName⟩

/-- A JSON document is well-formed. -/
def malformed : Rule := fun verdict => ∃ octets error,
  Arrives limit request.body (.ok octets) ∧ (∀ value : Json, ¬value.HasText octets) ∧
    Json.parse octets = .error error ∧ verdict = .reject 400 (.invalidBody error)

/-- A JSON document is an object or a list. -/
def scalar : Rule := fun verdict => ∃ value,
  Holds limit request value ∧ (∀ members, value ≠ .object members) ∧ (∀ items, value ≠ .array items) ∧
    verdict = .reject 500 .unrecognizedPayload

/-- An object has the shape of a query. -/
def misshapenObject : Rule := fun verdict => ∃ members error,
  Holds limit request (.object members) ∧ (∀ query, ¬Query.ShapedAs (.object members) query) ∧
    TellsMisfit (Query.shape : TreeReader Json Query) (.object members) error ∧
    verdict = .reject 400 (.invalidBody error)

/-- The items of a list have the shape of queries. -/
def misshapenList : Rule := fun verdict => ∃ items error,
  Holds limit request (.array items) ∧ (∃ item ∈ items, ∀ query, ¬Item item query) ∧
    TellsMisfit (Format.list Query.shape : TreeReader Json (List Query)) (.array items) error ∧
    verdict = .reject 400 (.invalidBody error)

/-- A query has a text. -/
def objectWithoutText : Rule := fun verdict => ∃ (members : Members) (query : Query),
  Holds limit request (.object members) ∧ query.ShapedAs (.object members) ∧ query.text = none ∧
    verdict = .reject 400 .queryMissing

/-- A query in the body is executed. -/
def object : Rule := fun verdict => ∃ (members : Members) (query : Query) (values : Option Members),
  Holds limit request (.object members) ∧ query.ShapedAs (.object members) ∧
    TargetVariables request.head.uri values ∧ verdict = .single (query.inheritVariables values)

/-- A list of queries is a batch, which has to be enabled. -/
def batchingDisabled : Rule := fun verdict => ∃ items,
  Holds limit request (.array items) ∧ options.batching = false ∧ verdict = .reject 400 .batchingDisabled

/-- Every query of a batch has a text. -/
def itemWithoutText : Rule := fun verdict => ∃ (items : List Json) (queries : List Query),
  Holds limit request (.array items) ∧ List.Forall₂ Item items queries ∧
    (∃ query ∈ queries, query.text = none) ∧ verdict = .reject 400 .queryMissing

/-- A batch is executed. -/
def batch : Rule := fun verdict => ∃ (items : List Json) (queries : List Query) (values : Option Members),
  Holds limit request (.array items) ∧ List.Forall₂ Item items queries ∧
    TargetVariables request.head.uri values ∧
    verdict = .batch (queries.map fun query => query.inheritVariables values)

end Rule

section

variable (Item : Json → Query → Prop) (limit : Option Nat) (options : Options) (request : Request)

/-- The rules for queries in JSON documents, the one that counts first in front. -/
def queryRules : List Rule :=
  [.objectWithoutText limit request, .object limit request, .batchingDisabled limit options request,
    .itemWithoutText Item limit request, .batch Item limit request]

/-- The rules for JSON documents, the one that counts first in front. -/
def documentRules : List Rule :=
  .scalar limit request :: .misshapenObject limit request :: .misshapenList Item limit request ::
    queryRules Item limit options request

/-- The rules for bodies, the one that counts first in front. -/
def bodyRules : List Rule :=
  .brokenBody limit request :: .longBody limit request :: .notText limit request ::
    .bodyText limit request :: .malformed limit request :: documentRules Item limit options request

/-- The rules that do not look at the body, the one that counts first in front. -/
def headRules (head : Head) : List Rule :=
  [.otherMethod head, .getWithoutQuery head, .faultyVariables head, .targetQuery head,
    .otherMediaType head]

/-- The rules for requests, the one that counts first in front. -/
def rules : List Rule := headRules request.head ++ bodyRules Item limit options request

end

/-- The shape that is documented for an item of a batch: that of an object. -/
def Query.ObjectShapedAs (value : Json) (query : Query) : Prop :=
  (∃ members, value = .object members) ∧ query.ShapedAs value

/-- What a handler plans on a verdict. -/
def Verdict.plan (handler : Handler) (head : Head) : Verdict → Except Rejection Plan
  | .reject _ rejection => .error rejection
  | .single query => .ok (.single (handler.providers.execution head query))
  | .batch queries => .ok (.batch (queries.map (handler.providers.execution head)))

/-- Some rules give a verdict, and every verdict that they give has a property. -/
def Decides (rules : List Rule) (property : Verdict → Prop) : Prop :=
  (∃ verdict, FirstOf rules verdict) ∧ ∀ verdict, FirstOf rules verdict → property verdict

/-- Rules decide if the first one does where it applies, and the others do where it does not. -/
theorem Decides.cons {rule : Rule} {rules : List Rule} {property : Verdict → Prop}
    (gives : ∀ verdict, rule verdict → property verdict)
    (others : (∀ verdict, ¬rule verdict) → Decides rules property) :
    Decides (rule :: rules) property := by
  by_cases applies : ∃ verdict, rule verdict
  · obtain ⟨verdict, given⟩ := applies
    refine ⟨⟨verdict, .here given⟩, fun other first => ?_⟩
    cases first with
    | here given => exact gives other given
    | later idle => exact absurd given (idle verdict)
  · have idle : ∀ verdict, ¬rule verdict := fun verdict given => applies ⟨verdict, given⟩
    obtain ⟨⟨verdict, first⟩, all⟩ := others idle
    refine ⟨⟨verdict, .later idle first⟩, fun other first => ?_⟩
    cases first with
    | here given => exact absurd given (idle other)
    | later _ first => exact all other first

/-- A verdict is given by one of the rules. -/
theorem FirstOf.exists_rule {rules : List Rule} {verdict : Verdict} (first : FirstOf rules verdict) :
    ∃ rule ∈ rules, rule verdict := by
  induction first with
  | here gives => exact ⟨_, List.mem_cons_self, gives⟩
  | later _ _ ih =>
      obtain ⟨rule, member, gives⟩ := ih
      exact ⟨rule, List.mem_cons_of_mem _ member, gives⟩

/-- Only one of the rules asks for the execution of a batch. -/
theorem Rule.batch_of_mem {Item : Json → Query → Prop} {limit : Option Nat} {options : Options} {request : Request}
    {rule : Rule} (member : rule ∈ rules Item limit options request) {queries : List Query}
    (gives : rule (.batch queries)) : Rule.batch Item limit request (.batch queries) := by
  simp only [rules, headRules, bodyRules, documentRules, queryRules, List.mem_append, List.mem_cons,
    List.not_mem_nil, or_false] at member
  rcases member with (rfl | rfl | rfl | rfl | rfl) |
    (rfl | rfl | rfl | rfl | rfl | rfl | rfl | rfl | rfl | rfl | rfl | rfl | rfl) <;>
  grind [otherMethod, getWithoutQuery, faultyVariables, targetQuery, otherMediaType, brokenBody, longBody, notText,
    bodyText, malformed, scalar, misshapenObject, misshapenList, objectWithoutText, object, batchingDisabled,
    itemWithoutText, batch]

/-! ## The target -/

section

variable {limit : Option Nat} {handler : Handler} {request : Request} {values : Option Members}

theorem targetVariables_none {uri : Uri} (missing : (UrlParameters.ofUri uri).variablesText = none) :
    TargetVariables uri none := by
  rw [TargetVariables, missing]
  exact .absent

theorem TargetVariables.variableValues_eq {uri : Uri} (given : TargetVariables uri values) :
    (UrlParameters.ofUri uri).variableValues = .ok values :=
  UrlParameters.variableValues_eq_ok_iff.mpr given

theorem TargetVariables.unique {uri : Uri} {others : Option Members} (first : TargetVariables uri values)
    (second : TargetVariables uri others) : values = others :=
  Except.ok.inj (first.variableValues_eq.symm.trans second.variableValues_eq)

theorem variableValues_of_fault {text : String} {error : Json.Error}
    (given : (UrlParameters.ofUri request.head.uri).variablesText = some text)
    (read : TextReader.parse (JsonFormat.members : TextReader Members) (Bytes.ofString text) =
      .error error) :
    (UrlParameters.ofUri request.head.uri).variableValues = .error (.invalidVariables error) := by
  unfold UrlParameters.variableValues
  rw [given]
  simp only [read]

/-- The variables of a target are an object or absent, or there is an error in their text. -/
theorem targetVariables_cases (request : Request) :
    (∃ values, TargetVariables request.head.uri values) ∨
      ∃ verdict, Rule.faultyVariables request.head verdict := by
  by_cases gives : ∃ values, TargetVariables request.head.uri values
  · exact Or.inl gives
  have faulty : ∀ values, ¬TargetVariables request.head.uri values := not_exists.mp gives
  cases given : (UrlParameters.ofUri request.head.uri).variablesText with
  | none => exact absurd (targetVariables_none given) (faulty none)
  | some text =>
      cases read : TextReader.parse (JsonFormat.members : TextReader Members) (Bytes.ofString text) with
      | error error => exact Or.inr ⟨_, text, error, given, faulty, read, rfl⟩
      | ok members =>
          refine absurd (UrlParameters.variableValues_eq_ok_iff.mp ?_) (faulty (some members))
          rw [UrlParameters.variableValues, given]
          simp only [read]

namespace Handler

theorem plan_get (method : request.head.method = "GET") :
    handler.plan limit request = handler.planGet request.head := by
  rw [plan, if_pos method]

theorem plan_post (method : request.head.method = "POST") :
    handler.plan limit request = handler.planPost limit request.head request.body := by
  rw [plan, if_neg (by rw [method]; decide), if_pos method]

/-- A query in the target is executed, whatever the body and its type. -/
theorem plan_of_targetQuery (method : request.head.method = "GET" ∨ request.head.method = "POST")
    {text : String} (query : (UrlParameters.ofUri request.head.uri).query = some text)
    (given : TargetVariables request.head.uri values) :
    handler.plan limit request =
      .ok (.single (handler.providers.execution request.head
        ⟨some text, values, (UrlParameters.ofUri request.head.uri).operationName⟩)) := by
  rcases method with method | method
  · rw [plan_get method, planGet]
    simp only [query, given.variableValues_eq]
    rfl
  · rw [plan_post method, planPost]
    simp only [query, given.variableValues_eq]
    rfl

theorem plan_of_faultyVariables (method : request.head.method = "GET" ∨ request.head.method = "POST")
    (asks : request.head.method = "GET" → (UrlParameters.ofUri request.head.uri).query ≠ none)
    {rejection : Rejection}
    (faulty : (UrlParameters.ofUri request.head.uri).variableValues = .error rejection) :
    handler.plan limit request = .error rejection := by
  rcases method with method | method
  · obtain ⟨text, query⟩ := Option.ne_none_iff_exists'.mp (asks method)
    rw [plan_get method, planGet]
    simp only [query, faulty]
    rfl
  · rw [plan_post method, planPost]
    simp only [faulty]
    rfl

end Handler

/-! ## The body -/

/-- A request asks for something in its body, for which its target gives variables. -/
structure AsksInBody (request : Request) (values : Option Members) : Prop where
  method : request.head.method = "POST"
  target : (UrlParameters.ofUri request.head.uri).query = none
  given : TargetVariables request.head.uri values

namespace AsksInBody

variable {octets : Bytes} {rejection : Rejection}

theorem plan_json (asks : AsksInBody request values)
    (json : Handler.contentType request.head = MediaType.json) :
    handler.plan limit request = (do
      let octets ← Handler.readBody limit request.body
      let payload ← Payload.ofBytes octets
      handler.planPayload request.head values payload) := by
  rw [Handler.plan_post asks.method, Handler.planPost]
  simp only [asks.target, asks.given.variableValues_eq, json]
  rfl

theorem plan_graphql (asks : AsksInBody request values)
    (graphql : Handler.contentType request.head = MediaType.graphql) :
    handler.plan limit request = (do
      let octets ← Handler.readBody limit request.body
      match Utf8.fault? octets with
      | some fault => .error (.invalidUtf8 fault)
      | none =>
        .ok (handler.planQuery request.head (UrlParameters.ofUri request.head.uri)
          (String.ofList (Utf8.decodeLossy octets)) values)) := by
  have notJson : MediaType.graphql ≠ MediaType.json := by decide
  rw [Handler.plan_post asks.method, Handler.planPost]
  simp only [asks.target, asks.given.variableValues_eq, graphql, if_neg notJson]
  rfl

theorem plan_other (asks : AsksInBody request values)
    (notJson : Handler.contentType request.head ≠ MediaType.json)
    (notGraphql : Handler.contentType request.head ≠ MediaType.graphql) :
    handler.plan limit request =
      .error (.unsupportedMediaType (Handler.contentType request.head)) := by
  rw [Handler.plan_post asks.method, Handler.planPost]
  simp only [asks.target, asks.given.variableValues_eq, if_neg notJson, if_neg notGraphql]
  rfl

/-- A body that cannot be read counts whichever of the two types it has. -/
theorem plan_of_unread (asks : AsksInBody request values)
    (known : Handler.contentType request.head = MediaType.json ∨
      Handler.contentType request.head = MediaType.graphql)
    (unread : Handler.readBody limit request.body = .error rejection) :
    handler.plan limit request = .error rejection := by
  rcases known with json | graphql
  · rw [asks.plan_json json, unread]
    rfl
  · rw [asks.plan_graphql graphql, unread]
    rfl

end AsksInBody

theorem Handler.readBody_of_arrives {octets : Bytes} (arrives : Arrives limit request.body (.ok octets)) :
    readBody limit request.body = .ok octets := by
  rw [readBody, collect_of_arrives arrives]

/-- A body arrives as octets, or a rule for bodies that do not applies. -/
theorem arrives_cases (limit : Option Nat) (request : Request) :
    (∃ octets, Arrives limit request.body (.ok octets)) ∨
      (∃ verdict, Rule.brokenBody limit request verdict) ∨ ∃ verdict, Rule.longBody limit request verdict := by
  have arrives := arrives_collect limit request.body
  cases collected : Body.collect limit request.body with
  | ok octets =>
      rw [collected] at arrives
      exact Or.inl ⟨octets, arrives⟩
  | error fault =>
      rw [collected] at arrives
      cases fault with
      | broken message => exact Or.inr (Or.inl ⟨_, message, arrives, rfl⟩)
      | tooLarge => exact Or.inr (Or.inr ⟨_, arrives, rfl⟩)

theorem arrives_unique {first second : Except BodyFault Bytes} (arrives : Arrives limit request.body first)
    (again : Arrives limit request.body second) : first = second :=
  (collect_of_arrives arrives).symm.trans (collect_of_arrives again)

/-- A body of the type of texts is no text, or it is the query. -/
theorem AsksInBody.text_cases {octets : Bytes} (asks : AsksInBody request values)
    (graphql : TypeIs request.head "application/graphql") (arrives : Arrives limit request.body (.ok octets)) :
    (∃ verdict, Rule.notText limit request verdict) ∨ ∃ verdict, Rule.bodyText limit request verdict := by
  cases found : Utf8.fault? octets with
  | some fault =>
      refine Or.inl ⟨_, octets, fault, graphql, arrives, fun text => ?_, found, rfl⟩
      rw [Utf8.fault?_eq_none_iff.mpr text] at found
      cases found
  | none =>
      obtain ⟨text, rfl⟩ := Utf8.fault?_eq_none_iff.mp found
      exact Or.inr ⟨_, text, values, graphql, arrives, asks.given, rfl⟩

/-! ## The document -/

/-- The status of a verdict is that of the rejection. -/
def Verdict.HasOwnStatus : Verdict → Prop
  | .reject status rejection => rejection.status = status
  | .single _ => True
  | .batch _ => True

/-- A handler plans what a verdict asks for. -/
def Planned (handler : Handler) (limit : Option Nat) (request : Request) (verdict : Verdict) : Prop :=
  handler.plan limit request = verdict.plan handler request.head ∧ verdict.HasOwnStatus

/-- A body holds a value exactly if this value is read from what arrives. -/
theorem holds_iff {value : Json} :
    Holds limit request value ↔
      ∃ octets, Arrives limit request.body (.ok octets) ∧ Json.parse octets = .ok value := by
  simp only [Holds, Json.parse_eq_ok_iff]

theorem Holds.plain {value : Json} (holds : Holds limit request value) : value.Plain := by
  obtain ⟨_, -, read⟩ := holds_iff.mp holds
  exact Json.plain_of_parse read

theorem Holds.unique {value other : Json} (first : Holds limit request value)
    (second : Holds limit request other) : value = other := by
  obtain ⟨octets, arrives, read⟩ := holds_iff.mp first
  obtain ⟨more, again, readMore⟩ := holds_iff.mp second
  cases arrives_unique arrives again
  exact Except.ok.inj (read.symm.trans readMore)

theorem AsksInBody.plan_of_holds (asks : AsksInBody request values)
    (json : Handler.contentType request.head = MediaType.json) {value : Json}
    (holds : Holds limit request value) :
    handler.plan limit request =
      (Payload.ofJson value >>= fun payload => handler.planPayload request.head values payload) := by
  obtain ⟨octets, arrives, read⟩ := holds_iff.mp holds
  rw [asks.plan_json json, Handler.readBody_of_arrives arrives]
  show (Payload.ofBytes octets >>= _) = _
  rw [Payload.ofBytes, read]

section

variable {α : Type} {reader : TreeReader Json α} {value : Json}

/-- A value from which nothing is read is refused, and the misfit is told. -/
theorem Payload.fit_of_unread (unread : ∀ a, reader.run value ≠ .ok a) {error : Json.Error}
    (tells : TellsMisfit reader value error) : fit reader value = .error (.invalidBody error) := by
  rw [fit]
  cases read : reader.run value with
  | ok a => exact absurd read (unread a)
  | error misfit => rw [tells misfit read]

theorem exists_tellsMisfit (unread : ∀ a, reader.run value ≠ .ok a) : ∃ error, TellsMisfit reader value error := by
  cases read : reader.run value with
  | ok a => exact absurd read (unread a)
  | error misfit =>
      refine ⟨⟨.shape misfit.mismatch, none⟩, fun other readOther => ?_⟩
      cases read.symm.trans readOther
      rfl

theorem Payload.fit_of_run {a : α} (read : reader.run value = .ok a) : fit reader value = .ok a := by
  rw [fit, read]

end

/-- No query is read from an object that has not the shape of one. -/
theorem Holds.unread_object {members : Members} (holds : Holds limit request (.object members))
    (misshapen : ∀ query, ¬Query.ShapedAs (.object members) query) (query : Query) :
    (Query.shape : TreeReader Json Query).run (.object members) ≠ .ok query := fun read =>
  misshapen query ((Query.run_shape_iff holds.plain).mp read)

/-- No queries are read from a list if one of its items has not the shape of a query. -/
theorem Holds.unread_list {items : List Json} (holds : Holds limit request (.array items))
    (misshapen : ∃ item ∈ items, ∀ query, ¬Query.ShapedAs item query) (queries : List Query) :
    (Format.list Query.shape : TreeReader Json (List Query)).run (.array items) ≠ .ok queries := by
  intro read
  obtain ⟨item, member, none⟩ := misshapen
  have shaped : List.Forall₂ Query.ShapedAs items queries := (Query.mapM_run_shape_iff holds.plain).mp read
  obtain ⟨query, fits⟩ := exists_forall₂_iff.mp ⟨queries, shaped⟩ item member
  exact none query fits

theorem Payload.ofJson_scalar {value : Json} (notObject : ∀ members, value ≠ .object members)
    (notList : ∀ items, value ≠ .array items) : ofJson value = .error .unrecognizedPayload := by
  cases value with
  | object members => exact absurd rfl (notObject members)
  | array items => exact absurd rfl (notList items)
  | null | bool | number | string => rfl

/-- A query without a text stops a batch, wherever it stands. -/
theorem Handler.completeQueries_of_missing {queries : List Query}
    (missing : ∃ query ∈ queries, query.text = none) :
    completeQueries values queries = .error .queryMissing := by
  induction queries with
  | nil =>
      obtain ⟨_, member, -⟩ := missing
      cases member
  | cons query queries ih =>
      cases given : query.text with
      | none => rw [completeQueries, given]; rfl
      | some text =>
          obtain ⟨other, member, absent⟩ := missing
          rcases List.mem_cons.mp member with rfl | member
          · rw [given] at absent
            cases absent
          · rw [completeQueries, given, ih ⟨other, member, absent⟩]
            rfl

theorem Handler.completeQueries_of_texts {queries : List Query}
    (texts : ∀ query ∈ queries, query.text ≠ none) :
    completeQueries values queries = .ok (queries.map fun query => query.inheritVariables values) := by
  induction queries with
  | nil => rfl
  | cons query queries ih =>
      obtain ⟨text, given⟩ := Option.ne_none_iff_exists'.mp (texts query List.mem_cons_self)
      rw [completeQueries, given, ih fun other member => texts other (List.mem_cons_of_mem _ member)]
      rfl

/-- The document in the body of a request has the shape of a query or of a list of queries. -/
inductive Fits (limit : Option Nat) (request : Request) : Prop
  | object {members : Members} {query : Query} (holds : Holds limit request (.object members))
      (shaped : query.ShapedAs (.object members))
  | list {items : List Json} {queries : List Query} (holds : Holds limit request (.array items))
      (shaped : List.Forall₂ Query.ShapedAs items queries)

/-- A document has the shape of a query or of a list of queries, or a rule for documents that do not applies. -/
theorem Holds.cases {value : Json} (holds : Holds limit request value) :
    (∃ verdict, Rule.scalar limit request verdict) ∨
      (∃ verdict, Rule.misshapenObject limit request verdict) ∨
      (∃ verdict, Rule.misshapenList Query.ShapedAs limit request verdict) ∨ Fits limit request := by
  cases value with
  | object members =>
      by_cases fits : ∃ query, Query.ShapedAs (.object members) query
      · obtain ⟨query, shaped⟩ := fits
        exact Or.inr (Or.inr (Or.inr (.object holds shaped)))
      · have misshapen := not_exists.mp fits
        obtain ⟨error, tells⟩ := exists_tellsMisfit (holds.unread_object misshapen)
        exact Or.inr (Or.inl ⟨_, members, error, holds, misshapen, tells, rfl⟩)
  | array items =>
      by_cases fits : ∃ queries, List.Forall₂ Query.ShapedAs items queries
      · obtain ⟨queries, shaped⟩ := fits
        exact Or.inr (Or.inr (Or.inr (.list holds shaped)))
      · have misshapen : ∃ item ∈ items, ∀ query, ¬Query.ShapedAs item query := by
          rw [exists_forall₂_iff] at fits
          push Not at fits
          exact fits
        obtain ⟨error, tells⟩ := exists_tellsMisfit (holds.unread_list misshapen)
        exact Or.inr (Or.inr (Or.inl ⟨_, items, error, holds, misshapen, tells, rfl⟩))
  | null | bool | number | string => exact Or.inl ⟨_, _, holds, nofun, nofun, rfl⟩

/-- An object with the shape of a query is planned as this query. -/
theorem AsksInBody.plan_of_object (asks : AsksInBody request values)
    (json : Handler.contentType request.head = MediaType.json) {members : Members} {query : Query}
    (holds : Holds limit request (.object members)) (shaped : query.ShapedAs (.object members)) :
    handler.plan limit request = handler.planPayload request.head values (.single query) := by
  have read := (Query.run_shape_iff holds.plain).mpr shaped
  rw [asks.plan_of_holds json holds, Payload.ofJson, Payload.fit_of_run read]
  rfl

/-- A list whose items have the shapes of queries is planned as the batch of them. -/
theorem AsksInBody.plan_of_list (asks : AsksInBody request values)
    (json : Handler.contentType request.head = MediaType.json) {items : List Json} {queries : List Query}
    (holds : Holds limit request (.array items)) (shaped : List.Forall₂ Query.ShapedAs items queries) :
    handler.plan limit request = handler.planPayload request.head values (.batch queries) := by
  have read : (Format.list Query.shape : TreeReader Json (List Query)).run (.array items) = .ok queries :=
    (Query.mapM_run_shape_iff holds.plain).mpr shaped
  rw [asks.plan_of_holds json holds, Payload.ofJson, Payload.fit_of_run read]
  rfl

/-- A document of a fitting shape is decided by the rules for queries. -/
theorem AsksInBody.decides_queries (asks : AsksInBody request values)
    (json : Handler.contentType request.head = MediaType.json) (fits : Fits limit request) :
    Decides (queryRules Query.ShapedAs limit handler.options request) (Planned handler limit request) := by
  refine .cons ?_ fun objectComplete => ?_
  · rintro _ ⟨members, query, holds, shaped, missing, rfl⟩
    refine ⟨?_, rfl⟩
    rw [asks.plan_of_object json holds shaped, Handler.planPayload, missing]
    rfl
  refine .cons ?_ fun notObject => ?_
  · rintro _ ⟨members, query, others, holds, shaped, given, rfl⟩
    obtain rfl := given.unique asks.given
    have present : query.text.isNone = false := by
      cases absent : query.text with
      | none => exact absurd ⟨members, query, holds, shaped, absent, rfl⟩ (objectComplete _)
      | some text => rfl
    refine ⟨?_, trivial⟩
    rw [asks.plan_of_object json holds shaped, Handler.planPayload, present]
    rfl
  -- The document is a list, since it is no object.
  cases fits with
  | object holds shaped => exact absurd ⟨_, _, values, holds, shaped, asks.given, rfl⟩ (notObject _)
  | @list items queries holds shaped =>
      have planned : handler.plan limit request =
          handler.planPayload request.head values (.batch queries) := asks.plan_of_list json holds shaped
      refine .cons ?_ fun enabled => ?_
      · rintro _ ⟨_, _, disabled, rfl⟩
        refine ⟨?_, rfl⟩
        rw [planned, Handler.planPayload, disabled]
        rfl
      have batching : handler.options.batching = true := by
        cases disabled : handler.options.batching with
        | true => rfl
        | false => exact absurd ⟨items, holds, disabled, rfl⟩ (enabled _)
      refine .cons ?_ fun complete => ?_
      · rintro _ ⟨_, others, held, shapedOthers, missing, rfl⟩
        cases holds.unique held
        obtain rfl := Query.ShapedAs.rightUnique.forall₂ shaped shapedOthers
        refine ⟨?_, rfl⟩
        rw [planned, Handler.planPayload, batching, Handler.completeQueries_of_missing missing]
        rfl
      refine .cons ?_ fun idle => absurd ⟨items, queries, values, holds, shaped, asks.given, rfl⟩ (idle _)
      rintro _ ⟨_, others, given, held, shapedOthers, givenVariables, rfl⟩
      cases holds.unique held
      obtain rfl := Query.ShapedAs.rightUnique.forall₂ shaped shapedOthers
      obtain rfl := givenVariables.unique asks.given
      have texts : ∀ query ∈ queries, query.text ≠ none := fun query member absent =>
        complete _ ⟨items, queries, holds, shaped, ⟨query, member, absent⟩, rfl⟩
      refine ⟨?_, trivial⟩
      rw [planned, Handler.planPayload, batching, Handler.completeQueries_of_texts texts]
      rfl

/-- A document that could be read is decided by the rules for documents. -/
theorem AsksInBody.decides_document (asks : AsksInBody request values)
    (json : Handler.contentType request.head = MediaType.json) {value : Json}
    (holds : Holds limit request value) :
    Decides (documentRules Query.ShapedAs limit handler.options request) (Planned handler limit request) := by
  refine .cons ?_ fun notScalar => ?_
  · rintro _ ⟨value, holds, notObject, notList, rfl⟩
    refine ⟨?_, rfl⟩
    rw [asks.plan_of_holds json holds, Payload.ofJson_scalar notObject notList]
    rfl
  refine .cons ?_ fun objectFits => ?_
  · rintro _ ⟨members, error, holds, misshapen, tells, rfl⟩
    refine ⟨?_, rfl⟩
    rw [asks.plan_of_holds json holds, Payload.ofJson, Payload.fit_of_unread (holds.unread_object misshapen) tells]
    rfl
  refine .cons ?_ fun listFits => ?_
  · rintro _ ⟨items, error, holds, misshapen, tells, rfl⟩
    refine ⟨?_, rfl⟩
    rw [asks.plan_of_holds json holds, Payload.ofJson, Payload.fit_of_unread (holds.unread_list misshapen) tells]
    rfl
  refine asks.decides_queries json ?_
  rcases holds.cases with ⟨_, gives⟩ | ⟨_, gives⟩ | ⟨_, gives⟩ | fits
  · exact absurd gives (notScalar _)
  · exact absurd gives (objectFits _)
  · exact absurd gives (listFits _)
  · exact fits

/-- A request that asks for something in a body of a known type is decided by the rules for bodies. -/
theorem AsksInBody.decides_body (asks : AsksInBody request values)
    (known : Handler.contentType request.head = MediaType.json ∨
      Handler.contentType request.head = MediaType.graphql) :
    Decides (bodyRules Query.ShapedAs limit handler.options request) (Planned handler limit request) := by
  refine .cons ?_ fun notBroken => ?_
  · rintro _ ⟨message, arrives, rfl⟩
    refine ⟨asks.plan_of_unread known ?_, rfl⟩
    rw [Handler.readBody, collect_of_arrives arrives]
  refine .cons ?_ fun notLong => ?_
  · rintro _ ⟨arrives, rfl⟩
    refine ⟨asks.plan_of_unread known ?_, rfl⟩
    rw [Handler.readBody, collect_of_arrives arrives]
  have arrived : ∃ octets, Arrives limit request.body (.ok octets) := by
    rcases arrives_cases limit request with arrived | ⟨_, broken⟩ | ⟨_, long⟩
    · exact arrived
    · exact absurd broken (notBroken _)
    · exact absurd long (notLong _)
  obtain ⟨octets, arrives⟩ := arrived
  refine .cons ?_ fun isText => ?_
  · rintro _ ⟨octets, fault, graphql, arrives, -, found, rfl⟩
    refine ⟨?_, rfl⟩
    rw [asks.plan_graphql (typeIs_iff.mp graphql), Handler.readBody_of_arrives arrives]
    show (match Utf8.fault? octets with | some fault => _ | none => _) = _
    rw [found]
    rfl
  refine .cons ?_ fun notGraphql => ?_
  · rintro _ ⟨text, others, graphql, arrives, given, rfl⟩
    obtain rfl := given.unique asks.given
    refine ⟨?_, trivial⟩
    rw [asks.plan_graphql (typeIs_iff.mp graphql), Handler.readBody_of_arrives arrives]
    show (match Utf8.fault? (Bytes.ofString text) with | some fault => _ | none => _) = _
    rw [Utf8.fault?_eq_none_iff.mpr ⟨text, rfl⟩, Bytes.ofString, Utf8.decodeLossy_encode, String.ofList_toList]
    rfl
  have json : Handler.contentType request.head = MediaType.json := by
    refine known.resolve_right fun graphql => ?_
    rcases asks.text_cases (typeIs_iff.mpr graphql) arrives with ⟨_, gives⟩ | ⟨_, gives⟩
    · exact isText _ gives
    · exact notGraphql _ gives
  refine .cons ?_ fun wellFormed => ?_
  · rintro _ ⟨octets, error, arrives, -, read, rfl⟩
    refine ⟨?_, rfl⟩
    rw [asks.plan_json json, Handler.readBody_of_arrives arrives]
    show (Payload.ofBytes octets >>= _) = _
    rw [Payload.ofBytes, read]
    rfl
  cases read : Json.parse octets with
  | ok value => exact asks.decides_document json (holds_iff.mpr ⟨octets, arrives, read⟩)
  | error error =>
      have none (value : Json) : ¬value.HasText octets := by
        intro text
        cases read.symm.trans (Json.parse_eq_ok_iff.mpr text)
      exact absurd ⟨octets, error, arrives, none, read, rfl⟩ (wellFormed _)

/-- Every request is decided by the rules for requests. -/
theorem decides_request (handler : Handler) (limit : Option Nat) (request : Request) :
    Decides (rules Query.ShapedAs limit handler.options request) (Planned handler limit request) := by
  refine .cons ?_ fun allowed => ?_
  · rintro _ ⟨notGet, notPost, rfl⟩
    refine ⟨?_, rfl⟩
    rw [Handler.plan, if_neg notGet, if_neg notPost]
    rfl
  have method : request.head.method = "GET" ∨ request.head.method = "POST" := by
    by_contra neither
    rw [not_or] at neither
    exact allowed _ ⟨neither.1, neither.2, rfl⟩
  refine .cons ?_ fun getAsks => ?_
  · rintro _ ⟨get, missing, rfl⟩
    refine ⟨?_, rfl⟩
    rw [Handler.plan_get get, Handler.planGet]
    simp only [missing]
    rfl
  have asks : request.head.method = "GET" → (UrlParameters.ofUri request.head.uri).query ≠ none :=
    fun get missing => getAsks _ ⟨get, missing, rfl⟩
  refine .cons ?_ fun sound => ?_
  · rintro _ ⟨text, error, given, -, read, rfl⟩
    exact ⟨Handler.plan_of_faultyVariables method asks (variableValues_of_fault given read), rfl⟩
  have given : ∃ values, TargetVariables request.head.uri values := by
    rcases targetVariables_cases request with given | ⟨_, faulty⟩
    · exact given
    · exact absurd faulty (sound _)
  obtain ⟨values, given⟩ := given
  refine .cons ?_ fun noQuery => ?_
  · rintro _ ⟨text, others, query, given, rfl⟩
    exact ⟨Handler.plan_of_targetQuery method query given, trivial⟩
  have target : (UrlParameters.ofUri request.head.uri).query = none := by
    cases query : (UrlParameters.ofUri request.head.uri).query with
    | none => rfl
    | some text => exact absurd ⟨text, values, query, given, rfl⟩ (noQuery _)
  have post : request.head.method = "POST" := method.resolve_left fun get => asks get target
  have asksInBody : AsksInBody request values := ⟨post, target, given⟩
  refine .cons ?_ fun noOther => ?_
  · rintro _ ⟨_, type, notJson, notGraphql, rfl⟩
    cases typeIs_iff.mp type
    exact ⟨asksInBody.plan_other notJson notGraphql, rfl⟩
  refine asksInBody.decides_body ?_
  by_contra neither
  rw [not_or] at neither
  exact noOther _ ⟨_, typeIs_iff.mpr rfl, neither.1, neither.2, rfl⟩

end

/-! ## The handling -/

theorem FirstOf.append {rules : List Rule} {verdict : Verdict} (first : FirstOf rules verdict)
    (more : List Rule) : FirstOf (rules ++ more) verdict := by
  induction first with
  | here given => exact .here given
  | later idle _ ih => exact .later idle ih

/-- The handling of a request is what a verdict asks for. -/
def Verdict.IsMet (handler : Handler) (head : Head) (handling : Handling) : Verdict → Prop
  | .reject status rejection =>
    handling = ⟨[], none, .failure (.rejected rejection)⟩ ∧ rejection.status = status
  | .single query =>
    handling.started.map Started.execution = [handler.providers.execution head query] ∧
      handling.batchSize = none ∧ ¬handling.IsRejected
  | .batch queries =>
    handling.started.map Started.execution = queries.map (handler.providers.execution head) ∧
      handling.batchSize = some queries.length ∧ ¬handling.IsRejected

theorem Planned.isMet {handler : Handler} {limit : Option Nat} {request : Request} {verdict : Verdict}
    (planned : Planned handler limit request verdict) (engine : Engine) (ordinal : Nat) :
    verdict.IsMet handler request.head (handler.handle engine ordinal limit request) := by
  obtain ⟨plan, ownStatus⟩ := planned
  cases verdict with
  | reject status rejection => exact ⟨Handler.handle_of_rejected plan engine ordinal, ownStatus⟩
  | single query =>
      refine ⟨?_, ?_, Handler.not_isRejected_of_plan plan⟩
      · rw [Handler.handle_of_accepted plan]
        exact engine.map_execution_start ordinal _
      · rw [Handler.handle_of_accepted plan]
        rfl
  | batch queries =>
      refine ⟨?_, ?_, Handler.not_isRejected_of_plan plan⟩
      · rw [Handler.handle_of_accepted plan]
        exact engine.map_execution_start ordinal _
      · rw [Handler.handle_of_accepted plan]
        exact congrArg some (List.length_map _)

/-- A batch is executed if the number of its queries is told. -/
theorem Verdict.IsMet.exists_batch {verdict : Verdict} {handler : Handler} {head : Head} {handling : Handling}
    (met : verdict.IsMet handler head handling) {size : Nat} (told : handling.batchSize = some size) :
    ∃ queries, verdict = .batch queries ∧ queries.length = size := by
  cases verdict with
  | reject status rejection =>
      rw [met.1] at told
      cases told
  | single query => cases told.symm.trans met.2.1
  | batch queries => exact ⟨queries, rfl, Option.some.inj (met.2.1.symm.trans told)⟩

theorem handle_of_plan_eq {handler : Handler} {limit limit' : Option Nat} {request other : Request}
    (same : handler.plan limit request = handler.plan limit' other) (engine : Engine) (ordinal : Nat) :
    handler.handle engine ordinal limit request = handler.handle engine ordinal limit' other := by
  rw [Handler.handle, Handler.handle, same]

section

variable {limit : Option Nat} {request : Request} {Item Other : Json → Query → Prop}

/-- Of the shape of items only that of the items in the body counts. -/
theorem rules_congr_items (options : Options)
    (same : ∀ items, Holds limit request (.array items) → ∀ item ∈ items, ∀ query,
      Item item query ↔ Other item query) :
    rules Item limit options request = rules Other limit options request := by
  have misshapen : Rule.misshapenList Item limit request = Rule.misshapenList Other limit request := by
    funext verdict
    refine propext (exists_congr fun items => exists_congr fun error => and_congr_right fun holds => ?_)
    refine and_congr_left fun _ => exists_congr fun item => and_congr_right fun member => ?_
    exact forall_congr' fun query => not_congr (same items holds item member query)
  have withoutText : Rule.itemWithoutText Item limit request = Rule.itemWithoutText Other limit request := by
    funext verdict
    refine propext (exists_congr fun items => exists_congr fun queries => and_congr_right fun holds => ?_)
    exact and_congr_left fun _ => forall₂_congr_of_mem (same items holds)
  have batch : Rule.batch Item limit request = Rule.batch Other limit request := by
    funext verdict
    refine propext (exists_congr fun items => exists_congr fun queries => exists_congr fun values => ?_)
    exact and_congr_right fun holds => and_congr_left fun _ => forall₂_congr_of_mem (same items holds)
  unfold rules bodyRules documentRules queryRules
  rw [misshapen, withoutText, batch]

end

/-- The rules decide about a request: some verdict is the first, and the handling is what it asks for. -/
def DecidedBy (Item : Json → Query → Prop) (handler : Handler) (engine : Engine) (ordinal : Nat)
    (limit : Option Nat) (request : Request) : Prop :=
  Decides (rules Item limit handler.options request) fun verdict =>
    verdict.IsMet handler request.head (handler.handle engine ordinal limit request)

/-- What becomes of a request is decided by the first rule that applies, whatever else is wrong with it, if an item of
a batch may have either shape of a query.  If no item is a list with this shape, then the documented rules decide, for
which an item is an object.  If the first rule that applies does not look at the body, then the handling is the same
with every other body.  And the parameters that the rules look at are the first values of their names in the target,
however it is written. -/
theorem first_rule_decides (handler : Handler) (engine : Engine) (ordinal : Nat) (limit : Option Nat)
    (request : Request) :
    DecidedBy Query.ShapedAs handler engine ordinal limit request ∧
      ((∀ items, Holds limit request (.array items) → ∀ parts, .array parts ∈ items → ∀ query,
          ¬Query.ShapedAs (.array parts) query) →
        DecidedBy Query.ObjectShapedAs handler engine ordinal limit request) ∧
      (∀ verdict, FirstOf (headRules request.head) verdict → ∀ body,
        handler.handle engine ordinal limit ⟨request.head, body⟩ =
          handler.handle engine ordinal limit request) ∧
      ∀ pairs, Form.QueryText pairs (Bytes.ofString (request.head.uri.query.getD "")) →
        UrlParameters.ofUri request.head.uri =
          ⟨pairs.lookup "query", pairs.lookup "variables", pairs.lookup "operationName"⟩ := by
  have decided := decides_request handler limit request
  have met : DecidedBy Query.ShapedAs handler engine ordinal limit request :=
    ⟨decided.1, fun verdict first => (decided.2 verdict first).isMet engine ordinal⟩
  refine ⟨met, fun objects => ?_, fun verdict first body => ?_, fun pairs writes => ?_⟩
  · have same : ∀ items, Holds limit request (.array items) → ∀ item ∈ items, ∀ query,
        Query.ObjectShapedAs item query ↔ Query.ShapedAs item query := by
      intro items holds item member query
      refine ⟨And.right, fun shaped => ⟨?_, shaped⟩⟩
      cases shaped.written with
      | object => exact ⟨_, rfl⟩
      | list => exact absurd shaped (objects items holds _ member query)
    rw [DecidedBy, rules_congr_items handler.options same]
    exact met
  · have here := (decided.2 verdict (first.append _)).1
    have there := ((decides_request handler limit ⟨request.head, body⟩).2 verdict (first.append _)).1
    exact handle_of_plan_eq (there.trans here.symm) engine ordinal
  · rw [UrlParameters.ofUri, writes.pairs_eq]
    rfl

/-- Posts a batch with one item. -/
def postedItem (item : Json) : Request :=
  ⟨⟨"POST", ⟨"/graphql", none⟩, [("content-type", Bytes.ofString "application/json")]⟩,
    .whole (Bytes.ofString (Json.array [item]).text)⟩

/-- An item that is a list of the parts of a query: of its text only. -/
def textInList : Json := .array [.string "{a}"]

/-- An item that is an object with the text of a query. -/
def textInObject : Json := .object [("query", .string "{a}")]

theorem holds_postedItem {item value : Json}
    (read : Json.parse (Bytes.ofString (Json.array [item]).text) = .ok (.array [item]))
    (holds : Holds none (postedItem item) value) : value = .array [item] :=
  holds.unique (holds_iff.mpr ⟨_, arrives_whole _, read⟩)

theorem batchSize_textInList :
    ((Handler.new ⟨true⟩).handle Engine.echo 0 none (postedItem textInList)).batchSize = some 1 := by
  with_unfolding_all rfl

/-- A batch of a list is executed, one of an object is decided by the documented rules, and a method that is not
allowed counts whatever the body is. -/
theorem three_requests_decided :
    (∃ queries, FirstOf (rules Query.ShapedAs none ⟨true⟩ (postedItem textInList)) (.batch queries) ∧
      queries.length = 1 ∧
      (Verdict.batch queries).IsMet (Handler.new ⟨true⟩) (postedItem textInList).head
        ((Handler.new ⟨true⟩).handle Engine.echo 0 none (postedItem textInList))) ∧
    DecidedBy Query.ObjectShapedAs (Handler.new ⟨true⟩) Engine.echo 0 none (postedItem textInObject) ∧
    ∀ body, (Handler.new ⟨true⟩).handle Engine.echo 0 none ⟨⟨"PUT", ⟨"/graphql", none⟩, []⟩, body⟩ =
      (Handler.new ⟨true⟩).handle Engine.echo 0 none ⟨⟨"PUT", ⟨"/graphql", none⟩, []⟩, []⟩ := by
  refine ⟨?_, ?_, ?_⟩
  · obtain ⟨⟨⟨verdict, first⟩, met⟩, -⟩ :=
      first_rule_decides (Handler.new ⟨true⟩) Engine.echo 0 none (postedItem textInList)
    have asked := met verdict first
    obtain ⟨queries, rfl, one⟩ := asked.exists_batch batchSize_textInList
    exact ⟨queries, first, one, asked⟩
  · obtain ⟨-, objects, -⟩ :=
      first_rule_decides (Handler.new ⟨true⟩) Engine.echo 0 none (postedItem textInObject)
    refine objects fun items holds parts member query => ?_
    cases holds_postedItem (by with_unfolding_all rfl) holds
    cases List.mem_singleton.mp member
  · obtain ⟨-, -, anyBody, -⟩ :=
      first_rule_decides (Handler.new ⟨true⟩) Engine.echo 0 none ⟨⟨"PUT", ⟨"/graphql", none⟩, []⟩, []⟩
    exact anyBody _ (.here ⟨by decide, by decide, rfl⟩)

/-- The documented rules do not decide every request: a batch of a list is executed, which they refuse. -/
theorem documented_rules_not_decisive :
    ¬∀ (handler : Handler) (engine : Engine) (ordinal : Nat) (limit : Option Nat) (request : Request),
      DecidedBy Query.ObjectShapedAs handler engine ordinal limit request := by
  intro all
  obtain ⟨⟨verdict, first⟩, met⟩ := all (Handler.new ⟨true⟩) Engine.echo 0 none (postedItem textInList)
  obtain ⟨queries, rfl, -⟩ := (met verdict first).exists_batch batchSize_textInList
  obtain ⟨rule, member, gives⟩ := first.exists_rule
  obtain ⟨items, others, -, holds, shaped, -⟩ := Rule.batch_of_mem member gives
  cases holds_postedItem (by with_unfolding_all rfl) holds
  cases shaped with
  | cons shapedList =>
      obtain ⟨⟨members, object⟩, -⟩ := shapedList
      cases object

end GraphQL

end QueryGateway
