import QueryGateway.Proofs.Essences
import QueryGateway.Proofs.Independence
import QueryGateway.Proofs.SameButType

/-!
# How the type of a body decides its use

A request that asks in its body is read by the first value of its content type, and of that value only the essence
counts: a JSON document, or the text of a query, or nothing that is read at all.  The types that come after the first
one do not count, and neither do letter case, blanks and parameters.
-/

namespace QueryGateway

open Http

namespace GraphQL

/-! ## Uses -/

/-- What the body of a request is used as. -/
inductive BodyUse where
  /-- A JSON document, which holds a query or a list of queries. -/
  | document
  /-- The text of a query. -/
  | text
  /-- Nothing: it is refused for its type. -/
  | refused (essence : String)
  deriving DecidableEq, Repr

namespace BodyUse

/-- The type decides the use of a body. -/
structure Follows (head : Head) (use : BodyUse) : Prop where
  document : use = .document ↔ TypeIs head "application/json"
  text : use = .text ↔ TypeIs head "application/graphql"
  refused : ∀ essence, use = .refused essence ↔
    TypeIs head essence ∧ essence ≠ "application/json" ∧ essence ≠ "application/graphql"

/-- Why a body cannot be used. -/
def unreadable : BodyFault → Rejection
  | .tooLarge => .payloadTooLarge
  | .broken message => .bodyUnreadable message

/-- What the use of a body gives: a payload, or a rejection.  A body that is refused need not arrive. -/
inductive Gives (limit : Option Nat) (request : Request) : BodyUse → Except Rejection Payload → Prop
  | refused (essence : String) : Gives limit request (.refused essence) (.error (.unsupportedMediaType essence))
  | unread {use : BodyUse} {fault : BodyFault} (read : ∀ essence, use ≠ .refused essence)
      (arrives : Arrives limit request.body (.error fault)) : Gives limit request use (.error (unreadable fault))
  | document {octets : Bytes} (arrives : Arrives limit request.body (.ok octets)) :
      Gives limit request .document (Payload.ofBytes octets)
  | text {written : String} (arrives : Arrives limit request.body (.ok (Bytes.ofString written))) :
      Gives limit request .text
        (.ok (.single ⟨some written, none, (UrlParameters.ofUri request.head.uri).operationName⟩))
  | notText {octets : Bytes} {fault : Utf8.Fault} (arrives : Arrives limit request.body (.ok octets))
      (found : Utf8.fault? octets = some fault) : Gives limit request .text (.error (.invalidUtf8 fault))

theorem exists_follows (head : Head) : ∃ use : BodyUse, use.Follows head := by
  have distinct : "application/json" ≠ "application/graphql" := by decide
  by_cases json : Handler.contentType head = "application/json"
  · refine ⟨.document, ?_, ?_, fun essence => ?_⟩ <;> rw [typeIs_iff, json]
    · simp
    · simp
    · grind
  by_cases graphql : Handler.contentType head = "application/graphql"
  · refine ⟨.text, ?_, ?_, fun essence => ?_⟩ <;> rw [typeIs_iff, graphql]
    · simp
    · simp
    · grind
  · refine ⟨.refused (Handler.contentType head), ?_, ?_, fun essence => ?_⟩ <;> rw [typeIs_iff]
    · simp [json]
    · simp [graphql]
    · grind

/-- Every body gives something, however it is used. -/
theorem exists_gives (limit : Option Nat) (request : Request) (use : BodyUse) :
    ∃ result, use.Gives limit request result := by
  have arrives := arrives_collect limit request.body
  cases use with
  | refused essence => exact ⟨_, .refused essence⟩
  | document =>
      cases collected : Body.collect limit request.body with
      | error fault => exact ⟨_, .unread nofun (collected ▸ arrives)⟩
      | ok octets => exact ⟨_, .document (collected ▸ arrives)⟩
  | text =>
      cases collected : Body.collect limit request.body with
      | error fault => exact ⟨_, .unread nofun (collected ▸ arrives)⟩
      | ok octets =>
          rw [collected] at arrives
          cases found : Utf8.fault? octets with
          | some fault => exact ⟨_, .notText arrives found⟩
          | none =>
              obtain ⟨written, rfl⟩ := Utf8.fault?_eq_none_iff.mp found
              exact ⟨_, .text arrives⟩

end BodyUse

section

variable {handler : Handler} {limit : Option Nat} {request other : Request} {values : Option Members}

theorem readBody_of_unreadable {fault : BodyFault} (arrives : Arrives limit request.body (.error fault)) :
    Handler.readBody limit request.body = .error (BodyUse.unreadable fault) := by
  rw [Handler.readBody, collect_of_arrives arrives]
  cases fault <;> rfl

/-- What the use of a body gives is planned, with the variables of the target. -/
theorem AsksInBody.plan_of_gives (asks : AsksInBody request values) {use : BodyUse}
    (follows : use.Follows request.head) {result : Except Rejection Payload} (gives : use.Gives limit request result) :
    handler.plan limit request = result >>= handler.planPayload request.head values := by
  have json (document : use = .document) : Handler.contentType request.head = MediaType.json :=
    typeIs_iff.mp (follows.document.mp document)
  have graphql (text : use = .text) : Handler.contentType request.head = MediaType.graphql :=
    typeIs_iff.mp (follows.text.mp text)
  cases gives with
  | refused essence =>
      obtain ⟨type, notJson, notGraphql⟩ := (follows.refused essence).mp rfl
      cases typeIs_iff.mp type
      exact asks.plan_other notJson notGraphql
  | unread read arrives =>
      have known : Handler.contentType request.head = MediaType.json ∨
          Handler.contentType request.head = MediaType.graphql := by
        cases use with
        | document => exact Or.inl (json rfl)
        | text => exact Or.inr (graphql rfl)
        | refused essence => exact absurd rfl (read essence)
      exact asks.plan_of_unread known (readBody_of_unreadable arrives)
  | document arrives =>
      rw [asks.plan_json (json rfl), Handler.readBody_of_arrives arrives]
      rfl
  | @text written arrives =>
      rw [asks.plan_graphql (graphql rfl), Handler.readBody_of_arrives arrives]
      dsimp only [bind, Except.bind]
      rw [Utf8.fault?_eq_none_iff.mpr ⟨written, rfl⟩, Bytes.ofString, Utf8.decodeLossy_encode, String.ofList_toList]
      -- A query that is a text has no variables, so it inherits those of the target.
      rfl
  | notText arrives found =>
      rw [asks.plan_graphql (graphql rfl), Handler.readBody_of_arrives arrives]
      dsimp only [bind, Except.bind]
      rw [found]

/-- A body with a type that is not a text is refused. -/
theorem BodyUse.Follows.refused_of_broken {use : BodyUse} {head : Head} (follows : use.Follows head)
    {before after : Bytes} (given : head.headers.first? "content-type" = some (before ++ after))
    (first : 0x3B ∉ before) (parameters : MediaType.StartsParameters after)
    (broken : ∀ written, before ≠ Bytes.ofString written) : ∃ essence, use = .refused essence := by
  have has : MediaType.HasEssence (before ++ after) (MediaType.essence (before ++ after)) :=
    MediaType.hasEssence_iff.mpr rfl
  have replaced := has.replacement_mem first parameters broken
  refine ⟨_, (follows.refused _).mpr ⟨.given given has, ?_, ?_⟩⟩
  · intro json
    rw [json] at replaced
    revert replaced
    decide
  · intro graphql
    rw [graphql] at replaced
    revert replaced
    decide

/-- The same verdict holds for requests with the same type, whatever else their content types say. -/
theorem exists_planned_of_typeIs (handler : Handler) (limit : Option Nat) (same : SameButType request.head other.head)
    (body : other.body = request.body) {essence : String} (type : TypeIs request.head essence)
    (otherType : TypeIs other.head essence) :
    ∃ verdict, Planned handler limit request verdict ∧ Planned handler limit other verdict := by
  have types : Handler.contentType other.head = Handler.contentType request.head :=
    (typeIs_iff.mp otherType).trans (typeIs_iff.mp type).symm
  obtain ⟨⟨verdict, first⟩, planned⟩ := decides_request handler limit request
  refine ⟨verdict, planned verdict first, (decides_request handler limit other).2 verdict ?_⟩
  rw [rules_congr same.method same.uri types body]
  exact first

/-- The essence of the first content type decides alone what becomes of a body.  The body is read as a JSON document
exactly if the essence is that of JSON or there is no content type, and as the text of a query exactly if it is that
of such texts; with every other essence, and so with every value that is no text before its parameters, the request is
refused, and told the essence.  Requests whose first content types have the same essence are handled alike, whatever
the letter case, the blanks and the parameters are, and whatever content types come after the first. -/
theorem essence_decides_use (asks : AsksInBody request values) (handler : Handler) (limit : Option Nat) :
    (∃ use : BodyUse, use.Follows request.head ∧
      (∃ result, use.Gives limit request result) ∧
      (∀ result, use.Gives limit request result →
        handler.plan limit request = result >>= handler.planPayload request.head values) ∧
      (∀ essence, use = .refused essence → ∀ engine ordinal, handler.handle engine ordinal limit request =
        ⟨[], none, .failure (.rejected (.unsupportedMediaType essence))⟩) ∧
      ∀ before after, request.head.headers.first? "content-type" = some (before ++ after) → 0x3B ∉ before →
        MediaType.StartsParameters after → (∀ written, before ≠ Bytes.ofString written) →
        ∃ essence, use = .refused essence) ∧
    ∀ other : Request, SameButType request.head other.head → other.body = request.body →
      ∀ essence, TypeIs request.head essence → TypeIs other.head essence → ∀ engine ordinal,
        HandledAlike handler engine request.head other.head (handler.handle engine ordinal limit request)
          (handler.handle engine ordinal limit other) := by
  obtain ⟨use, follows⟩ := BodyUse.exists_follows request.head
  refine ⟨⟨use, follows, use.exists_gives limit request, fun result => asks.plan_of_gives follows, ?_, ?_⟩, ?_⟩
  · rintro essence rfl engine ordinal
    exact Handler.handle_of_rejected (asks.plan_of_gives follows (.refused essence)) engine ordinal
  · intro before after given first parameters broken
    exact follows.refused_of_broken given first parameters broken
  · intro other same body essence type otherType engine ordinal
    obtain ⟨verdict, one, two⟩ := exists_planned_of_typeIs handler limit same body type otherType
    exact one.handledAlike two same engine ordinal

end

/-- A request with the text of a query in its body, and with content types. -/
def textWithTypes (types : List Bytes) : Request :=
  ⟨⟨"POST", ⟨"/graphql", none⟩, types.map fun type => ("content-type", type)⟩, .whole (Bytes.ofString "{a}")⟩

/-- Capitals, blanks, an octet that is no text among the parameters and a second type change nothing: the query is
executed and answered as with the plain type. -/
theorem answered_with_padded_type :
    let plain := textWithTypes [Bytes.ofString "application/graphql"]
    let padded := textWithTypes [Bytes.ofString " Application/GraphQL ;" ++ [0xFF], Bytes.ofString "text/xml"]
    (∃ response, ((Handler.new ⟨false⟩).handle Engine.echo 0 none plain).ending = .response response) ∧
      ((Handler.new ⟨false⟩).handle Engine.echo 0 none padded).ending =
        ((Handler.new ⟨false⟩).handle Engine.echo 0 none plain).ending := by
  intro plain padded
  have asks : AsksInBody plain none :=
    ⟨rfl, by with_unfolding_all rfl, targetVariables_none (by with_unfolding_all rfl)⟩
  have same : SameButType plain.head padded.head := ⟨rfl, rfl, rfl⟩
  have type : TypeIs plain.head "application/graphql" :=
    .given rfl (MediaType.hasEssence_iff.mpr (by with_unfolding_all rfl))
  have paddedType : TypeIs padded.head "application/graphql" :=
    .given rfl (MediaType.hasEssence_iff.mpr (by with_unfolding_all rfl))
  obtain ⟨-, alike⟩ := essence_decides_use asks (Handler.new ⟨false⟩) none
  obtain ⟨-, -, ending⟩ := (alike padded same rfl _ type paddedType Engine.echo 0).blind
    Providers.ignoreType_standard Engine.ignoresType_echo
  exact ⟨⟨_, by with_unfolding_all rfl⟩, ending⟩

end GraphQL

end QueryGateway
