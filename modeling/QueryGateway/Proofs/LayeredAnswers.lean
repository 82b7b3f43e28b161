import QueryGateway.Proofs.Deadlines

/-!
# Answers in their layers

What the layers add to a request and to its answer.  A request is given an identifier, and nothing else of it
changes.  An answer that comes from the handler, or from a layer in its place, tells neither a length nor an
identifier; on the way out it is given the identifier of its request, and on a known path the length of its body,
and every other field stays as it is.
-/

namespace QueryGateway

open Http

namespace Http.Headers

/-! ## Fields -/

/-- All values of a name, in order. -/
def values (headers : Headers) (name : String) : List Bytes :=
  (headers.filter fun field => field.1 == name).map Prod.snd

variable {headers : Headers} {name other : String} {value : Bytes}

theorem values_append (headers more : Headers) (name : String) :
    (headers ++ more).values name = headers.values name ++ more.values name := by
  rw [values, List.filter_append, List.map_append]
  rfl

theorem values_singleton_self (name : String) (value : Bytes) : values [(name, value)] name = [value] := by
  rw [values, List.filter_singleton, beq_self_eq_true]
  rfl

theorem values_singleton_of_ne (different : other ≠ name) : values [(name, value)] other = [] := by
  rw [values, List.filter_singleton, beq_eq_false_iff_ne.mpr different.symm]
  rfl

/-- A look-up finds the first of all values. -/
theorem head?_values (headers : Headers) (name : String) : (headers.values name).head? = headers.first? name := by
  induction headers with
  | nil => rfl
  | cons field headers ih =>
      obtain ⟨here, value⟩ := field
      by_cases same : here = name
      · subst same
        simp [values, first?]
      · have test : (here == name) = false := beq_eq_false_iff_ne.mpr same
        have reverse : (name == here) = false := beq_eq_false_iff_ne.mpr (Ne.symm same)
        have skipped : values ((here, value) :: headers) name = values headers name := by
          simp [values, test]
        rw [skipped, ih, first?, first?, List.lookup_cons, reverse]

theorem first?_of_values_nil (none : headers.values name = []) : headers.first? name = .none := by
  rw [← head?_values, none]
  rfl

theorem first?_append_singleton_of_ne (different : other ≠ name) :
    first? (headers ++ [(name, value)]) other = headers.first? other := by
  rw [← head?_values, ← head?_values, values_append, values_singleton_of_ne different, List.append_nil]

theorem first?_append_singleton_self (absent : headers.first? name = none) :
    first? (headers ++ [(name, value)]) name = some value := by
  rw [first?, List.lookup_append, ← first?, absent, List.lookup_cons_self]
  rfl

/-- A field that is set leaves the absence of another one as it is. -/
theorem values_set_of_ne (different : other ≠ name) (value : Bytes) (none : headers.values other = []) :
    (headers.set name value).values other = [] := by
  rw [set, values_append, values_singleton_of_ne different, List.append_nil]
  unfold values at none ⊢
  rw [List.map_eq_nil_iff, List.filter_eq_nil_iff] at none ⊢
  intro field kept
  exact none field (List.mem_filter.mp kept).1

end Http.Headers

namespace Server

open GraphQL

/-! ## Requests -/

/-- The identifier of a request: the first one that it brings, or else a fresh one. -/
def identityOf (fresh : Bytes) (request : Request) : Bytes :=
  (request.head.headers.values requestIdName).head?.getD fresh

/-- A request keeps every field but its identifier. -/
theorem first?_identify_of_ne {name : String} (different : name ≠ requestIdName) (fresh : Bytes) (head : Head) :
    (identify fresh head).headers.first? name = head.headers.first? name := by
  unfold identify
  split
  · rfl
  · exact Headers.first?_append_singleton_of_ne different

theorem first?_identified (fresh : Bytes) (request : Request) :
    (identified fresh request).head.headers.first? requestIdName = some (identityOf fresh request) := by
  unfold identified identify identityOf
  rw [Headers.head?_values]
  dsimp only
  split
  next id given => rw [given]; rfl
  next absent => rw [Headers.first?_append_singleton_self absent, absent]; rfl

theorem identifier_identified (fresh : Bytes) (request : Request) :
    identifier (identified fresh request).head = identityOf fresh request := by
  rw [identifier, first?_identified]
  rfl

theorem contentType_identify (fresh : Bytes) (head : Head) :
    Handler.contentType (identify fresh head) = Handler.contentType head := by
  have different : "content-type" ≠ requestIdName := by decide
  rw [Handler.contentType, Handler.contentType, first?_identify_of_ne different]

theorem announcedLength?_identify (fresh : Bytes) (head : Head) :
    announcedLength? (identify fresh head).headers = announcedLength? head.headers := by
  have different : "content-length" ≠ requestIdName := by decide
  rw [announcedLength?, announcedLength?, first?_identify_of_ne different]

/-! ## Answers -/

/-- An answer to which nothing was added yet: it tells neither a length nor an identifier. -/
structure IsBare (answer : Response) : Prop where
  noLength : answer.headers.values "content-length" = []
  noIdentifier : answer.headers.values requestIdName = []

theorem isBare_timedOut : IsBare timedOut := ⟨rfl, rfl⟩

theorem isBare_unknownPath : IsBare unknownPath := ⟨rfl, rfl⟩

theorem isBare_message (status : Nat) (text : String) : IsBare (.message status text) := by
  constructor <;> exact Headers.values_singleton_of_ne (by decide)

theorem isBare_json (text : String) : IsBare (.json text) := by
  constructor <;> exact Headers.values_singleton_of_ne (by decide)

theorem isBare_failure (cause : Failure) : IsBare cause.response := by
  have plain := isBare_message cause.status cause.message
  unfold Failure.response
  dsimp only
  split
  · constructor
    · exact Headers.values_set_of_ne (by decide) _ plain.noLength
    · exact Headers.values_set_of_ne (by decide) _ plain.noIdentifier
  · exact plain

end Server

namespace GraphQL

/-- What is answered when the handling of a request ends in a response is the text of a document. -/
theorem Handler.exists_text_of_ending {handler : Handler} {engine : Engine} {ordinal : Nat} {limit : Option Nat}
    {request : Request} {answer : Response}
    (ending : (handler.handle engine ordinal limit request).ending = .response answer) :
    ∃ text, answer = .json text := by
  have ofOutcomes (outcomes : List Outcome) (same : Ending.ofOutcomes outcomes = .response answer) :
      ∃ text, answer = .json text := by
    unfold Ending.ofOutcomes at same
    split at same
    · cases same
      exact ⟨_, rfl⟩
    · cases same
  cases decided : handler.plan limit request with
  | error rejection =>
      rw [handle_of_rejected decided] at ending
      cases ending
  | ok plan =>
      rw [handle_of_accepted decided] at ending
      unfold Plan.ending at ending
      split at ending
      next plan execution only _ =>
        cases outcome : only.outcome with
        | result result =>
            rw [outcome] at ending
            cases ending
            exact ⟨_, rfl⟩
        | failure | panic =>
            rw [outcome] at ending
            cases ending
      next => exact ofOutcomes _ ending

end GraphQL

namespace Server

open GraphQL

theorem isBare_of_ending {handler : Handler} {engine : Engine} {ordinal : Nat} {limit : Option Nat}
    {request : Request} {answer : Response}
    (reply : Reply.ofEnding (handler.handle engine ordinal limit request).ending = .response answer) :
    IsBare answer := by
  cases ending : (handler.handle engine ordinal limit request).ending with
  | response told =>
      rw [ending] at reply
      cases reply
      obtain ⟨text, rfl⟩ := Handler.exists_text_of_ending ending
      exact isBare_json text
  | failure cause =>
      rw [ending] at reply
      cases reply
      exact isBare_failure cause
  | panic message =>
      rw [ending] at reply
      cases reply

/-! ## What is added on the way out -/

section

variable {answer : Response}

theorem headers_withLength (noLength : answer.headers.values "content-length" = []) :
    (withLength answer).headers =
      answer.headers ++ [("content-length", Bytes.ofString (toString answer.length))] := by
  unfold withLength
  rw [Headers.first?_of_values_nil noLength]

theorem headers_complete (method : String) (answer : Response) :
    (complete method answer).headers = (withLength answer).headers := by
  unfold complete
  split <;> rfl

theorem body_complete {method : String} (notHead : method ≠ "HEAD") (answer : Response) :
    (complete method answer).body = answer.body := by
  rw [complete, if_neg notHead, body_withLength]

/-- An answer keeps its body, unless only the head is asked for. -/
theorem body_finish {request : Request} (notHead : request.head.method ≠ "HEAD") (server : Server)
    (answer : Response) : (server.finish request answer).body = answer.body := by
  rw [finish, body_carry]
  split
  · exact body_complete notHead answer
  · rfl

theorem headers_carry (noIdentifier : answer.headers.values requestIdName = []) (id : Bytes) :
    (carry id answer).headers = answer.headers ++ [(requestIdName, id)] := by
  unfold carry
  rw [Headers.first?_of_values_nil noIdentifier]

/-- The fields of an answer when it leaves: those that it has, the length on a known path, and the identifier. -/
theorem headers_finish (bare : IsBare answer) (server : Server) (request : Request) :
    (server.finish request answer).headers = answer.headers ++
      (if server.route.accepts request.head.uri.path = true then
          [("content-length", Bytes.ofString (toString answer.length))] else []) ++
        [(requestIdName, identifier request.head)] := by
  unfold finish
  split
  · have completed := headers_complete request.head.method answer
    rw [headers_withLength bare.noLength] at completed
    rw [headers_carry, completed]
    rw [completed, Headers.values_append, bare.noIdentifier]
    exact Headers.values_singleton_of_ne (by decide)
  · rw [headers_carry bare.noIdentifier, List.append_nil]

/-- An answer leaves with one identifier, that of its request. -/
theorem values_finish_requestId (bare : IsBare answer) (server : Server) (request : Request) :
    (server.finish request answer).headers.values requestIdName = [identifier request.head] := by
  rw [headers_finish bare, Headers.values_append, Headers.values_append, bare.noIdentifier,
    Headers.values_singleton_self]
  split
  · rw [Headers.values_singleton_of_ne (by decide)]
    rfl
  · rfl

/-- An answer keeps every field that it has. -/
theorem values_finish_of_ne (bare : IsBare answer) {name : String} (notLength : name ≠ "content-length")
    (notIdentifier : name ≠ requestIdName) (server : Server) (request : Request) :
    (server.finish request answer).headers.values name = answer.headers.values name := by
  rw [headers_finish bare, Headers.values_append, Headers.values_append,
    Headers.values_singleton_of_ne notIdentifier, List.append_nil]
  split
  · rw [Headers.values_singleton_of_ne notLength, List.append_nil]
  · exact List.append_nil _

/-- What is left of an answer, its fields apart, when it leaves. -/
theorem exists_finish {request : Request} (notHead : request.head.method ≠ "HEAD") (server : Server)
    (answer : Response) : ∃ headers, server.finish request answer = ⟨answer.status, headers, answer.body⟩ := by
  have status := server.status_finish request answer
  have body := server.body_finish notHead answer
  generalize server.finish request answer = told at status body
  obtain ⟨_, headers, _⟩ := told
  cases status
  cases body
  exact ⟨headers, rfl⟩

end

/-- Every answer to a request is one to which the layers have added. -/
theorem Served.exists_bare {server : Server} {engine : Engine} {request : Request}
    {result : Reply × Activity × Server} (served : Served server engine request result) {answer : Response}
    (replied : result.1 = .response answer) :
    ∃ plain, IsBare plain ∧ answer = server.finish request plain := by
  cases served with
  | noTime none =>
      cases replied
      exact ⟨timedOut, isBare_timedOut, rfl⟩
  | tooMuch time long =>
      cases replied
      exact ⟨lengthExceeded, isBare_message _ _, rfl⟩
  | unknown time short other =>
      cases replied
      exact ⟨unknownPath, isBare_unknownPath, rfl⟩
  | inTime reached timely =>
      cases told : Reply.ofEnding (server.handling engine request).ending with
      | response plain =>
          rw [told] at replied
          cases replied
          exact ⟨plain, isBare_of_ending told, rfl⟩
      | panic message =>
          rw [told] at replied
          cases replied
  | cutOff reached late =>
      cases replied
      exact ⟨timedOut, isBare_timedOut, rfl⟩

end Server

end QueryGateway
