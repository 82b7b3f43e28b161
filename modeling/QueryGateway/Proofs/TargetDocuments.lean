import QueryGateway.Proofs.FormTexts
import QueryGateway.Proofs.Precedence
import QueryGateway.Proofs.PrintedDocuments

/-!
# Queries in targets

How a target gives a query, said of its text: it writes pairs, the first value of a name counts, and the variables
are the text of an object.  Every portable object of variables can be given in a short target, whatever else is
given.
-/

namespace QueryGateway

namespace GraphQL

open Http

/-! ## Targets -/

/-- A target gives a query text, variables and an operation name, or leaves them out: of the pairs that it writes,
the first of each name counts. -/
inductive InTarget (uri : Uri) (text : Option String) (values : Option Members) (operationName : Option String) :
    Prop
  | intro {pairs : List (String × String)} (writes : Form.PairsText pairs (Bytes.ofString (uri.query.getD "")))
      (query : pairs.lookup "query" = text) (variableValues : GivesVariables (pairs.lookup "variables") values)
      (operation : pairs.lookup "operationName" = operationName)

section

variable {uri : Uri} {text operationName : Option String} {values : Option Members}

theorem InTarget.ofUri_eq (given : InTarget uri text values operationName) :
    ∃ written, GivesVariables written values ∧ UrlParameters.ofUri uri = ⟨text, written, operationName⟩ := by
  obtain @⟨pairs, writes, query, variableValues, operation⟩ := given
  refine ⟨_, variableValues, ?_⟩
  rw [UrlParameters.ofUri, writes.pairs_eq, UrlParameters.ofPairs]
  simp only [Form.first?, query, operation]

theorem InTarget.query_eq (given : InTarget uri text values operationName) :
    (UrlParameters.ofUri uri).query = text := by
  obtain ⟨_, -, same⟩ := given.ofUri_eq
  rw [same]

theorem InTarget.operationName_eq (given : InTarget uri text values operationName) :
    (UrlParameters.ofUri uri).operationName = operationName := by
  obtain ⟨_, -, same⟩ := given.ofUri_eq
  rw [same]

theorem InTarget.targetVariables (given : InTarget uri text values operationName) :
    TargetVariables uri values := by
  obtain ⟨written, gives, same⟩ := given.ofUri_eq
  rw [TargetVariables, same]
  exact gives

end

/-! ## Written targets -/

/-- The parameters that give a query text, variables and an operation name. -/
def parameters (text : Option String) (values : Option Members) (operationName : Option String) :
    List (String × String) :=
  (text.map (Prod.mk "query")).toList
    ++ (values.map fun members => ("variables", (Json.object members).text)).toList
    ++ (operationName.map (Prod.mk "operationName")).toList

/-- A path with parameters, as it is written. -/
def target (path : List Char) (pairs : List (String × String)) : String :=
  String.ofList ('/' :: (path ++ '?' :: Form.pairsChars pairs))

end GraphQL

end QueryGateway
