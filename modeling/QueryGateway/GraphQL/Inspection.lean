import QueryGateway.GraphQL.Execution

/-!
# Executions as they are shown to developers

JSON values are shown with the name of their kind, texts quoted, members and items in order.
-/

namespace QueryGateway.GraphQL

/-- An optional text as it is shown. -/
def inspectOption {α : Type} (show? : α → String) : Option α → String
  | none => "None"
  | some a => "Some(" ++ show? a ++ ")"

mutual

/-- A JSON value as it is shown. -/
def inspectJson : Json → String
  | .null => "Null"
  | .bool true => "Bool(true)"
  | .bool false => "Bool(false)"
  | .number n => "Number(" ++ String.ofList (Json.numberChars n) ++ ")"
  | .string s => "String(" ++ Text.quote s ++ ")"
  | .array items => "Array [" ++ ", ".intercalate (inspectItems items) ++ "]"
  | .object members => "Object \x7b" ++ ", ".intercalate (inspectMembers members) ++ "\x7d"

/-- The items of an array, each as it is shown. -/
def inspectItems : List Json → List String
  | [] => []
  | item :: items => inspectJson item :: inspectItems items

/-- The members of an object, each as it is shown. -/
def inspectMembers : List (String × Json) → List String
  | [] => []
  | (name, value) :: members => (Text.quote name ++ ": " ++ inspectJson value) :: inspectMembers members

end

/-- An execution as it is shown: the object for resolvers is left out. -/
def Execution.inspect (execution : Execution) (listing : Listing := .ascending) : String :=
  "ExecutionInput \x7b query: " ++ Text.quote execution.query
    ++ ", operation_name: " ++ inspectOption Text.quote execution.operationName
    ++ ", variables: \x7b" ++ ", ".intercalate (inspectMembers execution.variableValues) ++ "\x7d"
    ++ ", data_loader_registry: " ++ inspectOption (LoaderRegistry.inspect · listing) execution.loaders
    ++ ", .. \x7d"

end QueryGateway.GraphQL
