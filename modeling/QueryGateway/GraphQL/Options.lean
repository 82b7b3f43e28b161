import QueryGateway.Shape.Format

/-!
# Options of a handler
-/

namespace QueryGateway.GraphQL

open Shape

/-- What an operator may switch while the handler runs. -/
structure Options where
  /-- Whether batches are accepted. -/
  batching : Bool
  deriving DecidableEq, Repr

namespace Options

/-- The shape of options. -/
def shape {F : Type → Type} [Format F] : F Options :=
  Format.record
    ⟨"GraphQLHandlerOptions", ⟨false⟩,
     [.mayGive "request_batching_enabled" Format.flag fun batching options => { options with batching }]⟩

/-- The JSON value of options. -/
def toJson (options : Options) : Json := .object [("request_batching_enabled", .bool options.batching)]

end Options

end QueryGateway.GraphQL
