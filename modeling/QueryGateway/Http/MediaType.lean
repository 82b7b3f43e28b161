import QueryGateway.Http.Headers
import QueryGateway.Text.Blank

/-!
# Media types

The essence of a content type: the text before its parameters, trimmed, in lower case.
-/

namespace QueryGateway.Http.MediaType

/-- The media type of JSON documents. -/
def json : String := "application/json"

/-- The media type of query texts. -/
def graphql : String := "application/graphql"

/-- The media type of messages for people. -/
def plainText : String := "text/plain; charset=utf-8"

/-- The essence of a content type. -/
def essence (value : Bytes) : String :=
  String.ofList ((Text.trim ((Utf8.decodeLossy value).takeWhile (· ≠ ';'))).map Char.toLower)

end QueryGateway.Http.MediaType
