import QueryGateway.Json.Scanner

/-!
# Form-encoded pairs

The pairs that a query string writes: segments between `&`, empty ones left out, each cut at its first `=`.
In names and values a `+` is a space, a percent sign with two hexadecimal digits is an octet, and what is not
well-formed UTF-8 becomes U+FFFD.
-/

namespace QueryGateway.Http.Form

/-- The octets that a name or a value writes. -/
def decodeOctets : Bytes → Bytes
  | [] => []
  | 0x2B :: bs => 0x20 :: decodeOctets bs
  | 0x25 :: high :: low :: bs =>
    match Json.hexValue? high, Json.hexValue? low with
    | some h, some l => UInt8.ofNat (h * 16 + l) :: decodeOctets bs
    | _, _ => 0x25 :: decodeOctets (high :: low :: bs)
  | b :: bs => b :: decodeOctets bs
  termination_by bs => bs.length

/-- The text that a name or a value writes. -/
def decodeText (bs : Bytes) : String := String.ofList (Utf8.decodeLossy (decodeOctets bs))

/-- The segments of a query string: the first one, and those after each `&`. -/
def segments (bs : Bytes) : List Bytes := bs.splitOn 0x26

/-- The pair of a segment. -/
def pair (segment : Bytes) : String × String :=
  (decodeText (segment.takeWhile (· ≠ 0x3D)), decodeText ((segment.dropWhile (· ≠ 0x3D)).drop 1))

/-- The pairs of a query string. -/
def pairs (query : String) : List (String × String) :=
  ((segments (Bytes.ofString query)).filter fun segment => !segment.isEmpty).map pair

/-- The first value of a name. -/
def first? (pairs : List (String × String)) (name : String) : Option String := pairs.lookup name

end QueryGateway.Http.Form
