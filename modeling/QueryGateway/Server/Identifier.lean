import QueryGateway.Json.Printer

/-!
# Fresh identifiers

A request that brings no identifier is given a random one: sixteen octets in hexadecimal, in five groups, of which
six bits tell that the others are random.
-/

namespace QueryGateway.Server

/-- The octet at a place, with the bits that tell that an identifier is random. -/
def marked (place : Nat) (octet : UInt8) : UInt8 :=
  if place = 6 then 0x40 ||| (octet &&& 0x0F)
  else if place = 8 then 0x80 ||| (octet &&& 0x3F)
  else octet

/-- Whether a hyphen precedes the octet at a place. -/
def startsGroup (place : Nat) : Bool := place = 4 || place = 6 || place = 8 || place = 10

/-- The characters of the octets from a place on. -/
def identifierChars (place : Nat) : Bytes → List Char
  | [] => []
  | octet :: octets =>
    let n := (marked place octet).toNat
    (if startsGroup place then ['-'] else [])
      ++ Json.hexDigit (n / 16) :: Json.hexDigit (n % 16) :: identifierChars (place + 1) octets

/-- The identifier that random octets make. -/
def identifierOf (octets : Bytes) : Bytes := Bytes.ofString (String.ofList (identifierChars 0 octets))

end QueryGateway.Server
