import QueryGateway.Text.Utf8

/-!
# Header fields

The header fields of a message in order.  Names are held in lower case, so a look-up is a comparison of
texts; values are octets.
-/

namespace QueryGateway.Http

/-- Header fields in order: a name in lower case and the octets of a value. -/
abbrev Headers := List (String × Bytes)

/-- Whether a character may stand in a method or in the name of a header field. -/
def isTokenChar (c : Char) : Bool := c.isAlphanum || "!#$%&'*+-.^_`|~".toList.contains c

/-- Whether a text is a token: not empty and of token characters only. -/
def isToken (s : String) : Bool := !s.toList.isEmpty && s.toList.all isTokenChar

/-- Whether an octet may stand in the value of a header field. -/
def isValueOctet (b : UInt8) : Bool := b = 0x09 || (0x20 ≤ b.toNat && b.toNat ≠ 0x7F)

/-- Whether an octet of a value is a visible ASCII character, a space or a tab. -/
def isPlainOctet (b : UInt8) : Bool := b = 0x09 || (0x20 ≤ b.toNat && b.toNat ≤ 0x7E)

/-- A text with its ASCII letters in lower case. -/
def lowerCase (s : String) : String := String.ofList (s.toList.map Char.toLower)

/-- The text of a value that consists of visible ASCII characters, spaces and tabs. -/
def plainText? (value : Bytes) : Option String :=
  if value.all isPlainOctet then some (String.ofList (value.map fun b => Char.ofNat b.toNat)) else none

namespace Headers

/-- The first value of a name. -/
def first? (headers : Headers) (name : String) : Option Bytes := headers.lookup name

/-- Replaces all values of a name by one. -/
def set (headers : Headers) (name : String) (value : Bytes) : Headers :=
  headers.filter (·.1 != name) ++ [(name, value)]

/-- The fields as they are written: valid names and values only. -/
def build? (fields : List (String × Bytes)) : Option Headers :=
  if fields.all fun field => isToken field.1 && field.2.all isValueOctet then
    some (fields.map fun field => (lowerCase field.1, field.2))
  else none

end Headers

end QueryGateway.Http
