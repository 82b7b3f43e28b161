import QueryGateway.Text.Visible

/-!
# Quoted texts

The form in which a text is shown inside a message: between double quotes, with the quote, the backslash
and every character that is not visible written as an escape.
-/

namespace QueryGateway.Text

/-- The hexadecimal digits of a number, in lower case and without leading zeros. -/
def hexDigits (n : Nat) : List Char := Nat.toDigits 16 n

/-- A character as it stands inside a quoted text. -/
def escapeChar (c : Char) : List Char :=
  if c = '"' then ['\\', '"']
  else if c = '\\' then ['\\', '\\']
  else if c = '\n' then ['\\', 'n']
  else if c = '\r' then ['\\', 'r']
  else if c = '\t' then ['\\', 't']
  else if c.toNat = 0 then ['\\', '0']
  else if isVisible c then [c]
  else ['\\', 'u', '\x7b'] ++ hexDigits c.toNat ++ ['\x7d']

/-- A text between double quotes, escaped. -/
def quoteChars (cs : List Char) : List Char := '"' :: cs.flatMap escapeChar ++ ['"']

/-- A text between double quotes, escaped. -/
def quote (s : String) : String := String.ofList (quoteChars s.toList)

end QueryGateway.Text
