import QueryGateway.Json.Parser

/-!
# Written JSON values

The compact form: no blanks, members in the order in which they are held, control characters, quotes and
backslashes escaped, everything else as it is.
-/

namespace QueryGateway.Json

/-- A hexadecimal digit in lower case. -/
def hexDigit (n : Nat) : Char := Char.ofNat (if n < 10 then 0x30 + n else 0x57 + n)

/-- A character as it stands inside a string. -/
def escapeChar (c : Char) : List Char :=
  if c = '"' then ['\\', '"']
  else if c = '\\' then ['\\', '\\']
  else if c = '\x08' then ['\\', 'b']
  else if c = '\x0C' then ['\\', 'f']
  else if c = '\n' then ['\\', 'n']
  else if c = '\r' then ['\\', 'r']
  else if c = '\t' then ['\\', 't']
  else if c.toNat < 0x20 then
    ['\\', 'u', '0', '0', hexDigit (c.toNat / 16), hexDigit (c.toNat % 16)]
  else [c]

/-- A string between quotes. -/
def stringChars (s : String) : List Char := '"' :: s.toList.flatMap escapeChar ++ ['"']

/-- A whole number in decimal. -/
def wholeChars (n : Int) : List Char :=
  if n < 0 then '-' :: Decimal.digitChars n.natAbs else Decimal.digitChars n.natAbs

/-- A number: a double always has a point or an exponent. -/
def numberChars : Number → List Char
  | .whole n => wholeChars n.val
  | .double x => x.chars doubleLayout

mutual

/-- The compact form of a value. -/
def chars : Json → List Char
  | .null => ['n', 'u', 'l', 'l']
  | .bool true => ['t', 'r', 'u', 'e']
  | .bool false => ['f', 'a', 'l', 's', 'e']
  | .number n => numberChars n
  | .string s => stringChars s
  | .array [] => ['[', ']']
  | .array (item :: items) => '[' :: (chars item ++ itemsChars items)
  | .object [] => ['\x7b', '\x7d']
  | .object ((name, value) :: members) =>
    '\x7b' :: (stringChars name ++ ':' :: (chars value ++ membersChars members))

/-- The items after the first, and the closing bracket. -/
def itemsChars : List Json → List Char
  | [] => [']']
  | item :: items => ',' :: (chars item ++ itemsChars items)

/-- The members after the first, and the closing brace. -/
def membersChars : List (String × Json) → List Char
  | [] => ['\x7d']
  | (name, value) :: members =>
    ',' :: (stringChars name ++ ':' :: (chars value ++ membersChars members))

end

/-- The compact form of a value. -/
def text (value : Json) : String := String.ofList value.chars

end QueryGateway.Json
