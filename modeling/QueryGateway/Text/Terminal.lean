import QueryGateway.Text.Utf8

/-!
# Control sequences of terminals

A text that goes to no terminal is written without what only a terminal obeys: control characters that are no
blanks, and the sequences that start with an escape.  A blank among the controls of a sequence ends the
sequence and is kept, unless the sequence is a string.
-/

namespace QueryGateway.Text.Terminal

/-- What the next character may be part of. -/
inductive Mode where
  | ground
  /-- A sequence of which the escape was met. -/
  | escape
  /-- An escape sequence with intermediate characters. -/
  | intermediate
  /-- A control sequence. -/
  | control
  /-- A device control string of which nothing was met. -/
  | device
  /-- The parameters of a device control string. -/
  | deviceParameters
  /-- The intermediate characters of a device control string. -/
  | deviceIntermediate
  /-- The data of a device control string, or a string of which nothing is known. -/
  | data
  /-- A command for the operating system of the terminal. -/
  | command
  deriving DecidableEq, Repr

/-- Whether a control character is a blank. -/
def isBlankControl (c : Char) : Bool := c = '\t' || c = '\n' || c = '\x0C' || c = '\r'

namespace Mode

/-- Whether a character is kept. -/
def keeps (mode : Mode) (c : Char) : Bool :=
  match mode with
  | ground => isBlankControl c || (0x20 ≤ c.toNat && c.toNat ≠ 0x7F)
  | escape | intermediate | control => isBlankControl c
  | device | deviceParameters | deviceIntermediate | data | command => false

/-- The mode after a character that is not kept.  An escape starts a new sequence wherever it stands; a string of
data ends with the octet 0x9C, be it a part of a longer character. -/
def next (mode : Mode) (c : Char) : Mode :=
  let n := c.toNat
  if n = 0x1B then escape
  else if n = 0x18 || n = 0x1A then ground
  else
    match mode with
    | ground => ground
    | escape =>
      if 0x20 ≤ n && n ≤ 0x2F then intermediate
      else if c = '[' then control
      else if c = ']' then command
      else if c = 'P' then device
      else if c = 'X' || c = '^' || c = '_' then data
      else if 0x30 ≤ n && n ≤ 0x7E then ground
      else escape
    | intermediate => if 0x30 ≤ n && n ≤ 0x7E then ground else intermediate
    | control => if 0x40 ≤ n && n ≤ 0x7E then ground else control
    | device =>
      if 0x20 ≤ n && n ≤ 0x2F then deviceIntermediate
      else if 0x30 ≤ n && n ≤ 0x3F then deviceParameters
      else if 0x40 ≤ n && n ≤ 0x7E then data
      else device
    | deviceParameters =>
      if 0x20 ≤ n && n ≤ 0x2F then deviceIntermediate
      else if 0x3C ≤ n && n ≤ 0x7E then data
      else deviceParameters
    | deviceIntermediate => if 0x30 ≤ n && n ≤ 0x7E then data else deviceIntermediate
    | data => if (Utf8.encodeChar c).contains 0x9C then ground else data
    | command => if n = 0x07 then ground else command

end Mode

/-- The characters that are kept from some mode on. -/
def stripFrom (mode : Mode) : List Char → List Char
  | [] => []
  | c :: cs => if mode.keeps c then c :: stripFrom .ground cs else stripFrom (mode.next c) cs

/-- A text without what only a terminal obeys. -/
def strip (s : String) : String := String.ofList (stripFrom .ground s.toList)

end QueryGateway.Text.Terminal
