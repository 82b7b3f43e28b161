import QueryGateway.Toml.Basic

/-!
# Scalars of TOML texts

The readers of keys, strings, numbers and points in time.  A reader takes what it reads from the start of a
text; why a text is refused is not told.
-/

namespace QueryGateway.Toml

/-- What is read from the start of a text, and the rest of the text. -/
abbrev Reader (α : Type) := List Char → Option (α × List Char)

/-! ## Characters -/

/-- Whether a character is a blank within a line. -/
def isBlank (c : Char) : Bool := c = ' ' || c = '\t'

/-- Whether a character may stand in a comment. -/
def isCommentChar (c : Char) : Bool := c = '\t' || (0x20 ≤ c.toNat && c.toNat ≠ 0x7F)

/-- Whether a character stands for itself between double quotes. -/
def isBasicChar (c : Char) : Bool := isCommentChar c && c ≠ '"' && c ≠ '\\'

/-- Whether a character may stand between single quotes. -/
def isLiteralChar (c : Char) : Bool := isCommentChar c && c ≠ '\''

/-- Whether a character may stand in a bare key. -/
def isBareKeyChar (c : Char) : Bool := c.isAlphanum || c = '_' || c = '-'

/-- The text after the blanks at its start. -/
def skipBlanks (cs : List Char) : List Char := cs.dropWhile isBlank

/-- The text after a character. -/
def expect (c : Char) : List Char → Option (List Char)
  | [] => none
  | d :: cs => if d = c then some cs else none

/-- The text after a line feed, which a carriage return may precede. -/
def newline : List Char → Option (List Char)
  | '\n' :: cs => some cs
  | '\r' :: '\n' :: cs => some cs
  | _ => none

/-- The text after a comment. -/
def skipComment : List Char → List Char
  | '#' :: cs => cs.dropWhile isCommentChar
  | cs => cs

/-- The text after a line that holds nothing more than blanks and a comment. -/
def endLine (cs : List Char) : Option (List Char) :=
  match skipComment (skipBlanks cs) with
  | [] => some []
  | rest => newline rest

/-! ## Strings -/

/-- The character of `n` hexadecimal digits. -/
def hexChar (n : Nat) (cs : List Char) : Option (Char × List Char) := do
  let digits := cs.take n
  let value ← digits.foldlM (fun value c => do
    let digit ← if c.toNat < 0x80 then Json.hexValue? (UInt8.ofNat c.toNat) else none
    some (value * 16 + digit)) 0
  if digits.length = n ∧ value.isValidChar then some (Char.ofNat value, cs.drop n) else none

/-- The character of an escape after its backslash. -/
def escape : Reader Char
  | 'b' :: cs => some ('\x08', cs)
  | 't' :: cs => some ('\t', cs)
  | 'n' :: cs => some ('\n', cs)
  | 'f' :: cs => some ('\x0C', cs)
  | 'r' :: cs => some ('\r', cs)
  | '"' :: cs => some ('"', cs)
  | '\\' :: cs => some ('\\', cs)
  | 'u' :: cs => hexChar 4 cs
  | 'U' :: cs => hexChar 8 cs
  | _ => none

/-- The characters of a string on one line after its opening double quote. -/
def basicChars : Nat → Reader (List Char)
  | 0, _ => none
  | _, [] => none
  | fuel + 1, c :: cs =>
    if c = '"' then some ([], cs)
    else if c = '\\' then do
      let (e, cs) ← escape cs
      let (more, cs) ← basicChars fuel cs
      some (e :: more, cs)
    else if isBasicChar c then do
      let (more, cs) ← basicChars fuel cs
      some (c :: more, cs)
    else none

/-- The text after line feeds and blanks. -/
def skipLines : Nat → List Char → List Char
  | 0, cs => cs
  | fuel + 1, cs =>
    match newline (skipBlanks cs) with
    | some rest => skipLines fuel rest
    | none => skipBlanks cs

/-- The quotes before the three that close a string of several lines, and the text after those: of a run of
quotes at most two belong to the string. -/
def closing (q : Char) (cs : List Char) : Option (List Char × List Char) :=
  let run := (cs.takeWhile (· = q)).length
  if run < 3 then none
  else
    let own := min run 5 - 3
    some (List.replicate own q, cs.drop (own + 3))

/-- The characters of a string of several lines after its three opening double quotes. -/
def basicLines : Nat → Reader (List Char)
  | 0, _ => none
  | _, [] => none
  | fuel + 1, c :: cs =>
    if c = '"' then
      match closing '"' (c :: cs) with
      | some (own, rest) => some (own, rest)
      | none => do
        let (more, rest) ← basicLines fuel cs
        some (c :: more, rest)
    else if c = '\\' then
      match newline (skipBlanks cs) with
      | some rest => basicLines fuel (skipLines rest.length rest)
      | none => do
        let (e, cs) ← escape cs
        let (more, cs) ← basicLines fuel cs
        some (e :: more, cs)
    else if isBasicChar c then do
      let (more, cs) ← basicLines fuel cs
      some (c :: more, cs)
    else do
      let cs ← newline (c :: cs)
      let (more, cs) ← basicLines fuel cs
      some ('\n' :: more, cs)

/-- The characters of a string of several lines after its three opening single quotes. -/
def literalLines : Nat → Reader (List Char)
  | 0, _ => none
  | _, [] => none
  | fuel + 1, c :: cs =>
    if c = '\'' then
      match closing '\'' (c :: cs) with
      | some (own, rest) => some (own, rest)
      | none => do
        let (more, rest) ← literalLines fuel cs
        some (c :: more, rest)
    else if isLiteralChar c then do
      let (more, cs) ← literalLines fuel cs
      some (c :: more, cs)
    else do
      let cs ← newline (c :: cs)
      let (more, cs) ← literalLines fuel cs
      some ('\n' :: more, cs)

/-- The characters of a string on one line after its opening single quote. -/
def literalChars (cs : List Char) : Option (List Char × List Char) := do
  let rest ← expect '\'' (cs.dropWhile isLiteralChar)
  some (cs.takeWhile isLiteralChar, rest)

/-- The text after a line feed at its start, if there is one. -/
def dropNewline (cs : List Char) : List Char := (newline cs).getD cs

/-- A string. -/
def string : Reader String := fun cs => do
  let (chars, rest) ←
    match cs with
    | '"' :: '"' :: '"' :: cs => basicLines (cs.length + 1) (dropNewline cs)
    | '"' :: cs => basicChars (cs.length + 1) cs
    | '\'' :: '\'' :: '\'' :: cs => literalLines (cs.length + 1) (dropNewline cs)
    | '\'' :: cs => literalChars cs
    | _ => none
  some (String.ofList chars, rest)

/-! ## Keys -/

/-- A key without dots. -/
def simpleKey : Reader String
  | '"' :: cs => do
    let (chars, rest) ← basicChars (cs.length + 1) cs
    some (String.ofList chars, rest)
  | '\'' :: cs => do
    let (chars, rest) ← literalChars cs
    some (String.ofList chars, rest)
  | cs =>
    let chars := cs.takeWhile isBareKeyChar
    if chars.isEmpty then none else some (String.ofList chars, cs.dropWhile isBareKeyChar)

/-- How deep keys and values may be nested, less one. -/
def depthLimit : Nat := 80

/-- The parts of a dotted key, with blanks around them. -/
def keyParts : Nat → Reader (List Key)
  | 0, _ => none
  | fuel + 1, cs => do
    let start := skipBlanks cs
    let (name, rest) ← simpleKey start
    let part : Key := ⟨name, .between start rest⟩
    match skipBlanks rest with
    | '.' :: rest => do
      let (parts, rest) ← keyParts fuel rest
      some (part :: parts, rest)
    | rest => some ([part], rest)

/-- A dotted key. -/
def key : Reader (List Key) := keyParts (depthLimit - 1)

/-! ## Numbers -/

/-- Whether a character is a digit of a radix. -/
def isDigitOf (radix : Nat) (c : Char) : Bool :=
  c.toNat < 0x80 && ((Json.hexValue? (UInt8.ofNat c.toNat)).any fun digit => digit < radix)

/-- Digits, between which single underscores may stand. -/
def digits (radix : Nat) : Nat → Reader (List Char)
  | 0, _ => none
  | _, [] => none
  | fuel + 1, c :: cs =>
    if isDigitOf radix c then
      match cs with
      | '_' :: more => do
        let (ds, rest) ← digits radix fuel more
        some (c :: ds, rest)
      | d :: more =>
        if isDigitOf radix d then do
          let (ds, rest) ← digits radix fuel (d :: more)
          some (c :: ds, rest)
        else some ([c], d :: more)
      | [] => some ([c], [])
    else none

/-- The number that digits write. -/
def numberOf (radix : Nat) (ds : List Char) : Nat :=
  ds.foldl (fun n c => n * radix + (Json.hexValue? (UInt8.ofNat c.toNat)).getD 0) 0

/-- A sign: whether it is a minus. -/
def sign : List Char → Bool × List Char
  | '+' :: cs => (false, cs)
  | '-' :: cs => (true, cs)
  | cs => (false, cs)

/-- The digits of a decimal number: no zero precedes another digit. -/
def decimalDigits : Reader (List Char)
  | '0' :: cs => some (['0'], cs)
  | cs => digits 10 (cs.length + 1) cs

/-- A whole number in the range of a signed 64-bit word. -/
def inWord (n : Int) : Option Int :=
  if -9223372036854775808 ≤ n ∧ n < 9223372036854775808 then some n else none

/-- A whole number. -/
def integer : Reader Int := fun cs =>
  match cs with
  | '0' :: 'x' :: cs => ofRadix 16 cs
  | '0' :: 'o' :: cs => ofRadix 8 cs
  | '0' :: 'b' :: cs => ofRadix 2 cs
  | cs => do
    let (negative, cs) := sign cs
    let (ds, rest) ← decimalDigits cs
    let n ← inWord (if negative then -(numberOf 10 ds : Int) else numberOf 10 ds)
    some (n, rest)
where
  ofRadix (radix : Nat) (cs : List Char) : Option (Int × List Char) := do
    let (ds, rest) ← digits radix (cs.length + 1) cs
    let n ← inWord (numberOf radix ds)
    some (n, rest)

/-- The exponent after a number, if there is one. -/
def exponent? : List Char → Option (Option (Int × List Char))
  | [] => some none
  | e :: cs =>
    if e = 'e' || e = 'E' then do
      let (negative, cs) := sign cs
      let (ds, rest) ← digits 10 (cs.length + 1) cs
      some (some (if negative then -(numberOf 10 ds : Int) else numberOf 10 ds, rest))
    else some none

/-- The leading exponent above which a decimal is beyond every double. -/
def greatestLeading : Int := 310

/-- The leading exponent below which a decimal is nearer to zero than to every other double. -/
def leastLeading : Int := -330

/-- The fractional number nearest to `significand · 10 ^ exponent`. -/
def nearest (negative : Bool) (significand : Nat) (exponent : Int) : Fraction :=
  let leading := ((Decimal.digitChars significand).length : Int) + exponent
  if significand = 0 ∨ leading < leastLeading then .finite ⟨negative, Binary64.zero⟩
  else if greatestLeading < leading then .infinite negative
  else
    let ratio := Decimal.pointRatio significand exponent
    match Binary64.ofRatio ratio.1 ratio.2 with
    | some x => .finite ⟨negative, x⟩
    | none => .infinite negative

/-- A fractional number with a point or an exponent.  Beyond the largest double only a negative number is
read. -/
def pointed : Reader Fraction := fun cs => do
  let (negative, cs) := sign cs
  let (ds, rest) ← decimalDigits cs
  let (decimals, rest) ←
    match rest with
    | '.' :: rest => digits 10 (rest.length + 1) rest
    | rest => some ([], rest)
  let exponent ← exponent? rest
  if decimals.isEmpty && exponent.isNone then none
  else
    let (e, rest) := exponent.getD (0, rest)
    let x := nearest negative (numberOf 10 (ds ++ decimals)) (e - decimals.length)
    if x = .infinite false then none else some (x, rest)

/-- A fractional number that is a word. -/
def special : Reader Fraction := fun cs =>
  let (negative, cs) := sign cs
  match cs with
  | 'i' :: 'n' :: 'f' :: rest => some (.infinite negative, rest)
  | 'n' :: 'a' :: 'n' :: rest => some (.notANumber, rest)
  | _ => none

/-! ## Points in time -/

/-- A number of exactly `n` digits within bounds. -/
def fixed (n least greatest : Nat) : Reader Nat := fun cs =>
  let ds := cs.take n
  if ds.length = n ∧ ds.all (isDigitOf 10) ∧ least ≤ numberOf 10 ds ∧ numberOf 10 ds ≤ greatest then
    some (numberOf 10 ds, cs.drop n)
  else none

/-- The days of a month. -/
def daysOf (year month : Nat) : Nat :=
  if month = 2 then if year % 4 = 0 ∧ (year % 100 ≠ 0 ∨ year % 400 = 0) then 29 else 28
  else if month ∈ [4, 6, 9, 11] then 30
  else 31

/-- The text after a date. -/
def skipDate (cs : List Char) : Option (List Char) := do
  let (year, cs) ← fixed 4 0 9999 cs
  let cs ← expect '-' cs
  let (month, cs) ← fixed 2 1 12 cs
  let cs ← expect '-' cs
  let (_, cs) ← fixed 2 1 (daysOf year month) cs
  some cs

/-- The text after a time. -/
def skipTime (cs : List Char) : Option (List Char) := do
  let (_, cs) ← fixed 2 0 23 cs
  let cs ← expect ':' cs
  let (_, cs) ← fixed 2 0 59 cs
  let cs ← expect ':' cs
  let (_, cs) ← fixed 2 0 60 cs
  match cs with
  | '.' :: rest =>
    if (rest.takeWhile (isDigitOf 10)).isEmpty then some cs else some (rest.dropWhile (isDigitOf 10))
  | cs => some cs

/-- The text after an offset, if there is one. -/
def skipOffset (cs : List Char) : List Char :=
  match cs with
  | 'Z' :: rest => rest
  | 'z' :: rest => rest
  | c :: rest =>
    if c = '+' || c = '-' then
      (do
        let (_, rest) ← fixed 2 0 23 rest
        let rest ← expect ':' rest
        let (_, rest) ← fixed 2 0 59 rest
        some rest : Option (List Char)).getD cs
    else cs
  | [] => []

/-- The text after a point in time. -/
def skipMoment (cs : List Char) : Option (List Char) :=
  match skipDate cs with
  | some rest =>
    match rest with
    | d :: more =>
      if d = 'T' || d = 't' || d = ' ' then some ((skipTime more).elim rest skipOffset) else some rest
    | [] => some []
  | none => skipTime cs

/-! ## Words and numbers together -/

/-- A value that starts like a number. -/
def numeric : Reader Toml := fun cs =>
  match skipMoment cs with
  | some rest => some (.moment, rest)
  | none =>
    match (pointed cs).orElse fun _ => special cs with
    | some (x, rest) => some (.fraction x, rest)
    | none => (integer cs).map fun (n, rest) => (.whole n, rest)

/-- A value without values inside. -/
def scalar : Reader Toml := fun cs =>
  match cs with
  | 't' :: 'r' :: 'u' :: 'e' :: rest => some (.flag true, rest)
  | 'f' :: 'a' :: 'l' :: 's' :: 'e' :: rest => some (.flag false, rest)
  | '"' :: _ => (string cs).map fun (s, rest) => (.text s, rest)
  | '\'' :: _ => (string cs).map fun (s, rest) => (.text s, rest)
  | cs => numeric cs

end QueryGateway.Toml
