import QueryGateway.Json.Basic
import QueryGateway.Json.Fault

/-!
# Tokens of JSON texts

The readers of blanks, literal words, strings and numbers.  A number without fraction and exponent is whole
while it fits a 64-bit word; every other number is the significand, cut off where it would outgrow a 64-bit
word, scaled by a power of ten with one rounding a step.
-/

namespace QueryGateway.Json

/-- Whether an octet is a blank between tokens. -/
def isBlankOctet (b : UInt8) : Bool := b = 0x20 || b = 0x0A || b = 0x09 || b = 0x0D

/-- The octets after the blanks. -/
def skipBlanks (bs : Bytes) : Bytes := bs.dropWhile isBlankOctet

theorem skipBlanks_of_blank {b : UInt8} (blank : isBlankOctet b = true) (bs : Bytes) :
    skipBlanks (b :: bs) = skipBlanks bs := List.dropWhile_cons_of_pos blank

theorem skipBlanks_of_not {b : UInt8} (notBlank : isBlankOctet b = false) (bs : Bytes) :
    skipBlanks (b :: bs) = b :: bs :=
  List.dropWhile_cons_of_neg (by rw [notBlank]; exact Bool.false_ne_true)

theorem skipBlanks_skipBlanks (bs : Bytes) : skipBlanks (skipBlanks bs) = skipBlanks bs := by
  induction bs with
  | nil => rfl
  | cons b bs ih =>
      cases blank : isBlankOctet b with
      | true => rw [skipBlanks_of_blank blank, ih]
      | false => rw [skipBlanks_of_not blank, skipBlanks_of_not blank]

/-- Whether an octet is a decimal digit. -/
def isDigitOctet (b : UInt8) : Bool := 0x30 ≤ b.toNat && b.toNat ≤ 0x39

/-- The value of a decimal digit. -/
def digitValue (b : UInt8) : Nat := b.toNat - 0x30

/-- The octets after a literal word of which the first letter was read. -/
def readWord : Bytes → Bytes → Reading Bytes
  | [], bs => .ok bs
  | _ :: _, [] => faultHere .missingValue []
  | w :: word, b :: bs => if b = w then readWord word bs else faultHere .expectedWord bs

/-! ## Strings -/

/-- The value of a hexadecimal digit. -/
def hexValue? (b : UInt8) : Option Nat :=
  let n := b.toNat
  if 0x30 ≤ n ∧ n ≤ 0x39 then some (n - 0x30)
  else if 0x41 ≤ n ∧ n ≤ 0x46 then some (n - 0x41 + 10)
  else if 0x61 ≤ n ∧ n ≤ 0x66 then some (n - 0x61 + 10)
  else none

/-- The number of four hexadecimal digits, which are read at once. -/
def readHex : Bytes → Reading Nat
  | a :: b :: c :: d :: rest =>
    match hexValue? a, hexValue? b, hexValue? c, hexValue? d with
    | some a, some b, some c, some d => .ok (((a * 16 + b) * 16 + c) * 16 + d)
    | _, _, _, _ => faultHere .invalidEscape rest
  | _ => faultHere .unclosedString []

/-- The character of a hexadecimal escape after its `u`, and how many octets it takes.  A leading surrogate
needs a trailing one in the next escape. -/
def readUnicode (bs : Bytes) : Reading (Char × Nat) := do
  let unit ← readHex bs
  let rest := bs.drop 4
  if 0xDC00 ≤ unit ∧ unit ≤ 0xDFFF then faultHere .loneSurrogate rest
  else if unit < 0xD800 ∨ 0xDBFF < unit then .ok (Char.ofNat unit, 4)
  else
    match rest with
    | [] => faultHere .unclosedString []
    | b :: more =>
      if b ≠ 0x5C then faultHere .unfinishedEscape more
      else
        match more with
        | [] => faultHere .unclosedString []
        | u :: more =>
          if u ≠ 0x75 then faultHere .unfinishedEscape more
          else do
            let trail ← readHex more
            if trail < 0xDC00 ∨ 0xDFFF < trail then faultHere .loneSurrogate (more.drop 4)
            else .ok (Char.ofNat ((unit - 0xD800) * 0x400 + (trail - 0xDC00) + 0x10000), 10)

/-- The character of an escape after its backslash, and how many octets it takes. -/
def readEscape : Bytes → Reading (Char × Nat)
  | [] => faultHere .unclosedString []
  | 0x22 :: _ => .ok ('"', 1)
  | 0x5C :: _ => .ok ('\\', 1)
  | 0x2F :: _ => .ok ('/', 1)
  | 0x62 :: _ => .ok ('\x08', 1)
  | 0x66 :: _ => .ok ('\x0C', 1)
  | 0x6E :: _ => .ok ('\n', 1)
  | 0x72 :: _ => .ok ('\r', 1)
  | 0x74 :: _ => .ok ('\t', 1)
  | 0x75 :: bs => do
    let (c, taken) ← readUnicode bs
    .ok (c, taken + 1)
  | _ :: bs => faultHere .invalidEscape bs

/-- The octets of a string after its opening quote: those that stand in the text, and for an escape those of
its character. -/
def readOctets : Bytes → Reading (Bytes × Bytes)
  | [] => faultHere .unclosedString []
  | b :: bs =>
    if b = 0x22 then .ok ([], bs)
    else if b = 0x5C then do
      let (c, taken) ← readEscape bs
      let (octets, rest) ← readOctets (bs.drop taken)
      .ok (Utf8.encodeChar c ++ octets, rest)
    else if b.toNat < 0x20 then faultHere .controlCharacter bs
    else do
      let (octets, rest) ← readOctets bs
      .ok (b :: octets, rest)
  termination_by bs => bs.length
  decreasing_by all_goals simp only [List.length_drop, List.length_cons]; omega

/-- A string after its opening quote.  Whether it is well-formed is seen at its closing quote; the place of
the fault is as far before the end of the string as the octets are many from the fault on. -/
def readString (bs : Bytes) : Reading (String × Bytes) := do
  let (octets, rest) ← readOctets bs
  match Utf8.decode? octets with
  | some cs => .ok (String.ofList cs, rest)
  | none => .error (.located (.grammar .invalidCodePoint) (rest.length + Utf8.faultyLength octets))

/-! ## Numbers -/

/-- Extends a significand by digits while it fits a 64-bit word: the significand, how many digits were
used, and the octets after them. -/
def extendSignificand (significand : Nat) : Bytes → Nat × Nat × Bytes
  | [] => (significand, 0, [])
  | b :: bs =>
    if isDigitOctet b && significand * 10 + digitValue b < 18446744073709551616 then
      let (total, used, rest) := extendSignificand (significand * 10 + digitValue b) bs
      (total, used + 1, rest)
    else (significand, 0, b :: bs)

/-- Whether the octets start with a digit. -/
def startsWithDigit : Bytes → Bool
  | [] => false
  | b :: _ => isDigitOctet b

/-- The greatest power of ten by which one scaling step multiplies or divides. -/
def greatestPower : Nat := 308

/-- Scales a magnitude by a power of ten.  Exponents below the range of one step are worked off by dividing
by the greatest power; nothing of a 64-bit significand is left after two such divisions. -/
def scale? (x : Binary64) (exponent : Int) : Nat → Option Binary64
  | 0 => some x
  | steps + 1 =>
    if exponent.natAbs ≤ greatestPower then do
      let power ← Binary64.ofNat? (Decimal.tenPow exponent.natAbs)
      if 0 ≤ exponent then x.mul? power else x.div? power
    else if x.mantissa = 0 then some x
    else if 0 ≤ exponent then none
    else do
      let power ← Binary64.ofNat? (Decimal.tenPow greatestPower)
      let less ← x.div? power
      scale? less (exponent + greatestPower) steps

/-- The double of a significand and a power of ten. -/
def finishDouble (negative : Bool) (significand : Nat) (exponent : Int) (rest : Bytes) : Reading (Double × Bytes) :=
  match (Binary64.ofNat? significand).bind fun x => scale? x exponent 4 with
  | some x => .ok (⟨negative, x⟩, rest)
  | none => faultHere .numberOutOfRange rest

/-- The digits of an exponent after the first: nothing once it outgrows a signed 32-bit word. -/
def readExponentDigits (exponent : Nat) : Bytes → Option Nat × Bytes
  | [] => (some exponent, [])
  | b :: bs =>
    if isDigitOctet b then
      if exponent * 10 + digitValue b < 2147483648 then
        readExponentDigits (exponent * 10 + digitValue b) bs
      else (none, bs)
    else (some exponent, b :: bs)

/-- The double whose exponent follows its `e`. -/
def readExponent (negative : Bool) (significand : Nat) (exponent : Int) (bs : Bytes) : Reading (Double × Bytes) :=
  let (down, digits) :=
    match bs with
    | 0x2B :: rest => (false, rest)
    | 0x2D :: rest => (true, rest)
    | _ => (false, bs)
  match digits with
  | [] => faultHere .missingValue []
  | b :: rest =>
    if isDigitOctet b then
      match readExponentDigits (digitValue b) rest with
      | (some e, rest) =>
        finishDouble negative significand (if down then exponent - e else exponent + e) rest
      | (none, rest) =>
        if significand ≠ 0 ∧ down = false then faultHere .numberOutOfRange rest
        else .ok (⟨negative, Binary64.zero⟩, rest.dropWhile isDigitOctet)
    else faultHere .invalidNumber rest

/-- The double after its digits: an exponent may follow. -/
def readScale (negative : Bool) (significand : Nat) (exponent : Int) (bs : Bytes) : Reading (Double × Bytes) :=
  match bs with
  | 0x65 :: rest => readExponent negative significand exponent rest
  | 0x45 :: rest => readExponent negative significand exponent rest
  | _ => finishDouble negative significand exponent bs

/-- The double whose fraction follows its point: digits that the significand cannot take are dropped. -/
def readFraction (negative : Bool) (significand : Nat) (exponent : Int) (bs : Bytes) : Reading (Double × Bytes) :=
  let (total, used, rest) := extendSignificand significand bs
  if startsWithDigit rest then
    readScale negative total (exponent - used) (rest.dropWhile isDigitOctet)
  else if used = 0 then
    match rest with
    | [] => faultNext .missingValue []
    | _ :: _ => faultNext .invalidNumber rest
  else readScale negative total (exponent - used) rest

/-- The double after its whole digits: a fraction or an exponent may follow. -/
def readDouble (negative : Bool) (significand : Nat) (exponent : Int) (bs : Bytes) : Reading (Double × Bytes) :=
  match bs with
  | 0x2E :: rest => readFraction negative significand exponent rest
  | _ => readScale negative significand exponent bs

/-- The number of a sign and a significand.  Negative zero and what is below the range of a signed 64-bit
word are doubles. -/
def wholeNumber (negative : Bool) (significand : Nat) (rest : Bytes) : Reading (Number × Bytes) :=
  if negative then
    if h : 0 < significand ∧ significand ≤ 9223372036854775808 then
      .ok (.whole ⟨-significand, by omega, by omega⟩, rest)
    else do
      let (x, rest) ← finishDouble true significand 0 rest
      .ok (.double x, rest)
  else if h : significand < 18446744073709551616 then
    .ok (.whole ⟨significand, by omega, by omega⟩, rest)
  else faultHere .numberOutOfRange rest

/-- The number after its whole digits. -/
def finishNumber (negative : Bool) (significand : Nat) (bs : Bytes) : Reading (Number × Bytes) :=
  match bs with
  | 0x2E :: _ | 0x65 :: _ | 0x45 :: _ => do
    let (x, rest) ← readDouble negative significand 0 bs
    .ok (.double x, rest)
  | _ => wholeNumber negative significand bs

/-- A number after its sign. -/
def readNumber (negative : Bool) : Bytes → Reading (Number × Bytes)
  | [] => faultHere .missingValue []
  | b :: bs =>
    if b = 0x30 then
      if startsWithDigit bs then faultNext .invalidNumber bs else finishNumber negative 0 bs
    else if isDigitOctet b then
      let (significand, _, rest) := extendSignificand (digitValue b) bs
      if startsWithDigit rest then do
        let (x, rest) ←
          readDouble negative significand (rest.takeWhile isDigitOctet).length
            (rest.dropWhile isDigitOctet)
        .ok (.double x, rest)
      else finishNumber negative significand rest
    else faultHere .invalidNumber bs

end QueryGateway.Json
