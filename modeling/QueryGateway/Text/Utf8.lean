/-!
# UTF-8

A run of octets is read as a list of pieces: each piece is a character, or a maximal broken run that
no well-formed sequence extends.  Everything else is a view of that one reading.

* `pieces` splits any octets; `encode` writes characters.
* `decode?` succeeds when no piece is broken; `decodeLossy` puts U+FFFD for each broken piece;
  `fault?` tells where the first broken piece stands.
-/

namespace QueryGateway

/-- A run of octets. -/
abbrev Bytes := List UInt8

namespace Utf8

/-- The octets of one character. -/
def encodeChar (c : Char) : Bytes := String.utf8EncodeChar c

/-- The octets of a list of characters. -/
def encode (cs : List Char) : Bytes := cs.flatMap encodeChar

/-- One unit of a reading: a character, or a broken run.  A run is `cut` when the octets ended while a
sequence was still well-formed. -/
inductive Piece where
  | char (c : Char)
  | broken (octets : Nat) (cut : Bool)
  deriving DecidableEq, Repr

/-- A continuation octet. -/
def isTail (b : UInt8) : Bool := 0x80 ≤ b.toNat && b.toNat ≤ 0xBF

/-- The six bits that a continuation octet carries. -/
def tailBits (b : UInt8) : Nat := b.toNat - 0x80

/-- The octets that may follow the lead octet `lead` of a longer sequence: the range excludes overlong
forms, surrogates and values beyond U+10FFFF. -/
def secondFits (lead : Nat) (b : UInt8) : Bool :=
  let low := if lead = 0xE0 then 0xA0 else if lead = 0xF0 then 0x90 else 0x80
  let high := if lead = 0xED then 0x9F else if lead = 0xF4 then 0x8F else 0xBF
  low ≤ b.toNat && b.toNat ≤ high

/-- The piece that starts with `b`, and how many of the octets after `b` belong to it. -/
def piece (b : UInt8) (after : Bytes) : Piece × Nat :=
  let n := b.toNat
  if n < 0x80 then (.char (Char.ofNat n), 0)
  else if 0xC2 ≤ n ∧ n ≤ 0xDF then
    match after with
    | [] => (.broken 1 true, 0)
    | c :: _ =>
      if isTail c then (.char (Char.ofNat ((n - 0xC0) * 64 + tailBits c)), 1)
      else (.broken 1 false, 0)
  else if 0xE0 ≤ n ∧ n ≤ 0xEF then
    match after with
    | [] => (.broken 1 true, 0)
    | c :: more =>
      if secondFits n c then
        match more with
        | [] => (.broken 2 true, 1)
        | d :: _ =>
          if isTail d then
            (.char (Char.ofNat (((n - 0xE0) * 64 + tailBits c) * 64 + tailBits d)), 2)
          else (.broken 2 false, 1)
      else (.broken 1 false, 0)
  else if 0xF0 ≤ n ∧ n ≤ 0xF4 then
    match after with
    | [] => (.broken 1 true, 0)
    | c :: more =>
      if secondFits n c then
        match more with
        | [] => (.broken 2 true, 1)
        | d :: more =>
          if isTail d then
            match more with
            | [] => (.broken 3 true, 2)
            | e :: _ =>
              if isTail e then
                (.char (Char.ofNat
                  ((((n - 0xF0) * 64 + tailBits c) * 64 + tailBits d) * 64 + tailBits e)), 3)
              else (.broken 3 false, 2)
          else (.broken 2 false, 1)
      else (.broken 1 false, 0)
  else (.broken 1 false, 0)

/-- The reading of a whole run. -/
def pieces : Bytes → List Piece
  | [] => []
  | b :: bs => (piece b bs).1 :: pieces (bs.drop (piece b bs).2)
  termination_by bs => bs.length
  decreasing_by simp only [List.length_drop, List.length_cons]; omega

/-- The characters of a reading, if no piece is broken. -/
def charsOf? : List Piece → Option (List Char)
  | [] => some []
  | .char c :: ps => (charsOf? ps).map (c :: ·)
  | .broken _ _ :: _ => none

/-- The characters of a run, if it is well-formed. -/
def decode? (bs : Bytes) : Option (List Char) := charsOf? (pieces bs)

/-- The character of a piece; a broken one gives the replacement character. -/
def Piece.repaired : Piece → Char
  | .char c => c
  | .broken _ _ => '\uFFFD'

/-- The characters of a run, each broken piece replaced by U+FFFD. -/
def decodeLossy (bs : Bytes) : List Char := (pieces bs).map Piece.repaired

/-- Where a run stops being well-formed. -/
inductive Fault where
  /-- The `octets` octets at `index` belong to no sequence. -/
  | invalid (octets index : Nat)
  /-- The run ends inside the sequence that starts at `index`. -/
  | incomplete (index : Nat)
  deriving DecidableEq, Repr

/-- The first broken piece of a reading that starts at `index`. -/
def faultOf? (index : Nat) : List Piece → Option Fault
  | [] => none
  | .char c :: ps => faultOf? (index + c.utf8Size) ps
  | .broken n cut :: _ => some (if cut then .incomplete index else .invalid n index)

/-- The first fault of a run. -/
def fault? (bs : Bytes) : Option Fault := faultOf? 0 (pieces bs)

/-- Where a fault stands. -/
def Fault.index : Fault → Nat
  | .invalid _ index => index
  | .incomplete index => index

/-- How many octets of a run come from its first fault on. -/
def faultyLength (bs : Bytes) : Nat := ((fault? bs).map fun fault => bs.length - fault.index).getD 0

/-- The text of a fault. -/
def Fault.message : Fault → String
  | .invalid octets index =>
    "invalid utf-8 sequence of " ++ toString octets ++ " bytes from index " ++ toString index
  | .incomplete index => "incomplete utf-8 byte sequence from index " ++ toString index

end Utf8

/-- The UTF-8 octets of a text. -/
def Bytes.ofString (s : String) : Bytes := Utf8.encode s.toList

/-- The text of well-formed octets. -/
def Bytes.toString? (bs : Bytes) : Option String := (Utf8.decode? bs).map String.ofList

end QueryGateway
