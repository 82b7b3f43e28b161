/-!
# Socket addresses

An IPv4 or IPv6 address with a port.  Octets have at most three digits and no leading zero; groups have at most
four digits; a gap `::` stands for at least one group, and the last two groups may be written as an IPv4
address; an IPv6 address may have a numeric scope, and stands in brackets.
-/

namespace QueryGateway.Config

/-- A socket address. -/
inductive SocketAddress where
  | v4 (octets : List Nat) (port : Nat)
  | v6 (groups : List Nat) (scope port : Nat)
  deriving DecidableEq, Repr

namespace SocketAddress

/-- What is read from the start of a text, and the rest of the text. -/
abbrev Reader (α : Type) := List Char → Option (α × List Char)

/-- The value of a digit. -/
def digit? (radix : Nat) (c : Char) : Option Nat :=
  let n := c.toNat
  let value :=
    if 0x30 ≤ n ∧ n ≤ 0x39 then n - 0x30
    else if 0x41 ≤ n ∧ n ≤ 0x5A then n - 0x41 + 10
    else if 0x61 ≤ n ∧ n ≤ 0x7A then n - 0x61 + 10
    else radix
  if value < radix then some value else none

/-- A number below a bound, of all the digits at the start of a text. -/
def number (radix bound : Nat) (fits : List Char → Bool) : Reader Nat := fun cs =>
  let digits := cs.takeWhile fun c => (digit? radix c).isSome
  let value := digits.foldl (fun n c => n * radix + (digit? radix c).getD 0) 0
  if !digits.isEmpty && fits digits && value < bound then
    some (value, cs.dropWhile fun c => (digit? radix c).isSome)
  else none

/-- A character. -/
def mark (c : Char) : Reader Unit
  | [] => none
  | d :: cs => if d = c then some ((), cs) else none

/-- An octet of an IPv4 address. -/
def octet : Reader Nat :=
  number 10 256 fun digits => digits.length ≤ 3 && (digits.length ≤ 1 || digits.head? != some '0')

/-- An IPv4 address. -/
def ipv4 : Reader (List Nat) := fun cs => do
  let (a, cs) ← octet cs
  let (_, cs) ← mark '.' cs
  let (b, cs) ← octet cs
  let (_, cs) ← mark '.' cs
  let (c, cs) ← octet cs
  let (_, cs) ← mark '.' cs
  let (d, cs) ← octet cs
  some ([a, b, c, d], cs)

/-- A group of an IPv6 address. -/
def group : Reader Nat := number 16 65536 fun digits => digits.length ≤ 4

/-- The two groups that the octets of an IPv4 address make. -/
def groupsOfOctets : List Nat → List Nat
  | [a, b, c, d] => [a * 256 + b, c * 256 + d]
  | _ => []

/-- As many groups as follow each other, at most `room`; the last two may be an IPv4 address.  Tells whether
they are. -/
def groups (first : Bool) : Nat → List Char → List Nat × Bool × List Char
  | 0, cs => ([], false, cs)
  | room + 1, cs =>
    match if first then some ((), cs) else mark ':' cs with
    | none => ([], false, cs)
    | some (_, start) =>
      match if room = 0 then none else ipv4 start with
      | some (octets, rest) => (groupsOfOctets octets, true, rest)
      | none =>
        match group start with
        | none => ([], false, cs)
        | some (g, rest) =>
          let (more, embedded, rest) := groups false room rest
          (g :: more, embedded, rest)

/-- An IPv6 address. -/
def ipv6 : Reader (List Nat) := fun cs =>
  let (front, embedded, rest) := groups true 8 cs
  if front.length = 8 then some (front, rest)
  else if embedded then none
  else do
    let (_, rest) ← mark ':' rest
    let (_, rest) ← mark ':' rest
    let (back, _, rest) := groups true (7 - front.length) rest
    some (front ++ List.replicate (8 - front.length - back.length) 0 ++ back, rest)

/-- How many scopes there are. -/
def scopeCount : Nat := 4294967296

/-- The scope of an IPv6 address; without one it is zero. -/
def scope (cs : List Char) : Nat × List Char :=
  match mark '%' cs with
  | none => (0, cs)
  | some (_, rest) => (number 10 scopeCount (fun _ => true) rest).getD (0, cs)

/-- The port of an address. -/
def port : Reader Nat := fun cs => do
  let (_, cs) ← mark ':' cs
  number 10 65536 (fun _ => true) cs

/-- A socket address with an IPv4 address. -/
def socketV4 : Reader SocketAddress := fun cs => do
  let (octets, cs) ← ipv4 cs
  let (p, cs) ← port cs
  some (.v4 octets p, cs)

/-- A socket address with an IPv6 address. -/
def socketV6 : Reader SocketAddress := fun cs => do
  let (_, cs) ← mark '[' cs
  let (groups, cs) ← ipv6 cs
  let (s, cs) := scope cs
  let (_, cs) ← mark ']' cs
  let (p, cs) ← port cs
  some (.v6 groups s p, cs)

/-- The socket address that a whole text writes. -/
def parse? (text : String) : Option SocketAddress :=
  match (socketV4 text.toList).orElse fun _ => socketV6 text.toList with
  | some (address, []) => some address
  | _ => none

/-! ## Text -/

/-- Octets with points between them. -/
def octetsText (octets : List Nat) : String := ".".intercalate (octets.map toString)

/-- Groups with colons between them. -/
def groupsText (groups : List Nat) : String :=
  ":".intercalate (groups.map fun g => String.ofList (Nat.toDigits 16 g))

/-- The first longest run of zeros: its start and its length. -/
def longestGap (groups : List Nat) : Nat × Nat :=
  let starts := List.range groups.length
  let runs := starts.map fun i => (i, ((groups.drop i).takeWhile (· = 0)).length)
  runs.foldl (fun best run => if best.2 < run.2 then run else best) (0, 0)

/-- The text of an IPv6 address. -/
def ipv6Text (groups : List Nat) : String :=
  match groups with
  | [0, 0, 0, 0, 0, 0xFFFF, g, h] =>
    "::ffff:" ++ octetsText [g / 256, g % 256, h / 256, h % 256]
  | groups =>
    let (start, length) := longestGap groups
    if 1 < length then
      groupsText (groups.take start) ++ "::" ++ groupsText (groups.drop (start + length))
    else groupsText groups

/-- The text of a socket address. -/
def text : SocketAddress → String
  | .v4 octets p => octetsText octets ++ ":" ++ toString p
  | .v6 groups s p =>
    "[" ++ ipv6Text groups ++ (if s = 0 then "" else "%" ++ toString s) ++ "]:" ++ toString p

end SocketAddress

end QueryGateway.Config
