import QueryGateway.Text.Utf8

/-!
# Request targets

The part of a request target that a request is routed and read by: the path and the query.  A target is a
path with an optional query, an authority alone, or a scheme, an authority and a path with a query.  A
fragment is dropped.
-/

namespace QueryGateway.Http

/-- A request target. -/
structure Uri where
  path : String
  query : Option String
  deriving DecidableEq, Repr

namespace Uri

/-- The longest target, in octets. -/
def lengthLimit : Nat := 65534

/-- The longest scheme. -/
def schemeLimit : Nat := 64

/-- Whether a character may stand in a path.  Characters outside ASCII are taken as they are. -/
def isPathChar (c : Char) : Bool :=
  let n := c.toNat
  n = 0x21 || n = 0x22 || (0x24 ≤ n && n ≤ 0x3B) || n = 0x3D || (0x40 ≤ n && n ≤ 0x5F)
    || (0x61 ≤ n && n ≠ 0x7F)

/-- Whether a character may stand in a query. -/
def isQueryChar (c : Char) : Bool :=
  let n := c.toNat
  n = 0x21 || (0x24 ≤ n && n ≤ 0x3B) || n = 0x3D || (0x3F ≤ n && n ≠ 0x7F)

/-- A path with an optional query, of which the fragment is dropped. -/
def ofPathAndQuery? (cs : List Char) : Option Uri :=
  let kept := cs.takeWhile (· ≠ '#')
  let path := kept.takeWhile (· ≠ '?')
  if path.all isPathChar then
    match kept.dropWhile (· ≠ '?') with
    | [] => some ⟨String.ofList path, none⟩
    | _ :: query => if query.all isQueryChar then some ⟨String.ofList path, some (String.ofList query)⟩ else none
  else none

/-! ## Authorities -/

/-- Whether a character ends an authority. -/
def endsAuthority (c : Char) : Bool := c = '/' || c = '?' || c = '#'

/-- Whether a character may stand in an authority. -/
def isAuthorityChar (c : Char) : Bool := c.isAlphanum || "!$&'()*+,-.:;=@[]_~%".toList.contains c

/-- What was seen of an authority: colons and percent signs count anew after the user part and after a
bracketed address. -/
structure Seen where
  colons : Nat
  opened : Bool
  closed : Bool
  percent : Bool

/-- The most colons of a bracketed address. -/
def colonLimit : Nat := 8

/-- What was seen after one more character, if it may follow. -/
def Seen.next? (seen : Seen) (c : Char) : Option Seen :=
  if !isAuthorityChar c then none
  else if c = ':' then
    if colonLimit ≤ seen.colons then none else some { seen with colons := seen.colons + 1 }
  else if c = '[' then
    if seen.percent || seen.opened then none else some { seen with opened := true }
  else if c = ']' then
    if !seen.opened || seen.closed then none
    else some { seen with closed := true, colons := 0, percent := false }
  else if c = '@' then some { seen with colons := 0, percent := false }
  else if c = '%' then some { seen with percent := true }
  else some seen

/-- Whether a text is an authority: brackets in pairs, at most one colon for a port, no percent sign outside
the user part and the brackets, and something after the user part. -/
def isAuthority (cs : List Char) : Bool :=
  match cs.foldlM Seen.next? ⟨0, false, false, false⟩ with
  | none => false
  | some seen =>
    seen.opened == seen.closed && seen.colons ≤ 1 && !seen.percent && cs.getLast? != some '@'

/-! ## Schemes -/

/-- Whether a character may stand in a scheme. -/
def isSchemeChar (c : Char) : Bool := c.isAlphanum || c = '+' || c = '-' || c = '.' || c = '~'

/-- The scheme of a target, and what follows it and its separator. -/
def splitScheme? (cs : List Char) : Option (List Char × List Char) :=
  match cs.dropWhile isSchemeChar with
  | ':' :: '/' :: '/' :: rest => if cs.length ≤ 3 then none else some (cs.takeWhile isSchemeChar, rest)
  | _ => none

/-- A target that does not start with a path. -/
def ofAbsolute? (cs : List Char) : Option Uri :=
  match splitScheme? cs with
  | none =>
    if isAuthority cs && !cs.any endsAuthority then some ⟨"", none⟩ else none
  | some (scheme, rest) =>
    let authority := rest.takeWhile fun c => !endsAuthority c
    if scheme.length ≤ schemeLimit && !authority.isEmpty && isAuthority authority then
      (ofPathAndQuery? (rest.dropWhile fun c => !endsAuthority c)).map fun uri =>
        if uri.path.isEmpty then { uri with path := "/" } else uri
    else none

/-- The target that a text writes. -/
def parse? (s : String) : Option Uri :=
  if lengthLimit < s.utf8ByteSize then none
  else
    match s.toList with
    | [] => none
    | ['*'] => some ⟨"*", none⟩
    | '/' :: rest => ofPathAndQuery? ('/' :: rest)
    | cs => ofAbsolute? cs

end Uri

end QueryGateway.Http
