import QueryGateway.Text.Utf8
import QueryGateway.Toml.Branch
import QueryGateway.Toml.Scalar

/-!
# TOML texts

`Toml.parse?` reads a whole text.  Every value remembers where it stands in the text.  A text that is refused
is refused without a reason.
-/

namespace QueryGateway.Toml

/-- The text after blanks, line feeds and comments, each comment ending its line. -/
def skipSpace : Nat → List Char → Option (List Char)
  | 0, _ => none
  | fuel + 1, cs =>
    match skipBlanks cs with
    | '#' :: rest => do
      let rest ← newline (skipComment ('#' :: rest))
      skipSpace fuel rest
    | '\n' :: rest => skipSpace fuel rest
    | '\r' :: rest => do
      let rest ← newline ('\r' :: rest)
      skipSpace fuel rest
    | rest => some rest

/-- Space around the items of an array. -/
def space (cs : List Char) : Option (List Char) := skipSpace (cs.length + 1) cs

/-- The last part of a dotted key, and the parts before it. -/
def splitKey (parts : List Key) : Option (List Key × String) :=
  parts.getLast?.map fun last => (parts.dropLast, last.name)

mutual

/-- A value, nested at most `depth - 1` deep. -/
def readValue : Nat → Nat → List Char → Option (Toml × List Char)
  | 0, _, _ => none
  | fuel + 1, depth, cs =>
    let placed (v : Toml) (rest : List Char) : Toml × List Char := (.placed (.between cs rest) v, rest)
    match cs with
    | '[' :: more =>
      if depth ≤ 1 then none
      else do
        let (items, rest) ← readItems fuel (depth - 1) more
        some (placed (.array items) rest)
    | '{' :: more =>
      if depth ≤ 1 then none
      else
        match skipBlanks more with
        | '}' :: rest => some (placed (.table []) rest)
        | more => do
          let (branch, rest) ← readPairs fuel (depth - 1) (.emptyAt default) more
          some (placed branch.toToml rest)
    | _ => do
      let (v, rest) ← scalar cs
      some (placed v rest)

/-- The items of an array after its opening bracket or after a comma. -/
def readItems : Nat → Nat → List Char → Option (List Toml × List Char)
  | 0, _, _ => none
  | fuel + 1, depth, cs => do
    match ← space cs with
    | ']' :: rest => some ([], rest)
    | cs =>
      let (item, rest) ← readValue fuel depth cs
      match ← space rest with
      | ',' :: rest =>
        let (items, rest) ← readItems fuel depth rest
        some (item :: items, rest)
      | ']' :: rest => some ([item], rest)
      | _ => none

/-- The entries of a table in braces. -/
def readPairs : Nat → Nat → Branch → List Char → Option (Branch × List Char)
  | 0, _, _, _ => none
  | fuel + 1, depth, branch, cs => do
    let (parts, rest) ← key cs
    let (path, last) ← splitKey parts
    let rest ← expect '=' rest
    let (v, rest) ← readValue fuel depth (skipBlanks rest)
    let branch ← branch.addValue path last v
    match skipBlanks rest with
    | ',' :: rest => readPairs fuel depth branch rest
    | '}' :: rest => some (branch, rest)
    | _ => none

end

/-- The document after a line with a dotted key and a value. -/
def readEntry (draft : Draft) (cs : List Char) : Option (Draft × List Char) := do
  let (parts, rest) ← key cs
  let (path, last) ← splitKey parts
  let rest ← expect '=' rest
  let (v, rest) ← readValue (cs.length + 1) depthLimit (skipBlanks rest)
  let rest ← endLine rest
  let draft ← draft.addValue path last v
  some (draft, rest)

/-- The document after a line with the header of a table. -/
def readHeader (draft : Draft) (cs : List Char) : Option (Draft × List Char) := do
  match ← expect '[' cs with
  | '[' :: more =>
    let (path, rest) ← key more
    let rest ← expect ']' rest
    let rest ← expect ']' rest
    let draft ← draft.openItem path (.between cs rest)
    let rest ← endLine rest
    some (draft, rest)
  | more =>
    let (path, rest) ← key more
    let rest ← expect ']' rest
    let draft ← draft.openTable path (.between cs rest)
    let rest ← endLine rest
    some (draft, rest)

/-- The document after all lines. -/
def readLines : Nat → Draft → List Char → Option Draft
  | 0, _, _ => none
  | fuel + 1, draft, cs =>
    match skipBlanks cs with
    | [] => some draft
    | '#' :: rest => do
      let rest ← endLine ('#' :: rest)
      readLines fuel draft rest
    | '\n' :: rest => readLines fuel draft rest
    | '\r' :: rest => do
      let rest ← newline ('\r' :: rest)
      readLines fuel draft rest
    | '[' :: rest => do
      let (draft, rest) ← readHeader draft ('[' :: rest)
      readLines fuel draft rest
    | rest => do
      let (draft, rest) ← readEntry draft rest
      readLines fuel draft rest

/-- The text after a byte order mark, if it starts with one. -/
def dropMark : List Char → List Char
  | '\uFEFF' :: cs => cs
  | cs => cs

/-- The document that a whole text writes. -/
def parse? (text : String) : Option Toml := do
  let cs := dropMark text.toList
  let draft ← readLines (cs.length + 1) .empty cs
  let root ← draft.close
  some root.toToml

end QueryGateway.Toml
