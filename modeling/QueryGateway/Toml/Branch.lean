import QueryGateway.Toml.Basic

/-!
# Tables under construction

While a document is read, a table remembers how it came to be, which decides whether it may be extended: a
table made on the way to another one may be opened once by a header, a table made by a dotted key only by
more dotted keys, and a table with a header or in braces not by dotted keys.

A table with a header spans from its header to its last value; one without a header stands where its key does.
-/

namespace QueryGateway.Toml

/-- What stands under a key of a table under construction. -/
inductive Node where
  /-- A value that cannot be extended. -/
  | value (v : Toml)
  /-- A table: whether it was made on the way to another one, whether by a dotted key, where it stands, and its
  entries. -/
  | table (implicit dotted : Bool) (span : Text.Span) (entries : List (String × Node))
  /-- A sequence of tables with headers: where each stands, and its entries. -/
  | tables (items : List (Text.Span × List (String × Node)))

/-- A table under construction. -/
structure Branch where
  implicit : Bool
  dotted : Bool
  span : Text.Span
  entries : List (String × Node)

namespace Branch

/-- A table without entries at a place; it may be extended. -/
def emptyAt (span : Text.Span) : Branch := ⟨false, false, span, []⟩

/-- The node of a branch. -/
def node (branch : Branch) : Node := .table branch.implicit branch.dotted branch.span branch.entries

/-- What stands under a key. -/
def get? (branch : Branch) (key : String) : Option Node := branch.entries.lookup key

/-- Adds an entry at the end. -/
def append (branch : Branch) (key : String) (node : Node) : Branch :=
  { branch with entries := branch.entries ++ [(key, node)] }

/-- Replaces the node of a key, in its place. -/
def replace (branch : Branch) (key : String) (node : Node) : Branch :=
  { branch with entries := branch.entries.map fun entry => if entry.1 = key then (key, node) else entry }

/-- Removes the entry of a key. -/
def remove (branch : Branch) (key : String) : Branch :=
  { branch with entries := branch.entries.filter fun entry => entry.1 ≠ key }

/-- Changes the table at a path and takes something from it.  Tables on the way are made where there are none;
of a sequence the last table is taken. -/
def alter {α : Type} (dotted : Bool) (change : Branch → Option (α × Branch)) :
    List Key → Branch → Option (α × Branch)
  | [], branch => change branch
  | key :: path, branch =>
    match branch.get? key.name with
    | none => do
      let (taken, made) ← alter dotted change path ⟨true, dotted, key.span, []⟩
      some (taken, branch.append key.name made.node)
    | some (.value _) => none
    | some (.table implicit byKey span entries) =>
      if dotted && !implicit then none
      else do
        let (taken, changed) ← alter dotted change path ⟨implicit, byKey, span, entries⟩
        some (taken, branch.replace key.name changed.node)
    | some (.tables items) => do
      let (span, last) ← items.getLast?
      let (taken, changed) ← alter dotted change path ⟨false, false, span, last⟩
      some (taken, branch.replace key.name (.tables (items.dropLast ++ [(span, changed.entries)])))

/-- Changes the table at a path. -/
def update (dotted : Bool) (change : Branch → Option Branch) (path : List Key) (branch : Branch) :
    Option Branch :=
  (branch.alter dotted (fun table => (change table).map ((), ·)) path).map Prod.snd

/-- Adds a value under a dotted key: the table it belongs to must be of the kind that the key makes, and the
key new. -/
def addValue (branch : Branch) (path : List Key) (key : String) (v : Toml) : Option Branch :=
  branch.update true
    (fun table =>
      if table.dotted = path.isEmpty || (table.get? key).isSome then none
      else some (table.append key (.value v)))
    path

end Branch

/-- A sequence of tables, from the start of the first to the end of the last. -/
def placedTables (items : List Toml) : Toml :=
  match items.head?.bind span?, items.getLast?.bind span? with
  | some first, some last => .placed (first.through last) (.array items)
  | _, _ => .array items

mutual

/-- The value of a node. -/
def Node.toToml : Node → Toml
  | .value v => v
  | .table _ _ span entries => .placed span (.table (entriesToToml entries))
  | .tables items => placedTables (tablesToToml items)

/-- The values of entries. -/
def entriesToToml : List (String × Node) → List (String × Toml)
  | [] => []
  | (key, node) :: entries => (key, node.toToml) :: entriesToToml entries

/-- The values of a sequence of tables. -/
def tablesToToml : List (Text.Span × List (String × Node)) → List Toml
  | [] => []
  | (span, entries) :: items => .placed span (.table (entriesToToml entries)) :: tablesToToml items

end

/-- The table of a branch. -/
def Branch.toToml (branch : Branch) : Toml := .table (entriesToToml branch.entries)

/-! ## Documents under construction -/

/-- A document under construction: the root, and the table that entries go to now, which joins the root when
the next header comes. -/
structure Draft where
  root : Branch
  current : Branch
  /-- The path of the current table; the root itself has none. -/
  path : List Key
  /-- Whether the current table is one of a sequence. -/
  inSequence : Bool

namespace Draft

/-- The document without a line; where it stands counts for nothing. -/
def empty : Draft := ⟨.emptyAt default, .emptyAt default, [], false⟩

/-- Adds a table to the sequence under a key. -/
def pushTable (key : String) (table : Branch) (parent : Branch) : Option Branch :=
  match parent.get? key with
  | none => some (parent.append key (.tables [(table.span, table.entries)]))
  | some (.tables items) =>
    some (parent.replace key (.tables (items ++ [(table.span, table.entries)])))
  | some _ => none

/-- The root with the current table joined to it. -/
def close (draft : Draft) : Option Branch :=
  match draft.path.getLast? with
  | none => some draft.current
  | some key =>
    let join (parent : Branch) : Option Branch :=
      if draft.inSequence then pushTable key.name draft.current parent
      else if (parent.get? key.name).isSome then none
      else some (parent.append key.name draft.current.node)
    draft.root.update false join draft.path.dropLast

/-- Takes the table of a header out of its parent: a new one, or one that was made on the way to another. -/
def takeTable (key : String) (header : Text.Span) (parent : Branch) : Option (Branch × Branch) :=
  match parent.get? key with
  | none => some (.emptyAt header, parent)
  | some (.table true false _ entries) =>
    some ({ Branch.emptyAt header with entries }, parent.remove key)
  | some _ => none

/-- The document after the header of a table. -/
def openTable (draft : Draft) (path : List Key) (header : Text.Span) : Option Draft := do
  let root ← draft.close
  let key ← path.getLast?
  let (current, root) ← root.alter false (takeTable key.name header) path.dropLast
  some ⟨root, current, path, false⟩

/-- Checks that a table may be added to the sequence under a key. -/
def allowTable (key : String) (parent : Branch) : Option Branch :=
  match parent.get? key with
  | none => some (parent.append key (.tables []))
  | some (.tables _) => some parent
  | some _ => none

/-- The document after the header of a table of a sequence. -/
def openItem (draft : Draft) (path : List Key) (header : Text.Span) : Option Draft := do
  let root ← draft.close
  let key ← path.getLast?
  let root ← root.update false (allowTable key.name) path.dropLast
  some ⟨root, .emptyAt header, path, true⟩

/-- The document after a value under a dotted key; the current table reaches to the end of the value. -/
def addValue (draft : Draft) (path : List Key) (key : String) (v : Toml) : Option Draft := do
  let current ← draft.current.addValue path key v
  let span := (v.span?.map draft.current.span.through).getD draft.current.span
  some { draft with current := { current with span } }

end Draft

end QueryGateway.Toml
