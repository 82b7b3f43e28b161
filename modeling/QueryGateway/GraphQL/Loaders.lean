import QueryGateway.Json.Basic
import QueryGateway.Text.Quoted

/-!
# Data loaders

A registry holds one loader a key; a loader has a kind, and it is found only under its own kind.  Which loaders and
kinds there are does not matter to a registry, so it is said for all of them.
-/

namespace QueryGateway.GraphQL

/-- The kinds of loaders. -/
inductive LoaderKind where
  | word
  | text
  | flag
  | list
  deriving DecidableEq, Repr

/-- A loader, by what it holds. -/
inductive Loader where
  | word (n : UInt32)
  | text (s : String)
  | flag (b : Bool)
  | list (items : List Json)

/-- The kind of a loader. -/
def Loader.kind : Loader → LoaderKind
  | .word _ => .word
  | .text _ => .text
  | .flag _ => .flag
  | .list _ => .list

/-- Loaders that are told apart by their kinds. -/
class Kinded (L : Type) (K : outParam Type) where
  /-- The kind of a loader. -/
  kind : L → K

instance : Kinded Loader LoaderKind := ⟨Loader.kind⟩

/-- An order in which keys are listed.  Which one it is, nothing promises. -/
structure Listing where
  list : List String → List String
  perm : ∀ keys, (list keys).Perm keys

/-- Ascending keys are listed as they are. -/
def Listing.ascending : Listing := ⟨id, fun _ => .rfl⟩

/-- Loaders by key. -/
structure LoaderRegistry (L : Type := Loader) where
  entries : Keyed L

namespace LoaderRegistry

variable {L K : Type}

/-- The registry without loaders. -/
def empty : LoaderRegistry L := ⟨[]⟩

/-- Sets the loader of a key. -/
def register (registry : LoaderRegistry L) (key : String) (loader : L) : LoaderRegistry L :=
  ⟨registry.entries.insert key loader⟩

/-- The loader of a key, if it is of a kind. -/
def get? [Kinded L K] [DecidableEq K] (registry : LoaderRegistry L) (key : String) (kind : K) : Option L :=
  (registry.entries.get? key).filter fun loader => Kinded.kind loader = kind

/-- The keys in ascending order. -/
def keys (registry : LoaderRegistry L) : List String := registry.entries.keys

/-- How many keys have a loader. -/
def size (registry : LoaderRegistry L) : Nat := registry.entries.length

/-- Whether no key has a loader. -/
def isEmpty (registry : LoaderRegistry L) : Bool := registry.entries.isEmpty

/-- The registry with a text as loader of each key. -/
def ofKeys (keys : List String) : LoaderRegistry :=
  keys.foldl (fun registry key => registry.register key (.text key)) empty

/-- The registry with one loader, under a key that may be absent. -/
def ofKey? (key : Option String) : Option LoaderRegistry := key.map fun key => ofKeys [key]

/-- The keys as they are told: listed in any order and then sorted. -/
def sortedKeys (registry : LoaderRegistry L) (listing : Listing) : List String :=
  (listing.list registry.keys).mergeSort

/-- The registry as it is shown on one line. -/
def inspect (registry : LoaderRegistry L) (listing : Listing := .ascending) : String :=
  let keys := registry.sortedKeys listing
  "DataLoaderRegistry \x7b loaders: [" ++ ", ".intercalate (keys.map Text.quote) ++ "] \x7d"

/-- The registry as it is shown on several lines, one a key. -/
def inspectLines (registry : LoaderRegistry L) (listing : Listing := .ascending) : String :=
  let keys := registry.sortedKeys listing
  let loaders :=
    if keys.isEmpty then "[]"
    else "[\n" ++ String.join (keys.map fun key => "        " ++ Text.quote key ++ ",\n") ++ "    ]"
  "DataLoaderRegistry \x7b\n    loaders: " ++ loaders ++ ",\n\x7d"

/-! ## Several registries -/

/-- A step of work on several registries, each known by its place. -/
inductive Step (L : Type) where
  | register (place : Nat) (key : String) (loader : L)
  | clone (place : Nat)

/-- The registries after a step: a clone is a registry of its own, at the end. -/
def step (registries : List (LoaderRegistry L)) : Step L → List (LoaderRegistry L)
  | .register place key loader => registries.modify place fun registry => registry.register key loader
  | .clone place => registries ++ (registries[place]?).toList

end LoaderRegistry

end QueryGateway.GraphQL
