import QueryGateway.GraphQL.ProviderCell

/-!
# Providers that are set by several at once

The pair of providers is published as a whole, and never changed: whoever sets one of them makes another pair.  Several
calls may do so at the same time.  A call loads the pair that is current, makes its own pair from it, and swaps the two
if the loaded one is still current; otherwise it starts over.  Whoever takes a snapshot keeps the pair of that moment.
Pairs are told apart by the place at which they were made, as nobody can tell apart two providers.
-/

namespace QueryGateway.GraphQL

/-- A provider that is to be set. -/
inductive Setting where
  | context (provider : ContextProvider)
  | loaders (provider : LoaderProvider)

namespace Setting

/-- A pair with the provider in place of its own one of the kind. -/
def apply (providers : Providers) : Setting → Providers
  | .context provider => { providers with context := provider }
  | .loaders provider => { providers with loaders := provider }

/-- What a setting does to a cell that is changed at once. -/
def effect : Setting → ProviderCell.Event
  | .context provider => .context provider
  | .loaders provider => .loaders provider

end Setting

/-- How far a call has come. -/
inductive Progress where
  /-- It is about to load the current pair. -/
  | waiting
  /-- It has loaded the pair at a place. -/
  | loaded (place : Nat)
  /-- It has loaded a pair, and made its own one from it. -/
  | built (place made : Nat)
  | finished
  deriving DecidableEq, Repr

/-- A call that sets a provider. -/
structure Call where
  setting : Setting
  progress : Progress

/-- The pairs of providers, and those who use them. -/
structure SharedProviders where
  /-- The pairs in the order in which they were made. -/
  pairs : List Providers
  /-- The places of the pairs that were current before, in order. -/
  earlier : List Nat
  /-- The place of the current pair. -/
  current : Nat
  /-- The calls in the order in which they began. -/
  calls : List Call
  /-- The calls whose swaps have succeeded, in order, each with what it has set. -/
  swaps : List (Nat × Setting)
  /-- The places of the pairs that were taken as snapshots, in order. -/
  snapshots : List Nat

namespace SharedProviders

/-- The standard providers, which nobody uses yet. -/
def new : SharedProviders := ⟨[.standard], [], 0, [], [], []⟩

/-- What happens to the pairs of providers. -/
inductive Event where
  | snapshot
  /-- A call begins. -/
  | call (setting : Setting)
  | load (call : Nat)
  | build (call : Nat)
  | swap (call : Nat)

/-- The pair at a place. -/
def pairAt (shared : SharedProviders) (place : Nat) : Providers := (shared.pairs[place]?).getD .standard

/-- The pair of a snapshot, if it was taken. -/
def snapshot? (shared : SharedProviders) (number : Nat) : Option Providers :=
  (shared.snapshots[number]?).map shared.pairAt

/-- A call comes to another point. -/
def advance (shared : SharedProviders) (call : Nat) (progress : Progress) : SharedProviders :=
  { shared with calls := shared.calls.modify call fun call => { call with progress } }

/-- Another pair is made. -/
def allocate (shared : SharedProviders) (pair : Providers) : SharedProviders :=
  { shared with pairs := shared.pairs ++ [pair] }

/-- A call makes its own pair from the one at a place. -/
def build (shared : SharedProviders) (call : Nat) (setting : Setting) (place : Nat) : SharedProviders :=
  (shared.allocate (setting.apply (shared.pairAt place))).advance call (.built place shared.pairs.length)

/-- A call publishes the pair that it has made. -/
def publish (shared : SharedProviders) (call : Nat) (setting : Setting) (made : Nat) : SharedProviders :=
  { shared with
    earlier := shared.earlier ++ [shared.current]
    current := made
    swaps := shared.swaps ++ [(call, setting)] }.advance call .finished

/-- The providers after an event; a call that is not at the point for it does nothing. -/
def next (shared : SharedProviders) : Event → SharedProviders
  | .snapshot => { shared with snapshots := shared.snapshots ++ [shared.current] }
  | .call setting => { shared with calls := shared.calls ++ [⟨setting, .waiting⟩] }
  | .load call =>
    match shared.calls[call]? with
    | some ⟨_, .waiting⟩ => shared.advance call (.loaded shared.current)
    | _ => shared
  | .build call =>
    match shared.calls[call]? with
    | some ⟨setting, .loaded place⟩ => shared.build call setting place
    | _ => shared
  | .swap call =>
    match shared.calls[call]? with
    | some ⟨setting, .built place made⟩ =>
      if shared.current = place then shared.publish call setting made else shared.advance call .waiting
    | _ => shared

/-- The providers after a sequence of events. -/
def run (shared : SharedProviders) (events : List Event) : SharedProviders := events.foldl next shared

/-- A call from its beginning to its end, disturbed by nobody. -/
def set (shared : SharedProviders) (setting : Setting) : SharedProviders :=
  let call := shared.calls.length
  shared.run [.call setting, .load call, .build call, .swap call]

/-- What can be seen of the providers: the current pair, and the snapshots. -/
def cell (shared : SharedProviders) : ProviderCell :=
  ⟨shared.pairAt shared.current, shared.snapshots.map shared.pairAt⟩

theorem run_cons (shared : SharedProviders) (event : Event) (events : List Event) :
    shared.run (event :: events) = (shared.next event).run events := rfl

theorem run_append (shared : SharedProviders) (events others : List Event) :
    shared.run (events ++ others) = (shared.run events).run others := List.foldl_append

end SharedProviders

end QueryGateway.GraphQL
