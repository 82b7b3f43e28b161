import QueryGateway.Config.Load
import QueryGateway.Config.SocketAddress

/-!
# Hosts

What the program needs to know of the system that it runs on: what stands at the paths of its files, and at which
addresses it may listen.  An address that overlaps one in use is refused.
-/

namespace QueryGateway

open Config

/-- The system that the program runs on. -/
structure Host where
  files : String → Source
  /-- Why the system does not let anyone listen at an address. -/
  refusal? : SocketAddress → Option Host.Refusal

namespace Host

/-- The octets of an IPv4 address that stands in an IPv6 address. -/
def mappedOctets? : List Nat → Option (List Nat)
  | [0, 0, 0, 0, 0, 0xFFFF, g, h] => some [g / 256, g % 256, h / 256, h % 256]
  | _ => none

/-- The place of an address: the octets of an IPv4 address or the groups of an IPv6 address. -/
def place : SocketAddress → List Nat
  | .v4 octets _ => octets
  | .v6 groups _ _ => (mappedOctets? groups).getD groups

/-- The port of an address. -/
def portOf : SocketAddress → Nat
  | .v4 _ port => port
  | .v6 _ _ port => port

/-- Whether a place stands for all others: that of IPv4 for all of IPv4, that of IPv6 for all. -/
def coversPlace (a b : List Nat) : Bool :=
  a.all (· = 0) && (a.length = 8 || b.length = 4)

/-- Whether two addresses cannot be listened at together.  Port zero stands for a free port. -/
def overlap (a b : SocketAddress) : Bool :=
  portOf a = portOf b && portOf a ≠ 0
    && (place a = place b || coversPlace (place a) (place b) || coversPlace (place b) (place a))

/-- Why the program cannot listen at an address while it listens at others. -/
def listenRefusal? (host : Host) (inUse : List SocketAddress) (address : SocketAddress) : Option Refusal :=
  match host.refusal? address with
  | some refusal => some refusal
  | none => if inUse.any (overlap address) then some .addressInUse else none

end Host

end QueryGateway
