import QueryGateway.Decimal.Shortest
import QueryGateway.Keyed

/-!
# JSON values

Values with whole numbers in the joint range of signed and unsigned 64-bit words, finite doubles, and
objects as lists of members.  Objects that are read hold their members in ascending order of names.
-/

namespace QueryGateway

/-- A whole number that fits a signed or an unsigned 64-bit word. -/
structure WholeNumber where
  val : Int
  lower : -9223372036854775808 ≤ val
  upper : val < 18446744073709551616
  deriving DecidableEq, Repr

/-- The whole number zero. -/
instance : Inhabited WholeNumber := ⟨⟨0, by decide, by decide⟩⟩

/-- The whole number of a 64-bit word. -/
def WholeNumber.ofWord (n : UInt64) : WholeNumber :=
  ⟨n.toNat, by have := n.toNat_lt; omega, by have := n.toNat_lt; omega⟩

/-- A JSON number. -/
inductive Number where
  | whole (n : WholeNumber)
  | double (x : Double)
  deriving DecidableEq, Repr

/-- A JSON value. -/
inductive Json where
  | null
  | bool (b : Bool)
  | number (n : Number)
  | string (s : String)
  | array (items : List Json)
  | object (members : List (String × Json))
  deriving Repr, Inhabited

/-- The members of a JSON object. -/
abbrev Members := Keyed Json

end QueryGateway
