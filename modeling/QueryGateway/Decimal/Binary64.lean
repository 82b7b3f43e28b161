/-!
# Finite binary64 magnitudes

A magnitude is `mantissa · 2 ^ exponent`.  Products and quotients are formed exactly as ratios of natural
numbers and rounded once to the nearest magnitude, a tie going to the even mantissa, so no arithmetic
outside the natural numbers is needed.
Main statement: whole numbers of 53 binary digits are exact.
-/

namespace QueryGateway

/-- The magnitude `mantissa · 2 ^ exponent` of a finite double. -/
structure Binary64 where
  mantissa : Nat
  exponent : Int
  deriving DecidableEq, Repr

namespace Binary64

/-- The exponent of the smallest magnitudes. -/
def leastExponent : Int := -1074

/-- The exponent of the largest magnitudes. -/
def greatestExponent : Int := 971

/-- The least mantissa of 53 binary digits. -/
def leastNormal : Nat := 4503599627370496

/-- The magnitude zero. -/
def zero : Binary64 := ⟨0, leastExponent⟩

/-- The quotient to the nearest integer, a tie going to the even one. -/
def roundQuotient (num den : Nat) : Nat :=
  let q := num / den
  let r := num % den
  if den < 2 * r ∨ (2 * r = den ∧ q % 2 = 1) then q + 1 else q

/-- The ratio `num / den` divided by `2 ^ e`, as numerator and denominator. -/
def shifted (num den : Nat) (e : Int) : Nat × Nat :=
  if 0 ≤ e then (num, den <<< e.toNat) else (num <<< (-e).toNat, den)

/-- The exponent that leaves 53 binary digits before the point, or the least one. -/
def exponentFor (num den : Nat) : Int :=
  let guess : Int := (num.log2 : Int) - den.log2 - 52
  let parts := shifted num den guess
  let fitting := if parts.1 < parts.2 * leastNormal then guess - 1 else guess
  max fitting leastExponent

/-- The magnitude nearest to `num / den`; nothing when it lies beyond the largest one. -/
def ofRatio (num den : Nat) : Option Binary64 :=
  if num = 0 then some zero
  else
    let e := exponentFor num den
    let parts := shifted num den e
    let m := roundQuotient parts.1 parts.2
    let rounded : Binary64 := if m = 2 * leastNormal then ⟨leastNormal, e + 1⟩ else ⟨m, e⟩
    if rounded.exponent ≤ greatestExponent then some rounded else none

/-- The magnitude as a ratio of natural numbers. -/
def ratio (x : Binary64) : Nat × Nat :=
  if 0 ≤ x.exponent then (x.mantissa <<< x.exponent.toNat, 1)
  else (x.mantissa, 1 <<< (-x.exponent).toNat)

/-- The magnitude nearest to a natural number. -/
def ofNat? (n : Nat) : Option Binary64 := ofRatio n 1

/-- The rounded product. -/
def mul? (x y : Binary64) : Option Binary64 :=
  ofRatio (x.ratio.1 * y.ratio.1) (x.ratio.2 * y.ratio.2)

/-- The rounded quotient. -/
def div? (x y : Binary64) : Option Binary64 :=
  ofRatio (x.ratio.1 * y.ratio.2) (x.ratio.2 * y.ratio.1)

/-- The natural number of 53 binary digits and zeros that is nearest to a natural number. -/
def nearestNat (n : Nat) : Nat :=
  if n < 2 * leastNormal then n
  else
    let unit := 1 <<< (n.log2 - 52)
    roundQuotient n unit * unit

@[simp] theorem nearestNat_of_lt {n : Nat} (h : n < 2 * leastNormal) : nearestNat n = n := if_pos h

end Binary64

/-- A finite double: a sign and a magnitude. -/
structure Double where
  negative : Bool
  magnitude : Binary64
  deriving DecidableEq, Repr

end QueryGateway
