import QueryGateway.Decimal.Binary64

/-!
# Shortest decimals

The shortest decimal that reads back as a given magnitude, and its written forms.  The decimals with
`n` digits near a magnitude form a grid; only the two grid points next to the magnitude can be nearest to
it, so the first grid of which one lies in the interval of reals that round to the magnitude wins.
-/

namespace QueryGateway

/-- The decimal `digits · 10 ^ exponent`. -/
structure Decimal where
  digits : Nat
  exponent : Int
  deriving DecidableEq, Repr

namespace Decimal

/-- A power of ten. -/
def tenPow (n : Nat) : Nat := Nat.pow 10 n

/-- The decimal digits of a number. -/
def digitChars (n : Nat) : List Char := Nat.toDigits 10 n

/-- The exponent of the leading digit of the positive ratio `num / den`. -/
def leadingExponent (num den : Nat) : Int :=
  if den ≤ num then ((digitChars (num / den)).length : Int) - 1
  else - ((digitChars ((den + num - 1) / num - 1)).length : Int)

/-- The reals that round to a magnitude, in units of a quarter of its last binary place: the lower end, the
magnitude, the upper end. -/
def interval (x : Binary64) : Nat × Nat × Nat :=
  let middle := 4 * x.mantissa
  let lower :=
    if x.mantissa = Binary64.leastNormal ∧ Binary64.leastExponent < x.exponent then middle - 1 else middle - 2
  (lower, middle, middle + 2)

/-- A number of quarter units as a ratio of natural numbers. -/
def quarterRatio (x : Binary64) (quarters : Nat) : Nat × Nat :=
  (⟨quarters, x.exponent - 2⟩ : Binary64).ratio

/-- The point `c · 10 ^ k` as a ratio of natural numbers. -/
def pointRatio (c : Nat) (k : Int) : Nat × Nat :=
  if 0 ≤ k then (c * tenPow k.toNat, 1) else (c, tenPow (-k).toNat)

/-- Whether one ratio is at most another. -/
def ratioLe (a b : Nat × Nat) : Bool := a.1 * b.2 ≤ b.1 * a.2

/-- Whether the point `c · 10 ^ k` rounds to the magnitude: the ends of the interval belong to an even
mantissa. -/
def readsBack (x : Binary64) (c : Nat) (k : Int) : Bool :=
  let ends := interval x
  let low := quarterRatio x ends.1
  let high := quarterRatio x ends.2.2
  let point := pointRatio c k
  if x.mantissa % 2 = 0 then ratioLe low point && ratioLe point high
  else !ratioLe point low && !ratioLe high point

/-- Of the two points next to the magnitude on the grid `10 ^ k`, the nearest one that reads back; an exact
tie goes to the even one. -/
def onGrid? (x : Binary64) (k : Int) : Option Decimal :=
  let value := x.ratio
  let scaled :=
    if 0 ≤ k then (value.1, value.2 * tenPow k.toNat) else (value.1 * tenPow (-k).toNat, value.2)
  let below := scaled.1 / scaled.2
  let nearest := Binary64.roundQuotient scaled.1 scaled.2
  let farther := if nearest = below then below + 1 else below
  if readsBack x nearest k then some ⟨nearest, k⟩
  else if readsBack x farther k then some ⟨farther, k⟩
  else none

/-- The grids with `places` to seventeen digits, tried in turn. -/
def search (x : Binary64) (leading : Int) : Nat → Nat → Decimal
  | 0, places => ⟨x.mantissa, leading - places⟩
  | tries + 1, places =>
    match onGrid? x (leading + 1 - places) with
    | some d => d
    | none => search x leading tries (places + 1)

/-- A decimal without zeros at the end of its digits. -/
def stripZeros : Nat → Decimal → Decimal
  | 0, d => d
  | fuel + 1, d =>
    if d.digits ≠ 0 ∧ d.digits % 10 = 0 then stripZeros fuel ⟨d.digits / 10, d.exponent + 1⟩ else d

/-- The shortest decimal that reads back as the magnitude, nearest to it among the shortest. -/
def shortest (x : Binary64) : Decimal :=
  if x.mantissa = 0 then ⟨0, 0⟩
  else
    let value := x.ratio
    stripZeros 17 (search x (leadingExponent value.1 value.2) 17 1)

/-- How a decimal is written: always positional, or in scientific form when the exponent of the leading
digit lies outside a range. -/
inductive Layout where
  | positional
  | scientificOutside (least greatest : Int)

/-- The positional form; an integral decimal ends in `.0`. -/
def positionalChars (d : Decimal) : List Char :=
  let ds := digitChars d.digits
  let whole := (ds.length : Int) + d.exponent
  if 0 ≤ d.exponent then ds ++ List.replicate d.exponent.toNat '0' ++ ['.', '0']
  else if 0 < whole then ds.take whole.toNat ++ '.' :: ds.drop whole.toNat
  else '0' :: '.' :: List.replicate (-whole).toNat '0' ++ ds

/-- The scientific form with a signed exponent. -/
def scientificChars (d : Decimal) : List Char :=
  let ds := digitChars d.digits
  let leading := (ds.length : Int) - 1 + d.exponent
  let fraction := if ds.length ≤ 1 then [] else '.' :: ds.drop 1
  let sign := if leading < 0 then '-' else '+'
  ds.take 1 ++ fraction ++ 'e' :: sign :: digitChars leading.natAbs

/-- The written form of a decimal. -/
def chars (layout : Layout) (d : Decimal) : List Char :=
  match layout with
  | .positional => positionalChars d
  | .scientificOutside least greatest =>
    let leading := ((digitChars d.digits).length : Int) - 1 + d.exponent
    if d.digits = 0 ∨ (least ≤ leading ∧ leading ≤ greatest) then positionalChars d
    else scientificChars d

end Decimal

/-- The shortest text of a double that reads back, in the given layout. -/
def Double.chars (layout : Decimal.Layout) (x : Double) : List Char :=
  let body := (Decimal.shortest x.magnitude).chars layout
  if x.negative then '-' :: body else body

/-- The shortest text of a whole number that is a double, without a point. -/
def Decimal.wholeText (n : Nat) : String :=
  match Binary64.ofNat? n with
  | none => toString n
  | some x =>
    let d := shortest x
    toString (d.digits * tenPow d.exponent.toNat)

end QueryGateway
