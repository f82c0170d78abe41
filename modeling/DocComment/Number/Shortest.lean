import DocComment.Number.Binary64

/-!
# Shortest decimals

A finite number is written with the fewest digits that read back as it, and of those with the
digits nearest to its value.  For each count of digits only the two neighbours of the value on that
decimal grid need to be tried: if any point of the grid reads back, one of them does.
-/

namespace DocComment.Decimal

/-- Digits `d₁d₂…` standing for `0.d₁d₂… · 10^point`. -/
structure Digits where
  digits : Nat
  point : Int
deriving DecidableEq, Repr

/-- The positive reals that round to a number, scaled by `4 / denominator`: from `low` to `high`
around `value`, the two ends included or not. -/
structure Interval where
  low : Nat
  value : Nat
  high : Nat
  denominator : Nat
  closed : Bool
deriving DecidableEq, Repr

/-- The reals that round to `mantissa · 2^exponent`.  Below a power of two the grid is twice as
fine, so there the lower half of the interval is half as long. -/
def interval (mantissa : Nat) (exponent : Int) : Interval :=
  let unit := Nat.pow 2 exponent.toNat
  let below := if mantissa = Nat.pow 2 52 && Binary64.minExponent < exponent then 1 else 2
  ⟨(4 * mantissa - below) * unit, 4 * mantissa * unit, (4 * mantissa + 2) * unit,
    Nat.pow 2 (-exponent).toNat, mantissa % 2 == 0⟩

/-- Whether `number / 10^places` lies in the interval. -/
def Interval.contains (i : Interval) (number places : Nat) : Bool :=
  let scaled := 4 * number * i.denominator
  let low := i.low * Nat.pow 10 places
  let high := i.high * Nat.pow 10 places
  if i.closed then low ≤ scaled && scaled ≤ high else low < scaled && scaled < high

/-- The least power of ten, among `fuel` of them from `start` up, that is greater than
`numerator / denominator`. -/
def powerAbove (numerator denominator : Nat) : (fuel : Nat) → (start : Int) → Int
  | 0, start => start
  | fuel + 1, start =>
    if numerator * Nat.pow 10 (-start).toNat < denominator * Nat.pow 10 start.toNat then start
    else powerAbove numerator denominator fuel (start + 1)

/-- The best decimal with `count` digits for a value below `10^point`, if one reads back.  `number`
counts units of `10^(point - count)`. -/
def withDigits? (i : Interval) (point : Int) (count : Nat) : Option Nat :=
  let power := point - count
  let up := Nat.pow 10 power.toNat
  let places := (-power).toNat
  -- The value in units of the grid, as a quotient.
  let top := i.value * Nat.pow 10 places
  let bottom := 4 * i.denominator * up
  let below := top / bottom
  let above := below + 1
  let fits := fun number => i.contains (number * up) places
  match fits below, fits above with
  | true, true =>
    let twice := 2 * (top % bottom)
    if twice < bottom then some below
    else if bottom < twice then some above
    else some (below + below % 2)
  | true, false => some below
  | false, true => some above
  | false, false => none

/-- Searches the counts `count`, `count + 1`, … for the first that has a decimal. -/
def firstCount (i : Interval) (point : Int) : (fuel count : Nat) → Digits
  | 0, count => ⟨0, count⟩
  | fuel + 1, count =>
    match withDigits? i point count with
    | some number =>
      -- The upper neighbour of 99…9 needs one place more before the point.
      if number = Nat.pow 10 count then ⟨1, point + 1⟩ else ⟨number, point⟩
    | none => firstCount i point fuel (count + 1)

/-- The shortest decimal that reads back as `mantissa · 2^exponent`, for a positive mantissa;
seventeen digits always suffice. -/
def shortest (mantissa : Nat) (exponent : Int) : Digits :=
  let i := interval mantissa exponent
  let point := powerAbove i.value (4 * i.denominator) 640 (-325)
  firstCount i point 17 1

/-- How a number is laid out once its digits are known. -/
structure Layout where
  /-- The least decimal exponent that is written positionally. -/
  leastPositional : Int
  /-- The least decimal exponent above it that is written with an exponent again. -/
  leastScientific : Int
  /-- The least number of digits of an exponent. -/
  exponentDigits : Nat
  /-- The texts for a number that is none, and for the infinite ones. -/
  nan : String
  infinity : String

/-- Numbers are written positionally from a ten-thousandth up to ten quadrillion, whole ones with
`.0`; other exponents have a sign and at least two digits. -/
def Layout.plain : Layout := ⟨-4, 16, 2, "nan", "inf"⟩

/-- The decimal digits of `n`. -/
def numeral (n : Nat) : List Char := Nat.toDigits 10 n

/-- The numeral of a whole number, with a minus sign where it is negative. -/
def integer (n : Int) : List Char :=
  if n < 0 then '-' :: numeral n.natAbs else numeral n.natAbs

/-- `numeral n` with zeros in front up to `width` digits. -/
def padded (width n : Nat) : List Char :=
  List.replicate (width - (numeral n).length) '0' ++ numeral n

/-- Lays out `0.d₁d₂… · 10^point`. -/
def Layout.place (layout : Layout) (digits : List Char) (point : Int) : List Char :=
  let exponent := point - 1
  if layout.leastPositional ≤ exponent && exponent < layout.leastScientific then
    if point ≤ 0 then '0' :: '.' :: List.replicate (-point).toNat '0' ++ digits
    else
      let whole := point.toNat
      if digits.length ≤ whole then
        digits ++ List.replicate (whole - digits.length) '0' ++ ['.', '0']
      else digits.take whole ++ '.' :: digits.drop whole
  else
    let fraction := digits.drop 1
    digits.take 1 ++ (if fraction.isEmpty then [] else '.' :: fraction) ++
      'e' :: (if exponent < 0 then '-' else '+') :: padded layout.exponentDigits exponent.natAbs

/-- The digits without the zeros at their end. -/
def dropTrailingZeros (digits : List Char) : List Char :=
  (digits.reverse.dropWhile (· == '0')).reverse

/-- The text of a number. -/
def Layout.write (layout : Layout) : Binary64 → List Char
  | .nan => layout.nan.toList
  | .infinite negative => (if negative then ['-'] else []) ++ layout.infinity.toList
  | .finite negative 0 _ => (if negative then ['-'] else []) ++ ['0', '.', '0']
  | .finite negative mantissa exponent =>
    let found := shortest mantissa exponent
    (if negative then ['-'] else []) ++
      layout.place (dropTrailingZeros (numeral found.digits)) found.point

end DocComment.Decimal
