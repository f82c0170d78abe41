/-!
# Binary floating-point numbers

The numbers of the 64-bit binary format, each as a sign, a whole mantissa and a power of two.  A
decimal is read by rounding its exact value to the nearest of them, a tie going to the even
mantissa.  Everything is exact arithmetic on natural numbers.
-/

namespace DocComment

/-- A number of the 64-bit binary format; `finite negative m e` stands for `± m · 2^e`. -/
inductive Binary64 where
  | nan
  | infinite (negative : Bool)
  | finite (negative : Bool) (mantissa : Nat) (exponent : Int)
deriving DecidableEq, Repr

namespace Binary64

/-- The exponent of the least positive number. -/
def minExponent : Int := -1074

/-- The exponent of the greatest finite number. -/
def maxExponent : Int := 971

/-- `numerator / denominator` rounded to the nearest whole number, a tie going to the even one. -/
def roundDiv (numerator denominator : Nat) : Nat :=
  let quotient := numerator / denominator
  let remainder := numerator % denominator
  if 2 * remainder < denominator then quotient
  else if denominator < 2 * remainder then quotient + 1
  else quotient + quotient % 2

/-- `numerator / denominator · 2^(-exponent)` as a quotient of natural numbers. -/
def scaled (numerator denominator : Nat) (exponent : Int) : Nat × Nat :=
  (numerator * Nat.pow 2 (-exponent).toNat, denominator * Nat.pow 2 exponent.toNat)

/-- The exponent that gives `numerator / denominator` a mantissa of 53 bits, or the least one. -/
def exponentFor (numerator denominator : Nat) : Int :=
  let guess : Int := Int.ofNat numerator.log2 - Int.ofNat denominator.log2 - 52
  let (top, bottom) := scaled numerator denominator guess
  max minExponent (if top < bottom * Nat.pow 2 52 then guess - 1 else guess)

/-- The number nearest to `± numerator / denominator`. -/
def ofQuotient (negative : Bool) (numerator denominator : Nat) : Binary64 :=
  let exponent := exponentFor numerator denominator
  let (top, bottom) := scaled numerator denominator exponent
  let mantissa := roundDiv top bottom
  let (mantissa, exponent) :=
    if mantissa = Nat.pow 2 53 then (Nat.pow 2 52, exponent + 1) else (mantissa, exponent)
  if maxExponent < exponent then .infinite negative else .finite negative mantissa exponent

/-- The number nearest to `± digits · 10^power`, where `digits` is written with `count` decimal
digits.  Powers far beyond the format are decided by size alone. -/
def ofDecimal (negative : Bool) (digits count : Nat) (power : Int) : Binary64 :=
  if digits = 0 then .finite negative 0 minExponent
  else if 310 < power + count then .infinite negative
  else if power + count < -330 then .finite negative 0 minExponent
  else ofQuotient negative (digits * Nat.pow 10 power.toNat) (Nat.pow 10 (-power).toNat)

/-- Zero of either sign. -/
def isZero : Binary64 → Bool
  | .finite _ 0 _ => true
  | _ => false

/-- The whole number next to a finite one on the way to zero. -/
def truncated? : Binary64 → Option Int
  | .finite negative mantissa exponent =>
    let size := mantissa * Nat.pow 2 exponent.toNat / Nat.pow 2 (-exponent).toNat
    some (if negative then -Int.ofNat size else Int.ofNat size)
  | _ => none

/-- Whether the number is a whole one. -/
def isWhole : Binary64 → Bool
  | .finite _ mantissa exponent => mantissa % Nat.pow 2 (-exponent).toNat == 0
  | _ => false

/-- Whether the number is less than zero. -/
def isNegative : Binary64 → Bool
  | .nan => false
  | .infinite negative => negative
  | .finite negative mantissa _ => negative && mantissa != 0

/-- Whether a finite number has exactly the value of the whole number `n`. -/
def equalsInt : Binary64 → Int → Bool
  | .finite negative mantissa exponent, n =>
    let signed : Int := if negative then -Int.ofNat mantissa else Int.ofNat mantissa
    signed * Int.ofNat (Nat.pow 2 exponent.toNat) == n * Int.ofNat (Nat.pow 2 (-exponent).toNat)
  | _, _ => false

/-- Equality of values: the two zeros are equal and a number that is none equals nothing. -/
def equals : Binary64 → Binary64 → Bool
  | .nan, _ => false
  | _, .nan => false
  | x, y => (x.isZero && y.isZero) || x == y

end Binary64

end DocComment
