/-!
# Binary64 numbers

Numbers with a fraction as a document holds them: a mantissa below two to the 53 times a power of
two, or one of the values that are no number. Everything is exact arithmetic on naturals. A quotient
is rounded to the nearest number, a tie to the even mantissa.
-/

namespace AgentGraft

/-- A number of the binary64 format. A finite one is `mantissa * 2 ^ exponent`, where the mantissa
has 53 bits or the exponent is the least, -1074. -/
inductive Binary64 where
  | finite (negative : Bool) (mantissa : Nat) (exponent : Int)
  | infinite (negative : Bool)
  | nan
  deriving DecidableEq, Repr

namespace Binary64

/-- Zero, of either sign. -/
def zero (negative : Bool) : Binary64 := .finite negative 0 (-1074)

/-! ### Rounding -/

/-- The quotient rounded to the nearest natural, a tie to the even one. -/
def roundDiv (num den : Nat) : Nat :=
  let whole := num / den
  let rest := num % den
  if den < 2 * rest ∨ (2 * rest = den ∧ whole % 2 = 1) then whole + 1 else whole

/-- A fraction equal to `num / den / 2 ^ exponent`. -/
def scale (num den : Nat) (exponent : Int) : Nat × Nat :=
  if 0 ≤ exponent then (num, den * Nat.pow 2 exponent.toNat)
  else (num * Nat.pow 2 (-exponent).toNat, den)

/-- The exponent of the number nearest to a quotient, before a carry: the mantissa gets 53 bits
unless the exponent would be too small. -/
def exponentFor (num den : Nat) : Int :=
  let least := max ((Nat.log2 num : Int) - Nat.log2 den - 53) (-1074)
  let (n, d) := scale num den least
  if Nat.pow 2 53 ≤ n / d then least + 1 else least

/-- The number with a mantissa of at most 53 bits, or infinity when it is too large. -/
def pack (negative : Bool) (mantissa : Nat) (exponent : Int) : Binary64 :=
  if 971 < exponent then .infinite negative else .finite negative mantissa exponent

/-- The number nearest to a quotient. -/
def ofRatio (negative : Bool) (num den : Nat) : Binary64 :=
  if num = 0 then zero negative else
    let exponent := exponentFor num den
    let (n, d) := scale num den exponent
    let mantissa := roundDiv n d
    if mantissa = Nat.pow 2 53 then pack negative (Nat.pow 2 52) (exponent + 1)
    else pack negative mantissa exponent

/-- The number nearest to `digits * 10 ^ exponent`. A quotient far outside the range is not
computed. -/
def ofDecimal (negative : Bool) (digits : Nat) (exponent : Int) : Binary64 :=
  if digits = 0 then zero negative
  else if 400 < exponent then .infinite negative
  else if exponent < -400 - Nat.log2 digits then zero negative
  else if 0 ≤ exponent then ofRatio negative (digits * Nat.pow 10 exponent.toNat) 1
  else ofRatio negative digits (Nat.pow 10 (-exponent).toNat)

/-! ### The value -/

/-- The magnitude of a finite number as a fraction. -/
def magnitude (mantissa : Nat) (exponent : Int) : Nat × Nat :=
  if 0 ≤ exponent then (mantissa * Nat.pow 2 exponent.toNat, 1)
  else (mantissa, Nat.pow 2 (-exponent).toNat)

/-- The integer that a number is equal to; none for a fraction and for what is no number. -/
def toInt? : Binary64 → Option Int
  | .finite negative mantissa exponent =>
    let (n, d) := magnitude mantissa exponent
    if n % d = 0 then
      some (if negative then -((n / d : Nat) : Int) else ((n / d : Nat) : Int))
    else none
  | _ => none

/-- The number is finite. -/
def isFinite : Binary64 → Bool
  | .finite .. => true
  | _ => false

/-- A finite number as a signed fraction; zero for what is no number. -/
def toRatio : Binary64 → Int × Nat
  | .finite negative mantissa exponent =>
    let (n, d) := magnitude mantissa exponent
    (if negative then -(n : Int) else (n : Int), d)
  | _ => (0, 1)

/-- The number nearest to a signed quotient. -/
def ofSignedRatio (num : Int) (den : Nat) : Binary64 :=
  ofRatio (num < 0) num.natAbs den

/-- The sum of two finite numbers, rounded; the first that is not finite otherwise. -/
def add (x y : Binary64) : Binary64 :=
  if !x.isFinite then x
  else if !y.isFinite then y
  else
    let (n, d) := x.toRatio
    let (k, e) := y.toRatio
    ofSignedRatio (n * e + k * d) (d * e)

/-- A multiple of a finite number, rounded. -/
def times (x : Binary64) (factor : Nat) : Binary64 :=
  if !x.isFinite then x
  else
    let (n, d) := x.toRatio
    ofSignedRatio (n * factor) d

/-- The number with the opposite sign. -/
def negate : Binary64 → Binary64
  | .finite negative mantissa exponent => .finite (!negative) mantissa exponent
  | .infinite negative => .infinite (!negative)
  | .nan => .nan

end Binary64

end AgentGraft
