import AgentGraft.Number.Binary64
import AgentGraft.Text.Numeral

/-!
# Shortest decimals

The shortest decimal that reads back as a given binary64 number, and among those of that length the
nearest to it. A number stands for the interval of reals that round to it; the ends belong to it
when the mantissa is even. On the grid of `n` significant digits only the two neighbours of the
number need a test: if any point of the grid lies in the interval, one of the two does.
-/

namespace AgentGraft.Binary64

/-- A decimal: `digits * 10 ^ exponent`. -/
structure Decimal where
  digits : Nat
  exponent : Int
  deriving DecidableEq, Repr

/-- The interval of reals that round to a number, all over one denominator. -/
structure Interval where
  low : Nat
  value : Nat
  high : Nat
  den : Nat
  /-- The ends belong to the interval. -/
  closed : Bool

/-- The interval of `mantissa * 2 ^ exponent`: half a step on either side, and a quarter below a
power of two, where the steps change. -/
def interval (mantissa : Nat) (exponent : Int) : Interval :=
  let below := if mantissa = Nat.pow 2 52 ∧ -1074 < exponent then 1 else 2
  let (unit, den) := magnitude 1 (exponent - 2)
  { low := (4 * mantissa - below) * unit
    value := 4 * mantissa * unit
    high := (4 * mantissa + 2) * unit
    den := den
    closed := mantissa % 2 == 0 }

/-- `num / den` lies in the interval. -/
def Interval.has (i : Interval) (num den : Nat) : Bool :=
  let low := i.low * den
  let high := i.high * den
  let here := num * i.den
  if i.closed then low ≤ here && here ≤ high else low < here && here < high

/-- The least `k` from `start` on, or from far below it, with `num / den < 10 ^ k`; `steps` bounds
the search in either direction. -/
def ceilingPower (num den : Nat) : (steps : Nat) → Int → Int
  | 0, k => k
  | steps + 1, k =>
    let below (k : Int) : Bool :=
      if 0 ≤ k then num < den * Nat.pow 10 k.toNat else num * Nat.pow 10 (-k).toNat < den
    if below k then (if below (k - 1) then ceilingPower num den steps (k - 1) else k)
    else ceilingPower num den steps (k + 1)

/-- A decimal without zeros at the end of its digits. -/
def Decimal.trim : (steps : Nat) → Decimal → Decimal
  | 0, d => d
  | steps + 1, d =>
    if d.digits ≠ 0 ∧ d.digits % 10 = 0 then trim steps ⟨d.digits / 10, d.exponent + 1⟩ else d

/-- The grid point that stands for the interval, if one of the neighbours of its value on the grid
of multiples of `10 ^ exponent` lies in it: the nearer one, on a tie the even one. -/
def Interval.onGrid? (i : Interval) (exponent : Int) : Option Nat :=
  let (up, down) :=
    if 0 ≤ exponent then (Nat.pow 10 exponent.toNat, 1) else (1, Nat.pow 10 (-exponent).toNat)
  let num := i.value * down
  let den := i.den * up
  let floor := num / den
  let rest := num % den
  let lowIn := i.has (floor * up) down
  let highIn := i.has ((floor + 1) * up) down
  if lowIn && highIn then
    some (if 2 * rest < den ∨ (2 * rest = den ∧ floor % 2 = 0) then floor else floor + 1)
  else if lowIn then some floor
  else if highIn then some (floor + 1)
  else none

/-- The first grid with a point in the interval, from `digits` significant digits on. -/
def Interval.search (i : Interval) (top : Int) : (steps : Nat) → (digits : Nat) → Decimal
  | 0, _ => ⟨0, 0⟩
  | steps + 1, digits =>
    match i.onGrid? (top - digits) with
    | some point => Decimal.trim 20 ⟨point, top - digits⟩
    | none => i.search top steps (digits + 1)

/-- The shortest decimal that reads back as a positive number. Seventeen digits always do. -/
def shortest (mantissa : Nat) (exponent : Int) : Decimal :=
  let i := interval mantissa exponent
  let guess := ((Nat.log2 i.value : Int) - Nat.log2 i.den) * 3 / 10
  let top := ceilingPower i.value i.den 1000 guess
  i.search top 17 1

/-! ### Text -/

/-- How decimals are spelled. -/
structure DecimalStyle where
  /-- Positional notation begins here: the least power of ten of the first digit. -/
  leastPositional : Int
  /-- Positional notation ends here: the greatest power of ten of the first digit. -/
  greatestPositional : Int
  /-- The least count of digits in an exponent. -/
  exponentDigits : Nat
  nan : String
  infinity : String

/-- Digits with the point after `whole` of them. -/
def positional (digits : List Char) (whole : Int) : List Char :=
  if whole ≤ 0 then '0' :: '.' :: List.replicate (-whole).toNat '0' ++ digits
  else if digits.length ≤ whole.toNat then
    digits ++ List.replicate (whole.toNat - digits.length) '0' ++ ['.', '0']
  else digits.take whole.toNat ++ '.' :: digits.drop whole.toNat

/-- Digits with the point after the first of them, and an exponent. -/
def scientific (style : DecimalStyle) (digits : List Char) (exponent : Int) : List Char :=
  let power := Text.decimal exponent.natAbs
  let fraction := match digits.drop 1 with
    | [] => []
    | ds => '.' :: ds
  digits.take 1 ++ fraction ++ 'e' :: (if exponent < 0 then '-' else '+') ::
    List.replicate (style.exponentDigits - power.length) '0' ++ power

/-- The text of a number: its shortest decimal, always with a point or an exponent. -/
def render (style : DecimalStyle) : Binary64 → String
  | .nan => style.nan
  | .infinite negative => (if negative then "-" else "") ++ style.infinity
  | .finite negative 0 _ => if negative then "-0.0" else "0.0"
  | .finite negative mantissa exponent =>
    let d := shortest mantissa exponent
    let digits := Text.decimal d.digits
    let first := d.exponent + digits.length - 1
    let body :=
      if style.leastPositional ≤ first ∧ first ≤ style.greatestPositional then
        positional digits (first + 1)
      else scientific style digits first
    (if negative then "-" else "") ++ String.ofList body

end AgentGraft.Binary64
