import AgentGraft.Number.Binary64
import AgentGraft.Text.Blank
import AgentGraft.Text.DecimalDigit
import AgentGraft.Text.LowerCase
import AgentGraft.Text.Quoted
import AgentGraft.Text.Split
import AgentGraft.Yaml.Cursor

/-!
# Numbers in a YAML text

What a scalar that is tagged as a number stands for. Underscores do not count. An integer may be
binary, octal after a zero, hexadecimal, or in base sixty with colons between its parts; a number
with a fraction may be in base sixty too. Whether a scalar without a tag is a number is decided
elsewhere, so the readers here meet any text.
-/

namespace AgentGraft.Yaml.Numeral

open Text

/-- The sign at the start of a number and the rest; none when there is nothing. -/
def sign? : List Char → Option (Bool × List Char)
  | [] => none
  | '-' :: cs => some (true, cs)
  | '+' :: cs => some (false, cs)
  | cs => some (false, cs)

/-- The text without white space around it, its digits as those of ASCII. -/
def tidy (cs : List Char) : List Char := (stripChars cs).map plainDigit

/-- The base in front of a number, as it may be written again after the sign. -/
def dropBase (base : Nat) (cs : List Char) : List Char :=
  match cs with
  | '0' :: c :: rest =>
    if (base = 2 ∧ lowerAscii c = 'b') ∨ (base = 8 ∧ lowerAscii c = 'o') ∨
        (base = 16 ∧ lowerAscii c = 'x') then rest
    else cs
  | _ => cs

/-- The character is a digit in a base. -/
def isDigitIn (base : Nat) (c : Char) : Bool := (hexValue? c).any (· < base)

/-! ### Integers -/

/-- The wording for a text that is no integer. -/
def integerMessage (base : Nat) (cs : List Char) : String :=
  "invalid literal for int() with base " ++ toString base ++ ": " ++
    String.ofList ((Quoted.encode cs).take 200)

/-- The greatest count of decimal digits. -/
def maxDigits : Nat := 4300

/-- The wording for an integer with too many digits. -/
def lengthMessage (count : Nat) : String :=
  "Exceeds the limit (4300 digits) for integer string conversion: value has " ++ toString count ++
    " digits; use sys.set_int_max_str_digits() to increase the limit"

/-- The integer that a text writes in a base; white space may stand around it. -/
def integerIn (base : Nat) (cs : List Char) : Except Fault Int :=
  let refusal : Except Fault Int := .error (.unreadable (integerMessage base cs))
  match sign? (tidy cs) with
  | none => refusal
  | some (negative, rest) =>
    let (digits, rest) := (dropBase base rest).span (isDigitIn base)
    if base = 10 ∧ maxDigits < digits.length then
      .error (.unreadable (lengthMessage digits.length))
    else if digits.isEmpty ∨ !rest.isEmpty then refusal
    else
      let n : Int := ofDigits base digits
      .ok (if negative then -n else n)

/-- The integer of parts in base sixty. -/
def sexagesimal (parts : List Int) : Int := parts.foldl (fun n part => n * 60 + part) 0

/-- The magnitude of an integer after its sign. -/
def integerMagnitude (cs : List Char) : Except Fault Int :=
  match cs with
  | [] => .error .noDigits
  | ['0'] => .ok 0
  | '0' :: 'b' :: digits => integerIn 2 digits
  | '0' :: 'x' :: digits => integerIn 16 digits
  | '0' :: _ => integerIn 8 cs
  | _ =>
    if cs.contains ':' then ((split ':' cs).mapM (integerIn 10)).map sexagesimal
    else integerIn 10 cs

/-- The integer that a scalar stands for. -/
def integer (cs : List Char) : Except Fault Int :=
  match sign? (cs.filter (· ≠ '_')) with
  | none => .error .noDigits
  | some (negative, rest) =>
    (integerMagnitude rest).map fun n => if negative then -n else n

/-! ### Numbers with a fraction -/

/-- The wording for a text that is no number. -/
def realMessage (cs : List Char) : String :=
  "could not convert string to float: " ++ String.ofList (Quoted.encode cs)

/-- The exponent at the end of a number. -/
def exponent? : List Char → Option Int
  | [] => some 0
  | e :: cs =>
    if lowerAscii e = 'e' then
      match sign? cs with
      | some (negative, digits) =>
        if digits.isEmpty ∨ !digits.all isDigit then none
        else
          let n : Int := ofDigits 10 digits
          some (if negative then -n else n)
      | none => none
    else none

/-- A number in decimal places, after its sign. -/
def decimal? (negative : Bool) (cs : List Char) : Option Binary64 :=
  let (whole, rest) := cs.span isDigit
  let (fraction, rest) := match rest with
    | '.' :: rest => rest.span isDigit
    | _ => ([], rest)
  if whole.isEmpty ∧ fraction.isEmpty then none
  else (exponent? rest).map fun e =>
    .ofDecimal negative (ofDigits 10 (whole ++ fraction)) (e - fraction.length)

/-- The number that a text writes; white space may stand around it. -/
def real (cs : List Char) : Except Fault Binary64 :=
  let refusal : Except Fault Binary64 := .error (.unreadable (realMessage cs))
  match sign? (tidy cs) with
  | none => refusal
  | some (negative, rest) =>
    let word := String.ofList (rest.map lowerAscii)
    if word = "inf" ∨ word = "infinity" then .ok (.infinite negative)
    else if word = "nan" then .ok .nan
    else match decimal? negative rest with
      | some x => .ok x
      | none => refusal

/-- The sum of parts in base sixty, the last of which counts once. -/
def sexagesimalReal (parts : List Binary64) : Binary64 :=
  (parts.reverse.foldl (fun acc part => (acc.1.add (part.times acc.2), acc.2 * 60))
    (Binary64.zero false, 1)).1

/-- The magnitude of a number after its sign. -/
def realMagnitude (cs : List Char) : Except Fault Binary64 :=
  if cs = ".inf".toList then .ok (.infinite false)
  else if cs = ".nan".toList then .ok .nan
  else if cs.contains ':' then ((split ':' cs).mapM real).map sexagesimalReal
  else real cs

/-- The number that a scalar stands for. -/
def number (cs : List Char) : Except Fault Binary64 :=
  match sign? (lowerChars (cs.filter (· ≠ '_'))) with
  | none => .error .noDigits
  | some (negative, rest) =>
    (realMagnitude rest).map fun x => if negative then x.negate else x

end AgentGraft.Yaml.Numeral
