import AgentGraft.Text.Numeral

/-!
# Base64

The standard alphabet with padding. Reading is strict: nothing but the alphabet, padding only where
it completes a group of four, and nothing after it. The first offence from the left decides, and the
count of characters is looked at last. A lenient reading, which passes over foreign characters,
stands beside it.
-/

namespace AgentGraft.Text.Base64

/-! ### Writing -/

/-- The character that writes six bits. -/
def digit (n : Nat) : Char :=
  if n < 26 then Char.ofNat (65 + n)
  else if n < 52 then Char.ofNat (71 + n)
  else if n < 62 then Char.ofNat (n - 4)
  else if n = 62 then '+' else '/'

/-- The written form of octets, in groups of three, padded to groups of four. -/
def encode : List UInt8 → List Char
  | [] => []
  | [a] => [digit (a.toNat / 4), digit (a.toNat % 4 * 16), '=', '=']
  | [a, b] =>
    [digit (a.toNat / 4), digit (a.toNat % 4 * 16 + b.toNat / 16), digit (b.toNat % 16 * 4), '=']
  | a :: b :: c :: rest =>
    digit (a.toNat / 4) :: digit (a.toNat % 4 * 16 + b.toNat / 16) ::
      digit (b.toNat % 16 * 4 + c.toNat / 64) :: digit (c.toNat % 64) :: encode rest

/-! ### Reading -/

/-- The six bits that a character writes. -/
def value? (c : Char) : Option Nat :=
  if 'A' ≤ c ∧ c ≤ 'Z' then some (c.toNat - 65)
  else if 'a' ≤ c ∧ c ≤ 'z' then some (c.toNat - 71)
  else if isDigit c then some (c.toNat + 4)
  else if c = '+' then some 62
  else if c = '/' then some 63
  else none

/-- Why a text is not base64. -/
inductive Fault where
  /-- A character outside the alphabet. -/
  | foreign
  /-- The text starts with padding. -/
  | leadingPadding
  /-- A character of the alphabet comes after padding. -/
  | brokenPadding
  /-- Something follows the padding that completes the last group. -/
  | afterPadding
  /-- The last group lacks padding. -/
  | missingPadding
  /-- The last group has one character, of `count` in all. -/
  | loneCharacter (count : Nat)
  deriving DecidableEq, Repr

/-- The wording of a fault. -/
def Fault.message : Fault → String
  | .foreign => "Only base64 data is allowed"
  | .leadingPadding => "Leading padding not allowed"
  | .brokenPadding => "Discontinuous padding not allowed"
  | .afterPadding => "Excess data after padding"
  | .missingPadding => "Incorrect padding"
  | .loneCharacter count =>
    "Invalid base64-encoded string: number of data characters (" ++ toString count ++
      ") cannot be 1 more than a multiple of 4"

/-- What has been read of a text. -/
structure Progress where
  /-- Characters of the alphabet read so far. -/
  count : Nat
  /-- The bits of the last character that no octet holds yet. -/
  bits : Nat
  /-- Padding read since the last character that counts towards completing a group. -/
  pads : Nat
  /-- Padding has been read. -/
  padded : Bool

/-- Nothing read. -/
def Progress.start : Progress := ⟨0, 0, 0, false⟩

/-- The octet that a character completes, if it does: all but the first of each four. -/
def Progress.octet? (p : Progress) (v : Nat) : Option UInt8 :=
  match p.count % 4 with
  | 0 => none
  | 1 => some (p.bits * 4 + v / 16).toUInt8
  | 2 => some (p.bits * 16 + v / 4).toUInt8
  | _ => some (p.bits * 64 + v).toUInt8

/-- What is read after one more character of the alphabet. -/
def Progress.push (p : Progress) (v : Nat) : Progress where
  count := p.count + 1
  bits := match p.count % 4 with
    | 0 => v
    | 1 => v % 16
    | 2 => v % 4
    | _ => 0
  pads := 0
  padded := p.padded

/-- What is read after one more padding character: it counts once a group has two characters. -/
def Progress.pad (p : Progress) : Progress :=
  { p with padded := true, pads := if p.count % 4 < 2 then p.pads else p.pads + 1 }

/-- The padding read completes the group. -/
def Progress.complete (p : Progress) : Bool :=
  2 ≤ p.count % 4 && 4 ≤ p.count % 4 + p.pads

/-- Whether the text may end here. -/
def Progress.finish (p : Progress) : Except Fault (List UInt8) :=
  if p.count % 4 = 0 then .ok []
  else if p.count % 4 = 1 then .error (.loneCharacter p.count)
  else .error .missingPadding

/-- Reads on after `p`. A `strict` reading refuses what a lenient one passes over. -/
def read (strict : Bool) (p : Progress) : List Char → Except Fault (List UInt8)
  | [] => p.finish
  | c :: cs =>
    if c = '=' then
      if p.pad.complete then
        if strict && !cs.isEmpty then .error .afterPadding else .ok []
      else read strict p.pad cs
    else match value? c with
      | none => if strict then .error .foreign else read strict p cs
      | some v =>
        if strict && p.padded then .error .brokenPadding
        else (read strict (p.push v) cs).map ((p.octet? v).toList ++ ·)

/-- The octets that a text writes, or the first offence. -/
def decode (cs : List Char) : Except Fault (List UInt8) :=
  if cs.head? = some '=' then .error .leadingPadding else read true .start cs

/-- The octets that a text writes when foreign characters are passed over. -/
def decodeLenient (cs : List Char) : Except Fault (List UInt8) := read false .start cs

end AgentGraft.Text.Base64
