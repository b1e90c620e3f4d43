import AgentGraft.Text.Numeral

/-!
# UTF-8

Characters as octets and back. An octet that can start a character fixes, by the table `following`,
the range of each octet after it; the first of these ranges is narrower where a wider one would
admit an overlong form, a surrogate or a code point past the last plane. Reading stops at the first
offence, which is one of three causes.
-/

namespace AgentGraft.Text.Utf8

/-! ### Writing -/

/-- The octets of a character. -/
def encodeChar (c : Char) : List UInt8 :=
  let n := c.toNat
  let tail (shift : Nat) : UInt8 := (0x80 + n / Nat.pow 64 shift % 64).toUInt8
  if n < 0x80 then [n.toUInt8]
  else if n < 0x800 then [(0xC0 + n / 64).toUInt8, tail 0]
  else if n < 0x10000 then [(0xE0 + n / Nat.pow 64 2).toUInt8, tail 1, tail 0]
  else [(0xF0 + n / Nat.pow 64 3).toUInt8, tail 2, tail 1, tail 0]

/-- The octets of a list of characters. -/
def encode (cs : List Char) : List UInt8 := cs.flatMap encodeChar

/-! ### Reading -/

/-- Why octets are not UTF-8. Positions count octets from zero. -/
inductive Fault where
  /-- The octet starts no character. -/
  | invalidStart (octet : UInt8) (position : Nat)
  /-- The octets end inside a character that `lead` starts; `length` octets of it are there. -/
  | unexpectedEnd (lead : UInt8) (position length : Nat)
  /-- After `length` octets of a character comes one that cannot follow. -/
  | invalidContinuation (lead : UInt8) (position length : Nat)
  deriving DecidableEq, Repr

/-- The place of a fault: the octet itself when it is one, else the positions of first and last. -/
def Fault.place (octet : UInt8) (position length : Nat) : String :=
  if length = 1 then
    "byte 0x" ++ String.ofList (hex 2 octet.toNat) ++ " in position " ++ toString position
  else
    "bytes in position " ++ toString position ++ "-" ++ toString (position + length - 1)

/-- The wording of a fault. -/
def Fault.message : Fault → String
  | .invalidStart octet position =>
    "\x27utf-8\x27 codec can\x27t decode " ++ place octet position 1 ++ ": invalid start byte"
  | .unexpectedEnd lead position length =>
    "\x27utf-8\x27 codec can\x27t decode " ++ place lead position length ++
      ": unexpected end of data"
  | .invalidContinuation lead position length =>
    "\x27utf-8\x27 codec can\x27t decode " ++ place lead position length ++
      ": invalid continuation byte"

/-- What a first octet announces: the bits of the code point that it holds itself, and the range of
each octet that has to follow. -/
def following (octet : UInt8) : Option (Nat × List (Nat × Nat)) :=
  let n := octet.toNat
  let any := (0x80, 0xBF)
  if n < 0x80 then some (n, [])
  else if n < 0xC2 then none
  else if n < 0xE0 then some (n - 0xC0, [any])
  else if n = 0xE0 then some (n - 0xE0, [(0xA0, 0xBF), any])
  else if n = 0xED then some (n - 0xE0, [(0x80, 0x9F), any])
  else if n < 0xF0 then some (n - 0xE0, [any, any])
  else if n = 0xF0 then some (n - 0xF0, [(0x90, 0xBF), any, any])
  else if n < 0xF4 then some (n - 0xF0, [any, any, any])
  else if n = 0xF4 then some (n - 0xF0, [(0x80, 0x8F), any, any])
  else none

/-- A character of which some octets have been read. -/
structure Partial where
  /-- The octet that started it. -/
  lead : UInt8
  /-- The octets read. -/
  length : Nat
  /-- The bits read. -/
  bits : Nat
  /-- The range of the next octet. -/
  next : Nat × Nat
  /-- The ranges of the octets after that. -/
  later : List (Nat × Nat)

/-- Reads octets, the next of which is at `position`, with a character begun or none. -/
def decodeFrom (position : Nat) : Option Partial → List UInt8 → Except Fault (List Char)
  | none, [] => .ok []
  | some p, [] => .error (.unexpectedEnd p.lead (position - p.length) p.length)
  | none, b :: bs =>
    match following b with
    | none => .error (.invalidStart b position)
    | some (bits, []) => (decodeFrom (position + 1) none bs).map (Char.ofNat bits :: ·)
    | some (bits, next :: later) =>
      decodeFrom (position + 1) (some ⟨b, 1, bits, next, later⟩) bs
  | some p, b :: bs =>
    if p.next.1 ≤ b.toNat ∧ b.toNat ≤ p.next.2 then
      let bits := p.bits * 64 + (b.toNat - 0x80)
      match p.later with
      | [] => (decodeFrom (position + 1) none bs).map (Char.ofNat bits :: ·)
      | next :: later =>
        decodeFrom (position + 1) (some ⟨p.lead, p.length + 1, bits, next, later⟩) bs
    else .error (.invalidContinuation p.lead (position - p.length) p.length)

/-- The characters that octets write, or the first offence. -/
def decode (bs : List UInt8) : Except Fault (List Char) := decodeFrom 0 none bs

end AgentGraft.Text.Utf8
