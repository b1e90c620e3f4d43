import AgentGraft.Text.Numeral
import AgentGraft.Text.Split

/-!
# Address literals

Which texts are addresses: four octets in decimal with dots between them, and groups of sixteen bits
in base sixteen with colons between them. The second kind has eight groups, or fewer with one gap
between two colons that stands for at least one group of zeros; its last two groups may be written
as the first kind, and a zone may follow a percent sign.
-/

namespace AgentGraft.Endpoint

open Text

/-- An octet in decimal, without a leading zero. -/
def isOctet (cs : List Char) : Bool :=
  !cs.isEmpty && cs.all isDigit && cs.length ≤ 3 && (cs == ['0'] || cs.head? != some '0') &&
    ofDigits 10 cs ≤ 255

/-- Four octets with dots between them. -/
def isDottedAddress (cs : List Char) : Bool :=
  let octets := split '.' cs
  octets.length == 4 && octets.all isOctet

/-- One to four digits in base sixteen. -/
def isGroup (cs : List Char) : Bool :=
  !cs.isEmpty && cs.length ≤ 4 && cs.all isHexDigit

/-- The parts of an address with its last two groups, when they are written as octets, put as two
groups of zero; none when those octets are no address. -/
def spellOut? (parts : List (List Char)) : Option (List (List Char)) :=
  match parts.getLast? with
  | some last =>
    if last.contains '.' then
      if isDottedAddress last then some (parts.dropLast ++ [['0'], ['0']]) else none
    else some parts
  | none => some parts

/-- The groups on one side of a gap: none when the gap is at the end of the address. -/
def besideGap (parts : List (List Char)) : List (List Char) :=
  if parts = [[]] then [] else parts

/-- The parts of an address are groups, with at most one gap. -/
def areGroups (parts : List (List Char)) : Bool :=
  match parts with
  | [] => false
  | first :: rest =>
    match rest.span (fun part => !part.isEmpty) with
    | (middle, [] :: next :: more) =>
      let left := besideGap (first :: middle)
      let right := besideGap (next :: more)
      left.all isGroup && right.all isGroup && left.length + right.length ≤ 7
    | _ => parts.length == 8 && parts.all isGroup

/-- A zone, if there is one, is not empty and holds no other percent sign. -/
def zoneIsSound (cs : List Char) : Bool :=
  !cs.contains '%' || (!(after '%' cs).isEmpty && !(after '%' cs).contains '%')

/-- Groups with colons between them. -/
def isGroupedAddress (cs : List Char) : Bool :=
  zoneIsSound cs &&
    match spellOut? (split ':' (before '%' cs)) with
    | none => false
    | some parts => areGroups parts

/-- An address of a version to come: its version in base sixteen, a dot and at least one
character. -/
def isFutureAddress (cs : List Char) : Bool :=
  match cs with
  | 'v' :: more =>
    let version := more.takeWhile isHexDigit
    let rest := more.drop version.length
    !version.isEmpty && rest.head? == some '.' && 2 ≤ rest.length
  | _ => false

end AgentGraft.Endpoint
