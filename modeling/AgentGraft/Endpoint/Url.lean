import AgentGraft.Endpoint.Address
import AgentGraft.Text.Blank
import AgentGraft.Text.HiddenDelimiter
import AgentGraft.Text.LowerCase
import AgentGraft.Text.Quoted

/-!
# The authority of a URL

The parts of a URL that say where it leads: scheme, host and port. The text is first freed of
leading controls and of line ends and tabs anywhere. The authority stands between two slashes and
the first of slash, question mark and number sign; the host comes after the last at sign in it. An
authority with brackets must bracket an address, one outside ASCII must not hide a delimiter, and a
port must be a decimal number of sixteen bits. Nothing else of a URL is looked at.

Readers of URLs differ about brackets. `checkBrackets` follows the strict rule, which the runtime of
the service has from its release 3.11.12 on: what is in brackets has to be an address, nothing may
stand between the user and the opening bracket, and nothing but a port after the closing one. An
older reader only asks that both brackets are there.
-/

namespace AgentGraft.Endpoint

open Text

/-- Why a text is no URL. -/
inductive UrlFault where
  /-- Brackets that do not pair, or that something stands before or after. -/
  | brackets
  /-- A host that starts like an address of a version to come and is none. -/
  | futureAddress
  /-- A dotted address between brackets. -/
  | bracketedDots
  /-- A bracketed host that is no address. -/
  | notAddress (host : List Char)
  /-- An authority with a delimiter in its compatibility form. -/
  | hiddenDelimiter (authority : List Char)
  /-- A port that is no number. -/
  | portNotNumber (port : List Char)
  /-- A port with more digits than are read. -/
  | portTooLong (digits : Nat)
  /-- A port of more than sixteen bits. -/
  | portOutOfRange
  deriving DecidableEq, Repr

/-- The greatest count of digits of a port. -/
def maxPortDigits : Nat := 4300

/-- The wording of a fault. -/
def UrlFault.message : UrlFault → String
  | .brackets => "Invalid IPv6 URL"
  | .futureAddress => "IPvFuture address is invalid"
  | .bracketedDots => "An IPv4 address cannot be in brackets"
  | .notAddress host =>
    quoted (String.ofList host) ++ " does not appear to be an IPv4 or IPv6 address"
  | .hiddenDelimiter authority =>
    "netloc \x27" ++ String.ofList authority ++
      "\x27 contains invalid characters under NFKC normalization"
  | .portNotNumber port =>
    "Port could not be cast to integer value as " ++ quoted (String.ofList port)
  | .portTooLong digits =>
    "Exceeds the limit (" ++ toString maxPortDigits ++
      " digits) for integer string conversion: value has " ++ toString digits ++
      " digits; use sys.set_int_max_str_digits() to increase the limit"
  | .portOutOfRange => "Port out of range 0-65535"

/-! ### Scheme and authority -/

/-- The text without leading controls and spaces, and without line ends and tabs. -/
def clean (cs : List Char) : List Char :=
  (cs.dropWhile fun c => c.toNat ≤ 0x20).filter fun c => c ≠ '\t' ∧ c ≠ '\r' ∧ c ≠ '\n'

/-- The character is an ASCII letter. -/
def isLetter (c : Char) : Bool := ('a' ≤ c && c ≤ 'z') || ('A' ≤ c && c ≤ 'Z')

/-- The character may stand in a scheme. -/
def isSchemeChar (c : Char) : Bool :=
  isLetter c || isDigit c || c = '+' || c = '-' || c = '.'

/-- The text is a scheme: a letter, then letters, digits and three signs. -/
def isScheme : List Char → Bool
  | [] => false
  | c :: cs => isLetter c && cs.all isSchemeChar

/-- The scheme before the first colon, and what comes after it; no scheme when what stands there is
none. -/
def splitScheme (cs : List Char) : List Char × List Char :=
  if cs.contains ':' && isScheme (before ':' cs) then (before ':' cs, after ':' cs) else ([], cs)

/-- The character ends an authority. -/
def endsAuthority (c : Char) : Bool := c = '/' || c = '?' || c = '#'

/-- The authority at the start of what follows a scheme; empty without two slashes. -/
def authorityOf : List Char → List Char
  | '/' :: '/' :: cs => cs.takeWhile (!endsAuthority ·)
  | _ => []

/-! ### Host and port -/

/-- The host and the text of the port, which is empty when there is none. -/
def hostAndPort (authority : List Char) : List Char × List Char :=
  let info := afterLast '@' authority
  if info.contains '[' then
    let inside := after '[' info
    (before ']' inside, after ':' (after ']' inside))
  else (before ':' info, after ':' info)

/-- A host that has to be an address because of brackets. -/
def checkBracketedHost (host : List Char) : Except UrlFault Unit :=
  if host.head? = some 'v' then
    if isFutureAddress host then .ok () else .error .futureAddress
  else if isDottedAddress host then .error .bracketedDots
  else if isGroupedAddress host then .ok ()
  else .error (.notAddress host)

/-- Brackets in an authority: they pair, enclose the host, and only a port follows. The stricter
of the two rules that readers have. -/
def checkBrackets (authority : List Char) : Except UrlFault Unit :=
  if authority.contains '[' != authority.contains ']' then .error .brackets
  else if authority.contains '[' then
    let info := afterLast '@' authority
    if info.contains '[' then
      let rest := after ']' (after '[' info)
      if !(before '[' info).isEmpty then .error .brackets
      else if !rest.isEmpty && rest.head? != some ':' then .error .brackets
      else checkBracketedHost (before ']' (after '[' info))
    else checkBracketedHost (before ':' info)
  else .ok ()

/-- No character of an authority hides a delimiter. -/
def checkHidden (authority : List Char) : Except UrlFault Unit :=
  if authority.any hidesDelimiter then .error (.hiddenDelimiter authority) else .ok ()

/-- The number of a port; none when its text is empty. -/
def readPort (port : List Char) : Except UrlFault (Option Nat) :=
  if port.isEmpty then .ok none
  else if !port.all isDigit then .error (.portNotNumber port)
  else if maxPortDigits < port.length then .error (.portTooLong port.length)
  else if 65535 < ofDigits 10 port then .error .portOutOfRange
  else .ok (some (ofDigits 10 port))

/-- The host in lower case; a zone, from the first percent sign on, is left as it is. -/
def lowerHost (host : List Char) : List Char :=
  lowerChars (before '%' host) ++ host.dropWhile (· ≠ '%')

/-! ### URLs -/

/-- Where a URL leads. -/
structure Url where
  /-- Empty when there is none. -/
  scheme : List Char
  /-- Empty when there is none. -/
  authority : List Char
  /-- In lower case; empty when there is none. -/
  host : List Char
  port : Option Nat
  deriving DecidableEq, Repr

/-- The URL that a text writes, or the first fault: brackets, then hidden delimiters, then the
port. -/
def Url.read (cs : List Char) : Except UrlFault Url :=
  let (scheme, rest) := splitScheme (clean cs)
  let authority := authorityOf rest
  let (host, port) := hostAndPort authority
  match checkBrackets authority, checkHidden authority, readPort port with
  | .error f, _, _ => .error f
  | .ok _, .error f, _ => .error f
  | .ok _, .ok _, .error f => .error f
  | .ok _, .ok _, .ok port => .ok ⟨scheme, authority, lowerHost host, port⟩

end AgentGraft.Endpoint
