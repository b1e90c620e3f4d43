import AgentGraft.Endpoint.Url
import AgentGraft.Log

/-!
# First-party endpoints

An endpoint is first-party when its URL has a scheme and an authority, the host is one of the
allowed hosts, and the port, if there is one, is the expected one. Text anywhere else in the URL
never counts, and what is no URL is not first-party.
-/

namespace AgentGraft.Endpoint

open Text

/-- The allowed hosts in lower case hold this one, dots at its end aside. -/
def allows (hosts : List String) (host : List Char) : Bool :=
  hosts.any fun h => lowerChars h.toList == dropTrailing (· = '.') host

/-- The URL leads to an allowed host, at the expected port if it names one. -/
def Url.leadsTo (u : Url) (hosts : List String) (port : Int) : Bool :=
  !u.scheme.isEmpty && !u.authority.isEmpty && !u.host.isEmpty && allows hosts u.host &&
    u.port.all fun p => (p : Int) == port

/-- The value of an endpoint variable leads to an allowed host. -/
def isFirstParty (hosts : List String) (port : Int) (value : String) : Bool :=
  match Url.read (stripChars value.toList) with
  | .error _ => false
  | .ok u => u.leadsTo hosts port

/-- The lines reported when a value is classified: one when it is no URL. -/
def lines (value : String) : List Line :=
  if value = "" then [] else
    match Url.read (stripChars value.toList) with
    | .ok _ => []
    | .error f =>
      [⟨.debug, .endpoint, "Unparseable endpoint " ++ quoted value ++ ": " ++ f.message⟩]

end AgentGraft.Endpoint
