import InstallWatch.Address
import InstallWatch.Service.Settings

/-!
Where the installation service listens, and the URLs of its resources. A base path stands between exactly one
slash on either side, however many it is given with.
-/

namespace InstallWatch.Service

structure Location where
  host : String
  port : Int
  basePath : String
  scheme : String
deriving DecidableEq

namespace Location

/-- Host and port, with a host that holds colons in brackets. -/
def authority (l : Location) : String :=
  (if l.host.toList.contains ':' then "[" ++ l.host ++ "]" else l.host) ++ ":" ++ toString l.port

def url (l : Location) : String := l.scheme ++ "://" ++ l.authority ++ l.basePath

def isSlash (c : Char) : Bool := c = '/'

/-- The location that the settings give for an address. -/
def ofAddress (a : Address) (s : Settings) : Location :=
  ⟨a.text, s.port, "/" ++ Text.trimmed isSlash s.basePath, "http"⟩

/-- The location for an address as a text, if it is one. -/
def ofText? (address : String) (s : Settings) : Option Location :=
  (Address.parse? address).map fun a => ofAddress a s

/-- What to say of a text that is no address. -/
def refusal (address : String) : String := "malformed rendezvous address " ++ Text.quoted address

end Location

/-- A URL to which paths are added: one without slashes at its end. -/
def baseUrl (url : String) : String := String.ofList (Text.trimEnd Location.isSlash url.toList)

/-- The URL of a resource below a base URL. -/
def resourceUrl (base path : String) : String :=
  base ++ "/" ++ String.ofList (Text.trimStart Location.isSlash path.toList)

end InstallWatch.Service
