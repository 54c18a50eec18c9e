import InstallWatch.Address
import InstallWatch.Text.Encodable
import InstallWatch.Text.Percent

/-!
URLs as they are sent: with the fields of a query added, steps through `.` and `..` taken, and every character
escaped that may not stand in its part of a URL. A URL whose host or port is none is not sent.
-/

namespace InstallWatch.Service.Url
open InstallWatch.Text

/-- Why a URL cannot be sent. -/
inductive Fault where
  /-- A blank or a control character among host and port. -/
  | hostCharacter (host : List Char) (c : Char)
  | badHost (host : List Char)
  | bigPort (url : String)
  | noHost (url : String)
  | badLabel
  /-- What stands in brackets is no address once its escapes are written out. -/
  | notAddress (host : List Char)
  /-- A field with half of a surrogate pair. -/
  | unencodable (value : String)
deriving DecidableEq

def Fault.message : Fault → String
  | hostCharacter host c => "Failed to parse: Host " ++ quoted (String.ofList host) ++
    " contains invalid character " ++ quoted (String.singleton c)
  | badHost host => "Failed to parse: " ++ quoted (String.ofList host) ++ " is not a valid host or port"
  | bigPort url => "Failed to parse: " ++ url
  | noHost url => "Invalid URL " ++ quoted url ++ ": No host supplied"
  | badLabel => "URL has an invalid label."
  | notAddress host => quoted (String.ofList host) ++ " does not appear to be an IPv4 or IPv6 address"
  | unencodable value => encodingRefusal value

/-- Marks that divide a part of a URL without dividing the URL. -/
def isInnerDivider (c : Char) : Bool := "!$&'()*+,;=".toList.contains c

/-- Marks that divide a URL, or a part of one. -/
def isDivider (c : Char) : Bool := isInnerDivider c || ":@/?#[]".toList.contains c

def inUser (c : Char) : Bool := Percent.isUnreserved c || isInnerDivider c || c = ':'

def inPath (c : Char) : Bool := inUser c || c = '@' || c = '/'

def inQuery (c : Char) : Bool := inPath c || c = '?'

/-- Who is asked, where, and at which port. -/
structure Authority where
  user : List Char
  host : List Char
  port : Option Nat

namespace Authority

/-- Characters of which each is of the class, or the start of an escape. -/
def areOrEscaped (p : Char → Bool) : List Char → Bool
  | [] => true
  | '%' :: a :: b :: s => (hexValue? a).isSome && (hexValue? b).isSome && areOrEscaped p s
  | c :: s => c ≠ '%' && p c && areOrEscaped p s

/-- Characters of a host that is a name. -/
def inName (c : Char) : Bool := !"[]:/?#".toList.contains c

/-- An address of the second family, perhaps with a zone. -/
def isBracketed (s : List Char) : Bool :=
  (Address.V6.groups? (s.takeWhile (· ≠ '%'))).isSome &&
    (match s.dropWhile (· ≠ '%') with
      | [] => true
      | _ :: zone => zone ≠ [] && areOrEscaped Percent.isUnreserved zone)

/-- A port's digits behind a colon, without the zeros in front of them; five at most. -/
def portDigits? : List Char → Option (List Char)
  | [] => some []
  | ':' :: ds =>
    let bare := ds.dropWhile (· = '0')
    if ds.all Decimal.isDigit && bare.length ≤ 5 then some (if bare.isEmpty then ds.take 1 else bare) else none
  | _ => none

/-- A zone as it is sent: an escaped percent sign at its start is the same as the bare one. -/
def sentZone (s : List Char) : List Char :=
  match s with
  | '%' :: '2' :: '5' :: c :: zone => '%' :: c :: zone
  | _ => s

/-- Host and the digits of the port, if they are a host and a port. -/
def hostPort? (s : List Char) : Option (List Char × List Char) :=
  match s with
  | '[' :: t =>
    let inner := t.takeWhile (· ≠ ']')
    match t.dropWhile (· ≠ ']') with
    | _ :: rest => do
      if !isBracketed inner then none
      let address := (inner.takeWhile (· ≠ '%')).map Char.toLower
      return ('[' :: address ++ sentZone (inner.dropWhile (· ≠ '%')) ++ [']'], ← portDigits? rest)
    | [] => none
  | _ =>
    let name := s.takeWhile (· ≠ ':')
    do
      if !areOrEscaped inName name then none
      return (name.map Char.toLower, ← portDigits? (s.dropWhile (· ≠ ':')))

/-- Blanks and control characters. -/
def isRefused (c : Char) : Bool := c ≤ ' ' || c = '\x7f'

def ofChars (url : String) (s : List Char) : Except Fault Authority := do
  let parts := splitAt '@' s
  let hostPort := parts.getLastD []
  if let some c := hostPort.find? isRefused then throw (.hostCharacter hostPort c)
  let some (host, digits) := hostPort? hostPort | throw (.badHost hostPort)
  let port := Decimal.digitsValue digits
  if 65535 < port then throw (.bigPort url)
  if host.isEmpty then throw (.noHost url)
  if host.any (fun c => 0x7F < c.toNat) || host.head? = some '*' || host.head? = some '.' then throw .badLabel
  return ⟨['@'].intercalate parts.dropLast, host, if digits.isEmpty then none else some port⟩

/-- The authority as it is sent. The port zero is none. -/
def text (a : Authority) : List Char :=
  (if a.user.isEmpty then [] else Percent.escapeRest inUser a.user ++ ['@']) ++ a.host ++
    (match a.port with
      | none | some 0 => []
      | some n => ':' :: (toString n).toList)

end Authority

/-- The parts of a path without single points, and without what two points take back. -/
def walk (parts : List (List Char)) : List (List Char) :=
  parts.foldl (fun done p =>
    if p = ['.'] then done else if p = ['.', '.'] then done.dropLast else done ++ [p]) []

/-- A path with its steps taken. One that ends in a step ends in a slash. -/
def path (s : List Char) : List Char :=
  let parts := splitAt '/' s
  let walked := walk parts
  let rooted := if s.head? = some '/' && walked.head? ≠ some [] then [] :: walked else walked
  let isStep (p : List Char) : Bool := p = ['.'] || p = ['.', '.']
  ['/'].intercalate (if 1 < parts.length && (parts.getLast?).any isStep then rooted ++ [[]] else rooted)

/-- Escapes what is left to escape in a whole URL. -/
def finish (s : List Char) : List Char :=
  let keep (c : Char) : Bool := Percent.isUnreserved c || isDivider c
  match Percent.unescapeUnreserved s with
  | some t => Percent.escape (fun c => keep c || c = '%') t
  | none => Percent.escape keep s

/-- Splits before the first character of a kind. -/
def cut (stop : Char → Bool) (s : List Char) : List Char × List Char :=
  (s.takeWhile (!stop ·), s.dropWhile (!stop ·))

def scheme : List Char := "http://".toList

def isRouteEnd (c : Char) : Bool := c = '?' || c = '#'

/-- The part of a URL up to its path, and the rest. -/
def cutAuthority (s : List Char) : List Char × List Char :=
  cut (fun c => c = '/' || c = '\\' || isRouteEnd c) (s.drop scheme.length)

/-- A path that starts with a slash. -/
def rooted (s : List Char) : List Char := if s.head? = some '/' then s else '/' :: s

/-- The fields of a query, if they can be written. -/
def fieldsText (fields : List (String × String)) : Except Fault (List Char) := do
  if let some field := fields.find? fun field => !isEncodable field.2 then throw (.unencodable field.2)
  return ("&".intercalate (fields.map fun (name, value) =>
    Percent.formValue name ++ "=" ++ Percent.formValue value)).toList

/-- What stands in the brackets of a host, if it has any. -/
def bracketed? (authority : List Char) : Option (List Char) :=
  match authority.dropWhile (· ≠ '[') with
  | _ :: s => some (s.takeWhile (· ≠ ']'))
  | [] => none

/-- Where a request goes. -/
structure Target where
  /-- The URL as it is sent. -/
  url : String
  /-- The last part of its path. -/
  resource : String

def Target.ofUrl (s : List Char) : Except Fault Target :=
  let (authority, rest) := cutAuthority s
  match (bracketed? authority).filter fun host => (Address.parse? (String.ofList host)).isNone with
  | some host => .error (.notAddress host)
  | none =>
    let (route, _) := cut isRouteEnd rest
    .ok ⟨String.ofList s, String.ofList ((splitAt '/' route).getLastD [])⟩

/-- The target of a request for a URL with the fields of a query. -/
def target (url : String) (fields : List (String × String)) : Except Fault Target := do
  let (authority, rest) := cutAuthority url.toList
  let authority ← Authority.ofChars url authority
  let (route, rest) := cut isRouteEnd rest
  let (query, fragment) := cut (· = '#') rest
  let own := Percent.escapeRest inQuery (query.drop 1)
  let added ← fieldsText fields
  let query := if own.isEmpty then added else if added.isEmpty then own else own ++ '&' :: added
  let fragment := Percent.escapeRest inQuery (fragment.drop 1)
  Target.ofUrl (finish (scheme ++ authority.text ++ rooted (Percent.escapeRest inPath (path route)) ++
    (if query.isEmpty then [] else '?' :: query) ++ (if fragment.isEmpty then [] else '#' :: fragment)))

/-- The URL that is sent for a URL and the fields of a query; one that cannot be sent stays as it is. -/
def sent (url : String) (fields : List (String × String)) : String :=
  match target url fields with
  | .ok t => t.url
  | .error _ => url

end InstallWatch.Service.Url
