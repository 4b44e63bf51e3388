/-
TreeTemplate.Web.Url — addresses on the web.

An address has a scheme, user information, a host with a port, a path, a
query and a fragment; each of them may be missing. A `Url` holds them as
they are spelled in the network: scheme and host in small letters, the
names `.` and `..` in the path followed, all of it in visible ASCII.

* `Url.ofText` — the address that a text spells, or what is wrong with it.
* `Url.toText` — the text of an address.
* `Url.below` — the address of a name below a base address.
-/
import TreeTemplate.Number.Reading
import TreeTemplate.Text.Unspelled
import TreeTemplate.Web.DomainName
import TreeTemplate.Web.IpAddress
import TreeTemplate.Web.Percent

namespace TreeTemplate

/-- Why there is nothing at an address. -/
inductive UrlError where
  /-- The text spells no address. -/
  | malformed
  /-- It holds what has no bytes. -/
  | unspelled (unspelled : Unspelled)
  /-- The host is spelled in other letters, and spells no name. -/
  | hostless (fault : LabelFault)
  /-- A square bracket in the host has no counterpart. -/
  | lopsided
  /-- There is an answer, but the address has no scheme. -/
  | schemeless (address : Text)
  /-- The answer leads on to what is no address. -/
  | misled
deriving DecidableEq

/-- The words for why there is nothing at an address. -/
def UrlError.message : UrlError → Text
  | .malformed => "Invalid URL"
  | .unspelled row => row.message
  | .hostless _ => "Invalid host"
  | .lopsided => "Invalid IPv6 URL"
  | .schemeless address => ("unknown url type: " : Text) ++ address.quoted
  | .misled => "Invalid URL in location header"

/-- An address. -/
structure Url where
  scheme : Text
  user : Text
  host : Text
  port : Option Int
  path : Text
  query : Option Text
  fragment : Option Text
deriving DecidableEq

namespace Url

/-! ## 1. Parts of a text -/

/-- The parts of an address as they stand in a text. -/
structure Parts where
  scheme : Text
  user : Text
  host : Text
  port : Text
  path : Text
  query : Option Text
  fragment : Option Text

/-- Whether a code point can stand in a scheme, after the first. -/
def inScheme (c : CodePoint) : Bool :=
  c.isAsciiLetter || c.isAsciiDigit || c = .scalar '+' || c = .scalar '-' || c = .scalar '.'

/-- Whether the text can be a scheme. -/
def isScheme (t : Text) : Bool := (t.head?.map CodePoint.isAsciiLetter).getD false && t.all inScheme

/-- The scheme, and what follows its colon. A colon at the beginning ends
an empty scheme. -/
def splitScheme (t : Text) : Text × Text :=
  match Text.cut (.scalar ':') t with
  | (scheme, some rest) => if scheme.isEmpty || isScheme scheme then (scheme, rest) else ([], t)
  | _ => ([], t)

/-- Whether a code point can stand between the two slashes and the path. -/
def inAuthority (c : CodePoint) : Bool :=
  !(c = .scalar '/' || c = .scalar '?' || c = .scalar '#')

/-- What stands between two slashes and the path, and what follows it. -/
def splitAuthority (t : Text) : Text × Text :=
  match t with
  | .scalar '/' :: .scalar '/' :: rest => (rest.takeWhile inAuthority, rest.dropWhile inAuthority)
  | _ => ([], t)

/-- The part before the last separator, and the part after it. -/
def cutLast (sep : CodePoint) (t : Text) : Option Text × Text :=
  let after := (t.reverse.takeWhile (· ≠ sep)).reverse
  if after.length = t.length then (none, t) else (some (t.take (t.length - after.length - 1)), after)

/-- A host between square brackets, or up to a colon, and what follows it. -/
def splitHost (t : Text) : Text × Text :=
  let plain := (t.takeWhile (· ≠ .scalar ':'), t.dropWhile (· ≠ .scalar ':'))
  match t with
  | .scalar '[' :: _ =>
    match cutLast (.scalar ']') t with
    | (some inside, rest) => (inside ++ [.scalar ']'], rest)
    | (none, _) => plain
  | _ => plain

/-- The text without a colon at its beginning. -/
def withoutColon : Text → Text
  | .scalar ':' :: rest => rest
  | t => t

/-- The parts of an address that has these parts. -/
def Parts.ofPieces (scheme authority path : Text) (query fragment : Option Text) : Parts :=
  let (user, place) := cutLast (.scalar '@') authority
  let (host, port) := splitHost place
  ⟨scheme, user.getD [], host, withoutColon port, path, query, fragment⟩

/-- The parts of a text. -/
def Parts.ofText (t : Text) : Parts :=
  let (scheme, rest) := splitScheme t
  let (authority, rest) := splitAuthority rest
  let (rest, fragment) := Text.cut (.scalar '#') rest
  let (path, query) := Text.cut (.scalar '?') rest
  .ofPieces scheme authority path query fragment

/-! ## 2. Spelling -/

/-- The code points that are spelled as bytes in a fragment. -/
def spelledInFragment : Text := "\"<>`"

/-- The code points that are spelled as bytes in a query. -/
def spelledInQuery : Text := "\"#<>"

/-- The code points that are spelled as bytes in a path. -/
def spelledInPath : Text := "\"#<>?`\x7b\x7d"

/-- The code points that are spelled as bytes in user information. -/
def spelledInUser : Text := "\"#<>?`\x7b\x7d/;=@[\\]^|"

/-- The code points that are spelled as bytes in a host. -/
def spelledInHost : Text := "#/:<>?@[]^"

/-- A part in visible ASCII. -/
def spell (spelled t : Text) : Except UrlError Text :=
  match t.findSome? fun c => Encoding.utf8.unspelled? [c] with
  | some unspelled => .error (.unspelled unspelled)
  | none => .ok (Percent.encode spelled t)

/-- A part that may be missing in visible ASCII. -/
def spellGiven (spelled : Text) : Option Text → Except UrlError (Option Text)
  | none => .ok none
  | some t => (spell spelled t).map some

/-- The host of a text: by number, or by name. -/
def hostOf (t : Text) : Except UrlError Text :=
  if t.isEmpty then .ok []
  else if IpAddress.looksLikeFour t then if IpAddress.isFour t then .ok t else .error .malformed
  else if t.head? = some (.scalar '[') ∧ t.getLast? = some (.scalar ']') then
    let inside := (t.drop 1).dropLast
    if IpAddress.isSix inside then .ok inside else .error .malformed
  else if DomainName.isAscii t then spell spelledInHost t.lower
  else (DomainName.encode t.lower).mapError fun _ => .malformed

/-- The ports that schemes have without their being named. -/
def knownPorts : Table Int := [("http", 80), ("https", 443), ("ws", 80), ("wss", 443), ("ftp", 21)]

/-- The port of a text; none if it goes without saying. -/
def portOf (scheme t : Text) : Except UrlError (Option Int) :=
  if t.isEmpty then .ok none
  else match readInteger? t with
    | none => .error .malformed
    | some n => .ok (if knownPorts.get? scheme = some n then none else some n)

/-- A path in which the names `.` and `..` have been followed. -/
def withoutDots (path : Text) : Text :=
  let step (walked : List Text) (name : Text) : List Text :=
    if name = ("." : Text) then walked
    else if name = (".." : Text) then (if walked = [[]] then walked else walked.dropLast)
    else walked ++ [name]
  Text.joined "/" ((path.splitOn (.scalar '/')).foldl step [])

/-- Whether a path can follow what stands before it. -/
def canFollow (hasScheme hasAuthority : Bool) (path : Text) : Bool :=
  if hasAuthority then path.isEmpty || path.startsWith "/"
  else hasScheme || !(path.startsWith "//" || path.startsWith ":")

/-- The address with the given parts. -/
def ofParts (parts : Parts) : Except UrlError Url := do
  let user ← spell spelledInUser parts.user
  let host ← hostOf parts.host
  let port ← portOf parts.scheme parts.port
  let hasScheme := !parts.scheme.isEmpty
  let hasAuthority := !user.isEmpty || !host.isEmpty || port.isSome
  if !canFollow hasScheme hasAuthority parts.path then throw .malformed
  let path := if hasScheme || hasAuthority then withoutDots parts.path else parts.path
  return ⟨parts.scheme.lower, user, host, port, ← spell spelledInPath path,
    ← spellGiven spelledInQuery parts.query, ← spellGiven spelledInFragment parts.fragment⟩

/-- The greatest length of an address and of its parts. -/
def maxLength : Nat := 65536

/-- Whether a text can be part of an address: it is not too long and has no
control characters of ASCII. -/
def isReadable (t : Text) : Bool :=
  t.length ≤ maxLength && t.all fun c => 0x20 ≤ c.value && c.value ≠ 0x7F

/-- The address that a text spells. -/
def ofText (t : Text) : Except UrlError Url :=
  if isReadable t then ofParts (.ofText t) else .error .malformed

/-! ## 3. The text of an address -/

/-- User information, host and port. -/
def authority (url : Url) : Text :=
  (if url.user.isEmpty then [] else url.user ++ [.scalar '@'])
    ++ (if url.host.holds (.scalar ':') then .scalar '[' :: url.host ++ [.scalar ']'] else url.host)
    ++ (match url.port with
      | some port => .scalar ':' :: Text.ofInt port
      | none => [])

/-- A part after the mark that announces it; nothing if it is missing. -/
def marked (mark : CodePoint) : Option Text → Text
  | some part => mark :: part
  | none => []

/-- The text of an address. -/
def toText (url : Url) : Text :=
  (if url.scheme.isEmpty then [] else url.scheme ++ [.scalar ':'])
    ++ (if url.authority.isEmpty then [] else ("//" : Text) ++ url.authority)
    ++ url.path ++ marked (.scalar '?') url.query ++ marked (.scalar '#') url.fragment

/-- The path, which is a slash if it is empty. -/
def fullPath (url : Url) : Text := if url.path.isEmpty then "/" else url.path

/-- The path and the query. -/
def target (url : Url) : Text := url.fullPath ++ marked (.scalar '?') url.query

/-- Whether the address names a scheme and a host. -/
def isAbsolute (url : Url) : Bool := !url.scheme.isEmpty && !url.host.isEmpty

/-- The parts of an address. -/
def parts (url : Url) : Parts :=
  .ofPieces url.scheme url.authority url.path url.query url.fragment

/-- The host as people know it. -/
def hostName (url : Url) : Except UrlError Text :=
  if url.host.startsWith DomainName.mark then (DomainName.decode url.host).mapError .hostless
  else .ok url.host

/-- The path as people know it. -/
def pathName (url : Url) : Text := Percent.decode url.fullPath

/-! ## 4. One address from another -/

/-- The address with the given parts, if these texts, from which they are
taken, can be parts of an address. -/
def ofReadable (pieces : List Text) (parts : Parts) : Except UrlError Url :=
  if pieces.all isReadable then ofParts parts else .error .malformed

/-- The address with a path and a query in place of its own. -/
def withTarget (url : Url) (target : Text) : Except UrlError Url :=
  let (path, query) := Text.cut (.scalar '?') target
  ofReadable [url.authority, path, query.getD [], url.fragment.getD []]
    { url.parts with path := path, query := query }

/-- The address with a host in place of its own. -/
def withHost (url : Url) (host : Text) : Except UrlError Url :=
  let host := if host.holds (.scalar ':') then .scalar '[' :: host ++ [.scalar ']'] else host
  ofReadable [host, url.authority, url.path, url.query.getD [], url.fragment.getD []]
    { url.parts with host := host }

/-- The address with a fragment in place of its own. -/
def withFragment (url : Url) (fragment : Text) : Except UrlError Url :=
  ofReadable [url.authority, url.path, url.query.getD [], fragment]
    { url.parts with fragment := some fragment }

/-- The base address with a slash at its end. -/
def asBase (url : Url) : Except UrlError Url :=
  if url.target.getLast? = some (.scalar '/') then .ok url
  else url.withTarget (url.target ++ [.scalar '/'])

/-- The address of a name below a base; a name that is an address itself
stands for itself. -/
def below (base : Url) (name : Text) : Except UrlError Url := do
  let url ← ofText name
  if url.isAbsolute then return url
  else base.withTarget (base.target ++ url.target.dropWhile (· = .scalar '/'))

end Url

end TreeTemplate
