/-
TreeTemplate.Web.Resolution — addresses relative to others.

A page can name an address by what differs from its own. How the missing
parts are filled in depends on the scheme: only some have paths that can be
relative. The last name of a path may have parameters after a semicolon.

* `Link` — an address in pieces, and `Link.ofText`.
* `resolve` — what a link means at an address.
* `Url.checkAnswered` — whether an answer can come from an address.
* `Url.followed` — where an answer leads on to.
-/
import TreeTemplate.Web.Url

namespace TreeTemplate

/-! ## 1. Schemes -/

/-- The schemes with paths that can be relative. -/
def relativeSchemes : List Text :=
  ["", "ftp", "http", "gopher", "nntp", "imap", "wais", "file", "https", "shttp", "mms",
    "prospero", "rtsp", "rtspu", "sftp", "svn", "svn+ssh", "ws", "wss"]

/-- The schemes with a host. -/
def hostedSchemes : List Text :=
  ["", "ftp", "http", "gopher", "nntp", "telnet", "imap", "wais", "file", "mms", "https", "shttp",
    "snews", "prospero", "rtsp", "rtspu", "rsync", "svn", "svn+ssh", "sftp", "nfs", "git",
    "git+ssh", "ws", "wss"]

/-- The schemes with parameters after a path. -/
def parameterSchemes : List Text :=
  ["", "ftp", "hdl", "prospero", "http", "imap", "https", "shttp", "rtsp", "rtspu", "sip", "sips",
    "mms", "sftp", "tel"]

/-! ## 2. Links -/

/-- An address in pieces; those that are missing are empty. -/
structure Link where
  scheme : Text
  authority : Text
  path : Text
  parameters : Text
  query : Text
  fragment : Text
deriving DecidableEq

namespace Link

/-- The path, and the parameters after a semicolon in its last name. -/
def splitParameters (scheme path : Text) : Text × Text :=
  let last := (path.reverse.takeWhile (· ≠ .scalar '/')).reverse
  match Text.cut (.scalar ';') last with
  | (name, some parameters) =>
    if scheme ∈ parameterSchemes then (path.take (path.length - last.length) ++ name, parameters)
    else (path, [])
  | (_, none) => (path, [])

/-- Whether the text has one kind of square brackets only. -/
def isLopsided (t : Text) : Bool := t.holds (.scalar '[') != t.holds (.scalar ']')

/-- The pieces of a text, with a scheme for one that names none. -/
def ofText (standard t : Text) : Except UrlError Link :=
  let (scheme, rest) := match Url.splitScheme t with
    | ([], _) => (standard, t)
    | (scheme, rest) => (scheme.lower, rest)
  let (authority, rest) := Url.splitAuthority rest
  if isLopsided authority then .error .lopsided
  else
    let (rest, fragment) := Text.cut (.scalar '#') rest
    let (path, query) := Text.cut (.scalar '?') rest
    let (path, parameters) := splitParameters scheme path
    .ok ⟨scheme, authority, path, parameters, query.getD [], fragment.getD []⟩

/-- A piece after the mark that announces it, unless it is empty. -/
def marked (mark : CodePoint) (piece : Text) : Text := if piece.isEmpty then [] else mark :: piece

/-- The text of a link. -/
def toText (link : Link) : Text :=
  let path := link.path ++ marked (.scalar ';') link.parameters
  let isHosted := !link.authority.isEmpty
    || (!link.scheme.isEmpty && hostedSchemes.contains link.scheme
      && !path.startsWith "//")
  let place := if isHosted then
      ("//" : Text) ++ link.authority
        ++ (if path.isEmpty || path.startsWith "/" then path else .scalar '/' :: path)
    else path
  (if link.scheme.isEmpty then [] else link.scheme ++ [.scalar ':'])
    ++ place ++ marked (.scalar '?') link.query ++ marked (.scalar '#') link.fragment

/-! ## 3. Resolution -/

/-- The names of a path without those in the middle that are empty. -/
def withoutGaps (names : List Text) : List Text :=
  match names with
  | [] => []
  | first :: rest => first :: rest.dropLast.filter (· ≠ []) ++ rest.getLast?.toList

/-- The path of names in which `.` and `..` have been followed; one of them
at the end leaves a slash. -/
def followNames (names : List Text) : Text :=
  let step (walked : List Text) (name : Text) : List Text :=
    if name = (".." : Text) then walked.dropLast
    else if name = ("." : Text) then walked
    else walked ++ [name]
  let walked := names.foldl step []
  let endsInDots := match names.getLast? with
    | some name => name = ("." : Text) || name = (".." : Text)
    | none => false
  let path := Text.joined "/" (if endsInDots then walked ++ [[]] else walked)
  if path.isEmpty then "/" else path

/-- The path that a path means at another. -/
def resolvePath (base path : Text) : Text :=
  if path.startsWith "/" then followNames (path.splitOn (.scalar '/'))
  else
    let names := base.splitOn (.scalar '/')
    let directory := if names.getLast? = some [] then names else names.dropLast
    followNames (withoutGaps (directory ++ path.splitOn (.scalar '/')))

/-- What a link without a host of its own means at a base. -/
def under (base link : Link) : Link :=
  if link.path.isEmpty && link.parameters.isEmpty then
    { link with
      path := base.path
      parameters := base.parameters
      query := if link.query.isEmpty then base.query else link.query }
  else { link with path := resolvePath base.path link.path }

end Link

/-- What a text means at an address. -/
def resolve (base t : Text) : Except UrlError Text :=
  if base.isEmpty then .ok t
  else if t.isEmpty then .ok base
  else do
    let whole ← Link.ofText [] base
    let link ← Link.ofText whole.scheme t
    if link.scheme ≠ whole.scheme ∨ link.scheme ∉ relativeSchemes then return t
    else if link.authority.isEmpty then
      return { Link.under whole link with authority := whole.authority }.toText
    else return link.toText

/-! ## 4. Answers -/

/-- Whether something stands before the first colon of a text, and no slash. -/
def namesScheme (t : Text) : Bool :=
  let inName (c : CodePoint) : Bool := c ≠ .scalar ':' && c ≠ .scalar '/'
  !(t.takeWhile inName).isEmpty && (t.dropWhile inName).head? = some (.scalar ':')

/-- Checks that an answer can come from an address. -/
def Url.checkAnswered (url : Url) : Except UrlError Unit :=
  let (before?, after) := cutLast (.scalar '#') url.toText
  let place := before?.getD after
  let whole := if after.isEmpty then place else url.toText
  if namesScheme place then (Link.ofText [] whole).map fun _ => ()
  else .error (.schemeless whole)

/-- The fragment as people know it. -/
def Url.fragmentName (url : Url) : Text := Percent.decode (url.fragment.getD [])

/-- Where one at an address is led by an answer. What the new address does
not name stays as it is: the host, and also the fragment. -/
def Url.followed (url : Url) (location : Text) : Except UrlError Url := do
  let next ← (Url.ofText location).mapError fun error => match error with
    | .malformed => .misled
    | error => error
  let next ← if next.scheme.isEmpty || !(← next.hostName).isEmpty then .ok next
    else next.withHost (← url.hostName)
  let next ← if next.isAbsolute then .ok next
    else Url.ofText (← resolve url.toText next.toText)
  let next ← if url.fragmentName.isEmpty || !next.fragmentName.isEmpty then .ok next
    else next.withFragment url.fragmentName
  let _ ← next.hostName
  return next

end TreeTemplate
