import OlapClient.Location.Host
import OlapClient.Location.Path
import OlapClient.Number.Decimal

namespace OlapClient.Location

/-!
# Locations

* `Url` — a location in its parts, normalised.
* `Url.parse` — reading a location.
* `Url.text` — its canonical text.
-/

/-- The kind of a scheme. -/
def schemeKind (scheme : String) : SchemeKind :=
  if scheme = "file" then .file
  else if scheme ∈ ["http", "https", "ws", "wss", "ftp"] then .special
  else .other

/-- The port that a scheme implies. -/
def defaultPort? (scheme : String) : Option Nat :=
  if scheme = "http" ∨ scheme = "ws" then some 80
  else if scheme = "https" ∨ scheme = "wss" then some 443
  else if scheme = "ftp" then some 21
  else none

/-- Who serves a location: user and password, encoded and possibly empty, host and port. -/
structure Authority where
  user : List Char
  password : List Char
  host : Host
  port : Option Nat
deriving DecidableEq, Repr

/-- A location in its parts. -/
structure Url where
  scheme : String
  authority : Option Authority
  path : Path
  query : Option (List Char)
  fragment : Option (List Char)
deriving DecidableEq, Repr

/-! ### Text -/

/-- The text of user and password, with the mark that ends it. -/
def Authority.userText (a : Authority) : List Char :=
  if a.user = [] ∧ a.password = [] then []
  else a.user ++ (if a.password = [] then [] else ':' :: a.password) ++ ['@']

/-- The text of a port. -/
def portText : Option Nat → List Char
  | none => []
  | some n => ':' :: (toString n).toList

/-- The text of host and port. -/
def Authority.hostText (a : Authority) : List Char :=
  a.host.text ++ portText a.port

/-- The text of an optional part with its mark. -/
def marked (mark : Char) : Option (List Char) → List Char
  | none => []
  | some text => mark :: text

/-- Authority and path. A path that begins with two slashes and has no authority is kept apart from
one. -/
def Url.hierarchy (u : Url) : List Char :=
  match u.authority with
  | some a => '/' :: '/' :: a.userText ++ a.hostText ++ u.path.text
  | none =>
    match u.path with
    | .segments ([] :: more) =>
      if more = [] then u.path.text else '/' :: '.' :: u.path.text
    | _ => u.path.text

/-- The text up to the query. -/
def Url.beforeFragment (u : Url) : List Char :=
  u.scheme.toList ++ ':' :: u.hierarchy ++ marked '?' u.query

/-- The canonical text of a location. -/
def Url.text (u : Url) : String :=
  String.ofList (u.beforeFragment ++ marked '#' u.fragment)

/-! ### Parts of the input -/

/-- A character of a scheme. -/
def isSchemeChar (c : Char) : Bool :=
  isAsciiLetter c || isDigit c || c == '+' || c == '-' || c == '.'

/-- The scheme of a location, in lower case, and what follows its colon. -/
def scheme? (cs : List Char) : Option (String × List Char) :=
  match cs.head?, cs.dropWhile isSchemeChar with
  | some first, ':' :: rest =>
    if isAsciiLetter first then
      some (String.ofList ((cs.takeWhile isSchemeChar).map lowerAscii), rest)
    else none
  | _, _ => none

/-- A character that ends the authority. -/
def endsAuthority (kind : SchemeKind) (c : Char) : Bool :=
  isSlash kind c || c == '?' || c == '#'

/-- A character that ends the path. -/
def endsPath (c : Char) : Bool :=
  c == '?' || c == '#'

/-- What stands before the last `@` of a text, and what follows it. -/
def breakLastAt (cs : List Char) : Option (List Char × List Char) :=
  if cs.contains '@' then
    let after := (cs.reverse.takeWhile (· != '@')).reverse
    some (cs.take (cs.length - after.length - 1), after)
  else none

/-- The part of an authority before its port: up to the first colon outside brackets. -/
def hostPart (inside : Bool) : List Char → List Char × List Char
  | [] => ([], [])
  | c :: rest =>
    if c = ':' ∧ !inside then ([], c :: rest)
    else
      let r := hostPart (if c = '[' then true else if c = ']' then false else inside) rest
      (c :: r.1, r.2)

/-- The port after a colon. The port that the scheme implies is left out. -/
def parsePort (scheme : String) (digits : List Char) : Except UrlError (Option Nat) :=
  if digits = [] then .ok none
  else
    match Decimal.natural? digits with
    | none => .error .badPort
    | some n =>
      if 65535 < n then .error .badPort
      else .ok (if defaultPort? scheme = some n then none else some n)

/-- Host and port of an authority, and what is left after a port. A port needs a host, and only a
backslash may follow its digits. -/
def parseHostPort (scheme : String) (kind : SchemeKind) (cs : List Char) :
    Except UrlError (Host × Option Nat × List Char) :=
  let (name, rest) := hostPart false cs
  if kind ≠ .other ∧ name = [] then .error .emptyHost
  else
    match (if kind = .other then Host.parseOpaque name else Host.parse name) with
    | .error e => .error e
    | .ok host =>
      match rest with
      | [] => .ok (host, none, [])
      | _ :: port =>
        if name = [] then .error .emptyHost
        else
          match parsePort scheme (port.takeWhile (· != '\\')) with
          | .error e => .error e
          | .ok number => .ok (host, number, port.dropWhile (· != '\\'))

/-- The authority of a location, and what is left after its port. User and password come before
the last `@`. -/
def parseAuthority (scheme : String) (kind : SchemeKind) (cs : List Char) :
    Except UrlError (Authority × List Char) :=
  let (info, rest) := (breakLastAt cs).getD ([], cs)
  match parseHostPort scheme kind rest with
  | .error e => .error e
  | .ok (host, port, left) =>
    let user := info.takeWhile (· != ':')
    let password := (info.dropWhile (· != ':')).drop 1
    if host = .domain [] ∧ (user ≠ [] ∨ password ≠ []) then .error .emptyHost
    else .ok (⟨encode userSet user, encode userSet password, host, port⟩, left)

/-! ### Whole locations -/

/-- The query and the fragment at the end of a location. -/
def parseTail (kind : SchemeKind) (cs : List Char) : Option (List Char) × Option (List Char) :=
  let set := if kind = .other then querySet else specialQuerySet
  let fragment := match cs.dropWhile (· != '#') with
    | [] => none
    | _ :: text => some (encode fragmentSet text)
  match cs with
  | '?' :: rest => (some (encode set (rest.takeWhile (· != '#'))), fragment)
  | _ => (none, fragment)

/-- A location whose authority and path are known. -/
def assemble (scheme : String) (kind : SchemeKind) (authority : Option Authority) (path : Path)
    (tail : List Char) : Url :=
  let (query, fragment) := parseTail kind tail
  ⟨scheme, authority, path, query, fragment⟩

/-- A location whose authority follows two slashes. -/
def parseWithAuthority (scheme : String) (kind : SchemeKind) (cs : List Char) :
    Except UrlError Url :=
  let name := cs.takeWhile (!endsAuthority kind ·)
  let rest := cs.dropWhile (!endsAuthority kind ·)
  if name = ['@'] ∧ rest ≠ [] then .error .emptyHost
  else
    match parseAuthority scheme kind name with
    | .error e => .error e
    | .ok (authority, left) =>
      let path := left ++ rest.takeWhile (!endsPath ·)
      let segments := if kind = .other ∧ path = [] then [] else parseSegments kind path
      .ok (assemble scheme kind (some authority) (.segments segments)
        (rest.dropWhile (!endsPath ·)))

/-- A location that has no authority. -/
def parseWithoutAuthority (scheme : String) (cs : List Char) : Url :=
  let path := cs.takeWhile (!endsPath ·)
  let tail := cs.dropWhile (!endsPath ·)
  match path with
  | '/' :: _ => assemble scheme .other none (.segments (parseSegments .other path)) tail
  | _ => assemble scheme .other none (.opaqueText (encode controlSet path)) tail

/-- The host of a file, which is empty if it is the local one. -/
def fileHost (cs : List Char) : Except UrlError Host :=
  if cs = [] then .ok (.domain [])
  else
    match Host.parse cs with
    | .error e => .error e
    | .ok host => .ok (if host = .domain "localhost".toList then .domain [] else host)

/-- What follows a slash that comes first among the characters that count. -/
def afterSlash? (cs : List Char) : Option (List Char) :=
  match cs.dropWhile isIgnored with
  | [] => none
  | c :: rest => if isSlash .file c then some rest else none

/-- A file on a host. The path of a file on a drive needs none. -/
def assembleFile (host : Host) (path tail : List Char) : Url :=
  let p := parseFilePath path
  assemble "file" .file (some ⟨[], [], if p.onDrive then .domain [] else host, none⟩)
    (.segments p.segments) (significant tail)

/-- A location of the scheme `file`, in which tabs and line breaks are left. The slash after a host
is no part of the path; without a host it is an empty segment. -/
def parseFile (cs : List Char) : Except UrlError Url :=
  let finish (host : Host) (rest : List Char) : Url :=
    assembleFile host (rest.takeWhile (!endsPath ·)) (rest.dropWhile (!endsPath ·))
  match afterSlash? cs with
  | none => .ok (finish (.domain []) cs)
  | some after =>
    match afterSlash? after with
    | none => .ok (finish (.domain []) after)
    | some rest =>
      let name := significant (rest.takeWhile (!endsAuthority .file ·))
      if isDrive name then .ok (finish (.domain []) rest)
      else
        let path := rest.dropWhile (!endsAuthority .file ·)
        match fileHost name with
        | .error e => .error e
        | .ok host =>
          .ok (finish host (if host = .domain [] then path else withoutSlash .file path))

/-- Read a location. -/
def Url.parse (input : String) : Except UrlError Url :=
  let cs := trimBy isEdge input.toList
  match scheme? (significant cs) with
  | none => .error .relative
  | some (scheme, rest) =>
    match schemeKind scheme with
    | .file => parseFile ((cs.dropWhile (· != ':')).drop 1)
    | .special => parseWithAuthority scheme .special (rest.dropWhile (isSlash .special))
    | .other =>
      match rest with
      | '/' :: '/' :: after => parseWithAuthority scheme .other after
      | _ => .ok (parseWithoutAuthority scheme rest)

end OlapClient.Location
