import OlapClient.Location.Address
import OlapClient.Location.Domain.Label
import OlapClient.Location.Percent

namespace OlapClient.Location

/-!
# Hosts

* `Host` — a domain, a numeric address, or the opaque host of a scheme without rules for hosts.
* `Host.parse` — the host of a special scheme.
* `Host.parseOpaque` — the host of any other scheme.
* `UrlError` — why a location cannot be read.

Domains are read in ASCII only. Names in other scripts have to be given as labels that begin with
`xn--`; mapping them to such labels is left out.
-/

/-- Why a location cannot be read. -/
inductive UrlError where
  | emptyHost
  /-- A host name that is no domain, or not in ASCII. -/
  | badDomain
  | badPort
  | badIpv4
  | badIpv6
  /-- A character that no host may have. -/
  | badCharacter
  /-- A text without scheme. -/
  | relative
deriving DecidableEq, Repr

/-- The report of an unreadable location. -/
def UrlError.message : UrlError → String
  | .emptyHost => "empty host"
  | .badDomain => "invalid international domain name"
  | .badPort => "invalid port number"
  | .badIpv4 => "invalid IPv4 address"
  | .badIpv6 => "invalid IPv6 address"
  | .badCharacter => "invalid domain character"
  | .relative => "relative URL without a base"

/-- The host of a location. -/
inductive Host where
  | domain (name : List Char)
  | ipv4 (address : Nat)
  | ipv6 (groups : List Nat)
deriving DecidableEq, Repr

/-- The text of a host. -/
def Host.text : Host → List Char
  | .domain name => name
  | .ipv4 address => ipv4Text address
  | .ipv6 groups => '[' :: ipv6Text groups ++ [']']

/-- The characters that no host may have. -/
def forbiddenInHost (c : Char) : Bool :=
  c.toNat == 0 || c == '\t' || c == '\n' || c == '\r' || c == ' ' || c == '#' || c == '/'
    || c == ':' || c == '<' || c == '>' || c == '?' || c == '@' || c == '[' || c == '\\' || c == ']'
    || c == '^' || c == '|'

/-- The characters that no domain may have. -/
def forbiddenInDomain (c : Char) : Bool :=
  forbiddenInHost c || controlSet c || c == '%'

/-- The address between brackets. -/
def bracketed (rest : List Char) : Except UrlError Host :=
  if rest.getLast? = some ']' then
    match ipv6? rest.dropLast with
    | some groups => .ok (.ipv6 groups)
    | none => .error .badIpv6
  else .error .badIpv6

/-- The host of a special scheme: an address, or a domain in lower case, which may be written with
percent triples. A name with a character beyond ASCII, written as it is or in triples, is refused
here, where it would otherwise be mapped to labels in ASCII. -/
def Host.parse (cs : List Char) : Except UrlError Host :=
  match cs with
  | '[' :: rest => bracketed rest
  | _ =>
    match Utf8.decode (decodePercent cs) with
    | .error _ => .error .badDomain
    | .ok decoded =>
      if decoded.any (fun c => forbiddenInDomain c || 0x80 ≤ c.toNat) then .error .badDomain
      else
        let name := decoded.map lowerAscii
        if !Domain.isWellFormed name then .error .badDomain
        else if name = [] then .error .emptyHost
        else if endsInNumber name then
          match ipv4? name with
          | some address => .ok (.ipv4 address)
          | none => .error .badIpv4
        else .ok (.domain name)

/-- The host of a scheme without rules for hosts; it may be empty. -/
def Host.parseOpaque (cs : List Char) : Except UrlError Host :=
  match cs with
  | '[' :: rest => bracketed rest
  | _ =>
    if cs.any forbiddenInHost then .error .badCharacter
    else .ok (.domain (encode controlSet cs))

end OlapClient.Location
