import LinkHygiene.Url.Address
import LinkHygiene.Url.Domain
import LinkHygiene.Url.Percent

/-!
# Hosts

The host of a URL: a domain name, a numeric address, or, for schemes that are not
web addresses, a text that is kept as it is.
-/

namespace LinkHygiene

inductive UrlError where
  | emptyHost
  | invalidDomainName
  | invalidPort
  | invalidV4
  | invalidV6
  | invalidDomainCharacter
  | noBase
  | opaqueBase
deriving Repr, DecidableEq

namespace UrlError

def message : UrlError → String
  | .emptyHost => "empty host"
  | .invalidDomainName => "invalid international domain name"
  | .invalidPort => "invalid port number"
  | .invalidV4 => "invalid IPv4 address"
  | .invalidV6 => "invalid IPv6 address"
  | .invalidDomainCharacter => "invalid domain character"
  | .noBase => "relative URL without a base"
  | .opaqueBase => "relative URL with a cannot-be-a-base base"

end UrlError

/-- A domain in ASCII or an opaque name, or a numeric address. -/
inductive Host where
  | name (text : String)
  | v4 (address : Nat)
  | v6 (groups : List Nat)
deriving Repr, DecidableEq

namespace Host

def render : Host → List Char
  | .name text => text.toList
  | .v4 address => Address.renderV4 address
  | .v6 groups => '[' :: Address.renderV6 groups ++ [']']

def bracketed? (s : List Char) : Option (Except UrlError Host) :=
  match s with
  | '[' :: rest =>
      some (match rest.reverse with
        | ']' :: inside =>
            match Address.v6? inside.reverse with
            | some groups => .ok (.v6 groups)
            | none => .error .invalidV6
        | _ => .error .invalidV6)
  | _ => none

def parse (s : List Char) : Except UrlError Host :=
  match bracketed? s with
  | some result => result
  | none =>
      match Utf8.decode? (Percent.decode (Utf8.encode s)) with
      | none => .error .invalidDomainName
      | some decoded =>
          match Domain.toAscii? decoded with
          | none => .error .invalidDomainName
          | some [] => .error .emptyHost
          | some ascii =>
              if Address.endsInNumber ascii then
                match Address.v4? ascii with
                | some address => .ok (.v4 address)
                | none => .error .invalidV4
              else .ok (.name (String.ofList ascii))

def isForbiddenOpaque (c : Char) : Bool :=
  ['\x00', '\t', '\n', '\r', ' ', '#', '/', ':', '<', '>', '?', '@', '[', '\\', ']', '^',
    '|'].contains c

/-- The host under any other scheme; it may be empty. -/
def parseOpaque (s : List Char) : Except UrlError Host :=
  match bracketed? s with
  | some result => result
  | none =>
      if s.any isForbiddenOpaque then .error .invalidDomainCharacter
      else .ok (.name (String.ofList (Percent.encode Percent.inControls s)))

end Host

end LinkHygiene
