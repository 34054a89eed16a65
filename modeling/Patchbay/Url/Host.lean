import Patchbay.Url.Address
import Patchbay.Url.Domain
import Patchbay.Url.Percent

namespace Patchbay

inductive UrlError where
  | relative
  | emptyHost
  | invalidPort
  | invalidIpv4
  | invalidIpv6
  | invalidDomain
  | invalidHostCharacter
deriving DecidableEq

namespace UrlError

def message : UrlError → String
  | relative => "relative URL without a base"
  | emptyHost => "empty host"
  | invalidPort => "invalid port number"
  | invalidIpv4 => "invalid IPv4 address"
  | invalidIpv6 => "invalid IPv6 address"
  | invalidDomain => "invalid international domain name"
  | invalidHostCharacter => "invalid domain character"

end UrlError

namespace Url

/-- The schemes whose addresses have an authority and a path of segments, and in which a backslash
is a slash. -/
inductive SchemeKind where
  | web (defaultPort : Nat)
  | file
  | other
deriving DecidableEq

namespace SchemeKind

def ofScheme (scheme : String) : SchemeKind :=
  match scheme with
  | "http" => web 80
  | "https" => web 443
  | "ws" => web 80
  | "wss" => web 443
  | "ftp" => web 21
  | "file" => file
  | _ => other

def isSpecial : SchemeKind → Bool
  | other => false
  | _ => true

def isSlash (kind : SchemeKind) (c : Char) : Bool :=
  c = '/' || (c = '\\' && kind.isSpecial)

end SchemeKind

inductive Host where
  | domain (name : List Char)
  | ipv4 (address : Nat)
  | ipv6 (groups : List Nat)
deriving DecidableEq

namespace Host

def text : Host → List Char
  | domain name => name
  | ipv4 address => ipv4Text address
  | ipv6 groups => '[' :: ipv6Text groups ++ [']']

def bracketed (text : List Char) : Except UrlError Host :=
  if text.getLast? = some ']' then
    match ipv6? (text.drop 1).dropLast with
    | some groups => .ok (.ipv6 groups)
    | none => .error .invalidIpv6
  else .error .invalidIpv6

def ofText (text : List Char) : Except UrlError Host :=
  if text.head? = some '[' then bracketed text
  else
    match (Utf8.decode? (unescape (Utf8.encode text))).bind domainToAscii? with
    | none => .error .invalidDomain
    | some [] => .error .emptyHost
    | some name =>
        if endsInNumber name then
          match ipv4? name with
          | some address => .ok (.ipv4 address)
          | none => .error .invalidIpv4
        else .ok (.domain name)

def isForbidden (c : Char) : Bool :=
  c = '\x00' || "\t\n\r #/:<>?@[\\]^|".toList.contains c

def opaqueOfText (text : List Char) : Except UrlError Host :=
  if text.head? = some '[' then bracketed text
  else if text.any isForbidden then .error .invalidHostCharacter
  else .ok (.domain (escape EscapeSet.control text))

end Host

end Url

end Patchbay
