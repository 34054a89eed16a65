import Patchbay.Url.Host
import Patchbay.Url.Query

namespace Patchbay

namespace Url

/-- Who and where: the escaped user name and password with the at sign behind them, the host, and
a port other than the default one. -/
structure Authority where
  userinfo : List Char
  host : Host
  port : Option Nat
deriving DecidableEq

inductive Path where
  /-- A path that is not made of segments. -/
  | plain (text : List Char)
  | segments (list : List (List Char))
deriving DecidableEq

namespace Path

def text : Path → List Char
  | plain text => text
  | segments list => list.flatMap fun segment => '/' :: segment

end Path

end Url

structure Url where
  scheme : List Char
  authority : Option Url.Authority
  path : Url.Path
  query : Option (List Char)
  fragment : Option (List Char)
deriving DecidableEq

namespace Url

def Authority.text (authority : Authority) : List Char :=
  '/' :: '/' :: authority.userinfo ++ authority.host.text
    ++ (match authority.port with
      | some port => ':' :: natText port
      | none => [])

/-- Without an authority a path must not look like one. -/
def pathMark (url : Url) : List Char :=
  match url.authority, url.path with
  | none, .segments ([] :: _ :: _) => ['/', '.']
  | _, _ => []

def markedPart (mark : Char) : Option (List Char) → List Char
  | some text => mark :: text
  | none => []

def text (url : Url) : String :=
  let authority := match url.authority with
    | some authority => authority.text
    | none => []
  String.ofList (url.scheme ++ ':' :: authority ++ url.pathMark ++ url.path.text
    ++ markedPart '?' url.query ++ markedPart '#' url.fragment)

def queryPairs (url : Url) : List (String × String) :=
  match url.query with
  | some query => Query.decode query
  | none => []

end Url

end Patchbay
