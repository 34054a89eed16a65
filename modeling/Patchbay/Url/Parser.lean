import Patchbay.Url.Basic

namespace Patchbay.Url

/-- Leave out what is ignored: control characters and spaces at the ends, tabs and line ends
anywhere. -/
def clean (text : List Char) : List Char :=
  let isOuter (c : Char) : Bool := c.toNat ≤ 0x20
  let inner := ((text.dropWhile isOuter).reverse.dropWhile isOuter).reverse
  inner.filter fun c => !(c = '\t' || c = '\n' || c = '\r')

def takeScheme (text : List Char) : Option (List Char × List Char) :=
  let isPart (c : Char) : Bool := isAlphanumeric c || c = '+' || c = '-' || c = '.'
  match text.takeWhile isPart, text.dropWhile isPart with
  | first :: more, ':' :: rest =>
      if first.isAlpha then some ((first :: more).map Char.toLower, rest) else none
  | _, _ => none

def cutAt (stops : Char → Bool) (text : List Char) : List Char × List Char :=
  (text.takeWhile fun c => !stops c, text.dropWhile fun c => !stops c)

def queryAndFragment (kind : SchemeKind) (text : List Char) :
    Option (List Char) × Option (List Char) :=
  let (front, back) := cutAt (· = '#') text
  let fragment := match back with
    | _ :: fragment => some (escape EscapeSet.fragment fragment)
    | [] => none
  let query := match front with
    | '?' :: query =>
        some (escape (if kind.isSpecial then EscapeSet.specialQuery else EscapeSet.query) query)
    | _ => none
  (query, fragment)

/-- The user name and password in front of the last at sign of an authority. A lone colon is left
out with an empty password, and so is the at sign if nothing stands before it. -/
def userinfoText (text : List Char) : List Char :=
  let (user, back) := cutAt (· = ':') text
  let password := back.drop 1
  let escaped := escape EscapeSet.userinfo
  let shown := escaped user ++ if password.isEmpty then [] else ':' :: escaped password
  if shown.isEmpty then [] else shown ++ ['@']

def cutUserinfo (text : List Char) : Option (List Char) × List Char :=
  if text.contains '@' then
    let host := (text.reverse.takeWhile (· ≠ '@')).reverse
    (some (text.take (text.length - host.length - 1)), host)
  else (none, text)

/-- The host part of an authority, which ends at the first colon outside brackets. -/
def cutHost : (bracketed : Bool) → List Char → (done : List Char) → List Char × List Char
  | _, [], done => (done.reverse, [])
  | bracketed, c :: rest, done =>
      if c = ':' && !bracketed then (done.reverse, c :: rest)
      else cutHost (if c = '[' then true else if c = ']' then false else bracketed) rest (c :: done)

/-- The port that a text begins with, and what follows it. A backslash ends the port. -/
def portOf (kind : SchemeKind) (text : List Char) : Except UrlError (Option Nat × List Char) :=
  let (digits, rest) := cutAt (!·.isDigit) text
  let port := Numeral.ofDigits digits
  if 65535 < port ∨ rest.head?.any (· ≠ '\\') then .error .invalidPort
  else .ok (if digits.isEmpty ∨ kind = .web port then none else some port, rest)

/-- Read an authority, and give back what follows its port. Only schemes that are not special may
go without a host, and then without user and port. -/
def authorityOf (kind : SchemeKind) (text : List Char) (atEnd : Bool) :
    Except UrlError (Authority × List Char) :=
  let (user, hostAndPort) := cutUserinfo text
  let userinfo := userinfoText (user.getD [])
  let (hostText, portText) := cutHost false hostAndPort []
  if user = some [] ∧ hostAndPort.isEmpty ∧ !atEnd then .error .emptyHost
  else if hostText.isEmpty ∧ (kind.isSpecial ∨ !portText.isEmpty ∨ !userinfo.isEmpty) then
    .error .emptyHost
  else
    match if kind.isSpecial then Host.ofText hostText else Host.opaqueOfText hostText with
    | .error error => .error error
    | .ok host =>
        match portOf kind (portText.drop 1) with
        | .error error => .error error
        | .ok (port, rest) => .ok ({ userinfo, host, port }, rest)

def isSingleDot (segment : List Char) : Bool :=
  [".", "%2e"].contains (String.ofList (segment.map Char.toLower))

def isDoubleDot (segment : List Char) : Bool :=
  ["..", ".%2e", "%2e.", "%2e%2e"].contains (String.ofList (segment.map Char.toLower))

/-- Whether a segment names a drive: a letter, and a colon or a bar. -/
def isDrive : List Char → Bool
  | [letter, mark] => letter.isAlpha && (mark = ':' || mark = '|')
  | _ => false

/-- Leave the last segment of a path, latest first. There is no way up from a drive. -/
def goUp : List (List Char) → List (List Char)
  | [] => []
  | segment :: above => if isDrive segment then segment :: above else above

/-- A segment as it is written. A drive that a file's path starts with is written with a colon. -/
def segmentText (kind : SchemeKind) (isFirst : Bool) (segment : List Char) : List Char :=
  if kind = .file ∧ isFirst ∧ isDrive segment then segment.take 1 ++ [':']
  else escape EscapeSet.path segment

/-- Follow the segments of a path, latest first: a single dot stays, a double dot goes one up. At
the end of the path either leaves an empty segment. -/
def resolve (kind : SchemeKind) : List (List Char) → (done : List (List Char)) → List (List Char)
  | [], done => done.reverse
  | segment :: rest, done =>
      let done :=
        if isDoubleDot segment then if rest.isEmpty then [] :: goUp done else goUp done
        else if isSingleDot segment then if rest.isEmpty then [] :: done else done
        else segmentText kind done.isEmpty segment :: done
      resolve kind rest done

def segmentsOf (kind : SchemeKind) (text : List Char) : List (List Char) :=
  resolve kind (text.splitOnP kind.isSlash) []

def dropSlash (kind : SchemeKind) : List Char → List Char
  | [] => []
  | c :: rest => if kind.isSlash c then rest else c :: rest

/-- The path of an address with an authority. A special scheme always has one. -/
def pathOf (kind : SchemeKind) (text : List Char) : Path :=
  if text.isEmpty && !kind.isSpecial then .segments []
  else .segments (segmentsOf kind (dropSlash kind text))

def withAuthority (kind : SchemeKind) (scheme text : List Char) : Except UrlError Url :=
  let (authorityText, rest) := cutAt (fun c => kind.isSlash c || c = '?' || c = '#') text
  match authorityOf kind authorityText rest.isEmpty with
  | .error error => .error error
  | .ok (authority, afterPort) =>
      let (pathText, back) := cutAt (fun c => c = '?' || c = '#') rest
      let (query, fragment) := queryAndFragment kind back
      let path := pathOf kind (afterPort ++ pathText)
      .ok { scheme, authority := some authority, path, query, fragment }

/-- The host of a file's address, if it is not this machine. -/
def fileHost? (text : List Char) : Except UrlError (Option Host) :=
  if text.isEmpty then .ok none
  else
    match Host.ofText text with
    | .ok host => .ok (if host = .domain "localhost".toList then none else some host)
    | .error error => .error error

/-- The host part and the path of a file's address. A drive is no host. -/
def cutFileHost (text : List Char) : List Char × List Char :=
  let isSlash := SchemeKind.file.isSlash
  match text with
  | a :: b :: rest =>
      if isSlash a && isSlash b then
        let (host, path) := cutAt isSlash rest
        if isDrive host then ([], rest) else (host, path)
      else ([], dropSlash .file text)
  | _ => ([], dropSlash .file text)

/-- A file's path does not start with empty segments. -/
def dropEmptySegments : List (List Char) → List (List Char)
  | [] :: segment :: rest => dropEmptySegments (segment :: rest)
  | segments => segments

/-- An address of a file. A path that starts with a drive is on this machine. -/
def ofFileText (scheme text : List Char) : Except UrlError Url :=
  let (front, back) := cutAt (fun c => c = '?' || c = '#') text
  let (query, fragment) := queryAndFragment .file back
  let (hostText, pathText) := cutFileHost front
  match fileHost? hostText with
  | .error error => .error error
  | .ok host? =>
      let segments := segmentsOf .file (if host?.isSome then dropSlash .file pathText else pathText)
      let host := if segments.head?.any isDrive then .domain [] else host?.getD (.domain [])
      let path := .segments (dropEmptySegments segments)
      .ok { scheme, authority := some ⟨[], host, none⟩, path, query, fragment }

def withoutAuthority (scheme text : List Char) : Url :=
  let (pathText, back) := cutAt (fun c => c = '?' || c = '#') text
  let (query, fragment) := queryAndFragment .other back
  let path := match pathText with
    | '/' :: rest => .segments (segmentsOf .other rest)
    | plain => .plain (escape EscapeSet.control plain)
  { scheme, authority := none, path, query, fragment }

def parse (text : String) : Except UrlError Url :=
  match takeScheme (clean text.toList) with
  | none => .error .relative
  | some (scheme, rest) =>
      let kind := SchemeKind.ofScheme (String.ofList scheme)
      match kind with
      | .web _ => withAuthority kind scheme (rest.dropWhile kind.isSlash)
      | .file => ofFileText scheme rest
      | .other =>
          match rest with
          | '/' :: '/' :: rest => withAuthority kind scheme rest
          | rest => .ok (withoutAuthority scheme rest)

end Patchbay.Url
