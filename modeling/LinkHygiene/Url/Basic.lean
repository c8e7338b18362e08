import LinkHygiene.Url.Form
import LinkHygiene.Url.Host

/-!
# URLs

A URL as its components, and the text it is written as. Each component holds its
text in escaped form, so writing is concatenation. Queries are also seen as lists
of names and values.
-/

namespace LinkHygiene

/-- Who is asked for the resource: optional credentials, a host, an optional port. -/
structure Authority where
  username : String := ""
  password : String := ""
  host : Option Host := none
  port : Option Nat := none
deriving Repr, DecidableEq

/-- A path is a list of segments, or, after a scheme such as `mailto`, plain text. -/
inductive Path where
  | plain (text : String)
  | segments (list : List String)
deriving Repr, DecidableEq

structure Url where
  scheme : String
  authority : Option Authority
  path : Path
  query : Option String
  fragment : Option String
deriving Repr, DecidableEq

inductive SchemeKind where
  | file
  | web
  | other
deriving Repr, DecidableEq

namespace SchemeKind

def ofScheme (scheme : String) : SchemeKind :=
  if scheme = "file" then .file
  else if ["http", "https", "ws", "wss", "ftp"].contains scheme then .web
  else .other

/-- Schemes whose URLs have a domain as host, a path, and `\` for `/`. -/
def isSpecial : SchemeKind → Bool
  | .other => false
  | _ => true

end SchemeKind

def defaultPort (scheme : String) : Option Nat :=
  if scheme = "http" || scheme = "ws" then some 80
  else if scheme = "https" || scheme = "wss" then some 443
  else if scheme = "ftp" then some 21
  else none

namespace Authority

def renderCredentials (a : Authority) : List Char :=
  if a.username.isEmpty && a.password.isEmpty then []
  else if a.password.isEmpty then a.username.toList ++ ['@']
  else a.username.toList ++ ':' :: a.password.toList ++ ['@']

def renderHost (a : Authority) : List Char :=
  match a.host with
  | some host => host.render
  | none => []

def renderPort (a : Authority) : List Char :=
  match a.port with
  | some port => ':' :: (toString port).toList
  | none => []

def render (a : Authority) : List Char :=
  a.renderCredentials ++ a.renderHost ++ a.renderPort

end Authority

namespace Path

def render : Path → List Char
  | .plain text => text.toList
  | .segments list => list.flatMap fun segment => '/' :: segment.toList

end Path

namespace Url

def kind (u : Url) : SchemeKind :=
  SchemeKind.ofScheme u.scheme

/-- URLs without a path of segments: nothing can be relative to them. -/
def isPlain (u : Url) : Bool :=
  match u.path with
  | .plain _ => true
  | .segments _ => false

/-- A path that begins with two slashes is set off, so that it is not read as a host. -/
def renderLocation (u : Url) : List Char :=
  let path := u.path.render
  match u.authority with
  | some a => '/' :: '/' :: a.render ++ path
  | none =>
      match path with
      | '/' :: '/' :: _ => '/' :: '.' :: path
      | _ => path

def renderQuery (u : Url) : List Char :=
  match u.query with
  | some query => '?' :: query.toList
  | none => []

def renderFragment (u : Url) : List Char :=
  match u.fragment with
  | some fragment => '#' :: fragment.toList
  | none => []

def render (u : Url) : List Char :=
  u.scheme.toList ++ ':' :: u.renderLocation ++ u.renderQuery ++ u.renderFragment

def text (u : Url) : String :=
  String.ofList u.render

def host? (u : Url) : Option Host :=
  u.authority.bind Authority.host

def hostText? (u : Url) : Option String :=
  u.host?.map fun host => String.ofList host.render

def hostname? (u : Url) : Option String :=
  u.host?.map fun host => String.ofList (host.render.map Text.asciiLower)

def pathText (u : Url) : String :=
  String.ofList u.path.render

/-- Web addresses: the URLs that may be asked over the network. -/
def isHttp (u : Url) : Bool :=
  u.scheme == "http" || u.scheme == "https"

def queryPairs (u : Url) : List Form.Pair :=
  match u.query with
  | some query => Form.decode query.toList
  | none => []

/-- The value of the first parameter of that name, unless it is empty. -/
def firstParam? (u : Url) (name : String) : Option String :=
  match u.queryPairs.find? (fun pair => pair.name == name) with
  | some pair => if pair.value.isEmpty then none else some pair.value
  | none => none

def dropBlanks (s : String) : String :=
  String.ofList (s.toList.reverse.dropWhile (· == ' ')).reverse

/-- Plain paths lose the blanks at their end when nothing follows them any more. -/
def dropTrailingBlanks (u : Url) : Url :=
  match u.path with
  | .plain text =>
      if u.query.isNone && u.fragment.isNone then
        { u with path := .plain (dropBlanks text) }
      else u
  | .segments _ => u

/-- The URL with its query rebuilt from `pairs`; without pairs it has no query. -/
def setQueryPairs (u : Url) (pairs : List Form.Pair) : Url :=
  match pairs with
  | [] => { u with query := none }.dropTrailingBlanks
  | pairs => { u with query := some (String.ofList (Form.encode pairs)) }

@[simp] theorem scheme_setQueryPairs (u : Url) (pairs : List Form.Pair) :
    (u.setQueryPairs pairs).scheme = u.scheme := by
  unfold setQueryPairs dropTrailingBlanks
  repeat' split
  all_goals rfl

@[simp] theorem authority_setQueryPairs (u : Url) (pairs : List Form.Pair) :
    (u.setQueryPairs pairs).authority = u.authority := by
  unfold setQueryPairs dropTrailingBlanks
  repeat' split
  all_goals rfl

@[simp] theorem fragment_setQueryPairs (u : Url) (pairs : List Form.Pair) :
    (u.setQueryPairs pairs).fragment = u.fragment := by
  unfold setQueryPairs dropTrailingBlanks
  repeat' split
  all_goals rfl

end Url

end LinkHygiene
