import Outbox.Url.Host
import Outbox.Url.Percent

/-!
# Addresses

An address has a scheme, mostly an authority, a path, and maybe a query and a fragment. The parts
are kept in their written form, percent-encoded. The schemes of the web are special: they always
have a host and a path that starts with a slash, and they treat a backslash as a slash.
-/
namespace Outbox.Url

/-- What separates the schemes in reading. -/
inductive SchemeKind where
  | file
  | web
  | other
  deriving DecidableEq, Repr

namespace SchemeKind

def ofScheme (scheme : List Char) : SchemeKind :=
  let s := String.ofList scheme
  if s == "file" then .file
  else if ["http", "https", "ws", "wss", "ftp"].contains s then .web
  else .other

def isSpecial : SchemeKind → Bool
  | .other => false
  | _ => true

end SchemeKind

/-- The port that is left out. -/
def defaultPort? (scheme : List Char) : Option Nat :=
  match String.ofList scheme with
  | "http" => some 80
  | "ws" => some 80
  | "https" => some 443
  | "wss" => some 443
  | "ftp" => some 21
  | _ => none

/-- Who is asked: the user, the host and the port. -/
structure Authority where
  username : List Char
  password : Option (List Char)
  /-- A file has no host when it is local. -/
  host : Option Host
  port : Option Nat
  deriving DecidableEq

namespace Authority

def render (a : Authority) : List Char :=
  let password := match a.password with
    | some p => ':' :: p
    | none => []
  let user := a.username ++ password
  let port := match a.port with
    | some p => ':' :: Nat.toDigits 10 p
    | none => []
  let host := match a.host with
    | some h => h.render
    | none => []
  (if user.isEmpty then [] else user ++ ['@']) ++ host ++ port

end Authority

end Outbox.Url

namespace Outbox

structure Url where
  scheme : List Char
  authority : Option Url.Authority
  path : List Char
  query : Option (List Char)
  fragment : Option (List Char)
  deriving DecidableEq

namespace Url

def kind (u : Url) : SchemeKind := .ofScheme u.scheme

/-- Whether other addresses can be formed below this one: its path is made of segments. -/
def canBeBase (u : Url) : Bool := u.authority.isSome || u.path.head? == some '/'

def renderTail (mark : Char) : Option (List Char) → List Char
  | some cs => mark :: cs
  | none => []

/-- The written form. A path that starts with two slashes must not be taken for an authority. -/
def render (u : Url) : List Char :=
  let start := match u.authority with
    | some a => '/' :: '/' :: a.render
    | none => if u.path.take 2 == ['/', '/'] then ['/', '.'] else []
  u.scheme ++ ':' :: start ++ u.path ++ renderTail '?' u.query ++ renderTail '#' u.fragment

def text (u : Url) : String := String.ofList u.render

end Url

end Outbox
