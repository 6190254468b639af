import PolicyDesk.Address.Host
import PolicyDesk.Text.Base64
import PolicyDesk.Text.Digits

/-!
# Addresses on the web

* `Url`: an address taken apart. All parts are kept as they are written, that is, with percent signs in
  the place of what an address cannot hold.
* `Url.text`: the address put together.
* `Url.item`: the address of one record of a collection.
* `Url.credentials?`, `Url.anonymous`: the user an address names, and the address without it.
-/

namespace PolicyDesk

/-- The two ways to reach a service. -/
inductive Scheme where
  | http
  | https
  deriving DecidableEq, Repr

/-- The scheme as addresses spell it. -/
def Scheme.name : Scheme → String
  | http => "http"
  | https => "https"

/-- The port that need not be named. -/
def Scheme.defaultPort : Scheme → Nat
  | http => 80
  | https => 443

/-- A path below the root: folders, each with a slash behind it, and what stands behind the last slash. -/
structure WebPath where
  folders : List (List Char)
  leaf : List Char
  deriving DecidableEq, Repr

namespace WebPath

/-- The path with its slashes. -/
def text (p : WebPath) : List Char := '/' :: (p.folders.flatMap (· ++ ['/']) ++ p.leaf)

/-- The path one step below. A slash at the end is not doubled; and if nothing but a second slash was
there, it is dropped as well. -/
def below (p : WebPath) (leaf : List Char) : WebPath :=
  if p.leaf.isEmpty then if p.folders = [[]] then ⟨[], leaf⟩ else ⟨p.folders, leaf⟩
  else ⟨p.folders ++ [p.leaf], leaf⟩

end WebPath

/-- An address on the web. -/
structure Url where
  scheme : Scheme
  /-- The user; empty if none is named. -/
  user : List Char
  /-- The password; empty if none is given. -/
  password : List Char
  host : Host
  /-- The port, if it is not the default one. -/
  port : Option Nat
  path : WebPath
  query : Option (List Char)
  fragment : Option (List Char)
  deriving DecidableEq, Repr

/-- Who asks. -/
structure Credentials where
  user : String
  /-- Absent if none is given. -/
  password : Option String
  deriving DecidableEq, Repr

namespace Url

/-- The user in front of the host, with an at sign. -/
def userText (u : Url) : List Char :=
  if u.user.isEmpty && u.password.isEmpty then []
  else if u.password.isEmpty then u.user ++ ['@']
  else u.user ++ ':' :: (u.password ++ ['@'])

/-- A part that may be absent, behind its mark. -/
def behind (mark : Char) : Option (List Char) → List Char
  | none => []
  | some s => mark :: s

/-- The address put together. -/
def text (u : Url) : List Char :=
  u.scheme.name.toList ++ ':' :: '/' :: '/' :: (u.userText ++ u.host.text ++
    behind ':' (u.port.map Text.natural) ++ u.path.text ++ behind '?' u.query ++ behind '#' u.fragment)

/-- The address as a text. -/
def toText (u : Url) : String := String.ofList u.text

/-- The address of one record of the collection. -/
def item (u : Url) (id : UInt64) : Url := { u with path := u.path.below (Text.natural id.toNat) }

/-- The user an address names. A user whose percent signs spell no text counts as none, and so does such a
password. -/
def credentials? (u : Url) : Option Credentials :=
  match Text.resolved? u.user with
  | none => none
  | some user =>
    let password := if u.password.isEmpty then none else Text.resolved? u.password
    if user.isEmpty && password.isNone then none else some ⟨user, password⟩

/-- The address without the user it names. -/
def anonymous (u : Url) : Url :=
  match u.credentials? with
  | none => u
  | some _ => { u with user := [], password := [] }

/-- The address without its fragment, which is never sent. -/
def withoutFragment (u : Url) : Url := { u with fragment := none }

end Url

/-- How the user is named to the service. -/
def Credentials.header (c : Credentials) : String :=
  "Basic " ++ String.ofList (Text.base64 (Text.utf8 (c.user.toList ++ ':' :: (c.password.getD "").toList)))

end PolicyDesk
