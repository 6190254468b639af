import PolicyDesk.Address.Url

/-!
# Reading an address

* `Address.read`: the address a text spells. It is taken apart from left to right: scheme, user, host,
  port, path, query, fragment.
* `WebPath.read`: dots that stand for "here" and "one up" are resolved.

Addresses under other schemes are read as far as it takes to tell whether they are well formed; what
remains of them is their scheme.
-/

namespace PolicyDesk

/-- What an address can be. -/
inductive Address where
  /-- An address on the web. -/
  | web (url : Url)
  /-- An address under some other scheme. -/
  | other (scheme : String)
  deriving DecidableEq, Repr

/-! ## What has to be written with percent signs -/

namespace Reserved

/-- Reserved in fragments, and everywhere. -/
def inFragment (c : Char) : Bool := c.toNat < 0x20 || " \"<>`".toList.contains c

/-- Reserved in queries. -/
def inQuery (c : Char) : Bool := c.toNat < 0x20 || " \"<>#'".toList.contains c

/-- Reserved in paths. -/
def inPath (c : Char) : Bool := inFragment c || "#?\x7b\x7d".toList.contains c

/-- Reserved in users and passwords. -/
def inUser (c : Char) : Bool := inPath c || "/:;=@[\\]^|".toList.contains c

end Reserved

/-! ## Paths -/

namespace WebPath

/-- The piece with `%2e` read as a dot. -/
def dots : List Char → List Char
  | '%' :: '2' :: 'e' :: rest => '.' :: dots rest
  | '%' :: '2' :: 'E' :: rest => '.' :: dots rest
  | c :: rest => c :: dots rest
  | [] => []

/-- A piece that stands for the folder it is in. -/
def isHere (piece : List Char) : Bool := dots piece == ['.']

/-- A piece that stands for the folder above. -/
def isUp (piece : List Char) : Bool := dots piece == ['.', '.']

/-- A letter with a colon or bar, which names a drive. -/
def isDrive : List Char → Bool
  | [letter, mark] => letter.isAlpha && (mark == ':' || mark == '|')
  | _ => false

/-- The folders one up; the root is its own parent, and a drive is not left. -/
def up (folders : List (List Char)) : List (List Char) :=
  if folders.getLast?.any isDrive then folders else folders.dropLast

/-- Goes into the folder that a piece names. -/
def enter (folders : List (List Char)) (piece : List Char) : List (List Char) :=
  if isUp piece then up folders
  else if isHere piece then folders
  else folders ++ [Text.percentEncode Reserved.inPath piece]

/-- Ends a path with its last piece. -/
def close (folders : List (List Char)) (piece : List Char) : WebPath :=
  if isUp piece then ⟨up folders, []⟩
  else if isHere piece then ⟨folders, []⟩
  else ⟨folders, Text.percentEncode Reserved.inPath piece⟩

/-- The path that pieces name from a folder on. -/
def ofPieces (folders : List (List Char)) : List (List Char) → WebPath
  | [] => ⟨folders, []⟩
  | [last] => close folders last
  | p :: ps => ofPieces (enter folders p) ps

/-- A slash, in either direction. -/
def isSlash (c : Char) : Bool := c == '/' || c == '\\'

/-- Reads a path; the slash it starts with may be missing. -/
def read (s : List Char) : WebPath :=
  let s := match s with
    | c :: rest => if isSlash c then rest else s
    | [] => []
  ofPieces [] (Text.pieces isSlash s)

end WebPath

namespace Address

/-! ## Schemes -/

/-- The kinds of scheme, which decide how the rest is read. -/
inductive SchemeKind where
  | web (scheme : Scheme)
  /-- Addresses with hosts like those on the web. -/
  | hosted (defaultPort : Nat)
  | file
  /-- Addresses of any other form. -/
  | free

/-- The kind of a scheme in small letters. -/
def SchemeKind.ofName : String → SchemeKind
  | "http" => web .http
  | "https" => web .https
  | "ws" => hosted 80
  | "wss" => hosted 443
  | "ftp" => hosted 21
  | "file" => file
  | _ => free

/-- Reads the scheme in small letters, and gives what stands behind its colon. -/
def scheme? (s : List Char) : Option (String × List Char) :=
  let isPart (c : Char) : Bool := c.isAlphanum || c == '+' || c == '-' || c == '.'
  match s.takeWhile isPart, s.dropWhile isPart with
  | c :: name, ':' :: rest =>
    if c.isAlpha then some (String.ofList ((c :: name).map Char.toLower), rest) else none
  | _, _ => none

/-! ## Users, hosts and ports -/

/-- Everything between the slashes before a host and the path. -/
structure Authority where
  user : List Char
  password : List Char
  /-- What names the host. -/
  host : List Char
  /-- What stands behind the colon after the host. -/
  port : Option (List Char)

/-- Splits off the host, which ends at a colon outside brackets. -/
def splitHost (inside : Bool) : List Char → List Char × Option (List Char)
  | [] => ([], none)
  | c :: rest =>
    if c == ':' && !inside then ([], some rest)
    else
      let inside := if c == '[' then true else if c == ']' then false else inside
      let (host, port) := splitHost inside rest
      (c :: host, port)

/-- The text before and behind the last at sign. -/
def splitUser (s : List Char) : List Char × List Char :=
  let behind := (s.reverse.takeWhile (· != '@')).reverse
  let before := (s.reverse.dropWhile (· != '@')).drop 1
  (before.reverse, behind)

/-- Takes user, host and port apart. -/
def Authority.ofText (s : List Char) : Authority :=
  let (before, behind) := splitUser s
  let (user, password) := Text.splitFirst (· == ':') before
  let (host, port) := splitHost false behind
  { user := Text.percentEncode Reserved.inUser user
    password := Text.percentEncode Reserved.inUser (password.getD [])
    host, port }

/-- Reads digits of a port on. -/
def portFrom (n : Nat) : List Char → Except AddressFault Nat
  | [] => .ok n
  | c :: rest =>
    if Text.isDigit c then
      let n := 10 * n + Text.digitValue c
      if n < 65536 then portFrom n rest else .error .badPort
    else .error .badPort

/-- Reads a port. The default one counts as none, and so does an empty one. -/
def readPort (default? : Option Nat) : Option (List Char) → Except AddressFault (Option Nat)
  | none => .ok none
  | some [] => .ok none
  | some ds => (portFrom 0 ds).map fun n => if default? = some n then none else some n

/-- Reads host and port of an address whose hosts are like those on the web. -/
def readPlace [InternationalNames] (defaultPort : Nat) (a : Authority) : Except AddressFault (Host × Option Nat) :=
  if a.host.isEmpty then .error .emptyHost
  else do
    let host ← Host.read a.host
    let port ← readPort (some defaultPort) a.port
    return (host, port)

/-! ## Addresses on the web -/

/-- Ends the part with user, host and port. -/
def endsAuthority (c : Char) : Bool := WebPath.isSlash c || c == '?' || c == '#'

/-- Reads a web address from behind its scheme. -/
def readWeb [InternationalNames] (scheme : Scheme) (s : List Char) : Except AddressFault Url := do
  let s := s.dropWhile WebPath.isSlash
  let a := Authority.ofText (s.takeWhile (!endsAuthority ·))
  let (host, port) ← readPlace scheme.defaultPort a
  let (s, fragment) := Text.splitFirst (· == '#') (s.dropWhile (!endsAuthority ·))
  let (s, query) := Text.splitFirst (· == '?') s
  return {
    scheme, user := a.user, password := a.password, host, port, path := WebPath.read s
    query := query.map (Text.percentEncode Reserved.inQuery)
    fragment := fragment.map (Text.percentEncode Reserved.inFragment) }

/-! ## Other addresses -/

/-- Judges an address under a scheme whose hosts are like those on the web. -/
def checkHosted [InternationalNames] (defaultPort : Nat) (s : List Char) : Except AddressFault Unit := do
  let s := s.dropWhile WebPath.isSlash
  let _ ← readPlace defaultPort (Authority.ofText (s.takeWhile (!endsAuthority ·)))

/-- Judges a file address. It may name a host behind two slashes, unless a drive stands there. -/
def checkFile [InternationalNames] : List Char → Except AddressFault Unit
  | a :: b :: rest =>
    let host := rest.takeWhile (!endsAuthority ·)
    if !(WebPath.isSlash a && WebPath.isSlash b) || host.isEmpty || WebPath.isDrive host then .ok ()
    else (Host.read host).map fun _ => ()
  | _ => .ok ()

/-- Judges a host of any other address: a number in brackets, or characters of which a few are refused. -/
def checkFreeHost : List Char → Except AddressFault Unit
  | '[' :: s =>
    if s.getLast? = some ']' then (Host.readV6 s.dropLast).map fun _ => () else .error .badV6
  | s =>
    if s.any fun c => c.toNat = 0 || " #/:<>?@[\\]^|".toList.contains c then .error .badHostCharacter
    else .ok ()

/-- Judges any other address. Behind two slashes stand user, host and port; the host may be missing if
neither a user nor a port is there. -/
def checkFree : List Char → Except AddressFault Unit
  | '/' :: '/' :: rest => do
    let isEnd (c : Char) : Bool := c == '/' || c == '?' || c == '#'
    let authority := rest.takeWhile (!isEnd ·)
    if authority = ['@'] ∧ rest.length ≠ 1 then throw .emptyHost
    let a := Authority.ofText authority
    checkFreeHost a.host
    if a.host.isEmpty && (a.port.isSome || !a.user.isEmpty || !a.password.isEmpty) then throw .emptyHost
    let _ ← readPort none (a.port.map (·.takeWhile (· != '\\')))
  | _ => .ok ()

/-! ## Any address -/

/-- The text without controls and blanks around it, and without line breaks and tabs inside. -/
def cleaned (s : List Char) : List Char :=
  let isLow (c : Char) : Bool := c.toNat ≤ 0x20
  let s := ((s.dropWhile isLow).reverse.dropWhile isLow).reverse
  s.filter fun c => c != '\t' && c != '\n' && c != '\r'

/-- Reads an address. -/
def read [InternationalNames] (s : List Char) : Except AddressFault Address :=
  match scheme? (cleaned s) with
  | none => .error .noScheme
  | some (name, rest) =>
    match SchemeKind.ofName name with
    | .web scheme => (readWeb scheme rest).map web
    | .hosted defaultPort => (checkHosted defaultPort rest).map fun _ => other name
    | .file => (checkFile rest).map fun _ => other name
    | .free => (checkFree rest).map fun _ => other name

end Address

end PolicyDesk
