import PolicyDesk.Text.Percent
import PolicyDesk.Text.Pieces
import PolicyDesk.Text.Quoted

/-!
# The host of an address

* `Host`: a name, a number of four bytes, or a number of eight groups.
* `InternationalNames`: how names beyond ASCII are mapped to ASCII.
* `Host.read`: percent signs are resolved and capitals made small before a name is judged; a name that
  ends like a number has to be one.
* `Host.text`: numbers are written in one way each, whatever way they were spelled.
* `AddressFault`: everything that can be wrong with an address.
-/

namespace PolicyDesk

/-- Why a text is no address. -/
inductive AddressFault where
  /-- It does not start with a scheme. -/
  | noScheme
  | emptyHost
  /-- The host holds a character that no host name may have. -/
  | badHostName
  /-- The same, under a scheme whose hosts are not names. -/
  | badHostCharacter
  | badV4
  | badV6
  | badPort
  deriving DecidableEq, Repr

/-- The fault in words. -/
def AddressFault.message : AddressFault → String
  | noScheme => "relative URL without a base"
  | emptyHost => "empty host"
  | badHostName => "invalid international domain name"
  | badHostCharacter => "invalid domain character"
  | badV4 => "invalid IPv4 address"
  | badV6 => "invalid IPv6 address"
  | badPort => "invalid port number"

/-- A host number of eight groups. -/
structure HostGroups where
  groups : List UInt16
  size_eq : groups.length = 8
  deriving DecidableEq, Repr

/-- Where a service lives. -/
inductive Host where
  /-- A name in small letters. -/
  | name (labels : List Char)
  /-- Four bytes, as one number. -/
  | v4 (number : UInt32)
  /-- Eight groups of sixteen bits. -/
  | v6 (number : HostGroups)
  deriving DecidableEq, Repr

namespace Host

/-! ## Numbers of four bytes -/

/-- The value of a digit in small or capital letters, if it is below the radix. -/
def digitIn? (radix : Nat) (c : Char) : Option Nat :=
  let n := c.toNat
  let v? := if 48 ≤ n ∧ n ≤ 57 then some (n - 48)
    else if 97 ≤ n ∧ n ≤ 102 then some (n - 87)
    else if 65 ≤ n ∧ n ≤ 70 then some (n - 55)
    else none
  v?.bind fun v => if v < radix then some v else none

/-- The number that digits denote; no digits denote zero. -/
def numberIn? (radix : Nat) (s : List Char) : Option Nat :=
  s.foldlM (fun n c => (digitIn? radix c).map (radix * n + ·)) 0

/-- One part of a dotted number: hexadecimal behind `0x`, octal behind `0`, decimal otherwise. -/
def part? : List Char → Option Nat
  | [] => none
  | '0' :: 'x' :: ds => numberIn? 16 ds
  | '0' :: 'X' :: ds => numberIn? 16 ds
  | '0' :: d :: ds => numberIn? 8 (d :: ds)
  | ds => numberIn? 10 ds

/-- The parts of a dotted text, without the empty one behind a last dot. -/
def dottedParts (s : List Char) : List (List Char) :=
  let ps := Text.pieces (· == '.') s
  if ps.getLast? = some [] then ps.dropLast else ps

/-- Whether a name has to be read as a number: its last part is one, or looks like one. -/
def endsInNumber (s : List Char) : Bool :=
  match (dottedParts s).getLast? with
  | none => false
  | some last => (!last.isEmpty && last.all Text.isDigit) || (part? last).isSome

/-- Up to four parts. Each but the last is a byte, and the last fills the bytes that remain. -/
def readV4 (s : List Char) : Except AddressFault UInt32 :=
  match (dottedParts s).mapM part? with
  | none => .error .badV4
  | some ns =>
    let bytes := ns.dropLast
    let last := ns.getLastD 0
    if ns.length ≤ 4 ∧ bytes.all (· < 256) ∧ last < Nat.pow 256 (4 - bytes.length) then
      let leading := bytes.foldl (fun n b => 256 * n + b) 0
      .ok (UInt32.ofNat (leading * Nat.pow 256 (4 - bytes.length) + last))
    else .error .badV4

/-- Four bytes in decimal with dots between them. -/
def v4Text (n : UInt32) : List Char :=
  let n := n.toNat
  Text.joined ['.'] ([n / 16777216, n / 65536 % 256, n / 256 % 256, n % 256].map Text.natural)

/-! ## Numbers of eight groups -/

/-- One to four hexadecimal digits. -/
def group? (s : List Char) : Option UInt16 :=
  if s.isEmpty || 4 < s.length then none else (numberIn? 16 s).map UInt16.ofNat

/-- A byte in decimal, without superfluous zeros. -/
def octet? (s : List Char) : Option Nat :=
  if s.isEmpty || (s.head? == some '0' && 1 < s.length) then none
  else (numberIn? 10 s).bind fun n => if n < 256 then some n else none

/-- Four bytes with dots between them stand for two groups. -/
def dottedGroups? (s : List Char) : Option (List UInt16) :=
  match (Text.pieces (· == '.') s).mapM octet? with
  | some [a, b, c, d] => some [UInt16.ofNat (256 * a + b), UInt16.ofNat (256 * c + d)]
  | _ => none

/-- Groups one after the other. Only the last of all may be dotted. -/
def groups? (dotted : Bool) : List (List Char) → Option (List UInt16)
  | [] => some []
  | [last] =>
    if dotted && last.contains '.' then dottedGroups? last else (group? last).map ([·])
  | g :: rest =>
    match group? g, groups? dotted rest with
    | some n, some ns => some (n :: ns)
    | _, _ => none

/-- The groups on one side of a double colon; there may be none. -/
def side? (dotted : Bool) (s : List Char) : Option (List UInt16) :=
  if s.isEmpty then some [] else groups? dotted (Text.pieces (· == ':') s)

/-- The text before and behind the first double colon. -/
def splitDoubleColon : List Char → Option (List Char × List Char)
  | ':' :: ':' :: rest => some ([], rest)
  | c :: rest => (splitDoubleColon rest).map fun (before, after) => (c :: before, after)
  | [] => none

/-- Fills in the zeros that a double colon stands for, which is one group at least. -/
def fill? (before after : List UInt16) : Option (List UInt16) :=
  let n := before.length + after.length
  if n ≤ 7 then some (before ++ List.replicate (8 - n) 0 ++ after) else none

/-- Eight groups with colons between them, of which a double colon may stand for a run of zeros. -/
def readV6 (s : List Char) : Except AddressFault HostGroups :=
  let gs? := match splitDoubleColon s with
    | none => side? true s
    | some (before, after) =>
      match side? false before, side? true after with
      | some a, some b => fill? a b
      | _, _ => none
  match gs? with
  | none => .error .badV6
  | some gs => if h : gs.length = 8 then .ok ⟨gs, h⟩ else .error .badV6

/-- How many zeros stand at the start. -/
def zerosAtStart (gs : List UInt16) : Nat := (gs.takeWhile (· == 0)).length

/-- Where the first of the longest runs of two or more zeros starts, and its length. -/
def zeroRun? (gs : List UInt16) : Option (Nat × Nat) :=
  let runs := (List.range gs.length).map fun i => zerosAtStart (gs.drop i)
  let longest := runs.foldl max 0
  if longest < 2 then none else (runs.findIdx? (· == longest)).map (·, longest)

/-- Groups in hexadecimal with colons between them. -/
def groupsText (gs : List UInt16) : List Char :=
  Text.joined [':'] (gs.map fun g => Text.hex g.toNat)

/-- Eight groups; a double colon stands for the first of the longest runs of zeros. -/
def v6Text (number : HostGroups) : List Char :=
  let gs := number.groups
  match zeroRun? gs with
  | none => groupsText gs
  | some (start, size) => groupsText (gs.take start) ++ ':' :: ':' :: groupsText (gs.drop (start + size))

/-! ## Names -/

/-- The characters that no host name may have, besides those that are not ASCII. -/
def isForbidden (c : Char) : Bool :=
  c.toNat ≤ 0x20 || c.toNat == 0x7F || "%#/:<>?@[\\]^|".toList.contains c

/-- A character that a name may have, in small letters. -/
structure IsSign (c : Char) : Prop where
  ascii : c.toNat < 0x80
  allowed : isForbidden c = false
  small : c.toLower = c

/-- The bytes of ASCII characters. -/
def asciiBytes (s : List Char) : List UInt8 := s.map fun c => UInt8.ofNat c.toNat

/-- Whether a part of the name has the mark of names beyond ASCII. -/
def isMarked (s : List Char) : Bool := (Text.pieces (· == '.') s).any ("xn--".toList.isPrefixOf ·)

end Host

/-- How names beyond ASCII are mapped to ASCII, and names with their mark are judged. The tables for this are not
kept here. -/
class InternationalNames where
  /-- The name that the bytes are mapped to, if they are a name. -/
  mapped? : List UInt8 → Option (List Char)
  /-- Names are mapped to signs. -/
  signs : ∀ {bytes : List UInt8} {name : List Char}, mapped? bytes = some name → ∀ c ∈ name, Host.IsSign c
  /-- A name that has been mapped is mapped to itself. -/
  settled : ∀ {bytes : List UInt8} {name : List Char}, mapped? bytes = some name →
    mapped? (Host.asciiBytes name) = some name

/-- No names beyond ASCII are known. -/
@[reducible] def InternationalNames.unknown : InternationalNames where
  mapped? _ := none
  signs h := nomatch h
  settled h := nomatch h

namespace Host

/-- A name once its percent signs are resolved. -/
def name? [names : InternationalNames] (bytes : List UInt8) : Option (List Char) :=
  let s := bytes.map fun b => (Char.ofNat b.toNat).toLower
  if s.all (·.toNat < 0x80) && !isMarked s then if s.any isForbidden then none else some s
  else names.mapped? bytes

/-! ## Hosts -/

/-- Reads the host of a web address. -/
def read [InternationalNames] : List Char → Except AddressFault Host
  | '[' :: s =>
    if s.getLast? = some ']' then (readV6 s.dropLast).map v6 else .error .badV6
  | s =>
    match name? (Text.percentDecode (Text.utf8 s)) with
    | none => .error .badHostName
    | some [] => .error .emptyHost
    | some labels => if endsInNumber labels then (readV4 labels).map v4 else .ok (.name labels)

/-- The host as an address shows it. -/
def text : Host → List Char
  | name labels => labels
  | v4 number => v4Text number
  | v6 number => '[' :: (v6Text number ++ [']'])

end Host

end PolicyDesk
