import PolicyDesk.Text.Pieces
import PolicyDesk.Text.Quoted

/-!
# Writing a JSON text

* `quote`: a string, with quotes, backslashes and controls escaped.
* `Member`: a name with a value that is written on one line.
* `compact`, `compactList`: an object, and a list of objects, without any space.
* `indented`, `indentedList`: the same with a line for each member, two spaces for each level.
-/

namespace PolicyDesk.Json

/-- A character inside a string. -/
def stringChar (c : Char) : List Char :=
  if c = '"' then ['\\', '"']
  else if c = '\\' then ['\\', '\\']
  else if c.toNat = 8 then ['\\', 'b']
  else if c.toNat = 9 then ['\\', 't']
  else if c.toNat = 10 then ['\\', 'n']
  else if c.toNat = 12 then ['\\', 'f']
  else if c.toNat = 13 then ['\\', 'r']
  else if c.toNat < 0x20 then
    ['\\', 'u', '0', '0', Text.hexDigit (c.toNat / 16), Text.hexDigit (c.toNat % 16)]
  else [c]

/-- A string between its quotes. -/
def quote (s : List Char) : List Char := '"' :: (s.flatMap stringChar ++ ['"'])

/-- A boolean. -/
def boolText (b : Bool) : List Char := if b then "true".toList else "false".toList

/-- A member of an object: its name and its value as it is written. -/
structure Member where
  name : String
  value : List Char
  deriving DecidableEq, Repr

/-- An object without any space. -/
def compact (members : List Member) : List Char :=
  '\x7b' :: (Text.joined [','] (members.map fun m => quote m.name.toList ++ ':' :: m.value) ++
    ['\x7d'])

/-- A list of objects without any space. -/
def compactList (objects : List (List Member)) : List Char :=
  '[' :: (Text.joined [','] (objects.map compact) ++ [']'])

/-- A new line on the given level. -/
def newLine (level : Nat) : List Char := '\n' :: List.replicate (2 * level) ' '

/-- An object with a line for each member, on the given level. -/
def indented (level : Nat) (members : List Member) : List Char :=
  let lines := members.map fun m => quote m.name.toList ++ ':' :: ' ' :: m.value
  if members.isEmpty then ['\x7b', '\x7d']
  else '\x7b' :: (newLine (level + 1) ++ Text.joined (',' :: newLine (level + 1)) lines ++
    newLine level ++ ['\x7d'])

/-- A list of objects with a line for each member. -/
def indentedList (objects : List (List Member)) : List Char :=
  if objects.isEmpty then ['[', ']']
  else '[' :: (newLine 1 ++ Text.joined (',' :: newLine 1) (objects.map (indented 1)) ++
    newLine 0 ++ [']'])

end PolicyDesk.Json
