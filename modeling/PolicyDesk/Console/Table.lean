import PolicyDesk.Policy.Basic
import PolicyDesk.Text.Pieces

/-!
# Policies in a table

`table`: a line of headings and a line for each policy. Columns are filled up with blanks and never cut.
-/

namespace PolicyDesk.Console

/-- A line of the table. -/
def line (id number kind premium start finish active customer : List Char) : List Char :=
  Text.joined [' '] [
    Text.padRight 6 id, Text.padRight 20 number, Text.padRight 14 kind, Text.padLeft 12 premium,
    Text.padRight 10 start, Text.padRight 10 finish, Text.padRight 6 active, customer]

/-- The headings. -/
def headings : List Char :=
  line "ID".toList "NUMBER".toList "TYPE".toList "PREMIUM".toList "START".toList "END".toList
    "ACTIVE".toList "CUSTOMER".toList

/-- The line of a policy. -/
def row (p : Policy) : List Char :=
  line (Text.natural p.id.toNat) p.number.toList p.kind.toList p.premium.twoPlaces p.start.text
    p.finish.text (if p.active then "yes" else "no").toList (Text.natural p.customer.toNat)

/-- The table. -/
def table (ps : List Policy) : String :=
  if ps.isEmpty then "No policies found."
  else String.ofList (Text.joined ['\n'] (headings :: ps.map row))

end PolicyDesk.Console
