/-!
# Text inside markup

* `escape`: a text with the six characters that could end it, or start something else, written as
  entities.
* `Piece`: a page is a list of pieces; each is markup, or a text that has to be escaped.
* `render`: the page put together.
-/

namespace PolicyDesk.Page

/-- A character of a text as it stands in markup. -/
def escapeChar (c : Char) : List Char :=
  if c = '&' then "&amp;".toList
  else if c = '<' then "&lt;".toList
  else if c = '>' then "&gt;".toList
  else if c = '"' then "&quot;".toList
  else if c.toNat = 0x27 then "&#x27;".toList
  else if c = '/' then "&#x2F;".toList
  else [c]

/-- A text as it stands in markup. -/
def escape (s : List Char) : List Char := s.flatMap escapeChar

/-- A piece of a page. -/
inductive Piece where
  /-- Markup, which is the same whatever the page shows. -/
  | markup (text : String)
  /-- A text that the page shows. -/
  | shown (text : String)
  deriving DecidableEq, Repr

/-- What a piece adds to the page. -/
def Piece.render : Piece → List Char
  | markup text => text.toList
  | shown text => escape text.toList

/-- The page put together. -/
def render (ps : List Piece) : String := String.ofList (ps.flatMap Piece.render)

/-- Lines with a line break between them. -/
def lines (ls : List String) : String := "\n".intercalate ls

end PolicyDesk.Page
