import PolicyDesk.Desk.Basic
import PolicyDesk.Page.Entry
import PolicyDesk.Page.Markup

/-!
# The policy page

* `View`: what the page shows: the policies, the policy in the form, and an error.
* `View.pieces`: the page in pieces: a banner if there is an error, a table with a row for each policy, and
  the form.
* `View.text`: the page.
-/

namespace PolicyDesk.Page

/-- What the page shows. -/
structure View where
  policies : List Entry
  selected : Entry
  error : Option String
  deriving DecidableEq, Repr

/-- What the page shows of a desk. -/
def View.ofDesk (d : Desk) : View where
  policies := d.policies.map Entry.ofPolicy
  selected := Entry.ofPolicy d.selected
  error := d.lastError

/-! ## The top and the banner -/

/-- The page up to the banner. -/
def top : Piece := .markup <| lines [
  "<!DOCTYPE html>",
  "<html lang=\"en\">",
  "<head>",
  "    <meta charset=\"utf-8\">",
  "    <title>Insurance Policies</title>",
  "    <style>",
  "        body \x7b font-family: Arial, sans-serif; margin: 40px; \x7d",
  "        table \x7b border-collapse: collapse; margin: 16px 0; \x7d",
  "        th, td \x7b border: 1px solid #ccc; padding: 6px 10px; text-align: left; \x7d",
  "        .error \x7b color: #d32f2f; border: 1px solid #d32f2f; padding: 8px; \x7d",
  "        .row-actions form \x7b display: inline; \x7d",
  "        label \x7b display: block; margin: 6px 0; \x7d",
  "    </style>",
  "</head>",
  "<body>",
  "    <h2>Insurance Policies</h2>",
  "",
  "    <form method=\"post\" action=\"/policies/refresh\">",
  "        <button type=\"submit\">Refresh Policies</button>",
  "    </form>",
  "",
  "    "]

/-- The space between the parts of the page. -/
def gap : Piece := .markup (lines ["", "", "    "])

/-- The error that the page shows; an empty one does not show. -/
def banner : Option String → List Piece
  | none => []
  | some e =>
    if e.isEmpty then []
    else [
      .markup (lines ["", "    <p class=\"error\" role=\"alert\">"]), .shown e,
      .markup (lines ["</p>", "    "])]

/-! ## The table -/

/-- The table up to the first row. -/
def tableTop : Piece := .markup <| lines [
  "",
  "    <table>",
  "        <thead>",
  "            <tr>",
  "                <th>Policy Number</th>",
  "                <th>Policy Type</th>",
  "                <th>Premium Amount</th>",
  "                <th>Start Date</th>",
  "                <th>End Date</th>",
  "                <th>Active</th>",
  "                <th>Customer</th>",
  "                <th></th>",
  "            </tr>",
  "        </thead>",
  "        <tbody>",
  "            "]

/-- A number as the page shows it. -/
def number (n : Nat) : Piece := .shown (String.ofList (Text.natural n))

/-- The end of a cell and the start of the next. -/
def nextCell : Piece := .markup (lines ["</td>", "                <td>"])

/-- The end of one button of a row and the start of the next. -/
def nextButton (action label : String) : Piece := .markup <| lines [
  "/" ++ action ++ "\"><button type=\"submit\">" ++ label ++ "</button></form>",
  "                    <form method=\"post\" action=\"/policies/"]

/-- The row of a policy. -/
def row (e : Entry) : List Piece := [
  .markup (lines ["", "            <tr id=\"policy-"]), number e.id.toNat,
  .markup (lines ["\">", "                <td>"]), .shown e.number,
  nextCell, .shown e.kind,
  nextCell, .shown e.premium,
  nextCell, .shown e.start,
  nextCell, .shown e.finish,
  nextCell, .markup (if e.active then "Yes" else "No"),
  nextCell, number e.customer.toNat,
  .markup (lines [
    "</td>",
    "                <td class=\"row-actions\">",
    "                    <form method=\"post\" action=\"/policies/"]), number e.id.toNat,
  nextButton "select" "Select", number e.id.toNat,
  nextButton "edit" "Update", number e.id.toNat,
  .markup (lines [
    "/delete\"><button type=\"submit\">Delete</button></form>",
    "                </td>",
    "            </tr>",
    "            "])]

/-- The table behind the last row. -/
def tableBottom : Piece := .markup (lines ["", "        </tbody>", "    </table>", "    "])

/-- The table with a row for each policy, or a line that says that there are none. -/
def table (es : List Entry) : List Piece :=
  if es.isEmpty then [.markup (lines ["", "    <p>No policies loaded.</p>", "    "])]
  else tableTop :: es.flatMap row ++ [tableBottom]

/-! ## The form -/

/-- What the form is for. -/
def heading (e : Entry) : List Piece :=
  if e.isNew then [.markup "New Policy"] else [.markup "Edit Policy #", number e.id.toNat]

/-- The end of a field of the form and the start of the next. -/
def nextField (label input : String) : Piece := .markup <| lines [
  "\">",
  "        </label>",
  "        <label>" ++ label,
  "            <input " ++ input ++ "\" value=\""]

/-- The button that sends the form. -/
def sendButton (e : Entry) : Piece :=
  let button :=
    if e.isNew then "<button type=\"submit\">Add Policy</button>"
    else "<button type=\"submit\" formaction=\"/policies/update\">Save Changes</button>"
  .markup (lines ["", "        " ++ button, "        "])

/-- The form. -/
def form (e : Entry) : List Piece := [
  .markup (lines [
    "</h3>",
    "    <form method=\"post\" action=\"/policies\">",
    "        <label>Policy Number",
    "            <input type=\"text\" name=\"policyNumber\" value=\""]), .shown e.number,
  nextField "Policy Type" "type=\"text\" name=\"policyType", .shown e.kind,
  nextField "Premium Amount" "type=\"number\" step=\"any\" name=\"premiumAmount", .shown e.exactPremium,
  nextField "Start Date" "type=\"date\" name=\"startDate", .shown e.start,
  nextField "End Date" "type=\"date\" name=\"endDate", .shown e.finish,
  nextField "Customer Id" "type=\"number\" name=\"customerId", number e.customer.toNat,
  .markup (lines [
    "\">",
    "        </label>",
    "        <label>",
    "            <input type=\"checkbox\" name=\"isActive\" value=\"true\""]),
  .markup (if e.active then " checked" else ""),
  .markup (lines ["> Active", "        </label>", "        "]),
  sendButton e,
  .markup (lines [
    "",
    "        <button type=\"submit\" formaction=\"/policies/new\">New Policy</button>",
    "    </form>",
    "</body>",
    "</html>",
    ""])]

/-! ## The page -/

/-- The page in pieces. -/
def View.pieces (v : View) : List Piece :=
  top :: banner v.error ++ gap :: table v.policies ++ .markup (lines ["", "", "    <h3>"]) ::
    heading v.selected ++ form v.selected

/-- The page. -/
def View.text (v : View) : String := render v.pieces

end PolicyDesk.Page
