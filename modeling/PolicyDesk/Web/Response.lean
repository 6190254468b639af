import PolicyDesk.Page.Layout

/-!
# What a browser is answered

* `Response`: a status, a few headers and a body.
* `Failure`: something that went wrong on the way to an answer.
* `Response.ofView`: the policy page.
-/

namespace PolicyDesk.Web

/-- What a browser is answered. -/
structure Response where
  status : Nat
  contentType : Option String
  location : Option String
  allow : Option String
  body : String
  deriving DecidableEq, Repr

namespace Response

/-- A text. -/
def plain (status : Nat) (body : String) : Response :=
  ⟨status, some "text/plain; charset=utf-8", none, none, body⟩

/-- A page. -/
def html (status : Nat) (body : String) : Response :=
  ⟨status, some "text/html; charset=utf-8", none, none, body⟩

/-- Sends the browser back to the policy page. -/
def back : Response := ⟨303, none, some "/", none, ""⟩

/-- Tells which verbs a path knows. -/
def verbs (allow : String) : Response := ⟨405, none, none, some allow, ""⟩

/-- The answer without its body. -/
def headed (r : Response) : Response := { r with body := "" }

/-- The page for paths that do not exist. -/
def unknownPath : Response := html 404 <| Page.lines [
  "",
  "<!DOCTYPE html>",
  "<html>",
  "<head>",
  "    <title>404 - Not Found</title>",
  "    <style>",
  "        body \x7b font-family: Arial, sans-serif; margin: 40px; \x7d",
  "        .error \x7b color: #d32f2f; \x7d",
  "    </style>",
  "</head>",
  "<body>",
  "    <h1 class=\"error\">404 - Page Not Found</h1>",
  "    <p><a href=\"/\">← Back to Insurance Policies</a></p>",
  "</body>",
  "</html>",
  "    "]

end Response

/-- Something that went wrong on the way to an answer. -/
structure Failure where
  status : Nat
  message : String
  deriving DecidableEq, Repr

/-- The answer that tells of a failure. -/
def Failure.response (f : Failure) : Response := .plain f.status f.message

/-- The page cannot be made because its template is missing. -/
def noTemplate : Failure := ⟨500, "Template rendering error: Template 'policies.html' not found"⟩

/-- The policy page, if there is a template for it. -/
def Response.ofView (template : Bool) (status : Nat) (v : Page.View) : Response :=
  if template then .html status v.text else noTemplate.response

end PolicyDesk.Web
