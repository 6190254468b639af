import PolicyDesk.Text.Quoted
import PolicyDesk.Text.Integer
import PolicyDesk.Web.FormBody
import PolicyDesk.Web.Response

/-!
# What a browser asks for

* `Visit`: a request of a browser.
* `Route`: the paths that the desk knows.
* `Action`: what a browser can have done.
* `Rejection`: why a request to have something done is turned away.
* `Visit.verdict`: what a request comes to. The desk itself does not matter for it.
-/

namespace PolicyDesk.Web

/-- A request of a browser. -/
structure Visit where
  method : String
  /-- The address, from the path on. -/
  target : String
  contentType : Option String
  body : List UInt8
  deriving DecidableEq, Repr

/-- The path of an address, which may also be a full one. -/
def pathOf (target : List Char) : List Char :=
  let s := target.takeWhile fun c => c != '?' && c != '#'
  match s with
  | '/' :: _ => s
  | _ =>
    match s.dropWhile (· != ':') with
    | ':' :: '/' :: '/' :: rest =>
      let path := rest.dropWhile (· != '/')
      if path.isEmpty then ['/'] else path
    | _ => []

/-! ## Routes -/

/-- The paths that the desk knows. Identifiers are kept as they stand in the path. -/
inductive Route where
  | page
  | health
  | add
  | refresh
  | update
  | new
  | select (id : List Char)
  | edit (id : List Char)
  | delete (id : List Char)
  deriving DecidableEq, Repr

/-- The route of a path. -/
def Route.ofPath? (path : List Char) : Option Route :=
  match (Text.pieces (· == '/') path).map String.ofList with
  | ["", ""] => some page
  | ["", "health"] => some health
  | ["", "policies"] => some add
  | ["", "policies", "refresh"] => some refresh
  | ["", "policies", "update"] => some update
  | ["", "policies", "new"] => some new
  | ["", "policies", id, "select"] => some (select id.toList)
  | ["", "policies", id, "edit"] => some (edit id.toList)
  | ["", "policies", id, "delete"] => some (delete id.toList)
  | _ => none

/-- What a browser can have done. -/
inductive Action where
  | refresh
  | add (form : PolicyForm)
  | update (form : PolicyForm)
  | new
  | select (id : UInt64)
  | edit (id : UInt64)
  | delete (id : UInt64)
  deriving DecidableEq, Repr

/-! ## Rejections -/

/-- Why a request to have something done is turned away. -/
inductive Rejection where
  /-- The identifier in the path is no text. -/
  | idNotText
  /-- The identifier in the path is no number. -/
  | idNotNumber (id : String)
  /-- The body is not announced as a form. -/
  | notAForm
  /-- The body is too long. -/
  | tooLong
  /-- A field of the form comes twice. -/
  | repeatedField (field : PolicyField)
  deriving DecidableEq, Repr

/-- The answer that tells of a rejection. -/
def Rejection.response : Rejection → Response
  | idNotText => .plain 400 "Invalid URL: Invalid UTF-8 in \x60id\x60"
  | idNotNumber id =>
    .plain 400 ("Invalid URL: Cannot parse \x60" ++ Text.quoted id ++ "\x60 to a \x60u64\x60")
  | notAForm =>
    .plain 415 "Form requests must have \x60Content-Type: application/x-www-form-urlencoded\x60"
  | tooLong => .plain 413 "Failed to buffer the request body: length limit exceeded"
  | repeatedField field =>
    .plain 422 ("Failed to deserialize form body: duplicate field \x60" ++ field.name ++ "\x60")

/-- The type of form bodies. -/
def formType : String := "application/x-www-form-urlencoded"

/-- The longest body of a form, in bytes. -/
def longestBody : Nat := 2097152

/-- Whether the body is announced as a form. Only a header of printable ASCII is looked at. -/
def Visit.announcesForm (v : Visit) : Bool :=
  match v.contentType with
  | none => false
  | some t =>
    let s := t.toList
    s.all (fun c => (0x20 ≤ c.toNat && c.toNat < 0x7F) || c == '\t') && formType.toList.isPrefixOf s

/-- The form in the body. -/
def Visit.form (v : Visit) : Except Rejection PolicyForm :=
  if !v.announcesForm then .error .notAForm
  else if longestBody < v.body.length then .error .tooLong
  else (PolicyForm.ofPairs (FormBody.pairs v.body)).mapError .repeatedField

/-- The identifier in a path. -/
def identifier (id : List Char) : Except Rejection UInt64 :=
  match Text.resolved? id with
  | none => .error .idNotText
  | some s =>
    match Text.readUnsigned (UInt64.size - 1) s.toList with
    | .ok n => .ok (UInt64.ofNat n)
    | .error _ => .error (.idNotNumber s)

/-! ## Verdicts -/

/-- What a request comes to. -/
inductive Verdict where
  /-- The answer is the same whatever the desk holds. -/
  | plain (response : Response)
  /-- The policy page, perhaps without its body. -/
  | page (headOnly : Bool)
  /-- Something is to be done. -/
  | act (action : Action)
  deriving DecidableEq, Repr

/-- Something is to be done unless the request is turned away. -/
def Verdict.ofAction : Except Rejection Action → Verdict
  | .ok a => act a
  | .error r => plain r.response

/-- Something to be looked at, which may be asked for with or without its body. -/
def Visit.looksAt (v : Visit) (verdict : Bool → Verdict) : Verdict :=
  if v.method = "GET" then verdict false
  else if v.method = "HEAD" then verdict true
  else .plain (.verbs "GET,HEAD")

/-- Something to be done, which only one verb asks for. -/
def Visit.asksFor (v : Visit) (action : Except Rejection Action) : Verdict :=
  if v.method = "POST" then .ofAction action else .plain (.verbs "POST")

/-- What a request comes to. -/
def Visit.verdict (v : Visit) : Verdict :=
  match Route.ofPath? (pathOf v.target.toList) with
  | none => .plain .unknownPath
  | some .page => v.looksAt .page
  | some .health =>
    let ok := Response.plain 200 "OK"
    v.looksAt fun headOnly => .plain (if headOnly then ok.headed else ok)
  | some .refresh => v.asksFor (.ok .refresh)
  | some .add => v.asksFor (v.form.map .add)
  | some .update => v.asksFor (v.form.map .update)
  | some .new => v.asksFor (.ok .new)
  | some (.select id) => v.asksFor ((identifier id).map .select)
  | some (.edit id) => v.asksFor ((identifier id).map .edit)
  | some (.delete id) => v.asksFor ((identifier id).map .delete)

end PolicyDesk.Web
