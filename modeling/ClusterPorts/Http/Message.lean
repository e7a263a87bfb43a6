import ClusterPorts.Http.Form
import ClusterPorts.Http.Status
import ClusterPorts.Json.Reader
import ClusterPorts.Text.Blank
import ClusterPorts.Text.Utf8

/-!
# Requests and answers
-/

namespace ClusterPorts.Http

/-- What is to be done with a resource. -/
inductive Method where
  | get
  | put
  | post
  | delete
deriving DecidableEq, Repr, Inhabited

/-- The name of a method. -/
def Method.text : Method → String
  | .get => "GET"
  | .put => "PUT"
  | .post => "POST"
  | .delete => "DELETE"

/-- What a request carries. -/
inductive Content where
  | empty
  | document (value : Json)
  | form (fields : List (String × String))
deriving Inhabited

/-- A request, as it goes to the server of its address. -/
structure Request where
  method : Method
  url : Url
  authorization : Option String
  contentType : String
  content : Content
deriving Inhabited

/-- Why a request is not answered. -/
inductive Fault where
  /-- The address cannot be read, or a header may not be sent. -/
  | unsendable
  /-- The address is not one of a server that takes requests. -/
  | unsupported (url : String)
  /-- The server does not answer. -/
  | unanswered (url : String)
deriving DecidableEq, Repr

/-- The wording of each fault. -/
def Fault.message : Fault → String
  | .unsendable => "builder error"
  | .unsupported url => "builder error for url (" ++ url ++ ")"
  | .unanswered url => "error sending request for url (" ++ url ++ ")"

/-- Whether a header may have a value: there are no control characters in it but
the tab. -/
def isHeaderValue (s : String) : Bool :=
  s.toList.all fun c => (0x20 ≤ c.toNat && c.toNat ≠ 0x7F) || c = '\t'

/-- Make a request to an address that is given as text. -/
def Request.to (address : String) (method : Method) (authorization : Option String)
    (contentType : String) (content : Content) : Except Fault Request :=
  match Url.parse? address with
  | none => .error .unsendable
  | some url =>
    if url.host.isNone then .error (.unsupported url.text)
    else if authorization.any (!isHeaderValue ·) then .error .unsendable
    else if url.isWeb then .ok ⟨method, url, authorization, contentType, content⟩
    else .error (.unsupported url.text)

/-- What an answer carries. -/
inductive Body where
  /-- A document. -/
  | document (value : Json)
  | bytes (array : ByteArray)
  /-- The connection was lost before the end. -/
  | cut

namespace Body

/-- The text of what an answer carries, if it can be read. -/
def text? : Body → Option String
  | .document value => some value.compress
  | .bytes array => some (Text.ofBytes array)
  | .cut => none

/-- Read what an answer carries as a document. -/
def read? (body : Body) (decode : Json.Node → Except Json.Problem α) : Option α :=
  match body with
  | .document value => (decode value.node).toOption
  | .bytes array => do
    let s ← String.fromUTF8? array
    ((Json.Document.ofText s).read decode).toOption
  | .cut => none

end Body

/-- An answer. -/
structure Response where
  status : Status
  headers : List (String × String) := []
  body : Body := .bytes .empty

namespace Response

/-- A header's value without the blanks around it. -/
def trimmed (s : String) : String :=
  let isBlank (c : Char) : Bool := c = ' ' || c = '\t'
  String.ofList ((s.toList.dropWhile isBlank).reverse.dropWhile isBlank).reverse

/-- The value of a header, if it is ASCII. Of a header that is given more than
once the first one counts. -/
def header? (response : Response) (name : String) : Option String := do
  let (_, value) ← response.headers.find? fun (n, _) => Text.sameLetters n name
  let value := trimmed value
  if value.toList.all fun c => (0x20 ≤ c.toNat && c.toNat < 0x7F) || c = '\t' then some value
  else none

end Response

end ClusterPorts.Http
