import InsectPortal.Http.Endpoint
import InsectPortal.Http.Header
import InsectPortal.Text.Digits

/-!
# Requests

The request that a call is sent as. User and password of the base address travel in a field of their
own, never in the address of the request.
-/
namespace InsectPortal

structure Request where
  method : Method
  url : Url
  headers : List Header
  body : Option String
  deriving DecidableEq, Repr

namespace Request

def contentType : String := "content-type"

def basic (name password : String) : Header :=
  ⟨"authorization",
    "Basic " ++ String.ofList (Text.base64 (name ++ ":" ++ password).toUTF8.toList), true⟩

/-- The user of an address as a field, and the address without. An address whose user is no text
stays as it is. -/
def splitUser (u : Url) : Option Header × Url :=
  match Url.decode? u.username.toList with
  | none => (none, u)
  | some name =>
    let password := if u.password = "" then none else Url.decode? u.password.toList
    if name = "" ∧ password = none then (none, u)
    else (some (basic name (password.getD "")), u.anonymous)

def ofEndpoint (base : Url) (e : Endpoint) : Request :=
  let (user, url) := splitUser (e.url base)
  let headers := user.toList
  match e.payload with
  | some v => ⟨e.method, url, Header.addMissing headers ⟨contentType, "application/json", false⟩,
      some v.compact⟩
  | none => ⟨e.method, url, headers, none⟩

def carry (a : Authorizer) (items : Items) (headers : List Header) :
    TokenUse → Except Failure (List Header)
  | .none => .ok headers
  | .stored => a.authorize items headers
  | .given token => a.authorizeWith token headers

/-- The request for a call; stored items are looked at as they are now. -/
def ofCall (base : Url) (a : Authorizer) (items : Items) (c : Call) : Except Failure Request :=
  let r := ofEndpoint base c.endpoint
  (carry a items r.headers c.tokenUse).map fun headers =>
    { r with headers := Header.addMissing headers ⟨"accept", "*/*", false⟩ }

def maxUrl : Nat := 65534

def isHostSendable : Host → Bool
  | .domain name => !name.toList.any ['"', '\x60', '\x7b', '\x7d'].contains
  | _ => true

def isSendable (r : Request) : Bool :=
  isHostSendable r.url.host && r.url.text.utf8ByteSize ≤ maxUrl

def value? (r : Request) (name : String) : Option String :=
  (Header.values r.headers name).head?.map (·.value)

end Request

end InsectPortal
