import InsectPortal.Failure
import InsectPortal.Keyring
import InsectPortal.Text.Blank

/-!
# Header fields and the token

The token travels in one header field, whose name can be chosen. A name is a token of the HTTP
grammar, kept in lower case; a value is any text without control characters other than a tab.
-/
namespace InsectPortal

/-- A field of a request. A sensitive value is never shown. -/
structure Header where
  name : String
  value : String
  sensitive : Bool
  deriving DecidableEq, Repr

namespace Header

def isNameChar (c : Char) : Bool :=
  c.isAlphanum || "!#$%&'*+-.^_\x60|~".toList.contains c

def maxName : Nat := 65535

/-- A field name in lower case, after its blanks are dropped. -/
def name? (s : String) : Option String :=
  let t := Text.trim s
  if t ≠ "" ∧ t.length ≤ maxName ∧ t.toList.all isNameChar then some (Text.lowerAscii t) else none

/-- Whether a text can be sent as a field value: no control character but a tab. -/
def isValue (s : String) : Bool :=
  s.toList.all fun c => c == '\t' || (32 ≤ c.toNat && c.toNat ≠ 127)

def append (headers : List Header) (h : Header) : List Header := headers ++ [h]

def replace (headers : List Header) (h : Header) : List Header :=
  headers.filter (·.name ≠ h.name) ++ [h]

def addMissing (headers : List Header) (h : Header) : List Header :=
  if headers.any (·.name == h.name) then headers else headers ++ [h]

def values (headers : List Header) (name : String) : List Header :=
  headers.filter (·.name = name)

end Header

/-- The rule by which requests carry the token: in the field of this name. -/
structure Authorizer where
  header : String
  deriving DecidableEq, Repr

namespace Authorizer

def defaultHeader : String := "auth-token"

def ofName (name : String) : Except Failure Authorizer :=
  match Header.name? name with
  | some header => .ok ⟨header⟩
  | none =>
    .error (.validation "auth_header"
      s!"invalid auth header name '{name}': invalid HTTP header name")

def field (a : Authorizer) (token : String) : Except Failure Header :=
  if Header.isValue token then .ok ⟨a.header, token, true⟩
  else .error (.validation "auth_token" "stored token is not a valid header value")

def stored (a : Authorizer) (items : Items) : Except Failure (Option Header) :=
  match items.credential.token with
  | none => .ok none
  | some token => (a.field token).map some

def authorize (a : Authorizer) (items : Items) (headers : List Header) :
    Except Failure (List Header) :=
  (a.stored items).map fun
    | none => headers
    | some h => Header.replace headers h

def authorizeWith (a : Authorizer) (token : String) (headers : List Header) :
    Except Failure (List Header) :=
  (a.field token).map (Header.append headers)

end Authorizer

end InsectPortal
