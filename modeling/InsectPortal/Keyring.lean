import InsectPortal.Json.Record
import InsectPortal.Storage.Items

/-!
# The keyring

The keyring keeps the credential of the session in two stored items. It also keeps a journal of
every write it has made, oldest first, so that a file can follow it write by write.
-/
namespace InsectPortal

/-- What identifies a session: the token and the user it was granted to. -/
structure Credential where
  token : Option String
  userIdentifier : Option String
  deriving DecidableEq, Repr, Inhabited

namespace Credential

def isComplete (c : Credential) : Bool := c.token.isSome && c.userIdentifier.isSome

def isEmpty (c : Credential) : Bool := c.token.isNone && c.userIdentifier.isNone

def fields : List String := ["token", "user_identifier"]

def toJson (c : Credential) : Json :=
  .ofFields fields [.ofOption c.token, .ofOption c.userIdentifier]

def ofJson? (v : Json) : Option Credential := do
  match ← v.slots? fields with
  | [token, userIdentifier] =>
    some ⟨← token.nullable Json.str?, ← userIdentifier.nullable Json.str?⟩
  | _ => none

end Credential

namespace Items

def tokenKey : String := "token"

def userKey : String := "useremail"

/-- What a key holds; an empty text counts as nothing. -/
def filled? (items : Items) (key : String) : Option String :=
  (items.get? key).filter (· ≠ "")

def credential (items : Items) : Credential :=
  ⟨items.filled? tokenKey, items.filled? userKey⟩

end Items

structure Keyring where
  items : Items
  journal : List Write
  deriving DecidableEq

namespace Keyring

def write (k : Keyring) (w : Write) : Keyring := ⟨k.items.apply w, k.journal ++ [w]⟩

/-- The keyring over stored items. Half a credential is discarded, so what is left is complete or
empty. -/
def ofItems (items : Items) : Keyring :=
  let k : Keyring := ⟨items, []⟩
  if items.credential.isComplete || items.credential.isEmpty then k else k.write .clear

def credential (k : Keyring) : Credential := k.items.credential

def token? (k : Keyring) : Option String := k.credential.token

def user? (k : Keyring) : Option String := k.credential.userIdentifier

def isPresent (k : Keyring) : Bool := k.credential.isComplete

def save (k : Keyring) (user : String) : Keyring :=
  if user = "" then k else k.write (.set Items.userKey user)

def clear (k : Keyring) : Keyring := k.write .clear

/-- Records a token; without one, or with an empty one, everything is forgotten. -/
def setToken (k : Keyring) : Option String → Keyring
  | none => k.clear
  | some t => if t = "" then k.clear else k.write (.set Items.tokenKey t)

def establish (k : Keyring) (token user : String) : Keyring :=
  (k.write (.set Items.userKey user)).write (.set Items.tokenKey token)

end Keyring

end InsectPortal
