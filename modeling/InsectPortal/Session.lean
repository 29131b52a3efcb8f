import InsectPortal.Failure
import InsectPortal.Keyring
import InsectPortal.Section

/-!
# The session

The state machine behind every operation: signed out, signed in with the role still unknown, signed
in with a role. The epoch counts the transitions into and out of being signed in. A role lookup
carries the epoch and the user it was made for in a ticket, and its answer counts only while both
are still those of the session.
-/
namespace InsectPortal

/-- The right to complete one role lookup. -/
structure Ticket where
  epoch : Nat
  user : String
  deriving DecidableEq, Repr

structure Session where
  keyring : Keyring
  state : SessionState
  epoch : Nat
  /-- A role lookup was issued in this session and not answered yet. -/
  lookupPending : Bool
  deriving DecidableEq

namespace Session

def ofKeyring (k : Keyring) : Session := ⟨k, ⟨k.isPresent, .unknown⟩, 0, false⟩

def ofItems (items : Items) : Session := ofKeyring (.ofItems items)

def credential (s : Session) : Credential := s.keyring.credential

/-- Takes on a state. A change between signed in and signed out starts a new epoch, and a lookup
that is still pending belongs to the past. -/
def enter (s : Session) (next : SessionState) : Session :=
  { s with
    state := next
    epoch := if next.signedIn = s.state.signedIn then s.epoch else s.epoch + 1
    lookupPending := false }

def guardSignIn (s : Session) : Except Failure Unit :=
  if s.state.signedIn then .error .alreadySignedIn else .ok ()

def signIn (s : Session) (token user : String) : Except Failure Session :=
  if s.state.signedIn then .error .alreadySignedIn
  else if token = "" ∨ user = "" then .error .emptyCredential
  else .ok ({ s with keyring := s.keyring.establish token user }.enter ⟨true, .unknown⟩)

def signUp (s : Session) : Session := s

def drop (s : Session) : Session :=
  { s with keyring := s.keyring.clear }.enter .signedOut

/-- A ticket for a role lookup, if one is due: signed in, no role known, and no lookup pending. -/
def beginLookup (s : Session) : Option (Ticket × Session) :=
  if s.state.wantsRole && !s.lookupPending then
    s.keyring.user?.map fun user => (⟨s.epoch, user⟩, { s with lookupPending := true })
  else none

def isCurrent (s : Session) (t : Ticket) : Bool :=
  s.state.signedIn && t.epoch == s.epoch && s.keyring.user? == some t.user

/-- The answer of a lookup: whether it changes the role, and the session after it. -/
def completeLookup (s : Session) (t : Ticket) (role : Role) : Bool × Session :=
  if s.isCurrent t then
    if role.isResolved && !s.state.role.isResolved then
      (true, { s with lookupPending := false, state := { s.state with role } })
    else (false, { s with lookupPending := false })
  else (false, s)

def failLookup (s : Session) (t : Ticket) : Bool × Session :=
  if s.isCurrent t then (true, { s with lookupPending := false }) else (false, s)

end Session

inductive SessionEvent where
  | signIn (token user : String)
  | signUp
  | signOut
  | reject
  | beginLookup
  | completeLookup (ticket : Ticket) (role : Role)
  | failLookup (ticket : Ticket)
  deriving DecidableEq, Repr

def Session.next (s : Session) : SessionEvent → Session
  | .signIn token user => (s.signIn token user).toOption.getD s
  | .signUp => s.signUp
  | .signOut | .reject => s.drop
  | .beginLookup => (s.beginLookup.map (·.2)).getD s
  | .completeLookup t role => (s.completeLookup t role).2
  | .failLookup t => (s.failLookup t).2

end InsectPortal
