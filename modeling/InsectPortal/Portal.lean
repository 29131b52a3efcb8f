import InsectPortal.Operation
import InsectPortal.Section
import InsectPortal.Session

/-!
# The portal

The portal owns the session and the navigation and carries out the operations. An operation runs in
turns: each turn is uninterrupted and ends either with the outcome or with one call to the service
and what is needed to go on after its reply. `begin` is the first turn, `resume` a later one, so any
number of operations can wait at the same time and go on in any order.
-/
namespace InsectPortal

structure Portal where
  session : Session
  navigation : Navigation
  remoteSignOut : Bool
  deriving DecidableEq

inductive LookupOrigin where
  | start
  | signIn
  | refresh
  deriving DecidableEq, Repr

/-- A call in flight, with what its operation needs to go on. -/
inductive Pending where
  | grant (form : SignInForm)
  | account (form : SignUpForm)
  | lookup (ticket : Ticket) (origin : LookupOrigin)
  /-- The sign-out is done, and the service is told. -/
  | farewell (state : SessionState) (user token : String)
  /-- Admitted in this epoch, on behalf of this user. -/
  | gated (epoch : Nat) (user : String) (task : SectionTask)
  deriving DecidableEq, Repr

abbrev Pending.call : Pending → Call
  | .grant form => .signIn form
  | .account form => .signUp form
  | .lookup ticket _ => .checkRole ticket.user
  | .farewell _ user token => .signOut user token
  | .gated _ user task => task.call user

inductive Next where
  | finished (outcome : Outcome)
  | waiting (pending : Pending)

/-- A turn: the portal after it, what it told the user, and how it ends. -/
structure Turn where
  portal : Portal
  notes : List Notification
  next : Next

namespace Turn

def finish (p : Portal) (notes : List Notification) (outcome : Outcome) : Turn :=
  ⟨p, notes, .finished outcome⟩

def refuse (p : Portal) (e : Failure) : Turn := finish p [.ofFailure e] (.error e)

def wait (p : Portal) (notes : List Notification) (pending : Pending) : Turn :=
  ⟨p, notes, .waiting pending⟩

def outcome? (t : Turn) : Option Outcome :=
  match t.next with
  | .finished outcome => some outcome
  | .waiting _ => none

end Turn

namespace Portal

def ofSession (s : Session) (remoteSignOut : Bool) : Portal := ⟨s, .initial, remoteSignOut⟩

def ofItems (items : Items) (remoteSignOut : Bool) : Portal :=
  ofSession (.ofItems items) remoteSignOut

def state (p : Portal) : SessionState := p.session.state

def observe (p : Portal) : NavigationUpdate × Portal :=
  let (update, navigation) := p.navigation.observe p.state
  (update, { p with navigation })

def sections (p : Portal) : List Section × Portal :=
  let (sections, navigation) := p.navigation.visible p.state
  (sections, { p with navigation })

def moveTo (p : Portal) (s : Session) : Portal := ({ p with session := s }.observe).2

/-- Tells the user about a failed call that was made in an epoch. A rejected token ends the session
it was used in, and is passed over when that session has ended already. -/
def report (p : Portal) (epoch : Nat) (e : Failure) : Portal × List Notification :=
  if e.isAuthorization then
    if p.session.epoch = epoch ∧ p.state.signedIn then
      (p.moveTo p.session.drop, [.ofFailure e])
    else (p, [])
  else (p, [.ofFailure e])

def afterLookup (p : Portal) : LookupOrigin → Option Role → Outcome
  | .start, _ => .ok .none
  | .signIn, _ => .ok (.state p.state)
  | .refresh, applied => .ok (.role applied)

def beginLookup (p : Portal) (notes : List Notification) (origin : LookupOrigin) : Turn :=
  match p.session.beginLookup with
  | some (ticket, s) => .wait { p with session := s } notes (.lookup ticket origin)
  | none => .finish p notes (p.afterLookup origin none)

/-- Navigation looks at the session and has the role looked up where it is not known. -/
def settle (p : Portal) (notes : List Notification) (origin : LookupOrigin) : Turn :=
  let (update, p) := p.observe
  if update.roleLookupWanted then p.beginLookup notes origin
  else .finish p notes (p.afterLookup origin none)

def resumeLookup (p : Portal) (ticket : Ticket) (origin : LookupOrigin) :
    Except Failure String → Turn
  | .ok body =>
    let role := Role.decode body
    let (applied, s) := p.session.completeLookup ticket role
    if applied then
      let p := p.moveTo s
      .finish p [] (p.afterLookup origin (some role))
    else
      let p := { p with session := s }
      .finish p [] (p.afterLookup origin none)
  | .error e =>
    let (current, s) := p.session.failLookup ticket
    let p := { p with session := s }
    let (p, notes) := if current then p.report ticket.epoch e else (p, [])
    .finish p notes (if origin = .refresh then .error e else p.afterLookup origin none)

def beginSignIn (p : Portal) (form : SignInForm) : Turn :=
  match form.check with
  | .error e => .refuse p e
  | .ok () =>
    match p.session.guardSignIn with
    | .error e => .refuse p e
    | .ok () => .wait p [] (.grant form)

/-- Another sign-in may have come first; then the grant is refused. -/
def resumeSignIn (p : Portal) (form : SignInForm) : Except Failure SignInGrant → Turn
  | .error e => .finish p [.ofSignInFailure e] (.error e)
  | .ok grant =>
    match p.session.signIn grant.token form.useremail with
    | .error e => .refuse p e
    | .ok s => { p with session := s }.settle [.signedIn] .signIn

def beginSignUp (p : Portal) (form : SignUpForm) : Turn :=
  match form.check with
  | .error e => .refuse p e
  | .ok () => .wait p [] (.account form)

def resumeSignUp (p : Portal) : Except Failure Unit → Turn
  | .error e => .finish p [.ofSignUpFailure e] (.error e)
  | .ok () => .finish { p with session := p.session.signUp } [.signedUp] (.ok .none)

/-- The credential is gone before the service hears of it; the call carries the token that was. -/
def beginSignOut (p : Portal) : Turn :=
  if p.state.signedIn then
    let previous := p.session.credential
    let p := p.moveTo p.session.drop
    match p.remoteSignOut, previous.userIdentifier, previous.token with
    | true, some user, some token => .wait p [.signedOut] (.farewell p.state user token)
    | _, _, _ => .finish p [.signedOut] (.ok (.state p.state))
  else .refuse p .notSignedIn

def admission (p : Portal) (s : Section) : Except Failure (Nat × String) × Portal :=
  match p.state.signedIn, p.session.keyring.user? with
  | true, some user =>
    let (visible, p) := p.sections
    if visible.contains s then (.ok (p.session.epoch, user), p)
    else (.error (.sectionForbidden s.label), p)
  | _, _ => (.error .signInFirst, p)

def failTask (p : Portal) (epoch : Nat) (e : Failure) : Turn :=
  let (p, notes) := p.report epoch e
  .finish p notes (.error e)

def beginTask (p : Portal) (task : SectionTask) : Turn :=
  match p.admission task.section with
  | (.error e, p) => .refuse p e
  | (.ok (epoch, user), p) =>
    match task.check with
    | .error e => p.failTask epoch e
    | .ok () => .wait p [] (.gated epoch user task)

def resumeTask (p : Portal) (epoch : Nat) (user : String) (task : SectionTask) :
    (task.call user).Reply → Turn
  | .error e => p.failTask epoch e
  | .ok answer => .finish p task.announcement?.toList (.ok ((task.call user).value answer))

def begin (p : Portal) : Operation → Turn
  | .start => p.settle [] .start
  | .signIn form => p.beginSignIn form
  | .signUp form => p.beginSignUp form
  | .signOut => p.beginSignOut
  | .refreshRole => p.beginLookup [] .refresh
  | .task task => p.beginTask task

def resume (p : Portal) : (pending : Pending) → pending.call.Reply → Turn
  | .grant form, reply => p.resumeSignIn form reply
  | .account _, reply => p.resumeSignUp reply
  | .lookup ticket origin, reply => p.resumeLookup ticket origin reply
  | .farewell state _ _, _ => .finish p [] (.ok (.state state))
  | .gated epoch user task, reply => p.resumeTask epoch user task reply

section

variable {m : Type → Type} [Monad m]

/-- Goes on with a turn for at most so many replies, each of which `answer` gives at once. -/
def drive (answer : Portal → (c : Call) → m c.Reply) : Nat → Turn → m Turn
  | 0, t => pure t
  | n + 1, t =>
    match t.next with
    | .finished _ => pure t
    | .waiting pending => do
      let reply ← answer t.portal pending.call
      let t' := t.portal.resume pending reply
      drive answer n { t' with notes := t.notes ++ t'.notes }

/-- No operation makes more calls. -/
def maxCalls : Nat := 2

def run (answer : Portal → (c : Call) → m c.Reply) (p : Portal) (op : Operation) : m Turn :=
  drive answer maxCalls (p.begin op)

end

end Portal

end InsectPortal
