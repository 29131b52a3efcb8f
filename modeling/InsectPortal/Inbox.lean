import InsectPortal.Failure

/-!
# Notifications

Short messages to the user. Each operation announces its outcome by one of the presets, or by the
notification that its failure maps to. An inbox keeps notifications in the order they arrive, until
they are taken out.
-/
namespace InsectPortal

inductive NotificationLevel where
  | success
  | info
  | error
  deriving DecidableEq, Repr

namespace NotificationLevel

def all : List NotificationLevel := [.success, .info, .error]

def id : NotificationLevel → String
  | .success => "success"
  | .info => "info"
  | .error => "error"

def ofId? (s : String) : Option NotificationLevel := all.find? (·.id = s)

theorem ofId?_id (l : NotificationLevel) : ofId? l.id = some l := by
  cases l <;> decide

def tag : NotificationLevel → String
  | .success => "ok"
  | .info => "info"
  | .error => "error"

def severity : NotificationLevel → String
  | .error => "ERROR"
  | _ => "INFO"

end NotificationLevel

structure Notification where
  level : NotificationLevel
  title : String
  description : String
  deriving DecidableEq, Repr

namespace Notification

def signedIn : Notification :=
  ⟨.success, "Success to sign in!", "Now you can use the insect identifier system!"⟩

def signInFailed : Notification :=
  ⟨.error, "Failed to sign in!", "Please check your user email or password!"⟩

def signedUp : Notification :=
  ⟨.success, "Success to sign up a new account!", "Now you can go to sign in by this account!"⟩

def signUpFailed : Notification :=
  ⟨.error, "Failed to sign up a new account!", "Please check your inputs!"⟩

def signedOut : Notification :=
  ⟨.info, "Success to sign out!", "Now you should sign in to use the insect identifier system!"⟩

def tokenExpired : Notification :=
  ⟨.error, "Your Token Expired!", "You should sign in again!"⟩

def adminAdded : Notification :=
  ⟨.success, "Success to sign up a new admin!",
    "Now you can go to sign in by this administrator!"⟩

def feedbackSubmitted : Notification :=
  ⟨.success, "Succeeded to submit feedback!", "Thank you very much for your precious feedback!"⟩

def sshStarted : Notification :=
  ⟨.success, "Start WebSSH Server Success!", "You could use the web-based terminal!"⟩

def networkError : Notification :=
  ⟨.error, "Network Error!", "You could try it again later!"⟩

/-- The notification of a failure that nothing more specific is said about. -/
def ofFailure (e : Failure) : Notification :=
  match e.kind with
  | .validation => ⟨.error, "Invalid Input!", e.message⟩
  | .authentication => signInFailed
  | .authorization => tokenExpired
  | .network => networkError
  | .guard => ⟨.error, "Forbidden Operation!", e.message⟩
  | .internal => ⟨.error, "Unexpected Response!", e.message⟩

def ofSignInFailure (e : Failure) : Notification :=
  match e.kind with
  | .network => networkError
  | .internal => ofFailure e
  | _ => signInFailed

def ofSignUpFailure (e : Failure) : Notification :=
  match e.kind with
  | .network => networkError
  | _ => signUpFailed

theorem ofFailure_level (e : Failure) : (ofFailure e).level = .error := by
  unfold ofFailure
  split <;> rfl

def line (n : Notification) : String :=
  "[" ++ n.level.tag ++ "] " ++ n.title ++ " " ++ n.description

def logLine (n : Notification) : String :=
  n.level.severity ++ " " ++ n.title ++ " " ++ n.description

def fields : List String := ["level", "title", "description"]

def toJson (n : Notification) : Json :=
  .ofFields fields [.str n.level.id, .str n.title, .str n.description]

def ofJson? (v : Json) : Option Notification := do
  match ← v.slots? fields with
  | [level, title, description] =>
    some ⟨← level.required fun v => v.choice?.bind NotificationLevel.ofId?,
      ← title.required Json.str?, ← description.required Json.str?⟩
  | _ => none

end Notification

structure Inbox where
  notes : List Notification
  deriving DecidableEq, Repr, Inhabited

namespace Inbox

def empty : Inbox := ⟨[]⟩

def add (i : Inbox) (n : Notification) : Inbox := ⟨i.notes ++ [n]⟩

def titles (i : Inbox) : List String := i.notes.map (·.title)

def drain (i : Inbox) : List Notification × Inbox := (i.notes, empty)

end Inbox

end InsectPortal
