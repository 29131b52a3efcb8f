import InsectPortal.Record
import InsectPortal.Section

/-!
# Listings

What the console shows: sections, the state of the session and the records of the service, one line
for each. Lines are numbered from zero.
-/
namespace InsectPortal.Listing

def maxWidth : Nat := 60

/-- The text, or as much of it as fits together with an ellipsis. -/
def clip (s : String) : String :=
  if s.length ≤ maxWidth then s
  else String.ofList (s.toList.take (maxWidth - 1)) ++ "…"

/-- Numbered lines, one for each item, or a text that says that there are none. -/
def numbered {α : Type} (line : α → String) (none : String) (items : List α) : String :=
  if items.isEmpty then none
  else "\n".intercalate (items.zipIdx.map fun (x, i) => s!"[{i}] " ++ line x)

def sections (ss : List Section) : String :=
  numbered Section.label "Please sign in to use the insect identifier system." ss

def status (s : SessionState) (user : Option String) : String :=
  if s.signedIn then
    match user with
    | some u => s!"signed in as {u} (role: {s.role.display})"
    | none => s!"signed in (role: {s.role.display})"
  else "signed out"

def profileLine (label value : String) : String :=
  let width := "Contributions".length
  label ++ String.ofList (List.replicate (width - label.length) ' ') ++ " : " ++ clip value

def profile (p : UserProfile) : String :=
  "\n".intercalate
    [profileLine "Nick Name" p.nickName, profileLine "User Email" p.email,
      profileLine "Contributions" p.contribution.toNat.repr, profileLine "Role" p.role]

def userLine (u : ManagedUser) : String :=
  let flag := if u.available then "" else " [suspended]"
  clip u.username ++ " <" ++ u.useremail ++ "> " ++ u.userIdentity ++ ", " ++
    u.userContribution.toNat.repr ++ " contributions" ++ flag

def users (us : List ManagedUser) : String := numbered userLine "no users" us

def feedbackLine (e : FeedbackEntry) : String :=
  e.picLink ++ " from " ++ e.fromUserEmail ++ " labelled '" ++ e.realLabel ++ "' (" ++
    e.submitCount.toNat.repr ++ " submissions)"

def feedback (es : List FeedbackEntry) : String := numbered feedbackLine "no feedback waiting" es

def labelTasks (ts : List LabelTask) : String := numbered LabelTask.picLink "nothing to label" ts

end InsectPortal.Listing
