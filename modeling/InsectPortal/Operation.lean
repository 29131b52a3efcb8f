import InsectPortal.Call
import InsectPortal.Inbox
import InsectPortal.Section

/-!
# Operations

What a user of the portal can start, and what an operation ends with. The operations of a section
differ only in their section, the rules for their arguments, the call they make and what they
announce when it succeeds.
-/
namespace InsectPortal

/-- An operation that belongs to a section. -/
inductive SectionTask where
  | userInfo
  | listUsers
  | toggleUsers (emails : List String)
  | addAdmin (form : AdminForm)
  | listFeedback
  | reviewFeedback (decisions : List FeedbackDecision)
  | submitFeedback (files : List LabeledFile)
  | labelTasks
  | submitLabel (image label : String)
  | authenticateSsh
  deriving DecidableEq, Repr

namespace SectionTask

def «section» : SectionTask → Section
  | .userInfo => .userInfo
  | .listUsers | .toggleUsers _ | .addAdmin _ => .userManage
  | .listFeedback | .reviewFeedback _ => .feedbackManage
  | .submitFeedback _ => .mainPage
  | .labelTasks | .submitLabel .. => .labelImage
  | .authenticateSsh => .webSsh

def check : SectionTask → Except Failure Unit
  | .toggleUsers emails =>
    if emails.isEmpty then
      .error (.validation "user_emails" "Please choose at least one user!")
    else .ok ()
  | .addAdmin form => form.check
  | .reviewFeedback decisions =>
    if decisions.isEmpty then
      .error (.validation "files_to_operate" "Please choose at least one feedback!")
    else .ok ()
  | .submitFeedback files =>
    if files.isEmpty then
      .error (.validation "file_with_label_list"
        "Please choose the pictures to give feedback on!")
    else .ok ()
  | .submitLabel image label =>
    if Text.isBlankText image || Text.isBlankText label then
      .error (.validation "image_label" "Please input the label of this picture!")
    else .ok ()
  | _ => .ok ()

/-- The call on behalf of a user. A label is sent without the blanks around it. -/
def call (user : String) : SectionTask → Call
  | .userInfo => .userInfo user
  | .listUsers => .listUsers user
  | .toggleUsers emails => .toggleUsers user emails
  | .addAdmin form => .addAdmin user form
  | .listFeedback => .listFeedback user
  | .reviewFeedback decisions => .reviewFeedback user decisions
  | .submitFeedback files => .submitFeedback user files
  | .labelTasks => .labelTasks user
  | .submitLabel image label => .submitLabel user image (Text.trim label)
  | .authenticateSsh => .authenticateSsh user

def announcement? : SectionTask → Option Notification
  | .addAdmin _ => some .adminAdded
  | .submitFeedback _ => some .feedbackSubmitted
  | .authenticateSsh => some .sshStarted
  | _ => none

end SectionTask

inductive Operation where
  /-- What is done once when the portal opens. -/
  | start
  | signIn (form : SignInForm)
  | signUp (form : SignUpForm)
  | signOut
  | refreshRole
  | task (task : SectionTask)
  deriving DecidableEq, Repr

inductive Value where
  | none
  | state (s : SessionState)
  | role (r : Option Role)
  | profile (p : UserProfile)
  | users (us : List ManagedUser)
  | feedback (es : List FeedbackEntry)
  | labelTasks (ts : List LabelTask)
  | address (s : String)
  deriving DecidableEq, Repr

abbrev Outcome := Except Failure Value

def Call.value : (c : Call) → c.Answer → Value
  | .userInfo _, p => .profile p
  | .listUsers _, us => .users us
  | .listFeedback _, es => .feedback es
  | .labelTasks _, ts => .labelTasks ts
  | .authenticateSsh _, s => .address s
  | .signIn _, _ | .signUp _, _ | .checkRole _, _ | .signOut .., _ | .toggleUsers .., _
  | .addAdmin .., _ | .reviewFeedback .., _ | .submitFeedback .., _ | .submitLabel .., _ => .none

end InsectPortal
