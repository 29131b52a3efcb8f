import InsectPortal.Account
import InsectPortal.Record

/-!
# Calls to the service

What the portal may ask of the service, with the arguments of each call and the type of its answer.
-/
namespace InsectPortal

inductive Call where
  | signIn (form : SignInForm)
  | signUp (form : SignUpForm)
  | checkRole (user : String)
  | userInfo (user : String)
  | signOut (user token : String)
  | listUsers (admin : String)
  /-- Suspends the active accounts and reinstates the suspended ones. -/
  | toggleUsers (admin : String) (emails : List String)
  | addAdmin (admin : String) (form : AdminForm)
  | listFeedback (admin : String)
  | reviewFeedback (admin : String) (decisions : List FeedbackDecision)
  | submitFeedback (user : String) (files : List LabeledFile)
  | labelTasks (user : String)
  | submitLabel (user image label : String)
  | authenticateSsh (user : String)
  deriving DecidableEq, Repr

namespace Call

abbrev Answer : Call → Type
  | .signIn _ => SignInGrant
  | .checkRole _ | .authenticateSsh _ => String
  | .userInfo _ => UserProfile
  | .listUsers _ => List ManagedUser
  | .listFeedback _ => List FeedbackEntry
  | .labelTasks _ => List LabelTask
  | .signUp _ | .signOut .. | .toggleUsers .. | .addAdmin .. | .reviewFeedback ..
  | .submitFeedback .. | .submitLabel .. => Unit

abbrev Reply (c : Call) : Type := Except Failure c.Answer

def name : Call → String
  | .signIn _ => "sign_in"
  | .signUp _ => "sign_up"
  | .checkRole _ => "check_role"
  | .userInfo _ => "user_info"
  | .signOut .. => "sign_out"
  | .listUsers _ => "list_users"
  | .toggleUsers .. => "toggle_users"
  | .addAdmin .. => "add_admin"
  | .listFeedback _ => "list_feedback"
  | .reviewFeedback .. => "review_feedback"
  | .submitFeedback .. => "submit_feedback"
  | .labelTasks _ => "label_tasks"
  | .submitLabel .. => "submit_label"
  | .authenticateSsh _ => "authenticate_ssh"

end Call

end InsectPortal
