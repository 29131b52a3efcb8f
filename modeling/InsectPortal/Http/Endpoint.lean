import InsectPortal.Call
import InsectPortal.Url.Basic

/-!
# Endpoints

Where the service takes each call: the method, the path below the base address, a field of the
query, and the value sent as the body. Members of a body are in the order of their names. A list
travels as a string that holds its JSON text.
-/
namespace InsectPortal

inductive Method where
  | get
  | post
  deriving DecidableEq, Repr

def Method.name : Method → String
  | .get => "GET"
  | .post => "POST"

structure Endpoint where
  method : Method
  segments : List String
  field : Option (String × String)
  payload : Option Json

namespace Endpoint

def get (segments : List String) : Endpoint := ⟨.get, segments, none, none⟩

def query (segments : List String) (key value : String) : Endpoint :=
  ⟨.get, segments, some (key, value), none⟩

def post (segments : List String) (members : List (String × Json)) : Endpoint :=
  ⟨.post, segments, none, some (.record members)⟩

def url (e : Endpoint) (base : Url) : Url :=
  match e.field with
  | some (key, value) => (base.below e.segments).withField key value
  | none => base.below e.segments

end Endpoint

namespace Json

/-- A list as the string of its JSON text. -/
def embedded {α : Type} (toJson : α → Json) (items : List α) : Json :=
  .str (Json.array (items.map toJson)).compact

end Json

inductive TokenUse where
  | none
  | stored
  | given (token : String)
  deriving DecidableEq, Repr

namespace Call

def endpoint : Call → Endpoint
  | .signIn form =>
    .post ["sign_in"] [("password", .str form.password), ("useremail", .str form.useremail)]
  | .signUp form =>
    .post ["sign_up"]
      [("email", .str form.email), ("password", .str form.password),
        ("repassword", .str form.repassword), ("username", .str form.username)]
  | .checkRole user => .get ["user", "check_role", user]
  | .userInfo user => .post ["user", "info", user] []
  | .signOut user _ => .get ["sign_out", user]
  | .listUsers admin => .query ["admin", "user_manage"] "useremail" admin
  | .toggleUsers admin emails =>
    .post ["admin", "user_manage"]
      [("admin_email", .str admin), ("user_emails", .embedded .str emails)]
  | .addAdmin admin form =>
    .post ["admin", "user_manage", "add_admin"]
      [("admin_email", .str admin), ("password", .str form.password),
        ("repassword", .str form.repassword), ("role", .ofOption form.role.wire?),
        ("useremail", .str form.email), ("username", .str form.username)]
  | .listFeedback admin => .query ["admin", "feedback_manage"] "email" admin
  | .reviewFeedback admin decisions =>
    .post ["admin", "feedback_manage"]
      [("files_to_operate", .embedded FeedbackDecision.toJson decisions),
        ("useremail", .str admin)]
  | .submitFeedback user files =>
    .post ["user", "subm_fb"]
      [("file_with_label_list", .embedded LabeledFile.toJson files), ("useremail", .str user)]
  | .labelTasks user => .query ["user", "label_pic"] "email" user
  | .submitLabel user image label =>
    .post ["user", "label_pic"]
      [("image_label", .str label), ("image_name", .str image), ("useremail", .str user)]
  | .authenticateSsh user => .post ["admin", "authenticate_ssh", user] []

/-- Only a sign-in and a sign-up are made without a token; a sign-out names the token it ends. -/
def tokenUse : Call → TokenUse
  | .signIn _ | .signUp _ => .none
  | .signOut _ token => .given token
  | _ => .stored

end Call

end InsectPortal
