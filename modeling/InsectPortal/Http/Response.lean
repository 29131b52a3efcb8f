import InsectPortal.Call
import InsectPortal.Http.Header
import InsectPortal.Json.Text
import InsectPortal.Text.Charset

/-!
# Responses

What a response means for the call it answers. The status is looked at first; only a successful one
has a body that is read, as a value or as a text.
-/
namespace InsectPortal

structure Response where
  status : Nat
  contentType : Option String
  body : ByteArray
  /-- The body arrived as a whole. -/
  complete : Bool

/-- How the sending of a request ends. -/
inductive Exchange where
  | lost
  | answered (r : Response)

namespace Response

def isSuccess (r : Response) : Bool := 200 ≤ r.status && r.status < 300

def isServerError (r : Response) : Bool := 500 ≤ r.status && r.status < 600

def value {α : Type} (read : Json → Option α) (r : Response) : Except Failure α :=
  if r.complete then
    match (Json.ofBytes? r.body).bind read with
    | some v => .ok v
    | none => .error .undecodable
  else .error .undecodable

def charset? (r : Response) : Option String := do
  let fields := (← r.contentType).toList.splitOn ';'
  let pair ← fields.tail.findSome? fun f =>
    let name := f.takeWhile (· ≠ '=')
    if Text.lowerAscii (Text.trim (String.ofList name)) = "charset" then
      some (f.drop (name.length + 1))
    else none
  some (String.ofList (pair.filter (· ≠ '"')))

def text (r : Response) : Except Failure String :=
  if r.complete then .ok (Text.ofBytes r.charset? r.body.toList) else .error .undecodable

def success (name : String) (r : Response) : Except Failure Unit :=
  if r.isSuccess then .ok () else .error (.ofStatus r.status name)

def checkGrant (g : SignInGrant) : Except Failure SignInGrant :=
  if g.token = "" then
    .error (.internal "sign_in_body" "sign_in response carried an empty token")
  else if Header.isValue g.token then .ok g
  else
    .error (.internal "sign_in_body"
      "sign_in response carried a token that is not a valid header value")

/-- The answer to a sign-in. A refusal that is not the service's own fault is one of the password. -/
def grant (r : Response) : Except Failure SignInGrant :=
  if r.isServerError then .error (.ofStatus r.status "sign_in")
  else if r.isSuccess then
    match r.value SignInGrant.ofJson? with
    | .ok g => checkGrant g
    | .error e =>
      .error (.internal "sign_in_body" s!"sign_in response has no token: {e.message}")
  else .error (.authentication "invalid_credentials" s!"sign_in: HTTP {r.status}")

def reply (r : Response) : (c : Call) → c.Reply
  | .signIn _ => r.grant
  | .checkRole _ => do
    r.success "check_role"
    r.text
  | .userInfo _ => do
    r.success "user_info"
    r.value UserProfile.ofJson?
  | .listUsers _ => do
    r.success "list_users"
    r.value (Json.list? ManagedUser.ofJson?)
  | .listFeedback _ => do
    r.success "list_feedback"
    r.value (Json.list? FeedbackEntry.ofJson?)
  | .labelTasks _ => do
    r.success "label_tasks"
    r.value (Json.list? LabelTask.ofJson?)
  | .authenticateSsh _ => do
    r.success "authenticate_ssh"
    return Json.plain (← r.text)
  | .signUp _ => r.success "sign_up"
  | .signOut .. => r.success "sign_out"
  | .toggleUsers .. => r.success "toggle_users"
  | .addAdmin .. => r.success "add_admin"
  | .reviewFeedback .. => r.success "review_feedback"
  | .submitFeedback .. => r.success "submit_feedback"
  | .submitLabel .. => r.success "submit_label"

end Response

end InsectPortal
