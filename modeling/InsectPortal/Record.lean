import InsectPortal.Json.Record

/-!
# Records of the service

What the service sends about accounts, feedback and label tasks, and what is sent to it about
pictures. Most fields the service may leave out; each has its default.
-/
namespace InsectPortal

structure SignInGrant where
  token : String
  deriving DecidableEq, Repr

structure UserProfile where
  nickName : String
  email : String
  contribution : UInt64
  role : String
  deriving DecidableEq, Repr, Inhabited

structure ManagedUser where
  username : String
  useremail : String
  userIdentity : String
  userContribution : UInt64
  /-- False while the account is suspended. -/
  available : Bool
  deriving DecidableEq, Repr

/-- A picture whose label a user disputes. -/
structure FeedbackEntry where
  datetime : String
  fromUserEmail : String
  picLink : String
  realLabel : String
  submitCount : UInt64
  timeOut : String
  acceptable : Bool
  deriving DecidableEq, Repr

structure FeedbackDecision where
  picPath : String
  realLabel : String
  acceptable : Bool
  deriving DecidableEq, Repr

structure LabeledFile where
  filename : String
  label : Option String
  deriving DecidableEq, Repr

structure LabelTask where
  picLink : String
  deriving DecidableEq, Repr

namespace SignInGrant

def fields : List String := ["token"]

def toJson (g : SignInGrant) : Json := .ofFields fields [.str g.token]

def ofJson? (v : Json) : Option SignInGrant := do
  match ← v.slots? fields with
  | [token] => some ⟨← token.required Json.str?⟩
  | _ => none

end SignInGrant

namespace UserProfile

def fields : List String := ["nick_name", "email", "contribution", "role"]

def toJson (p : UserProfile) : Json :=
  .ofFields fields [.str p.nickName, .str p.email, .count p.contribution, .str p.role]

def ofJson? (v : Json) : Option UserProfile := do
  match ← v.slots? fields with
  | [nickName, email, contribution, role] =>
    some ⟨← nickName.orElse Json.str? "", ← email.orElse Json.str? "",
      ← contribution.orElse Json.count? 0, ← role.orElse Json.str? ""⟩
  | _ => none

end UserProfile

namespace ManagedUser

def fields : List String :=
  ["username", "useremail", "user_identity", "user_contribution", "available"]

def toJson (u : ManagedUser) : Json :=
  .ofFields fields
    [.str u.username, .str u.useremail, .str u.userIdentity, .count u.userContribution,
      .bool u.available]

/-- An account that says nothing about it is available. -/
def ofJson? (v : Json) : Option ManagedUser := do
  match ← v.slots? fields with
  | [username, useremail, userIdentity, userContribution, available] =>
    some ⟨← username.orElse Json.str? "", ← useremail.orElse Json.str? "",
      ← userIdentity.orElse Json.str? "", ← userContribution.orElse Json.count? 0,
      ← available.orElse Json.bool? true⟩
  | _ => none

end ManagedUser

namespace FeedbackEntry

def fields : List String :=
  ["datetime", "from_user_email", "pic_link", "real_label", "submit_count", "time_out",
    "acceptable"]

def toJson (e : FeedbackEntry) : Json :=
  .ofFields fields
    [.str e.datetime, .str e.fromUserEmail, .str e.picLink, .str e.realLabel,
      .count e.submitCount, .str e.timeOut, .bool e.acceptable]

def ofJson? (v : Json) : Option FeedbackEntry := do
  match ← v.slots? fields with
  | [datetime, fromUserEmail, picLink, realLabel, submitCount, timeOut, acceptable] =>
    some ⟨← datetime.orElse Json.str? "", ← fromUserEmail.orElse Json.str? "",
      ← picLink.orElse Json.str? "", ← realLabel.orElse Json.str? "",
      ← submitCount.orElse Json.count? 0, ← timeOut.orElse Json.str? "",
      ← acceptable.orElse Json.bool? false⟩
  | _ => none

def verdict (e : FeedbackEntry) (acceptable : Bool) : FeedbackDecision :=
  ⟨e.picLink, e.realLabel, acceptable⟩

end FeedbackEntry

namespace FeedbackDecision

def fields : List String := ["pic_path", "real_label", "acceptable"]

def toJson (d : FeedbackDecision) : Json :=
  .ofFields fields [.str d.picPath, .str d.realLabel, .bool d.acceptable]

def ofJson? (v : Json) : Option FeedbackDecision := do
  match ← v.slots? fields with
  | [picPath, realLabel, acceptable] =>
    some ⟨← picPath.required Json.str?, ← realLabel.required Json.str?,
      ← acceptable.required Json.bool?⟩
  | _ => none

end FeedbackDecision

namespace LabeledFile

def fields : List String := ["filename", "label"]

def toJson (f : LabeledFile) : Json := .ofFields fields [.str f.filename, .ofOption f.label]

def ofJson? (v : Json) : Option LabeledFile := do
  match ← v.slots? fields with
  | [filename, label] =>
    some ⟨← filename.required Json.str?, ← label.nullableMember Json.str?⟩
  | _ => none

end LabeledFile

namespace LabelTask

def fields : List String := ["pic_link"]

def toJson (t : LabelTask) : Json := .ofFields fields [.str t.picLink]

def ofJson? (v : Json) : Option LabelTask := do
  match ← v.slots? fields with
  | [picLink] => some ⟨← picLink.orElse Json.str? ""⟩
  | _ => none

end LabelTask

end InsectPortal
