import InsectPortal.Failure
import InsectPortal.Role

/-!
# Account forms

The forms for signing in, signing up and creating an administrator, and the rules they have to obey
before a request is made. Of several broken rules the first one in the order of the form is told.
-/
namespace InsectPortal

structure SignInForm where
  useremail : String
  password : String
  deriving DecidableEq, Repr

structure SignUpForm where
  username : String
  password : String
  repassword : String
  email : String
  deriving DecidableEq, Repr

structure AdminForm where
  username : String
  email : String
  password : String
  repassword : String
  role : Role
  deriving DecidableEq, Repr

namespace Account

def passwordMin : Nat := 8

def passwordMax : Nat := 16

def isPassword (s : String) : Bool :=
  passwordMin ≤ s.length && s.length ≤ passwordMax && s.toList.any Char.isAlpha &&
    s.toList.any Char.isDigit

def required (field value message : String) : Except Failure Unit :=
  if Text.isBlankText value then .error (.validation field message) else .ok ()

def checkPassword (password : String) : Except Failure Unit :=
  if isPassword password then .ok ()
  else .error (.validation "password" "Need 8-16 characters containing letters and numbers")

def check (username email password repassword : String) : Except Failure Unit := do
  required "username" username "Please input your username!"
  required "email" email "Please input your Email!"
  checkPassword password
  required "repassword" repassword "Please confirm your password!"
  if repassword = password then .ok ()
  else .error (.validation "repassword" "Please keep the same to your password above!")

end Account

namespace SignInForm

/-- The form as it is filled in: blanks around the email do not count. -/
def enter (useremail password : String) : SignInForm := ⟨Text.trim useremail, password⟩

def check (f : SignInForm) : Except Failure Unit := do
  Account.required "useremail" f.useremail "Please input your user email!"
  Account.required "password" f.password "Please input your password!"

def fields : List String := ["useremail", "password"]

def toJson (f : SignInForm) : Json := .ofFields fields [.str f.useremail, .str f.password]

def ofJson? (v : Json) : Option SignInForm := do
  match ← v.slots? fields with
  | [useremail, password] =>
    some ⟨← useremail.required Json.str?, ← password.required Json.str?⟩
  | _ => none

end SignInForm

namespace SignUpForm

def check (f : SignUpForm) : Except Failure Unit :=
  Account.check f.username f.email f.password f.repassword

def fields : List String := ["username", "password", "repassword", "email"]

def toJson (f : SignUpForm) : Json :=
  .ofFields fields [.str f.username, .str f.password, .str f.repassword, .str f.email]

def ofJson? (v : Json) : Option SignUpForm := do
  match ← v.slots? fields with
  | [username, password, repassword, email] =>
    some ⟨← username.required Json.str?, ← password.required Json.str?,
      ← repassword.required Json.str?, ← email.required Json.str?⟩
  | _ => none

end SignUpForm

namespace AdminForm

/-- Only these roles can be given to a new administrator. -/
def isAdminRole : Role → Bool
  | .userAdmin | .modelAdmin => true
  | _ => false

def check (f : AdminForm) : Except Failure Unit := do
  Account.check f.username f.email f.password f.repassword
  if isAdminRole f.role then .ok ()
  else .error (.validation "role" "Please choose User Admin or Model Admin!")

def fields : List String := ["username", "email", "password", "repassword", "role"]

def toJson (f : AdminForm) : Json :=
  .ofFields fields
    [.str f.username, .str f.email, .str f.password, .str f.repassword, f.role.toJson]

def ofJson? (v : Json) : Option AdminForm := do
  match ← v.slots? fields with
  | [username, email, password, repassword, role] =>
    some ⟨← username.required Json.str?, ← email.required Json.str?,
      ← password.required Json.str?, ← repassword.required Json.str?,
      ← role.required Role.ofJson?⟩
  | _ => none

end AdminForm

end InsectPortal
