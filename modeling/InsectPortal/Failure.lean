import InsectPortal.Json.Record

/-!
# Failures

Everything that can go wrong between the user and the service. The kind decides what the portal does
next; the code is stable, the message is for the user. None is fatal.
-/
namespace InsectPortal

inductive FailureKind where
  /-- The input breaks a rule, here or at the service. -/
  | validation
  /-- The service refused the password of a sign-in. -/
  | authentication
  /-- The service refused the token of an authenticated call. -/
  | authorization
  /-- The service was not reached, or answered with a status that says nothing about the session. -/
  | network
  /-- A precondition failed before any request. -/
  | guard
  /-- An answer that makes no sense. -/
  | internal
  deriving DecidableEq, Repr

namespace FailureKind

def all : List FailureKind :=
  [.validation, .authentication, .authorization, .network, .guard, .internal]

def id : FailureKind → String
  | .validation => "validation"
  | .authentication => "authentication"
  | .authorization => "authorization"
  | .network => "network"
  | .guard => "guard"
  | .internal => "internal"

def ofId? (s : String) : Option FailureKind := all.find? (·.id = s)

theorem ofId?_id (k : FailureKind) : ofId? k.id = some k := by
  cases k <;> decide

end FailureKind

structure Failure where
  kind : FailureKind
  code : String
  message : String
  deriving DecidableEq, Repr

namespace Failure

def validation (code message : String) : Failure := ⟨.validation, code, message⟩

def authentication (code message : String) : Failure := ⟨.authentication, code, message⟩

def authorization (code message : String) : Failure := ⟨.authorization, code, message⟩

def network (code message : String) : Failure := ⟨.network, code, message⟩

def guard (code message : String) : Failure := ⟨.guard, code, message⟩

def internal (code message : String) : Failure := ⟨.internal, code, message⟩

def display (e : Failure) : String := s!"{e.code}: {e.message}"

def isAuthorization (e : Failure) : Bool := e.kind == .authorization

/-- What an unsuccessful status means: 401 rejects the token, 400 and 422 the input, and any other
says that the call may be tried again. -/
def ofStatus (status : Nat) (context : String) : Failure :=
  if status = 401 then .authorization "token_rejected" s!"{context}: HTTP 401"
  else if status = 400 ∨ status = 422 then
    .validation "rejected_input" s!"{context}: HTTP {status}"
  else .network "http_status" s!"{context}: HTTP {status}"

def ofReplyStatus? (status : Nat) : Option Failure :=
  if 400 ≤ status ∧ status < 600 then some (ofStatus status "request failed") else none

def unusableAddress : Failure := .network "transport" "builder error"

def undecodable : Failure := .internal "decode" "error decoding response body"

def alreadySignedIn : Failure := .guard "already_signed_in" "You have signed in!"

def notSignedIn : Failure := .guard "not_signed_in" "You have not signed in!"

def signInFirst : Failure := .guard "not_signed_in" "You should sign in first!"

def sectionForbidden (label : String) : Failure :=
  .guard "section_forbidden" s!"{label} is not available to your account!"

def emptyCredential : Failure :=
  .internal "empty_credential" "sign-in produced an empty token or user identifier"

def fields : List String := ["type", "code", "message"]

def toJson (e : Failure) : Json :=
  .ofFields fields [.str e.kind.id, .str e.code, .str e.message]

/-- The deepest nesting a failure is read from: one level less than 128. -/
def maxDepth : Nat := 127

/-- The kind has to be a plain string, and every part of the text is looked at before the kind is
known: nesting, strings and numbers have to be in bounds even where they are skipped. -/
def ofJson? (v : Json) : Option Failure :=
  if v.depth ≤ maxDepth ∧ v.isPlain then do
    match ← v.slots? fields with
    | [kind, code, message] =>
      let kind ← FailureKind.ofId? (← kind.required Json.str?)
      some ⟨kind, ← code.required Json.str?, ← message.required Json.str?⟩
    | _ => none
  else none

end Failure

section

variable {ε α β : Type} {x : Except ε α} {b : β}

theorem bind_eq_ok {f : α → Except ε β} : x >>= f = .ok b ↔ ∃ a, x = .ok a ∧ f a = .ok b := by
  constructor
  · intro h
    cases x with
    | error e => cases h
    | ok a => exact ⟨a, rfl, h⟩
  · rintro ⟨a, rfl, h⟩
    exact h

theorem map_eq_ok {f : α → β} : x.map f = .ok b ↔ ∃ a, x = .ok a ∧ f a = b := by
  constructor
  · intro h
    cases x with
    | error e => cases h
    | ok a => exact ⟨a, rfl, Except.ok.inj h⟩
  · rintro ⟨a, rfl, rfl⟩
    rfl

end

end InsectPortal
