import InsectPortal.Json.Record

/-!
# Roles

The role of a signed-in account. It is decoded once, from the answer of the role lookup, by its
exact name; every other answer means a common user.
-/
namespace InsectPortal

inductive Role where
  /-- Not looked up yet, or signed out. -/
  | unknown
  | commonUser
  | userAdmin
  | modelAdmin
  | superRoot
  deriving DecidableEq, Repr

namespace Role

def all : List Role := [.unknown, .commonUser, .userAdmin, .modelAdmin, .superRoot]

instance : Inhabited Role := ⟨.unknown⟩

def wire? : Role → Option String
  | .unknown => none
  | .commonUser => some "Common User"
  | .userAdmin => some "User Administrator"
  | .modelAdmin => some "Model Administrator"
  | .superRoot => some "Super Root"

def isResolved (r : Role) : Bool := r != .unknown

def display (r : Role) : String := r.wire?.getD "Unresolved"

/-- The role with a given service name; a common user has no other name. -/
def ofName (s : String) : Role :=
  if s = "User Administrator" then .userAdmin
  else if s = "Model Administrator" then .modelAdmin
  else if s = "Super Root" then .superRoot
  else .commonUser

def decode (body : String) : Role := ofName (Text.trim (Json.plain body))

def id : Role → String
  | .unknown => "Unknown"
  | .commonUser => "CommonUser"
  | .userAdmin => "UserAdmin"
  | .modelAdmin => "ModelAdmin"
  | .superRoot => "SuperRoot"

def ofId? (s : String) : Option Role := all.find? (·.id = s)

def toJson (r : Role) : Json := .str r.id

def ofJson? (v : Json) : Option Role := v.choice?.bind ofId?

theorem ofId?_id (r : Role) : ofId? r.id = some r := by
  cases r <;> decide

theorem ofJson?_toJson (r : Role) : ofJson? r.toJson = some r := ofId?_id r

theorem decode_ne_unknown (body : String) : decode body ≠ .unknown := by
  unfold decode ofName
  split
  · decide
  · split
    · decide
    · split <;> decide

end Role

end InsectPortal
