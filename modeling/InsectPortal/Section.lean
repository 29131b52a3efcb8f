import InsectPortal.Role

/-!
# Sections and navigation

The screens of the portal. Which of them a session may open depends only on whether it is signed in
and on its role. Navigation remembers the last session state it looked at together with its
sections, so that a look at the same state computes nothing and a change of the menu can be told.
-/
namespace InsectPortal

inductive Section where
  | mainPage
  | userInfo
  | labelImage
  | userManage
  | feedbackManage
  | modelManage
  | webSsh
  | frequentCommands
  deriving DecidableEq, Repr

namespace Section

def all : List Section :=
  [.mainPage, .userInfo, .labelImage, .userManage, .feedbackManage, .modelManage, .webSsh,
    .frequentCommands]

def label : Section → String
  | .mainPage => "Main Page"
  | .userInfo => "User Info"
  | .labelImage => "Label Image"
  | .userManage => "User Manage"
  | .feedbackManage => "Feedback Manage"
  | .modelManage => "Model Manage"
  | .webSsh => "WebSSH"
  | .frequentCommands => "Frequent Commands"

def id : Section → String
  | .mainPage => "MainPage"
  | .userInfo => "UserInfo"
  | .labelImage => "LabelImage"
  | .userManage => "UserManage"
  | .feedbackManage => "FeedbackManage"
  | .modelManage => "ModelManage"
  | .webSsh => "WebSsh"
  | .frequentCommands => "FrequentCommands"

def ofId? (s : String) : Option Section := all.find? (·.id = s)

def toJson (s : Section) : Json := .str s.id

def ofJson? (v : Json) : Option Section := v.choice?.bind ofId?

theorem mem_all (s : Section) : s ∈ all := by
  cases s <;> decide

theorem ofId?_id (s : Section) : ofId? s.id = some s := by
  cases s <;> decide

def isBaseline : Section → Bool
  | .mainPage | .userInfo | .labelImage => true
  | _ => false

def isForUserAdmin : Section → Bool
  | .userManage | .feedbackManage => true
  | _ => false

def isForModelAdmin : Section → Bool
  | .modelManage | .webSsh | .frequentCommands => true
  | _ => false

def isOpenTo (s : Section) : Role → Bool
  | .unknown | .commonUser => s.isBaseline
  | .userAdmin => s.isBaseline || s.isForUserAdmin
  | .modelAdmin => s.isBaseline || s.isForModelAdmin
  | .superRoot => s.isBaseline || s.isForUserAdmin || s.isForModelAdmin

end Section

/-- Whether somebody is signed in, and with which role. The role counts only while signed in. -/
structure SessionState where
  signedIn : Bool
  role : Role
  deriving DecidableEq, Repr

namespace SessionState

def signedOut : SessionState := ⟨false, .unknown⟩

instance : Inhabited SessionState := ⟨signedOut⟩

def display (s : SessionState) : String :=
  if s.signedIn then s!"SignedIn({s.role.display})" else "SignedOut"

def wantsRole (s : SessionState) : Bool := s.signedIn && !s.role.isResolved

def sections (s : SessionState) : List Section :=
  if s.signedIn then Section.all.filter (·.isOpenTo s.role) else []

theorem mem_sections {s : SessionState} {x : Section} :
    x ∈ s.sections ↔ s.signedIn = true ∧ x.isOpenTo s.role = true := by
  unfold sections
  split <;> simp_all [Section.mem_all]

end SessionState

structure Navigation where
  last : Option (SessionState × List Section)
  deriving DecidableEq, Repr

structure NavigationUpdate where
  sectionsChanged : Bool
  roleLookupWanted : Bool
  deriving DecidableEq, Repr

namespace Navigation

def initial : Navigation := ⟨none⟩

instance : Inhabited Navigation := ⟨initial⟩

/-- A look at a session state. The first look counts as a change. -/
def observe (n : Navigation) (s : SessionState) : NavigationUpdate × Navigation :=
  match n.last with
  | none => (⟨true, s.wantsRole⟩, ⟨some (s, s.sections)⟩)
  | some (seen, sections) =>
    if seen = s then (⟨false, s.wantsRole⟩, n)
    else (⟨sections != s.sections, s.wantsRole⟩, ⟨some (s, s.sections)⟩)

def visible (n : Navigation) (s : SessionState) : List Section × Navigation :=
  let n := (n.observe s).2
  ((n.last.map (·.2)).getD [], n)

end Navigation

end InsectPortal
