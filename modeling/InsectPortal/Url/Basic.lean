import InsectPortal.Url.Host

/-!
# Addresses

The address of a resource on the web: scheme, user, host, port, path and query. User and path are
kept percent-encoded. The path has at least one segment; the text of a path has a slash before each.
-/
namespace InsectPortal

inductive WebScheme where
  | http
  | https
  deriving DecidableEq, Repr

namespace WebScheme

def name : WebScheme → String
  | .http => "http"
  | .https => "https"

def defaultPort : WebScheme → Nat
  | .http => 80
  | .https => 443

def ofName? (s : String) : Option WebScheme :=
  [http, https].find? (·.name = s)

theorem ofName?_name (s : WebScheme) : ofName? s.name = some s := by
  cases s <;> decide

end WebScheme

structure Url where
  scheme : WebScheme
  username : String
  /-- Empty where there is none. -/
  password : String
  host : Host
  /-- None for the port that goes without saying. -/
  port : Option Nat
  path : List String
  query : Option String
  deriving DecidableEq, Repr

namespace Url

def userText (u : Url) : String :=
  if u.username = "" ∧ u.password = "" then ""
  else if u.password = "" then u.username ++ "@"
  else u.username ++ ":" ++ u.password ++ "@"

def portText (u : Url) : String :=
  match u.port with
  | some p => ":" ++ p.repr
  | none => ""

def pathText (u : Url) : String := String.join (u.path.map ("/" ++ ·))

def queryText (u : Url) : String :=
  match u.query with
  | some q => "?" ++ q
  | none => ""

def authorityText (u : Url) : String := u.host.text ++ u.portText

def text (u : Url) : String :=
  u.scheme.name ++ "://" ++ u.userText ++ u.authorityText ++ u.pathText ++ u.queryText

def anonymous (u : Url) : Url := { u with username := "", password := "" }

/-- The path without an empty segment at its end, unless that is the only one. -/
def openPath (path : List String) : List String :=
  if 2 ≤ path.length ∧ path.getLast? = some "" then path.dropLast else path

/-- The path with a segment written at its end, in place of the only one where that is empty. -/
def putSegment (path : List String) (s : String) : List String :=
  if path = [""] then [s] else path ++ [s]

/-- A segment of dots stands for a step in the tree, not for a name. -/
def isDots (s : String) : Bool := s == "." || s == ".."

def isSkipped (c : Char) : Bool := ['\t', '\n', '\r'].contains c

/-- The path one segment further. Line ends and tabs are not written. A segment that is nothing but
dots without them is a step: to the directory itself or to the one above. -/
def enter (path : List String) (segment : String) : List String :=
  if isDots segment then path
  else
    let written := segment.toList.filter (!isSkipped ·)
    if written = ['.', '.'] then
      (if path = [""] then path else path.dropLast ++ [""])
    else if written = ['.'] then putSegment path ""
    else putSegment path (String.ofList (encode isSegmentChar written))

def below (u : Url) (segments : List String) : Url :=
  { u with path := segments.foldl enter (openPath u.path) }

def withField (u : Url) (key value : String) : Url :=
  let field := formPair key value
  { u with
    query := match u.query with
      | some q => some (if q = "" then field else q ++ "&" ++ field)
      | none => some field }

end Url

end InsectPortal
