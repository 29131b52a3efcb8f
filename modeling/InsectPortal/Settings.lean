import InsectPortal.Http.Header
import InsectPortal.Text.Digits
import InsectPortal.Url.Reading

/-!
# Settings

The settings are read from an environment of named values. Blanks around a value do not count, and a
blank value counts as none. The base address and the session file can be set anew afterwards.
-/
namespace InsectPortal

structure Settings where
  baseUrl : Url
  authHeader : String
  sessionFile : Option String
  remoteSignOut : Bool
  /-- Milliseconds for each request. -/
  timeout : Option Nat
  deriving DecidableEq, Repr

inductive SettingsError where
  | baseUrl (e : BaseUrlError)
  | remoteSignOut (value : String)
  | timeout (value : String) (cause : Text.CountError)
  deriving DecidableEq, Repr

def SettingsError.chain : SettingsError → List String
  | .baseUrl e => e.chain
  | .remoteSignOut value => [s!"INSECTID_REMOTE_SIGN_OUT: expected a boolean, got '{value}'"]
  | .timeout value cause =>
    [s!"INSECTID_TIMEOUT_MS: '{value}' is not a number of milliseconds", cause.message]

abbrev Environment := String → Option String

namespace Environment

def value? (env : Environment) (name : String) : Option String :=
  ((env name).map Text.trim).filter (· ≠ "")

end Environment

namespace Settings

def defaultBaseUrl : String := "127.0.0.1:8080"

/-- A switch is on or off by any of four words each, in either case. -/
def switch? (s : String) : Option Bool :=
  let s := Text.lowerAscii s
  if ["1", "true", "yes", "on"].contains s then some true
  else if ["0", "false", "no", "off"].contains s then some false
  else none

def readBaseUrl (raw : String) : Except SettingsError Url :=
  match Url.base raw with
  | .ok u => .ok u
  | .error e => .error (.baseUrl e)

/-- The text of the base address that an environment selects. -/
def selectedBaseUrl (env : Environment) : String :=
  ((env.value? "INSECTID_BASE_URL") <|> env.value? "BASE_URL").getD defaultBaseUrl

def readRemoteSignOut : Option String → Except SettingsError Bool
  | none => .ok false
  | some v =>
    match switch? v with
    | some b => .ok b
    | none => .error (.remoteSignOut v)

def readTimeout : Option String → Except SettingsError (Option Nat)
  | none => .ok none
  | some v =>
    match Text.count v with
    | .ok n => .ok (some n)
    | .error cause => .error (.timeout v cause)

def ofEnvironment (env : Environment) : Except SettingsError Settings := do
  let baseUrl ← readBaseUrl (selectedBaseUrl env)
  let remoteSignOut ← readRemoteSignOut (env.value? "INSECTID_REMOTE_SIGN_OUT")
  let timeout ← readTimeout (env.value? "INSECTID_TIMEOUT_MS")
  return {
    baseUrl
    authHeader := (env.value? "INSECTID_AUTH_HEADER").getD Authorizer.defaultHeader
    sessionFile := env.value? "INSECTID_SESSION_FILE"
    remoteSignOut
    timeout }

def withBaseUrl (s : Settings) (raw : String) : Except SettingsError Settings :=
  (readBaseUrl raw).map fun baseUrl => { s with baseUrl }

def withSessionFile (s : Settings) (path : String) : Settings :=
  { s with sessionFile := some path }

end Settings

end InsectPortal
