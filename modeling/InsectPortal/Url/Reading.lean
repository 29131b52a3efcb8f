import InsectPortal.Url.Basic

/-!
# Reading an address

The text of an address is taken apart at its delimiters: the scheme ends at the first colon, the
authority at the first slash, question mark or number sign, and the user at the last at sign. A web
address may write a backslash for a slash, and any number of slashes before the authority. What
follows the path is not kept.

Every request goes to an address below the base address of the service. It may be given without a
scheme, and its path is made to end with a slash, so that the whole of it stays in front of what is
added.
-/
namespace InsectPortal

namespace Url

/-- The characters of an address: without tabs and line ends, and without control characters and
spaces at both ends. -/
def significant (s : String) : List Char :=
  let isEdge (c : Char) : Bool := c.toNat ≤ 32
  let trimmed := ((s.toList.dropWhile isEdge).reverse.dropWhile isEdge).reverse
  trimmed.filter (!isSkipped ·)

def isSchemeChar (c : Char) : Bool := c.isAlphanum || ['+', '-', '.'].contains c

def splitScheme? (s : List Char) : Option (String × List Char) :=
  match s.dropWhile isSchemeChar with
  | ':' :: rest =>
    let scheme := s.takeWhile isSchemeChar
    if scheme.head?.any Char.isAlpha then
      some (Text.lowerAscii (String.ofList scheme), rest)
    else none
  | _ => none

def isSlash (c : Char) : Bool := c == '/' || c == '\\'

def isPathEnd (c : Char) : Bool := c == '?' || c == '#'

def splitUser (s : List Char) : Option (List Char) × List Char :=
  let after := s.reverse.takeWhile (· ≠ '@')
  match s.reverse.drop after.length with
  | [] => (none, s)
  | _ :: before => (some before.reverse, after.reverse)

/-- The host, and what follows the first colon outside brackets. -/
def splitPort (inside : Bool) : List Char → List Char × Option (List Char)
  | [] => ([], none)
  | c :: rest =>
    if c = ':' ∧ !inside then ([], some rest)
    else
      let (host, port) := splitPort (c == '[' || (inside && c != ']')) rest
      (c :: host, port)

def maxPort : Nat := 65535

def port? (s : List Char) : Except UrlError (Option Nat) :=
  if s.isEmpty then .ok none
  else
    match (if s.all Char.isDigit then Text.decimal? s else none) with
    | some p => if p ≤ maxPort then .ok (some p) else .error .port
    | none => .error .port

def userOf (s : List Char) : String × String :=
  let name := s.takeWhile (· ≠ ':')
  (String.ofList (encode isUserChar name),
    String.ofList (encode isUserChar (s.drop (name.length + 1))))

def isHere (s : List Char) : Bool :=
  [".", "%2e"].contains (Text.lowerAscii (String.ofList s))

def isUp (s : List Char) : Bool :=
  ["..", ".%2e", "%2e.", "%2e%2e"].contains (Text.lowerAscii (String.ofList s))

/-- A drive, which a step up does not leave. -/
def isDrive (s : String) : Bool :=
  match s.toList with
  | [a, b] => a.isAlpha && (b == ':' || b == '|')
  | _ => false

def stepUp (path : List String) : List String :=
  if path.getLast?.any isDrive then path else path.dropLast

/-- The path with the given segments after `path`, where those for the directory itself and the one
above are resolved. A path that ends with one of them ends with an empty segment. -/
def resolve (path : List String) : List (List Char) → List String
  | [] => path
  | s :: rest =>
    if isUp s then resolve (if rest.isEmpty then stepUp path ++ [""] else stepUp path) rest
    else if isHere s then resolve (if rest.isEmpty then path ++ [""] else path) rest
    else resolve (path ++ [String.ofList (encode isPathChar s)]) rest

def pathOf (s : List Char) : List String :=
  let s := s.takeWhile (!isPathEnd ·)
  resolve [] ((if s.head?.any isSlash then s.tail else s).splitOnP isSlash)

structure Authority where
  username : String
  password : String
  host : Host
  port : Option Nat

def authority (s : List Char) : Except UrlError Authority := do
  let (user, site) := splitUser s
  let (host, port) := splitPort false site
  let host ← Host.ofChars host
  let port ← port? (port.getD [])
  let (username, password) := userOf (user.getD [])
  return ⟨username, password, host, port⟩

def isAuthorityEnd (c : Char) : Bool := isSlash c || isPathEnd c

def webAuthority (s : List Char) : Except UrlError (Authority × List Char) := do
  let s := s.dropWhile isSlash
  let a ← authority (s.takeWhile (!isAuthorityEnd ·))
  return (a, s.dropWhile (!isAuthorityEnd ·))

def checkForeign : List Char → Except UrlError Unit
  | '/' :: '/' :: s => do
    let isEnd (c : Char) : Bool := c == '/' || isPathEnd c
    let (user, site) := splitUser (s.takeWhile (!isEnd ·))
    let rest := s.dropWhile (!isEnd ·)
    if user = some [] ∧ site.isEmpty ∧ !rest.isEmpty then .error .emptyHost
    else
      let (host, port) := splitPort false site
      Host.checkOpaque host
      if host.isEmpty ∧ port.isSome then .error .emptyHost
      else
        let _ ← port? ((port.getD []).takeWhile (· ≠ '\\'))
        let named := userOf (user.getD []) ≠ ("", "")
        if host.isEmpty ∧ named then .error .emptyHost else .ok ()
  | _ => .ok ()

def checkFile (s : List Char) : Except UrlError Unit :=
  match s with
  | a :: b :: s =>
    let host := s.takeWhile (!isAuthorityEnd ·)
    if isSlash a && isSlash b && !host.isEmpty && !isDrive (String.ofList host) then
      (Host.ofChars host).map fun _ => ()
    else .ok ()
  | _ => .ok ()

/-- An address of the web, or one of another scheme, of which only the scheme counts. -/
inductive Reading where
  | web (url : Url)
  | other (scheme : String)

def read (text : String) : Except UrlError Reading := do
  let some (scheme, rest) := splitScheme? (significant text) | .error .noScheme
  match WebScheme.ofName? scheme with
  | some web =>
    let (a, path) ← webAuthority rest
    let port := a.port.filter (· ≠ web.defaultPort)
    return .web ⟨web, a.username, a.password, a.host, port, pathOf path, none⟩
  | none =>
    if scheme = "file" then checkFile rest
    else if ["ftp", "ws", "wss"].contains scheme then
      let _ ← webAuthority rest
    else checkForeign rest
    return .other scheme

end Url

inductive BaseUrlError where
  | unreadable (raw : String) (cause : UrlError)
  | scheme (name : String)
  deriving DecidableEq, Repr

def BaseUrlError.chain : BaseUrlError → List String
  | .unreadable raw cause => [s!"invalid base URL '{raw}'", cause.message]
  | .scheme name => [s!"unsupported base URL scheme '{name}'"]

namespace Url

def namesScheme (s : String) : Bool := go s.toList
where
  go : List Char → Bool
    | [] => false
    | c :: rest => [':', '/', '/'].isPrefixOf (c :: rest) || go rest

def withScheme (s : String) : String := if namesScheme s then s else "http://" ++ s

def asDirectory (u : Url) : Url :=
  if u.path.getLast? = some "" then u else { u with path := u.path ++ [""] }

def base (raw : String) : Except BaseUrlError Url :=
  let raw := Text.trim raw
  match read (withScheme raw) with
  | .ok (.web u) => .ok u.asDirectory
  | .ok (.other scheme) => .error (.scheme scheme)
  | .error cause => .error (.unreadable raw cause)

end Url

end InsectPortal
