import InsectPortal.Http.Request
import InsectPortal.Http.Response
import InsectPortal.Portal
import InsectPortal.Settings
import InsectPortal.Storage.SessionFile

/-!
# The client

The client makes a request of each call and a reply of each response. A request that cannot be made
or sent fails without a response.
-/
namespace InsectPortal

structure Client where
  base : Url
  authorizer : Authorizer
  deriving DecidableEq, Repr

namespace Client

variable {m : Type → Type} [Monad m]

def unsendable (c : Call) (r : Request) : Failure :=
  .network "transport" s!"{c.name}: builder error for url ({r.url.text})"

def unanswered (c : Call) (r : Request) : Failure :=
  .network "transport" s!"{c.name}: error sending request for url ({r.url.text})"

def replyTo (c : Call) (r : Request) : Exchange → c.Reply
  | .lost => .error (unanswered c r)
  | .answered response => response.reply c

/-- Sends a call, with the token among the given items where it needs one. -/
def call (send : Request → m Exchange) (client : Client) (items : Items) (c : Call) :
    m c.Reply :=
  match Request.ofCall client.base client.authorizer items c with
  | .error e => pure (.error e)
  | .ok r =>
    if r.isSendable then do return replyTo c r (← send r)
    else pure (.error (unsendable c r))

def answer (send : Request → m Exchange) (client : Client) (p : Portal) (c : Call) : m c.Reply :=
  client.call send p.session.keyring.items c

end Client

inductive OpenError where
  | sessionFile (e : SessionFile.OpenError)
  | authorizer (e : Failure)
  deriving DecidableEq, Repr

def OpenError.chain : OpenError → List String
  | .sessionFile e => e.chain
  | .authorizer e => ["While configuring the request authorizer", e.display]

namespace Settings

/-- The items that the settings have the session start with, as the disk is. -/
def openItems (s : Settings) (d : Disk) : Except SessionFile.OpenError Items :=
  match s.sessionFile with
  | some path => (SessionFile.openAt d path).map (·.items)
  | none => .ok .empty

def diskAfter (s : Settings) (d : Disk) (items : Items) (writes : List Write) : Disk :=
  match s.sessionFile with
  | some path => SessionFile.diskAfter ⟨path, items⟩ d writes
  | none => d

def client (s : Settings) : Except OpenError Client :=
  match Authorizer.ofName s.authHeader with
  | .ok authorizer => .ok ⟨s.baseUrl, authorizer⟩
  | .error e => .error (.authorizer e)

end Settings

end InsectPortal
