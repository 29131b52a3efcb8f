import InsectPortal.Console.Command
import InsectPortal.Listing
import InsectPortal.Portal

/-!
# The console

The console reads lines and carries out the commands on them, one after the other. `feed` is one
line: what it makes of the console, and what is printed. A sign-out is confirmed on a line of its
own.
-/
namespace InsectPortal

inductive Printed where
  | out (text : String)
  | err (text : String)
  deriving DecidableEq, Repr

namespace Printed

def outText (ps : List Printed) : String :=
  String.join (ps.map fun | .out text => text | .err _ => "")

def errText (ps : List Printed) : String :=
  String.join (ps.map fun | .out _ => "" | .err text => text)

def outLine (text : String) : Printed := .out (text ++ "\n")

def errLine (text : String) : Printed := .err (text ++ "\n")

def ofNote (n : Notification) : Printed :=
  if n.level = .error then errLine n.line else outLine n.line

end Printed

inductive Line where
  | text (s : String)
  | unreadable
  deriving DecidableEq, Repr

namespace Line

def ofBytes (bytes : List UInt8) : Line :=
  match String.fromUTF8? bytes.toByteArray with
  | some s => .text s
  | none => .unreadable

def all (input : ByteArray) : List Line :=
  let ls := input.toList.splitOn 10
  (if ls.getLast? = some [] then ls.dropLast else ls).map ofBytes

end Line

/-- What the next line is read as. -/
inductive ConsoleStage where
  | command
  | confirm
  | closed (exit : UInt8)
  deriving DecidableEq, Repr

structure Console where
  portal : Portal
  /-- The feedback that was listed last. -/
  listing : List FeedbackEntry
  stage : ConsoleStage
  deriving DecidableEq

namespace Console

def prompt : ConsoleStage → List Printed
  | .command => [.out "> "]
  | .confirm => [.out "Would you like to sign out? [y/N] "]
  | .closed _ => []

def showSections (c : Console) : Console × List Printed :=
  let (ss, portal) := c.portal.sections
  ({ c with portal }, [.outLine (Listing.sections ss)])

def showStatus (c : Console) : List Printed :=
  [.outLine (Listing.status c.portal.state c.portal.session.credential.userIdentifier)]

def warnings (c : Console) : Command → List Printed
  | .help => [.errLine (usage "insectid")]
  | .misused text => [.errLine ("usage: " ++ text)]
  | .unknown name => [.errLine s!"unknown command '{name}'; type 'help'"]
  | .review _ indices =>
    (Command.strays c.listing indices).map fun index =>
      .errLine s!"no listed feedback #{index}; run 'feedback' first"
  | _ => []

def answerLocally (c : Console) : Command → Console × List Printed
  | .sections => c.showSections
  | .status => (c, c.showStatus)
  | .quit => ({ c with stage := .closed 0 }, [])
  | _ => (c, [])

def conclude (c : Console) : Command → Outcome → Console × List Printed
  | .signIn _, .ok _ => c.showSections
  | .signOut, .ok _ => c.showSections
  | .role, .ok (.role (some role)) =>
    let (c, shown) := c.showSections
    (c, .outLine ("role: " ++ role.display) :: shown)
  | .role, _ => c.showSections
  | .info, .ok (.profile p) => (c, [.outLine (Listing.profile p)])
  | .labelTasks, .ok (.labelTasks ts) => (c, [.outLine (Listing.labelTasks ts)])
  | .label image label, .ok _ => (c, [.outLine s!"labelled {image} as '{label}'"])
  | .users, .ok (.users us) => (c, [.outLine (Listing.users us)])
  | .toggleUsers emails, .ok _ => (c, [.outLine s!"toggled {emails.length} account(s)"])
  | .feedback, .ok (.feedback es) =>
    ({ c with listing := es }, [.outLine (Listing.feedback es)])
  | .review acceptable indices, .ok _ =>
    let n := (Command.decisions c.listing acceptable indices).length
    let verb := if acceptable then "accepted" else "rejected"
    (c, [.outLine s!"{verb} {n} feedback item(s)"])
  | .ssh, .ok (.address s) => (c, [.outLine ("web terminal: " ++ s)])
  | _, _ => (c, [])

def isYes (s : String) : Bool :=
  ["y", "yes"].contains (Text.lowerAscii (Text.trim s))

section

variable {m : Type → Type} [Monad m]

def execute (answer : Portal → (call : Call) → m call.Reply) (c : Console) (cmd : Command) :
    m (Console × List Printed) :=
  match cmd.operation? c.listing with
  | none =>
    let (c', shown) := c.answerLocally cmd
    pure (c', c.warnings cmd ++ shown)
  | some op => do
    let t ← c.portal.run answer op
    let outcome := t.outcome?.getD (.ok .none)
    let (c', shown) := { c with portal := t.portal }.conclude cmd outcome
    return (c', c.warnings cmd ++ t.notes.map .ofNote ++ shown)

def onCommand (answer : Portal → (call : Call) → m call.Reply) (c : Console) :
    Line → m (Console × List Printed)
  | .unreadable => pure ({ c with stage := .closed 0 }, [])
  | .text s =>
    match Command.ofLine? s with
    | none => pure (c, [])
    | some .signOut =>
      if c.portal.state.signedIn then pure ({ c with stage := .confirm }, [])
      else c.execute answer .signOut
    | some cmd => c.execute answer cmd

def onConfirmation (answer : Portal → (call : Call) → m call.Reply) (c : Console) :
    Line → m (Console × List Printed)
  | .unreadable =>
    pure ({ c with stage := .closed 1 }, [.errLine "Error: stream did not contain valid UTF-8"])
  | .text s =>
    let c := { c with stage := .command }
    if isYes s then c.execute answer .signOut else pure (c, [])

def onLine (answer : Portal → (call : Call) → m call.Reply) (c : Console) (line : Line) :
    m (Console × List Printed) :=
  match c.stage with
  | .command => c.onCommand answer line
  | .confirm => c.onConfirmation answer line
  | .closed _ => pure (c, [])

def feed (answer : Portal → (call : Call) → m call.Reply) (c : Console) (line : Line) :
    m (Console × List Printed) := do
  let (c', shown) ← c.onLine answer line
  return (c', shown ++ prompt c'.stage)

/-- The end of the input. It counts as an empty answer, and then as the end of the console. -/
def finish (c : Console) : Console × List Printed :=
  match c.stage with
  | .command => ({ c with stage := .closed 0 }, [])
  | .confirm => ({ c with stage := .closed 0 }, prompt .command)
  | .closed _ => (c, [])

def start (answer : Portal → (call : Call) → m call.Reply) (p : Portal) :
    m (Console × List Printed) := do
  let t ← p.run answer .start
  let (c, shown) := (Console.mk t.portal [] .command).showSections
  return (c, t.notes.map .ofNote ++
    .outLine "insectid console. Type 'help' for commands." :: shown ++ prompt .command)

def feedAll (answer : Portal → (call : Call) → m call.Reply) (c : Console) :
    List Line → m (Console × List Printed)
  | [] => pure c.finish
  | line :: rest => do
    let (c', shown) ← c.feed answer line
    let (c'', more) ← c'.feedAll answer rest
    return (c'', shown ++ more)

end

def exit (c : Console) : UInt8 :=
  match c.stage with
  | .closed exit => exit
  | _ => 0

end Console

end InsectPortal
