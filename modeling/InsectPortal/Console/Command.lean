import InsectPortal.Operation
import InsectPortal.Text.Digits

/-!
# Commands

A command is a line of words. The first word names it, in either case; a command with the wrong
number of words is answered with its usage. The help lists flags and commands in two columns: what
to type, and what it does.
-/
namespace InsectPortal

inductive Command where
  | quit
  | help
  | signIn (form : SignInForm)
  | signUp (form : SignUpForm)
  | signOut
  | role
  | sections
  | info
  | feedbackOn (files : List LabeledFile)
  | labelTasks
  | label (image label : String)
  | users
  | toggleUsers (emails : List String)
  | addAdmin (form : AdminForm)
  | feedback
  /-- The verdict, and the numbers of the entries as they are typed. -/
  | review (acceptable : Bool) (indices : List String)
  | ssh
  | status
  | misused (usage : String)
  | unknown (name : String)
  deriving DecidableEq, Repr

namespace Command

/-- A picture, with a label after the first equals sign. -/
def labeledFile (s : String) : LabeledFile :=
  let name := s.toList.takeWhile (· ≠ '=')
  let rest := s.toList.drop (name.length + 1)
  ⟨String.ofList name, if rest.isEmpty then none else some (String.ofList rest)⟩

def adminRole (s : String) : Role :=
  let s := Text.lowerAscii s
  if s = "user" then .userAdmin else if s = "model" then .modelAdmin else .unknown

def verdict? (s : String) : Option Bool :=
  let s := Text.lowerAscii s
  if s = "accept" then some true else if s = "reject" then some false else none

def ofWords (name : String) (args : List String) : Command :=
  match name, args with
  | "quit", _ | "exit", _ => .quit
  | "help", _ => .help
  | "sign-in", [email, password] => .signIn (.enter email password)
  | "sign-in", _ => .misused "sign-in <email> <password>"
  | "sign-up", [username, email, password, repassword] =>
    .signUp ⟨username, password, repassword, email⟩
  | "sign-up", _ => .misused "sign-up <username> <email> <password> <repassword>"
  | "sign-out", _ => .signOut
  | "role", _ => .role
  | "sections", _ => .sections
  | "info", _ => .info
  | "feedback-on", [] => .misused "feedback-on <file>[=<label>]..."
  | "feedback-on", files => .feedbackOn (files.map labeledFile)
  | "label-tasks", _ => .labelTasks
  | "label", image :: word :: rest => .label image (" ".intercalate (word :: rest))
  | "label", _ => .misused "label <image> <label>"
  | "users", _ => .users
  | "toggle-users", emails => .toggleUsers emails
  | "add-admin", [username, email, password, repassword, rank] =>
    .addAdmin ⟨username, email, password, repassword, adminRole rank⟩
  | "add-admin", _ => .misused "add-admin <username> <email> <password> <repassword> <user|model>"
  | "feedback", _ => .feedback
  | "review", args =>
    match args.head?.bind verdict? with
    | some acceptable => .review acceptable args.tail
    | none => .misused "review <accept|reject> <index>..."
  | "ssh", _ => .ssh
  | "status", _ => .status
  | name, _ => .unknown name

def ofLine? (line : String) : Option Command :=
  match Text.words line with
  | [] => none
  | name :: args => some (ofWords (Text.lowerAscii name) args)

def listed? (listing : List FeedbackEntry) (index : String) : Option FeedbackEntry :=
  match Text.count index with
  | .ok n => listing[n]?
  | .error _ => none

/-- One verdict for each number that an entry has. -/
def decisions (listing : List FeedbackEntry) (acceptable : Bool) (indices : List String) :
    List FeedbackDecision :=
  (indices.filterMap (listed? listing)).map (·.verdict acceptable)

def strays (listing : List FeedbackEntry) (indices : List String) : List String :=
  indices.filter fun index => (listed? listing index).isNone

/-- The operation that a command starts, when the given entries are listed. -/
def operation? (listing : List FeedbackEntry) : Command → Option Operation
  | .signIn form => some (.signIn form)
  | .signUp form => some (.signUp form)
  | .signOut => some .signOut
  | .role => some .refreshRole
  | .info => some (.task .userInfo)
  | .feedbackOn files => some (.task (.submitFeedback files))
  | .labelTasks => some (.task .labelTasks)
  | .label image text => some (.task (.submitLabel image text))
  | .users => some (.task .listUsers)
  | .toggleUsers emails => some (.task (.toggleUsers emails))
  | .addAdmin form => some (.task (.addAdmin form))
  | .feedback => some (.task .listFeedback)
  | .review acceptable indices =>
    some (.task (.reviewFeedback (decisions listing acceptable indices)))
  | .ssh => some (.task .authenticateSsh)
  | .quit | .help | .sections | .status | .misused _ | .unknown _ => none

end Command

namespace Console

/-- A row of two columns. What does not fit into the first one has the second on the next line. -/
def usageRow (width : Nat) (row : String × String) : String :=
  let blanks (n : Nat) : String := String.ofList (List.replicate n ' ')
  let (name, meaning) := row
  if name.length < width then "  " ++ name ++ blanks (width - name.length) ++ meaning
  else "  " ++ name ++ "\n" ++ blanks (width + 2) ++ meaning

def flagRows : List (String × String) := [
  ("--base-url <url>",
    "Backend address (env INSECTID_BASE_URL or BASE_URL; default 127.0.0.1:8080)"),
  ("--session-file <path>",
    "Keep the session in this JSON file across restarts (env INSECTID_SESSION_FILE)"),
  ("-h, --help", "Show this help")]

def commandRows : List (String × String) := [
  ("sign-in <email> <password>", "start a session"),
  ("sign-up <username> <email> <password> <repassword>",
    "create an account (sign in afterwards)"),
  ("sign-out", "end the session (asks for confirmation)"),
  ("role", "retry the role lookup"),
  ("sections", "list the sections you can open"),
  ("info", "show your user info"),
  ("feedback-on <file>[=<label>]...",
    "tell which label your uploaded pictures should have had"),
  ("label-tasks", "list pictures waiting for a label"),
  ("label <image> <label>", "label one picture"),
  ("users", "list accounts (user admins)"),
  ("toggle-users <email>...", "suspend or reinstate accounts (user admins)"),
  ("add-admin <username> <email> <password> <repassword> <user|model>",
    "create an administrator (user admins)"),
  ("feedback", "list feedback waiting for review (user admins)"),
  ("review <accept|reject> <index>...", "decide on listed feedback (user admins)"),
  ("ssh", "start the web terminal (model admins)"),
  ("status", "show session state"),
  ("help", "show this help"),
  ("quit | exit", "leave the console")]

def usage (program : String) : String :=
  "\n".intercalate
    (["Usage:", "  " ++ program ++ " [--base-url <url>] [--session-file <path>]", "", "Flags:"] ++
      flagRows.map (usageRow 25) ++ ["", "Interactive commands:"] ++
      commandRows.map (usageRow 52))

end Console

end InsectPortal
