import InsectPortal.Console.Command
import InsectPortal.Settings

/-!
# Launching the console

The settings come from the environment first; flags change them in the order they are given. A flag
that cannot be followed, and one that asks for help, ends the program before it starts. A fatal
error is told with its causes, as a report with a paragraph for them.
-/
namespace InsectPortal

namespace Console

def errorLine (chain : List String) : String := ": ".intercalate chain

/-- A text with `first` in front, and every line but the first one behind `margin`. -/
def indented (first margin text : String) : String :=
  first ++ ("\n" ++ margin).intercalate ((text.toList.splitOn '\n').map String.ofList)

def numberedCause (text : String) (n : Nat) : String :=
  let number := n.repr
  let pad := String.ofList (List.replicate (5 - number.length) ' ')
  indented (pad ++ number ++ ": ") "       " text

def causeLines : List String → List String
  | [c] => [indented "    " "    " c]
  | cs => cs.zipIdx.map fun (c, n) => numberedCause c n

def report : List String → String
  | [] => "Error: \n"
  | [e] => "Error: " ++ e ++ "\n"
  | e :: causes =>
    "Error: " ++ e ++ "\n\nCaused by:\n" ++ "\n".intercalate (causeLines causes) ++ "\n"

end Console

inductive Launch where
  | start (settings : Settings)
  | stop (message : String) (exit : UInt8)
  deriving DecidableEq, Repr

namespace Launch

def fail (chain : List String) : Launch := .stop (Console.report chain) 1

def misuse (program complaint : String) : Launch :=
  .stop (complaint ++ "\n" ++ Console.usage program ++ "\n") 2

def ofFlags (program : String) (s : Settings) : List String → Launch
  | [] => .start s
  | flag :: rest =>
    if flag = "--base-url" then
      match rest with
      | [] => misuse program "--base-url requires a value"
      | value :: rest =>
        match s.withBaseUrl value with
        | .ok s => ofFlags program s rest
        | .error e => fail e.chain
    else if flag = "--session-file" then
      match rest with
      | [] => misuse program "--session-file requires a value"
      | value :: rest => ofFlags program (s.withSessionFile value) rest
    else if flag = "-h" ∨ flag = "--help" then .stop (Console.usage program ++ "\n") 0
    else misuse program s!"Unrecognized argument: {flag}"

def ofArgs (program : String) (env : Environment) (args : List String) : Launch :=
  match Settings.ofEnvironment env with
  | .ok s => ofFlags program s args
  | .error e => fail ("Failed to read configuration from environment" :: e.chain)

end Launch

end InsectPortal
