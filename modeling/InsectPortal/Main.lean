import InsectPortal.Console.Basic
import InsectPortal.Console.Launch
import InsectPortal.Http.Client
import InsectPortal.Http.Wire
import Std.Async.DNS
import Std.Async.TCP
import Std.Async.Timer

/-!
# The program

The console at a terminal: lines come from the standard input, requests go out over TCP, and the
session file follows the keyring. Everything that is decided is decided elsewhere.
-/
namespace InsectPortal.Main

open Std.Async Std.Net

instance : Inhabited Exchange := ⟨.lost⟩

def addresses (h : Host) : Async (Array IPAddr) := do
  match h with
  | .domain name => DNS.getAddrInfo name ""
  | .ipv4 a => return ((IPv4Addr.ofString a.text).map IPAddr.v4).toArray
  | .ipv6 a => return ((IPv6Addr.ofString a.text).map IPAddr.v6).toArray

def socketAddress (a : IPAddr) (port : UInt16) : SocketAddress :=
  match a with
  | .v4 addr => .v4 { addr, port }
  | .v6 addr => .v6 { addr, port }

/-- Receives until the response is there or the connection ends. -/
partial def receive (socket : TCP.Socket.Client) (bytes : ByteArray) : Async Exchange := do
  match ← socket.recv? 65536 with
  | none => return (Wire.response? true bytes.toList).getD .lost
  | some more =>
    let bytes := bytes ++ more
    match Wire.response? false bytes.toList with
    | some x => return x
    | none => receive socket bytes

def exchange (r : Request) : Async Exchange := do
  let some a := (← addresses r.url.host)[0]? | return .lost
  let socket ← TCP.Socket.Client.mk
  socket.connect (socketAddress a (.ofNat (r.url.port.getD r.url.scheme.defaultPort)))
  socket.send (Wire.requestBytes r)
  receive socket .empty

/-- Sends a request; a secure connection is not offered. -/
def send (timeout : Option Nat) (r : Request) : IO Exchange := do
  if r.url.scheme = .https then return .lost
  try
    match timeout with
    | none => (exchange r).block
    | some t =>
      let late : Async Exchange := do
        sleep (.ofNat t)
        return .lost
      (Async.race (exchange r) late).block
  catch _ => return .lost

def perform (step : DiskStep) : IO Bool := do
  try
    match step with
    | .makeDirectories path => IO.FS.createDirAll path
    | .write path content => IO.FS.writeBinFile path content
    | .rename source target => IO.FS.rename source target
    | .remove path => IO.FS.removeFile path
    return true
  catch _ => return false

/-- What stands at a path, as a disk of its own. -/
def snapshot (path : String) : IO Disk := do
  try
    if ← (← IO.FS.realPath path).isDir then return Disk.empty.place path none
    return Disk.empty.place path (some (← IO.FS.readBinFile path))
  catch _ => return .empty

/-- Follows the keyring of a portal in the session file, from the write after those already done. -/
def followKeyring (s : Settings) (items : Items) (done : IO.Ref Nat) (p : Portal) : IO Unit := do
  let journal := p.session.keyring.journal
  if let some path := s.sessionFile then
    let n ← done.get
    let file : SessionFile := ⟨path, items.applyAll (journal.take n)⟩
    let _ ← file.writeAll perform (journal.drop n)
  done.set journal.length

def print (ps : List Printed) : IO Unit := do
  for p in ps do
    match p with
    | .out text => IO.print text
    | .err text => IO.eprint text
  (← IO.getStdout).flush

partial def readBytes (input : IO.FS.Stream) (bytes : ByteArray) : IO ByteArray := do
  let more ← input.read 1
  let bytes := bytes ++ more
  if more.isEmpty || more.toList == [10] then return bytes else readBytes input bytes

def readLine (input : IO.FS.Stream) : IO (Option Line) := do
  let bytes ← readBytes input .empty
  return if bytes.isEmpty then none else some (.ofBytes bytes.toList)

partial def converse (input : IO.FS.Stream) (answer : Portal → (c : Call) → IO c.Reply)
    (follow : Portal → IO Unit) (c : Console) : IO UInt32 := do
  if let .closed exit := c.stage then return exit.toUInt32
  match ← readLine input with
  | none =>
    let (c, shown) := c.finish
    print shown
    return c.exit.toUInt32
  | some line =>
    let (c, shown) ← c.feed answer line
    follow c.portal
    print shown
    converse input answer follow c

def run (s : Settings) : IO UInt32 := do
  let disk ← match s.sessionFile with
    | some path => snapshot path
    | none => pure .empty
  match s.openItems disk with
  | .error e =>
    IO.eprint (Console.report e.chain)
    return 1
  | .ok items =>
    let portal := Portal.ofItems items s.remoteSignOut
    let follow := followKeyring s items (← IO.mkRef 0)
    follow portal
    match s.client with
    | .error e =>
      IO.eprint (Console.report e.chain)
      return 1
    | .ok client =>
      let answer (p : Portal) (c : Call) : IO c.Reply := do
        follow p
        client.answer (send s.timeout) p c
      let (c, shown) ← Console.start answer portal
      follow c.portal
      print shown
      converse (← IO.getStdin) answer follow c

def settingNames : List String :=
  ["INSECTID_BASE_URL", "BASE_URL", "INSECTID_AUTH_HEADER", "INSECTID_SESSION_FILE",
    "INSECTID_REMOTE_SIGN_OUT", "INSECTID_TIMEOUT_MS"]

def environment : IO Environment := do
  let values ← settingNames.mapM fun name => do return (name, ← IO.getEnv name)
  return fun name => (values.find? (·.1 = name)).bind (·.2)

end InsectPortal.Main

def main (args : List String) : IO UInt32 := do
  match InsectPortal.Launch.ofArgs "insectid" (← InsectPortal.Main.environment) args with
  | .stop message exit =>
    IO.eprint message
    return exit.toUInt32
  | .start settings => InsectPortal.Main.run settings
