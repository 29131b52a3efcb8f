import InsectPortal.Storage.Disk
import InsectPortal.Storage.Items

/-!
# The session file

A session file keeps the items of a session as a JSON object. The items in memory are what counts:
every write changes them first and is then brought to disk by way of a temporary file that is
renamed over the session file, which therefore holds either the old or the new items. What fails on
the disk is passed over. The disk itself is whatever `perform` makes of its steps.
-/
namespace InsectPortal

structure SessionFile where
  path : String
  items : Items
  deriving DecidableEq

namespace SessionFile

inductive OpenError where
  | isDirectory (path : String)
  deriving DecidableEq, Repr

def OpenError.chain : OpenError → List String
  | .isDirectory path => [s!"Failed to read session file {path}", "Is a directory (os error 21)"]

def isBlankByte (b : UInt8) : Bool :=
  b == 9 || b == 10 || b == 12 || b == 13 || b == 32

/-- The items a file holds; a blank or unreadable file holds none. -/
def itemsOf (content : ByteArray) : Items :=
  if content.toList.all isBlankByte then .empty
  else ((Json.ofBytes? content).bind Items.ofJson?).getD .empty

def openAt (d : Disk) (path : String) : Except OpenError SessionFile :=
  match d.look? path with
  | some (.file content) => .ok ⟨path, itemsOf content⟩
  | some .directory => .error (.isDirectory path)
  | none => .ok ⟨path, .empty⟩

/-- Whether a write has to reach the disk: removing what is not there changes nothing. -/
def isEffective (f : SessionFile) : Write → Bool
  | .remove key => f.items.contains key
  | _ => true

section

variable {m : Type → Type} [Monad m]

/-- Brings the items to disk. Each step goes on as its outcome allows; the temporary file does not
stay where it cannot be renamed. -/
def persist (perform : DiskStep → m Bool) (f : SessionFile) : m Unit := do
  if Path.parent f.path ≠ "" then
    let _ ← perform (.makeDirectories (Path.parent f.path))
  if ← perform (.write (Path.temporary f.path) f.items.render.toUTF8) then
    if !(← perform (.rename (Path.temporary f.path) f.path)) then
      let _ ← perform (.remove (Path.temporary f.path))

def write (perform : DiskStep → m Bool) (f : SessionFile) (w : Write) : m SessionFile := do
  let next : SessionFile := { f with items := f.items.apply w }
  if f.isEffective w then next.persist perform
  return next

def writeAll (perform : DiskStep → m Bool) (f : SessionFile) : List Write → m SessionFile
  | [] => pure f
  | w :: rest => do (← f.write perform w).writeAll perform rest

end

def onDisk (s : DiskStep) : StateM Disk Bool := fun d => d.perform s

def diskAfter (f : SessionFile) (d : Disk) (writes : List Write) : Disk :=
  (f.writeAll onDisk writes d).2

end SessionFile

end InsectPortal
