import InsectPortal.Storage.Path

/-!
# Files on disk

A tree of files and directories as seen from the working directory, and the steps that change it.
A step that fails says so; only the making of nested directories may leave a part of its work
behind.
-/
namespace InsectPortal

/-- Where a file or directory stands: the names that lead there from the working directory, after
as many `..` as lead out of it, or after a slash for the root. -/
abbrev Place := List String

inductive Node where
  | file (content : ByteArray)
  | directory

structure Disk where
  nodes : List (Place × Node)

inductive DiskStep where
  | makeDirectories (path : String)
  | write (path : String) (content : ByteArray)
  | rename (source target : String)
  | remove (path : String)

namespace Disk

def empty : Disk := ⟨[]⟩

instance : Inhabited Disk := ⟨empty⟩

/-- The working directory, the root and the directories above the working directory. -/
def isAnchor (p : Place) : Bool := p == ["/"] || p.all (· == "..")

def node? (d : Disk) (p : Place) : Option Node :=
  if isAnchor p then some .directory else (d.nodes.find? (·.1 = p)).map (·.2)

def isDirectory (d : Disk) (p : Place) : Bool :=
  match d.node? p with
  | some .directory => true
  | _ => false

def put (d : Disk) (p : Place) (n : Node) : Disk :=
  ⟨(p, n) :: d.nodes.filter (·.1 ≠ p)⟩

def dropTree (d : Disk) (p : Place) : Disk :=
  ⟨d.nodes.filter fun e => !p.isPrefixOf e.1⟩

def above (p : Place) : Place :=
  if p == ["/"] then p else if p.all (· == "..") then p ++ [".."] else p.dropLast

def isName (s : String) : Bool := s.utf8ByteSize ≤ 255

def enter? (p : Place) (segment : List Char) : Option Place :=
  if Path.isVoid segment then some p
  else if segment == ['.', '.'] then some (above p)
  else
    let name := String.ofList segment
    if isName name then some (p ++ [name]) else none

/-- The place some segments further; all but the last have to lead to directories. -/
def follow? (d : Disk) (p : Place) : List (List Char) → Option Place
  | [] => some p
  | s :: rest => if d.isDirectory p then (enter? p s).bind (d.follow? · rest) else none

def origin? (path : String) : Option (Place × List (List Char)) :=
  if path.isEmpty || path.contains '\x00' then none
  else
    match Path.segments path with
    | [] :: rest => some (["/"], rest)
    | segs => some ([], segs)

/-- The place a path leads to, whether or not something stands there. -/
def resolve? (d : Disk) (path : String) : Option Place := do
  let (p, segs) ← origin? path
  d.follow? p segs

def look? (d : Disk) (path : String) : Option Node := (d.resolve? path).bind d.node?

/-- Makes the directories along some segments, up to the first that cannot be made. -/
def makeAlong (d : Disk) (p : Place) : List (List Char) → Bool × Disk
  | [] => (true, d)
  | s :: rest =>
    match enter? p s with
    | none => (false, d)
    | some q =>
      match d.node? q with
      | some .directory => d.makeAlong q rest
      | some (.file _) => (false, d)
      | none => (d.put q .directory).makeAlong q rest

def makeDirectories (d : Disk) (path : String) : Bool × Disk :=
  match origin? path with
  | none => (false, d)
  | some (p, segs) => d.makeAlong p segs

def writable? (d : Disk) (path : String) : Option Place :=
  (d.resolve? path).filter (fun p => !d.isDirectory p)

def write (d : Disk) (path : String) (content : ByteArray) : Bool × Disk :=
  match d.writable? path with
  | some p => (true, d.put p (.file content))
  | none => (false, d)

def rename (d : Disk) (source target : String) : Bool × Disk :=
  match d.resolve? source, d.writable? target with
  | some p, some q =>
    match d.node? p with
    | some (.file content) => (true, (d.dropTree p).put q (.file content))
    | _ => (false, d)
  | _, _ => (false, d)

def remove (d : Disk) (path : String) : Bool × Disk :=
  match d.resolve? path with
  | some p =>
    match d.node? p with
    | some (.file _) => (true, d.dropTree p)
    | _ => (false, d)
  | none => (false, d)

def perform (d : Disk) : DiskStep → Bool × Disk
  | .makeDirectories path => d.makeDirectories path
  | .write path content => d.write path content
  | .rename source target => d.rename source target
  | .remove path => d.remove path

/-- The node below the working directory that a place stands for, with its path; a slash ends the
path of a directory. -/
def listed? : Place × Node → Option (String × Option ByteArray)
  | (p, n) =>
    if p.contains ".." || p.head? == some "/" then none
    else
      match n with
      | .file content => some ("/".intercalate p, some content)
      | .directory => some ("/".intercalate p ++ "/", none)

def listing (d : Disk) : List (String × Option ByteArray) := d.nodes.filterMap listed?

def place (d : Disk) (path : String) : Option ByteArray → Disk
  | some content => (((d.makeDirectories (Path.parent path)).2).write path content).2
  | none => (d.makeDirectories path).2

def delete (d : Disk) (path : String) : Disk :=
  match d.resolve? path with
  | some p => d.dropTree p
  | none => d

def ofFiles (files : List (String × Option ByteArray)) : Disk :=
  files.foldl (fun d f => d.place f.1 f.2) empty

end Disk

end InsectPortal
