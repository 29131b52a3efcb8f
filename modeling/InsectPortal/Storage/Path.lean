/-!
# Paths of files

A path is a text of segments with slashes between them. `parent` names the directory a file stands
in, and `temporary` the file beside it that is written before it takes the file's place.
-/
namespace InsectPortal.Path

def segments (path : String) : List (List Char) :=
  path.toList.splitOn '/'

def join (segs : List (List Char)) : String :=
  String.ofList ((segs.intersperse ['/']).flatten)

def isVoid (s : List Char) : Bool := s.isEmpty || s == ['.']

def named (path : String) : List (List Char) :=
  ((segments path).reverse.dropWhile isVoid).reverse

/-- The text before the file name, and the file name; none where the path ends in no name. -/
def splitName? (path : String) : Option (String × List Char) :=
  match (named path).reverse with
  | [] => none
  | name :: front =>
    if name == ['.', '.'] then none
    else some (join (front.reverse ++ (if front.isEmpty then [] else [[]])), name)

/-- A file name before and after its last point; a point in front starts no extension. -/
def splitExtension (name : List Char) : List Char × Option (List Char) :=
  let after := name.reverse.takeWhile (· ≠ '.')
  match name.reverse.drop (after.length + 1) with
  | [] => (name, none)
  | front => (front.reverse, some after.reverse)

def parent (path : String) : String :=
  match (named path).reverse with
  | [] => ""
  | _ :: front => join front.reverse

/-- The file that is written in place of `path` first: its extension gives way to `json.tmp`. -/
def temporary (path : String) : String :=
  match splitName? path with
  | none => path
  | some (_, name) =>
    let shortened :=
      match (splitExtension name).2 with
      | none => path
      | some extension => String.ofList (path.toList.take (path.length - extension.length))
    match splitName? shortened with
    | none => shortened
    | some (front, name) => front ++ String.ofList (splitExtension name).1 ++ ".json.tmp"

end InsectPortal.Path
