import InsectPortal.Json.Text

/-!
# Records and names in JSON

A record is read from an object or from an array of its fields in order. In an object the order of
the members is free, names that are no field are skipped, and no field may be given twice. In an
array only fields at the end may be left out. What a missing field means is the field's own rule.
-/
namespace InsectPortal.Json

/-- What stands for a field of a record. -/
inductive Slot where
  | given (v : Json)
  | absent
  /-- The array ends before this field. -/
  | beyond

/-- What stands for a name among the members of an object; none where the name is repeated. -/
def slotOf (members : List (Literal × Json)) (name : String) : Option Slot :=
  match members.filter (fun m => m.1 == some name) with
  | [] => some .absent
  | [m] => some (.given m.2)
  | _ => none

def slots? (names : List String) : Json → Option (List Slot)
  | .object members =>
    if members.all (·.1.isSome) then names.mapM (slotOf members) else none
  | .array items =>
    if items.length ≤ names.length then
      some (items.map .given ++ List.replicate (names.length - items.length) .beyond)
    else none
  | _ => none

namespace Slot

variable {α : Type}

def required (read : Json → Option α) : Slot → Option α
  | .given v => read v
  | _ => none

def orElse (read : Json → Option α) (default : α) : Slot → Option α
  | .given v => read v
  | _ => some default

def nullable (read : Json → Option α) : Slot → Option (Option α)
  | .given .null => some none
  | .given v => (read v).map some
  | _ => some none

/-- A field that may be null, or left out of an object. -/
def nullableMember (read : Json → Option α) : Slot → Option (Option α)
  | .beyond => none
  | s => s.nullable read

end Slot

def ofFields (names : List String) (values : List Json) : Json :=
  .record (names.zip values)

def ofOption : Option String → Json
  | some s => .str s
  | none => .null

/-- The name a plain choice is given by: the string itself, or an object whose only member has this
name and the value null. -/
def choice? : Json → Option String
  | .text t => t
  | .object [(k, .null)] => k
  | _ => none

end InsectPortal.Json
