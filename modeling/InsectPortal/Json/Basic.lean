import InsectPortal.Json.Numeral

/-!
# JSON values

A value as a JSON text states it: members keep their order and their repetitions, and a number
keeps the form it is written in, so that a reader can ask for exactly the spelling it needs.
-/
namespace InsectPortal

/-- The text of a string literal; none where the literal holds an unpaired surrogate, which no
text can hold. -/
abbrev Literal := Option String

inductive Json where
  | null
  | bool (b : Bool)
  | number (n : Numeral)
  | text (t : Literal)
  | array (items : List Json)
  | object (members : List (Literal × Json))

namespace Json

def str (s : String) : Json := .text (some s)

def count (n : UInt64) : Json := .number (.ofNat n.toNat)

def record (members : List (String × Json)) : Json :=
  .object (members.map fun m => (some m.1, m.2))

def str? : Json → Option String
  | .text t => t
  | _ => none

def bool? : Json → Option Bool
  | .bool b => some b
  | _ => none

def count? : Json → Option UInt64
  | .number n => (n.toNat?.filter (· < UInt64.size)).map UInt64.ofNat
  | _ => none

def list? {α : Type} (read : Json → Option α) : Json → Option (List α)
  | .array items => items.mapM read
  | _ => none

mutual

/-- How many arrays and objects are open at the deepest point. -/
def depth : Json → Nat
  | .array items => itemsDepth items + 1
  | .object members => membersDepth members + 1
  | _ => 0

def itemsDepth : List Json → Nat
  | [] => 0
  | v :: rest => max v.depth (itemsDepth rest)

def membersDepth : List (Literal × Json) → Nat
  | [] => 0
  | (_, v) :: rest => max v.depth (membersDepth rest)

end

mutual

/-- Every string is a text and every number is within the binary64 range. -/
def isPlain : Json → Bool
  | .number n => n.isFinite
  | .text t => t.isSome
  | .array items => itemsPlain items
  | .object members => membersPlain members
  | _ => true

def itemsPlain : List Json → Bool
  | [] => true
  | v :: rest => v.isPlain && itemsPlain rest

def membersPlain : List (Literal × Json) → Bool
  | [] => true
  | (k, v) :: rest => k.isSome && v.isPlain && membersPlain rest

end

end Json

end InsectPortal
