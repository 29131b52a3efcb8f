import InsectPortal.Text.Digits

/-!
# Numeric hosts

An IPv4 address is up to four numbers with points between them, the last of which fills what the
others leave of 32 bits. An IPv6 address is eight groups of 16 bits; a double colon stands for the
groups of zeros that are left out, and a dotted IPv4 address may stand for the last two groups.
-/
namespace InsectPortal

structure IPv4 where
  value : UInt32
  deriving DecidableEq, Repr

namespace IPv4

/-- A number in an IPv4 address: hexadecimal after `0x`, octal after any other zero in front, and
decimal otherwise. -/
def number? : List Char → Option Nat
  | [] => none
  | '0' :: 'x' :: rest => Text.ofRadix? 16 rest
  | '0' :: c :: rest => Text.ofRadix? 8 (c :: rest)
  | s => Text.ofRadix? 10 s

def parts (s : List Char) : List (List Char) :=
  let ps := s.splitOn '.'
  if ps.length ≥ 2 ∧ ps.getLast? = some [] then ps.dropLast else ps

/-- Whether a name can only be an IPv4 address: its last part is a number, or at least looks like
one. -/
def endsInNumber (s : List Char) : Bool :=
  match (parts s).getLast? with
  | none => false
  | some p => (!p.isEmpty && p.all Char.isDigit) || (number? p).isSome

def capacity : Nat → Nat
  | 0 => 1
  | n + 1 => capacity n * 256

/-- The address whose last number fills what the numbers before it, one byte each, leave. -/
def ofNumbers? (front : List Nat) (last : Nat) : Option IPv4 :=
  let room := capacity (4 - front.length)
  if front.length ≤ 3 ∧ front.all (· < 256) ∧ last < room then
    some ⟨.ofNat (front.foldl (fun n b => n * 256 + b) 0 * room + last)⟩
  else none

def ofChars? (s : List Char) : Option IPv4 := do
  let ns ← (parts s).mapM number?
  ofNumbers? ns.dropLast (← ns.getLast?)

def bytes (a : IPv4) : List Nat :=
  let n := a.value.toNat
  [n / capacity 3, n / capacity 2 % 256, n / 256 % 256, n % 256]

def text (a : IPv4) : String := ".".intercalate (a.bytes.map Nat.repr)

end IPv4

structure IPv6 where
  groups : List UInt16
  size : groups.length = 8
  deriving DecidableEq, Repr

namespace IPv6

def group? (s : List Char) : Option UInt16 :=
  if 1 ≤ s.length ∧ s.length ≤ 4 then (Text.ofRadix? 16 s).map .ofNat else none

def byte? (s : List Char) : Option Nat :=
  if s.head? = some '0' ∧ s ≠ ['0'] then none else (Text.decimal? s).filter (· < 256)

def dotted? (s : List Char) : Option (List UInt16) :=
  match (s.splitOn '.').mapM byte? with
  | some [a, b, c, d] => some [.ofNat (a * 256 + b), .ofNat (c * 256 + d)]
  | _ => none

def groups? : List (List Char) → Option (List UInt16)
  | [] => some []
  | [p] => ((group? p).map fun g => [g]) <|> dotted? p
  | p :: q :: rest => do some ((← group? p) :: (← groups? (q :: rest)))

def splitGap? : List Char → Option (List Char × List Char)
  | [] => none
  | c :: rest =>
    match c, rest with
    | ':', ':' :: after => some ([], after)
    | c, rest => (splitGap? rest).map fun p => (c :: p.1, p.2)

def pieces (s : List Char) : List (List Char) :=
  if s.isEmpty then [] else s.splitOn ':'

def ofGroups? (groups : List UInt16) : Option IPv6 :=
  if h : groups.length = 8 then some ⟨groups, h⟩ else none

/-- A double colon stands for at least one group. -/
def ofChars? (s : List Char) : Option IPv6 :=
  match splitGap? s with
  | none => (groups? (s.splitOn ':')).bind ofGroups?
  | some (before, after) => do
    let front ← (pieces before).mapM group?
    let back ← groups? (pieces after)
    if front.length + back.length ≤ 7 then
      ofGroups? (front ++ List.replicate (8 - (front.length + back.length)) 0 ++ back)
    else none

/-- Where the longest run of zeros starts, the first one of several, and how long it is. -/
def longestZeros : List UInt16 → Nat × Nat
  | [] => (0, 0)
  | g :: rest =>
    let here := ((g :: rest).takeWhile (· == 0)).length
    let (i, n) := longestZeros rest
    if n ≤ here then (0, here) else (i + 1, n)

def joinGroups (groups : List UInt16) : String :=
  ":".intercalate (groups.map fun g => String.ofList (Text.hex16 g.toNat))

/-- The double colon stands for the longest run of at least two zeros. -/
def text (a : IPv6) : String :=
  let (i, n) := longestZeros a.groups
  if 2 ≤ n then joinGroups (a.groups.take i) ++ "::" ++ joinGroups (a.groups.drop (i + n))
  else joinGroups a.groups

end IPv6

end InsectPortal
