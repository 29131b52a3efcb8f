import InsectPortal.Unicode.Property

/-!
# Punycode

A label with characters beyond ASCII is written in ASCII: its ASCII characters, a hyphen after them
if there are any, and then for each other character, by rising code point, the distance to where it
goes. A distance counts a turn over all places of the label for each code point that is passed. It
is written in base 36, the lowest digit first; a digit below the threshold of its column ends it,
and the thresholds adapt to the distances before.
-/
namespace InsectPortal.Url.Punycode

open Unicode (isAscii)

/-- The digit of a value: a letter, or a decimal digit from 26. -/
def digitChar (d : Nat) : Char :=
  if d < 26 then Char.ofNat (0x61 + d) else Char.ofNat (0x30 + d - 26)

def digit? (c : Char) : Option Nat :=
  let n := c.toNat
  if 0x61 ≤ n ∧ n ≤ 0x7A then some (n - 0x61)
  else if 0x30 ≤ n ∧ n ≤ 0x39 then some (n - 0x30 + 26)
  else none

/-- What a digit in a column has to reach for another one to follow. -/
def threshold (bias column : Nat) : Nat := min 26 (max 1 (36 * column - bias))

theorem threshold_pos (bias column : Nat) : 1 ≤ threshold bias column := by
  unfold threshold; omega

theorem threshold_le (bias column : Nat) : threshold bias column ≤ 26 := by
  unfold threshold; omega

def columns (distance : Nat) : Nat × Nat :=
  if 455 < distance then
    let (k, left) := columns (distance / 35)
    (k + 36, left)
  else (0, distance)
  termination_by distance
  decreasing_by omega

/-- The bias after a distance in a label of `size` characters. -/
def adapt (distance size : Nat) (isFirst : Bool) : Nat :=
  let distance := if isFirst then distance / 700 else distance / 2
  let (k, left) := columns (distance + distance / size)
  k + 36 * left / (left + 38)

def startBias : Nat := 72

def startCode : Nat := 128

def digits (bias column distance : Nat) : List Char :=
  let t := threshold bias column
  if distance < t then [digitChar distance]
  else
    digitChar (t + (distance - t) % (36 - t)) ::
      digits bias (column + 1) ((distance - t) / (36 - t))
  termination_by distance
  decreasing_by
    have := threshold_pos bias column
    have := Nat.div_le_self (distance - threshold bias column) (36 - threshold bias column)
    omega

structure Encoder where
  distance : Nat
  bias : Nat
  size : Nat
  isFirst : Bool
  text : List Char

def Encoder.pass (code : Nat) (e : Encoder) (c : Char) : Encoder :=
  if c.toNat < code then { e with distance := e.distance + 1 }
  else if c.toNat = code then
    ⟨0, adapt e.distance (e.size + 1) e.isFirst, e.size + 1, false,
      e.text ++ digits e.bias 1 e.distance⟩
  else e

def Encoder.write (label : List Char) (start : Nat) (e : Encoder) : List Nat → Encoder
  | [] => e
  | code :: rest =>
    let e := { e with distance := e.distance + (code - start) * (e.size + 1) }
    let e := label.foldl (pass code) e
    write label (code + 1) { e with distance := e.distance + 1 } rest

/-- The code points beyond ASCII, each once, from the lowest. -/
def codes (label : List Char) : List Nat :=
  ((label.filter (!isAscii ·)).map Char.toNat).eraseDups.mergeSort

def encode (label : List Char) : List Char :=
  let ascii := label.filter isAscii
  let e := Encoder.write label startCode ⟨0, startBias, ascii.length, true, []⟩ (codes label)
  ascii ++ (if ascii.isEmpty then [] else ['-']) ++ e.text

/-- Places and weights are numbers of 32 bits. -/
def maxPlace : Nat := 4294967295

/-- What has been read: the label so far, the code point and place of its last character, and the
digits of the distance from there. -/
structure Decoder where
  label : List Char
  code : Nat
  bias : Nat
  /-- Where the distance starts, and where its digits lead so far. -/
  start : Nat
  place : Nat
  weight : Nat
  column : Nat

def Decoder.put? (d : Decoder) : Option Decoder :=
  let size := d.label.length + 1
  let code := d.code + d.place / size
  let i := d.place % size
  if code.isValidChar then
    some ⟨d.label.insertIdx i (Char.ofNat code), code,
      adapt (d.place - d.start) size (d.start == 0), i + 1, i + 1, 1, 1⟩
  else none

def Decoder.read? (d : Decoder) (c : Char) : Option Decoder := do
  let digit ← digit? c
  let t := threshold d.bias d.column
  let place := d.place + digit * d.weight
  if maxPlace < place then none
  else if digit < t then Decoder.put? { d with place := place }
  else if maxPlace < d.weight * (36 - t) then none
  else some { d with place := place, weight := d.weight * (36 - t), column := d.column + 1 }

def splitAscii (s : List Char) : List Char × List Char :=
  let after := (s.reverse.takeWhile (· ≠ '-')).reverse
  let ascii := (s.take (s.length - after.length)).dropLast
  if ascii.isEmpty then ([], s) else (ascii, after)

/-- The label that a text stands for; none where the last distance is broken off. -/
def decode? (s : List Char) : Option (List Char) := do
  let (ascii, rest) := splitAscii s
  let d ← rest.foldlM Decoder.read? ⟨ascii, startCode, startBias, 0, 0, 1, 1⟩
  if ascii.all isAscii ∧ d.column = 1 then some d.label else none

end InsectPortal.Url.Punycode
