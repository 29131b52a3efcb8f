import InsectPortal.Text.Blank

/-!
# Texts in bytes

A text arrives as bytes in one of two encodings. Bytes that make no sense in UTF-8 are read as the
replacement character, one for each longest beginning of a character that is broken off.
-/
namespace InsectPortal.Text

def replacement : Char := '\uFFFD'

/-- The bytes that may follow a first byte, and how many have to follow; none where no character
starts with the byte. -/
def utf8Lead (b : Nat) : Option (Nat × Nat × Nat × Nat) :=
  if 0xC2 ≤ b ∧ b ≤ 0xDF then some (b - 0xC0, 1, 0x80, 0xBF)
  else if b = 0xE0 then some (0, 2, 0xA0, 0xBF)
  else if b = 0xED then some (0xD, 2, 0x80, 0x9F)
  else if 0xE1 ≤ b ∧ b ≤ 0xEF then some (b - 0xE0, 2, 0x80, 0xBF)
  else if b = 0xF0 then some (0, 3, 0x90, 0xBF)
  else if 0xF1 ≤ b ∧ b ≤ 0xF3 then some (b - 0xF0, 3, 0x80, 0xBF)
  else if b = 0xF4 then some (4, 3, 0x80, 0x8F)
  else none

/-- A character that is being read: its bits so far, how many bytes are missing, and the bounds of
the next one. -/
structure PartialChar where
  bits : Nat
  missing : Nat
  low : Nat
  high : Nat

def startChar (b : Nat) : List Char × Option PartialChar :=
  if b < 0x80 then ([Char.ofNat b], none)
  else
    match utf8Lead b with
    | some (bits, missing, low, high) => ([], some ⟨bits, missing, low, high⟩)
    | none => ([replacement], none)

def utf8CharsFrom (partialChar : Option PartialChar) : List UInt8 → List Char
  | [] => if partialChar.isSome then [replacement] else []
  | b :: rest =>
    let n := b.toNat
    match partialChar with
    | some p =>
      if p.low ≤ n ∧ n ≤ p.high then
        let bits := p.bits * 64 + (n - 0x80)
        if p.missing = 1 then Char.ofNat bits :: utf8CharsFrom none rest
        else utf8CharsFrom (some ⟨bits, p.missing - 1, 0x80, 0xBF⟩) rest
      else
        let (cs, next) := startChar n
        replacement :: cs ++ utf8CharsFrom next rest
    | none =>
      let (cs, next) := startChar n
      cs ++ utf8CharsFrom next rest

def utf8Chars (bytes : List UInt8) : List Char := utf8CharsFrom none bytes

def westernHigh : List Nat :=
  [0x20AC, 0x81, 0x201A, 0x0192, 0x201E, 0x2026, 0x2020, 0x2021, 0x02C6, 0x2030, 0x0160, 0x2039,
    0x0152, 0x8D, 0x017D, 0x8F, 0x90, 0x2018, 0x2019, 0x201C, 0x201D, 0x2022, 0x2013, 0x2014,
    0x02DC, 0x2122, 0x0161, 0x203A, 0x0153, 0x9D, 0x017E, 0x0178]

def westernChar (b : UInt8) : Char :=
  let n := b.toNat
  if 0x80 ≤ n ∧ n < 0xA0 then Char.ofNat (westernHigh.getD (n - 0x80) n) else Char.ofNat n

def westernNames : List String :=
  ["ansi_x3.4-1968", "ascii", "cp1252", "cp819", "csisolatin1", "ibm819", "iso-8859-1",
    "iso-ir-100", "iso8859-1", "iso88591", "iso_8859-1", "iso_8859-1:1987", "l1", "latin1",
    "us-ascii", "windows-1252", "x-cp1252"]

/-- The text of bytes in the named encoding, which is UTF-8 unless it is the western one. A byte
order mark in front means UTF-8 and is no part of the text. -/
def ofBytes (charset : Option String) (bytes : List UInt8) : String :=
  match bytes with
  | 0xEF :: 0xBB :: 0xBF :: rest => String.ofList (utf8Chars rest)
  | _ =>
    if charset.any fun name => westernNames.contains (lowerAscii (trim name)) then
      String.ofList (bytes.map westernChar)
    else String.ofList (utf8Chars bytes)

end InsectPortal.Text
