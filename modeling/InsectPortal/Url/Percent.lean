import InsectPortal.Text.Digits

/-!
# Percent-encoding

A character that may not stand as it is in some part of an address is written as the bytes of its
UTF-8 form, each a percent sign and two hexadecimal digits. Which characters may stand is a matter
of the part. A form field writes a space as a plus sign besides.
-/
namespace InsectPortal.Url

open Text (hexDigitUpper hexDigit?)

def percentByte (b : UInt8) : List Char :=
  ['%', hexDigitUpper (b.toNat / 16), hexDigitUpper (b.toNat % 16)]

def encodeChar (keep : Char → Bool) (c : Char) : List Char :=
  if keep c then [c] else (String.utf8EncodeChar c).flatMap percentByte

def encode (keep : Char → Bool) (s : List Char) : List Char :=
  s.flatMap (encodeChar keep)

/-- The bytes of a text in which percent signs with two digits stand for bytes. A percent sign with
anything else stands for itself. -/
def decodeBytes : List Char → List UInt8
  | [] => []
  | c :: rest =>
    match c, rest with
    | '%', a :: b :: after =>
      match hexDigit? a, hexDigit? b with
      | some x, some y => UInt8.ofNat (x * 16 + y) :: decodeBytes after
      | _, _ => String.utf8EncodeChar '%' ++ decodeBytes (a :: b :: after)
    | c, rest => String.utf8EncodeChar c ++ decodeBytes rest

def decode? (s : List Char) : Option String :=
  String.fromUTF8? (decodeBytes s).toByteArray

def isGraphic (c : Char) : Bool := 0x21 ≤ c.toNat && c.toNat ≤ 0x7E

def isPathChar (c : Char) : Bool :=
  isGraphic c && !(['"', '<', '>', '\x60', '#', '?', '\x7b', '\x7d'].contains c)

def isUserChar (c : Char) : Bool :=
  isPathChar c && !(['/', ':', ';', '=', '@', '[', '\\', ']', '^', '|'].contains c)

def isSegmentChar (c : Char) : Bool :=
  isPathChar c && !(['/', '%', '\\'].contains c)

def isFormChar (c : Char) : Bool :=
  c.isAlphanum || ['*', '-', '.', '_'].contains c

def encodeFormChar (c : Char) : List Char :=
  if c = ' ' then ['+'] else encodeChar isFormChar c

def encodeForm (s : String) : String :=
  String.ofList (s.toList.flatMap encodeFormChar)

def formPair (key value : String) : String := encodeForm key ++ "=" ++ encodeForm value

end InsectPortal.Url
