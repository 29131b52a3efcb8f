/-!
# Digits

Numbers are read in a radix up to 16, and written in hexadecimal. A count of 64 bits is written in
decimal digits, with or without a plus sign in front; its digits are read from the left, and the
first that cannot be taken decides what is wrong. In base64 three bytes are written as four
characters, and the last group is filled up with equals signs.
-/
namespace InsectPortal.Text

def hexDigit (n : Nat) : Char :=
  if n < 10 then Char.ofNat (48 + n) else Char.ofNat (87 + n)

def hexDigitUpper (n : Nat) : Char :=
  if n < 10 then Char.ofNat (48 + n) else Char.ofNat (55 + n)

def hexDigit? (c : Char) : Option Nat :=
  let n := c.toNat
  if 48 ≤ n ∧ n < 58 then some (n - 48)
  else if 97 ≤ n ∧ n < 103 then some (n - 87)
  else if 65 ≤ n ∧ n < 71 then some (n - 55)
  else none

theorem hexDigit?_hexDigit : ∀ n < 16, hexDigit? (hexDigit n) = some n := by decide

theorem hexDigit?_hexDigitUpper : ∀ n < 16, hexDigit? (hexDigitUpper n) = some n := by decide

def hex16 (n : Nat) : List Char :=
  let ds := [n / 4096 % 16, n / 256 % 16, n / 16 % 16].dropWhile (· = 0) ++ [n % 16]
  ds.map hexDigit

/-- The number that digits of a radix up to 16 stand for; no digits stand for zero. -/
def ofRadix? (radix : Nat) (s : List Char) : Option Nat :=
  (s.mapM fun c => (hexDigit? c).filter (· < radix)).map
    fun ds => ds.foldl (fun n d => n * radix + d) 0

def decimal? (s : List Char) : Option Nat :=
  if s.isEmpty then none else ofRadix? 10 s

inductive CountError where
  | empty
  | digit
  | tooLarge
  deriving DecidableEq, Repr

def CountError.message : CountError → String
  | .empty => "cannot parse integer from empty string"
  | .digit => "invalid digit found in string"
  | .tooLarge => "number too large to fit in target type"

def countFrom (n : Nat) : List Char → Except CountError Nat
  | [] => .ok n
  | c :: rest =>
    if c.isDigit then
      let n := n * 10 + (c.toNat - '0'.toNat)
      if n < UInt64.size then countFrom n rest else .error .tooLarge
    else .error .digit

def count (s : String) : Except CountError Nat :=
  match s.toList with
  | [] => .error .empty
  | ['+'] => .error .digit
  | '+' :: rest => countFrom 0 rest
  | cs => countFrom 0 cs

def base64Alphabet : List Char :=
  "ABCDEFGHIJKLMNOPQRSTUVWXYZabcdefghijklmnopqrstuvwxyz0123456789+/".toList

def base64Char (n : Nat) : Char := base64Alphabet.getD (n % 64) '='

def base64 : List UInt8 → List Char
  | [] => []
  | [a] =>
    let n := a.toNat * 16
    [base64Char (n / 64), base64Char n, '=', '=']
  | [a, b] =>
    let n := (a.toNat * 256 + b.toNat) * 4
    [base64Char (n / 4096), base64Char (n / 64), base64Char n, '=']
  | a :: b :: c :: rest =>
    let n := (a.toNat * 256 + b.toNat) * 256 + c.toNat
    base64Char (n / 262144) :: base64Char (n / 4096) :: base64Char (n / 64) :: base64Char n ::
      base64 rest

end InsectPortal.Text
