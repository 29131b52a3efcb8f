import InsectPortal.Keyring
import InsectPortal.Text.Digits
import InsectPortal.Text.Printable

/-!
# The outline of a keyring

What may be shown of a keyring: whether it holds a token, but not the token. The user is shown as a
quoted text, with a backslash before each quote and each backslash, and with an escape for every
character that has no picture of its own.
-/
namespace InsectPortal

namespace Text

/-- The shortest hexadecimal digits of a number, for at most `fuel` digits more. -/
def hexDigits : Nat → Nat → List Char
  | 0, n => [hexDigit (n % 16)]
  | fuel + 1, n => if n < 16 then [hexDigit n] else hexDigits fuel (n / 16) ++ [hexDigit (n % 16)]

def quotedChar (c : Char) : List Char :=
  if c = '"' ∨ c = '\\' then ['\\', c]
  else if c = '\x00' then ['\\', '0']
  else if c = '\t' then ['\\', 't']
  else if c = '\n' then ['\\', 'n']
  else if c = '\r' then ['\\', 'r']
  else if isPrintable c then [c]
  else ['\\', 'u', '\x7b'] ++ hexDigits 5 c.toNat ++ ['\x7d']

def quoted (s : String) : String :=
  String.ofList ('"' :: s.toList.flatMap quotedChar ++ ['"'])

end Text

namespace Keyring

def outline (k : Keyring) : String :=
  let user :=
    match k.user? with
    | some u => "Some(" ++ Text.quoted u ++ ")"
    | none => "None"
  "CredentialStore \x7b has_token: " ++ (if k.token?.isSome then "true" else "false") ++
    ", user_identifier: " ++ user ++ " \x7d"

end Keyring

end InsectPortal
