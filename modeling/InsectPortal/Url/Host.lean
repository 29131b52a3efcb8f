import InsectPortal.Text.Blank
import InsectPortal.Url.Address
import InsectPortal.Url.DomainName

/-!
# Hosts

The host of an address is a domain name, an IPv4 address or, in brackets, an IPv6 address. Domain
names are kept as they are written. `UrlError` says why a text is no address.
-/
namespace InsectPortal

inductive UrlError where
  | emptyHost
  | noScheme
  | port
  | domain
  | ipv4
  | ipv6
  /-- The host of a scheme without hosts of its own holds a character that no host can. -/
  | hostChar
  deriving DecidableEq, Repr

namespace UrlError

def message : UrlError → String
  | .emptyHost => "empty host"
  | .noScheme => "relative URL without a base"
  | .port => "invalid port number"
  | .domain => "invalid international domain name"
  | .ipv4 => "invalid IPv4 address"
  | .ipv6 => "invalid IPv6 address"
  | .hostChar => "invalid domain character"

end UrlError

inductive Host where
  | domain (name : String)
  | ipv4 (address : IPv4)
  | ipv6 (address : IPv6)
  deriving DecidableEq, Repr

namespace Host

def ofBracketed (inside : List Char) : Except UrlError Host :=
  match inside.reverse with
  | ']' :: address =>
    match IPv6.ofChars? address.reverse with
    | some a => .ok (.ipv6 a)
    | none => .error .ipv6
  | _ => .error .ipv6

def ofName (name : String) : Except UrlError Host :=
  if name = "" then .error .emptyHost
  else if IPv4.endsInNumber name.toList then
    match IPv4.ofChars? name.toList with
    | some a => .ok (.ipv4 a)
    | none => .error .ipv4
  else .ok (.domain name)

def ofChars : List Char → Except UrlError Host
  | [] => .error .emptyHost
  | '[' :: inside => ofBracketed inside
  | s =>
    match Url.domainName? s with
    | some name => ofName name
    | none => .error .domain

def text : Host → String
  | .domain name => name
  | .ipv4 a => a.text
  | .ipv6 a => "[" ++ a.text ++ "]"

def isForbidden (c : Char) : Bool :=
  c == '\x00' || "\t\n\r #/:<>?@[\\]^|".toList.contains c

def checkOpaque : List Char → Except UrlError Unit
  | '[' :: inside => (ofBracketed inside).map fun _ => ()
  | s => if s.any isForbidden then .error .hostChar else .ok ()

end Host

end InsectPortal
