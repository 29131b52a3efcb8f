import InsectPortal.Unicode.Composition
import InsectPortal.Unicode.Property
import InsectPortal.Url.NameChar
import InsectPortal.Url.Percent
import InsectPortal.Url.Punycode

/-!
# Domain names

A domain name is read in any case and form of its characters and written in small letters of ASCII.
It has labels with points between. A label that begins with `xn--` stands for one with characters
beyond ASCII, and such a label is written so.
-/
namespace InsectPortal.Url

open Unicode (isAscii)

/-- The characters of a domain name: of ASCII every graphic one but those that delimit or escape. -/
def isDomainChar (c : Char) : Bool :=
  !isAscii c || (isGraphic c && !("%#/:<>?@[\\]^|".toList.contains c))

structure Label where
  shown : List Char
  written : List Char
  deriving DecidableEq, Repr

namespace Label

def asciiMark : List Char := ['x', 'n', '-', '-']

/-- How long a label beyond ASCII may be, and how long it may be in its written form. -/
def maxShown : Nat := 1000
def maxWritten : Nat := 2000

/-- The label that a text after `xn--` stands for. Only a label beyond ASCII is written so, and it
is the one that its characters stand for. -/
def ofPunycode? (s : List Char) : Option Label := do
  let label ← if s.length ≤ maxWritten then Punycode.decode? s else none
  if label.all isAscii || !(label.all isSettled) || Unicode.composed label ≠ label then none
  else some ⟨label, asciiMark ++ s⟩

def ofChars? (s : List Char) : Option Label :=
  if asciiMark.isPrefixOf s then ofPunycode? (s.drop asciiMark.length)
  else if s.all isAscii then some ⟨s, s⟩
  else if s.length ≤ maxShown then some ⟨s, asciiMark ++ Punycode.encode s⟩
  else none

def isSound (l : Label) : Bool :=
  !(l.shown.head?.any Unicode.isMark) && Unicode.joinersStand [] l.shown

end Label

/-- The labels of a name, in which a label that is read from right to left, if there is one, makes
every label keep its direction. -/
def labels? (s : List Char) : Option (List Label) := do
  let images ← s.mapM nameImage?
  let name := Unicode.composed images.flatten
  let labels ← if name.all isDomainChar then (name.splitOn '.').mapM Label.ofChars? else none
  let directed := !(labels.any (·.shown.any Unicode.turns)) ||
    labels.all (Unicode.keepsDirection ·.shown)
  if labels.all Label.isSound && directed then some labels else none

def domainName? (s : List Char) : Option String := do
  let labels ← labels? (← decode? s).toList
  some (".".intercalate (labels.map fun l => String.ofList l.written))

end InsectPortal.Url
