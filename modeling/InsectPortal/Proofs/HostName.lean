import InsectPortal.Proofs.DomainName
import InsectPortal.Url.Reading

/-!
# Reading hosts back

The text of a host is a written name, or an IPv6 address in brackets. The colon of a port is told
from those inside brackets, and a host that is ASCII is read back from its text.
-/
namespace InsectPortal

open Unicode (isAscii)

namespace Url

def isAuthorityChar (c : Char) : Bool := isGraphic c && !isAuthorityEnd c

theorem splitPort_cons {c : Char} {inside : Bool} (hc : c ≠ ':' ∨ inside = true)
    (rest : List Char) :
    splitPort inside (c :: rest) =
      (c :: (splitPort (c == '[' || (inside && c != ']')) rest).1,
        (splitPort (c == '[' || (inside && c != ']')) rest).2) := by
  rw [splitPort, if_neg]
  rintro ⟨hcolon, hout⟩
  rcases hc with hc | hc
  · exact hc hcolon
  · rw [hc] at hout
    cases hout

theorem splitPort_name {s : List Char} (h : ∀ c ∈ s, isWrittenChar c = true) (t : List Char) :
    splitPort false (s ++ t) = (s ++ (splitPort false t).1, (splitPort false t).2) := by
  induction s with
  | nil => rfl
  | cons c s ih =>
    obtain ⟨hc, hs⟩ := List.forall_mem_cons.mp h
    have hcolon : c ≠ ':' := by
      rintro rfl
      cases hc
    have hbracket : c ≠ '[' := by
      rintro rfl
      cases hc
    have hout : (c == '[' || (false && c != ']')) = false := by
      rw [Bool.false_and, Bool.or_false]
      exact beq_false_of_ne hbracket
    rw [List.cons_append, splitPort_cons (.inl hcolon), hout, ih hs]
    rfl

theorem splitPort_inside {s : List Char} (h : ']' ∉ s) (t : List Char) :
    splitPort true (s ++ t) = (s ++ (splitPort true t).1, (splitPort true t).2) := by
  induction s with
  | nil => rfl
  | cons c s ih =>
    obtain ⟨hc, hs⟩ := List.ne_and_not_mem_of_not_mem_cons h
    have hin : (c == '[' || (true && c != ']')) = true := by
      rw [Bool.true_and, bne_iff_ne.mpr hc.symm, Bool.or_true]
    rw [List.cons_append, splitPort_cons (.inr rfl), hin, ih hs]
    rfl

end Url

namespace Host

open Url (isWrittenChar isWrittenChar_of_domainName? domainName?)

/-- A host is an IPv6 address, or a name that can be read, or the IPv4 address of such a name. -/
theorem of_ofChars {s : List Char} {h : Host} (hs : ofChars s = .ok h) :
    (∃ a, h = .ipv6 a) ∨ (∃ a, h = .ipv4 a) ∨
      ∃ name, h = .domain name ∧ domainName? s = some name ∧ ofName name = .ok (.domain name) := by
  have hbracketed : ∀ inside, ofBracketed inside = .ok h → ∃ a, h = .ipv6 a := by
    intro inside hb
    unfold ofBracketed at hb
    split at hb
    · split at hb
      · next a _ => exact ⟨a, (Except.ok.inj hb).symm⟩
      · cases hb
    · cases hb
  have hnamed : ∀ name, ofName name = .ok h → (∃ a, h = .ipv4 a) ∨ h = .domain name := by
    intro name hn
    unfold ofName at hn
    split at hn
    · cases hn
    · split at hn
      · split at hn
        · next a _ => exact .inl ⟨a, (Except.ok.inj hn).symm⟩
        · cases hn
      · exact .inr (Except.ok.inj hn).symm
  unfold ofChars at hs
  split at hs
  · cases hs
  · exact .inl (hbracketed _ hs)
  · split at hs
    · next name hname =>
      rcases hnamed name hs with hipv4 | rfl
      · exact .inr (.inl hipv4)
      · exact .inr (.inr ⟨name, rfl, hname, hs⟩)
    · cases hs

theorem ne_empty_of_ofName {name : String} {h : Host} (hn : ofName name = .ok h) : name ≠ "" := by
  rintro rfl
  cases hn

theorem ofChars_of_name {name : String} (hname : domainName? name.toList = some name)
    (hne : name ≠ "") : ofChars name.toList = ofName name := by
  have hchars := isWrittenChar_of_domainName? hname
  cases hlist : name.toList with
  | nil => exact absurd (String.toList_eq_nil_iff.mp hlist) hne
  | cons c rest =>
    have hc : c ≠ '[' := by
      rintro rfl
      exact Bool.false_ne_true (hchars '[' (hlist ▸ List.mem_cons_self))
    rw [← hlist, ofChars]
    · rw [hname]
    · rw [hlist]
      exact List.cons_ne_nil c rest
    · intro inside h
      rw [hlist] at h
      exact hc (List.cons.inj h).1

theorem toList_text_ipv6 (a : IPv6) :
    (text (.ipv6 a)).toList = '[' :: (a.text.toList ++ [']']) := by
  rw [text, String.toList_append, String.toList_append, List.append_assoc]
  rfl

theorem ofChars_text_ipv6 (a : IPv6) : ofChars (text (.ipv6 a)).toList = .ok (.ipv6 a) := by
  rw [toList_text_ipv6, ofChars, ofBracketed, List.reverse_concat]
  simp only [List.reverse_reverse, IPv6.ofChars?_text]

theorem ofChars_text_ipv4 (a : IPv4) : ofChars (text (.ipv4 a)).toList = .ok (.ipv4 a) := by
  rw [text, ofChars_of_name (Url.domainName?_text a) a.text_ne_empty, ofName,
    if_neg a.text_ne_empty, IPv4.endsInNumber_text, IPv4.ofChars?_text]
  rfl

/-- A host whose name is ASCII, percent-encoded or not, is read back from its text. -/
theorem ofChars_text {s : List Char} {h : Host} (hs : ofChars s = .ok h)
    (hascii : ∀ b ∈ Url.decodeBytes s, b.toNat < 128) : ofChars h.text.toList = .ok h := by
  rcases of_ofChars hs with ⟨a, rfl⟩ | ⟨a, rfl⟩ | ⟨name, rfl, hname, hdomain⟩
  · exact ofChars_text_ipv6 a
  · exact ofChars_text_ipv4 a
  · rw [text, ofChars_of_name (Url.domainName?_of_isAscii hname hascii) (ne_empty_of_ofName hdomain)]
    exact hdomain

theorem text_cases {s : List Char} {h : Host} (hs : ofChars s = .ok h) :
    (h.text ≠ "" ∧ ∀ c ∈ h.text.toList, isWrittenChar c = true) ∨
      ∃ a : IPv6, h.text.toList = '[' :: (a.text.toList ++ [']']) := by
  rcases of_ofChars hs with ⟨a, rfl⟩ | ⟨a, rfl⟩ | ⟨name, rfl, hname, hdomain⟩
  · exact .inr ⟨a, toList_text_ipv6 a⟩
  · exact .inl ⟨a.text_ne_empty, isWrittenChar_of_domainName? (Url.domainName?_text a)⟩
  · exact .inl ⟨ne_empty_of_ofName hdomain, isWrittenChar_of_domainName? hname⟩

def isTextChar (c : Char) : Bool := Url.isAuthorityChar c && c != '@'

theorem isTextChar_of_mem_text {s : List Char} {h : Host} (hs : ofChars s = .ok h) {c : Char}
    (hc : c ∈ h.text.toList) : isTextChar c = true := by
  rcases text_cases hs with ⟨_, hchars⟩ | ⟨a, ha⟩
  · have hwritten := hchars c hc
    exact Url.forall_isAscii (p := fun c => isWrittenChar c = true → isTextChar c = true)
      (by decide) (Url.isWrittenChar_iff.mp hwritten).1 hwritten
  · rw [ha, List.mem_cons, List.mem_append, List.mem_singleton] at hc
    rcases hc with rfl | hc | rfl
    · rfl
    · have hchar := IPv6.isTextChar_of_mem_text hc
      have hascii : isAscii c = true := by
        rw [IPv6.isTextChar, Bool.or_eq_true, beq_iff_eq] at hchar
        rcases hchar with rfl | hdigit
        · rfl
        · exact Url.isAscii_of_hexDigit? hdigit
      exact Url.forall_isAscii (p := fun c => IPv6.isTextChar c = true → isTextChar c = true)
        (by decide) hascii hchar
    · rfl

theorem text_ne_empty {s : List Char} {h : Host} (hs : ofChars s = .ok h) : h.text ≠ "" := by
  rcases text_cases hs with ⟨hne, _⟩ | ⟨a, ha⟩
  · exact hne
  · intro he
    rw [he] at ha
    cases ha

theorem splitPort_text {s : List Char} {h : Host} (hs : ofChars s = .ok h) {t : List Char}
    {port : Option (List Char)} (ht : Url.splitPort false t = ([], port)) :
    Url.splitPort false (h.text.toList ++ t) = (h.text.toList, port) := by
  rcases text_cases hs with ⟨_, hchars⟩ | ⟨a, ha⟩
  · rw [Url.splitPort_name hchars, ht, List.append_nil]
  · have hbracket : ']' ∉ a.text.toList := fun hc =>
      Bool.false_ne_true (IPv6.isTextChar_of_mem_text hc)
    rw [ha, List.cons_append, List.append_assoc, Url.splitPort_cons (.inl (by decide))]
    show ('[' :: (Url.splitPort true _).1, (Url.splitPort true _).2) = _
    rw [Url.splitPort_inside hbracket, List.singleton_append, Url.splitPort_cons (.inr rfl)]
    show ('[' :: (_ ++ ']' :: (Url.splitPort false t).1), (Url.splitPort false t).2) = _
    rw [ht]

end Host

end InsectPortal
