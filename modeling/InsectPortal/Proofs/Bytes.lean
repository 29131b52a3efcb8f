import InsectPortal.Url.Basic

/-!
# Texts as bytes

A text is read back from its UTF-8 form, and from that form percent-encoded, for any choice of the
characters that stand as they are, as long as the percent sign is not among them. In a form field a
space is written as a plus sign, and read back all the same.
-/
namespace InsectPortal

open Text (hexDigitUpper hexDigit? hexDigit?_hexDigitUpper)

theorem Text.hexDigit?_eq_some {c : Char} {n : Nat} (h : hexDigit? c = some n) :
    (c.toNat = 48 + n ∧ n < 10) ∨ (10 ≤ n ∧ n < 16 ∧ (c.toNat = 87 + n ∨ c.toNat = 55 + n)) := by
  unfold hexDigit? at h
  dsimp only at h
  split at h
  · cases h
    omega
  · split at h
    · cases h
      omega
    · split at h
      · cases h
        omega
      · cases h

theorem fromUTF8?_toUTF8 (s : String) : String.fromUTF8? s.toUTF8 = some s := by
  unfold String.fromUTF8?
  rw [String.toUTF8_eq_toByteArray, dif_pos s.isValidUTF8]
  rfl

theorem toList_loop (bytes : ByteArray) (i : Nat) (seen : List UInt8) :
    ByteArray.toList.loop bytes i seen = seen.reverse ++ bytes.data.toList.drop i := by
  fun_induction ByteArray.toList.loop bytes i seen with
  | case1 i seen h ih =>
    have hi : i < bytes.data.toList.length := by simpa using h
    have hget : bytes.get! i = bytes.data.toList.get ⟨i, hi⟩ := by simp [ByteArray.get!, h]
    rw [ih, List.reverse_cons, List.append_assoc, hget, List.drop_eq_getElem_cons hi]
    rfl
  | case2 i seen h =>
    have hnone : bytes.data.toList.drop i = [] := List.drop_eq_nil_of_le (Nat.le_of_not_lt h)
    rw [hnone, List.append_nil]

theorem toList_eq_data (bytes : ByteArray) : bytes.toList = bytes.data.toList :=
  toList_loop bytes 0 []

namespace Url

variable {keep : Char → Bool}

theorem decodeBytes_percentByte (b : UInt8) (rest : List Char) :
    decodeBytes (percentByte b ++ rest) = b :: decodeBytes rest := by
  have hb : b.toNat < 256 := b.toNat_lt_size
  have hhigh := hexDigit?_hexDigitUpper (b.toNat / 16) (by omega)
  have hlow := hexDigit?_hexDigitUpper (b.toNat % 16) (by omega)
  have hnumber : b.toNat / 16 * 16 + b.toNat % 16 = b.toNat := by omega
  simp only [percentByte, List.cons_append, List.nil_append]
  rw [decodeBytes, hhigh, hlow]
  simp only [hnumber, UInt8.ofNat_toNat]

theorem decodeBytes_percentBytes (bytes : List UInt8) (rest : List Char) :
    decodeBytes (bytes.flatMap percentByte ++ rest) = bytes ++ decodeBytes rest := by
  induction bytes with
  | nil => rfl
  | cons b bytes ih =>
    rw [List.flatMap_cons, List.append_assoc, decodeBytes_percentByte, ih, List.cons_append]

theorem decodeBytes_cons {c : Char} (h : c ≠ '%') (rest : List Char) :
    decodeBytes (c :: rest) = String.utf8EncodeChar c ++ decodeBytes rest := by
  rw [decodeBytes]
  intro a b after hc _
  exact h hc

theorem decodeBytes_encodeChar (hkeep : keep '%' = false) (c : Char) (rest : List Char) :
    decodeBytes (encodeChar keep c ++ rest) = String.utf8EncodeChar c ++ decodeBytes rest := by
  unfold encodeChar
  by_cases h : keep c = true
  · have hc : c ≠ '%' := by
      rintro rfl
      rw [hkeep] at h
      cases h
    rw [if_pos h, List.singleton_append, decodeBytes_cons hc]
  · rw [if_neg h, decodeBytes_percentBytes]

theorem decodeBytes_encode (hkeep : keep '%' = false) (s rest : List Char) :
    decodeBytes (encode keep s ++ rest) = s.flatMap String.utf8EncodeChar ++ decodeBytes rest := by
  induction s with
  | nil => rfl
  | cons c s ih =>
    have hcons : encode keep (c :: s) ++ rest = encodeChar keep c ++ (encode keep s ++ rest) := by
      rw [encode, List.flatMap_cons, List.append_assoc]
      rfl
    rw [hcons, decodeBytes_encodeChar hkeep, ih, List.flatMap_cons, List.append_assoc]

theorem encode_eq_self {s : List Char} (h : ∀ c ∈ s, keep c = true) : encode keep s = s := by
  induction s with
  | nil => rfl
  | cons c s ih =>
    obtain ⟨hc, hs⟩ := List.forall_mem_cons.mp h
    have hrest := ih hs
    rw [encode] at hrest ⊢
    rw [List.flatMap_cons, hrest, encodeChar, if_pos hc, List.singleton_append]

theorem decode?_encode (hkeep : keep '%' = false) (s : List Char) :
    decode? (encode keep s) = some (String.ofList s) := by
  have hbytes := decodeBytes_encode hkeep s []
  rw [List.append_nil, decodeBytes, List.append_nil] at hbytes
  rw [decode?, hbytes]
  exact fromUTF8?_toUTF8 (String.ofList s)

def formChar (c : Char) : Char := if c = '+' then ' ' else c

def decodeForm? (s : List Char) : Option String := decode? (s.map formChar)

def isFormText (c : Char) : Bool := isFormChar c || c == ' '

theorem hexDigitUpper_ne {d : Char} (hd : isFormChar d = false) (n : Nat) (h : n < 16) :
    hexDigitUpper n ≠ d := by
  rintro rfl
  have hdigit : ∀ n < 16, isFormChar (hexDigitUpper n) = true := by decide
  exact Bool.false_ne_true (hd.symm.trans (hdigit n h))

theorem not_mem_percentByte {d : Char} (hd : isFormChar d = false) (hp : d ≠ '%') (b : UInt8) :
    d ∉ percentByte b := by
  have hb : b.toNat < 256 := b.toNat_lt_size
  intro h
  simp only [percentByte, List.mem_cons, List.not_mem_nil, or_false] at h
  rcases h with h | h | h
  · exact hp h
  · exact hexDigitUpper_ne hd _ (by omega) h.symm
  · exact hexDigitUpper_ne hd _ (by omega) h.symm

/-- What is not written as it is does not occur at all, if the percent-encoding needs it neither. -/
theorem not_mem_encodeChar {d : Char} (hkeep : keep d = false) (hd : isFormChar d = false)
    (hp : d ≠ '%') (c : Char) : d ∉ encodeChar keep c := by
  unfold encodeChar
  intro h
  split at h
  · next hc =>
    rw [← List.mem_singleton.mp h, hkeep] at hc
    cases hc
  · obtain ⟨b, _, hb⟩ := List.mem_flatMap.mp h
    exact not_mem_percentByte hd hp b hb

theorem not_mem_encode {d : Char} (hkeep : keep d = false) (hd : isFormChar d = false)
    (hp : d ≠ '%') (s : List Char) : d ∉ encode keep s := by
  intro h
  obtain ⟨c, _, hc⟩ := List.mem_flatMap.mp h
  exact not_mem_encodeChar hkeep hd hp c hc

theorem not_mem_encodeForm {d : Char} (hd : isFormChar d = false) (hp : d ≠ '%') (hs : d ≠ '+')
    (s : String) : d ∉ (encodeForm s).toList := by
  rw [encodeForm, String.toList_ofList]
  intro h
  obtain ⟨c, _, hc⟩ := List.mem_flatMap.mp h
  unfold encodeFormChar at hc
  split at hc
  · exact hs (List.mem_singleton.mp hc)
  · exact not_mem_encodeChar hd hd hp c hc

theorem map_formChar_of_not_mem {s : List Char} (h : '+' ∉ s) : s.map formChar = s := by
  induction s with
  | nil => rfl
  | cons c s ih =>
    obtain ⟨hc, hs⟩ := List.ne_and_not_mem_of_not_mem_cons h
    rw [List.map_cons, ih hs, formChar, if_neg (Ne.symm hc)]

theorem map_formChar_encodeFormChar (c : Char) :
    (encodeFormChar c).map formChar = encodeChar isFormText c := by
  unfold encodeFormChar
  by_cases hspace : c = ' '
  · rw [hspace]
    decide
  · have hsame : encodeChar isFormText c = encodeChar isFormChar c := by
      have hne : (c == ' ') = false := beq_false_of_ne hspace
      rw [encodeChar, isFormText, hne, Bool.or_false]
      rfl
    rw [if_neg hspace, hsame]
    exact map_formChar_of_not_mem (not_mem_encodeChar (by decide) (by decide) (by decide) c)

theorem decodeForm?_encodeForm (s : String) : decodeForm? (encodeForm s).toList = some s := by
  have hmap : (encodeForm s).toList.map formChar = encode isFormText s.toList := by
    rw [encodeForm, String.toList_ofList, List.map_flatMap, encode]
    congr 1
    funext c
    exact map_formChar_encodeFormChar c
  rw [decodeForm?, hmap, decode?_encode (by decide), String.ofList_toList]

end Url

end InsectPortal
