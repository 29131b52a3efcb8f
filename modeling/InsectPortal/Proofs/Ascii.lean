import InsectPortal.Proofs.Bytes
import InsectPortal.Unicode.Property

/-!
# ASCII characters

The tables of marks, directions and joiners speak of no ASCII character, so a text of ASCII meets all
that they are asked for. Its small letters are ASCII, and its bytes are those below 128.
-/
namespace InsectPortal

open Unicode (CodeRange isIn isAscii)

namespace Unicode

def wordsOf (word : List Char) : List Char → List (List Char)
  | [] => if word.isEmpty then [] else [word.reverse]
  | c :: rest =>
    if Text.isBlank c then
      if word.isEmpty then wordsOf [] rest else word.reverse :: wordsOf [] rest
    else wordsOf (c :: word) rest

theorem map_toList_wordsFrom (word s : List Char) :
    (Text.wordsFrom word s).map String.toList = wordsOf word s := by
  induction s generalizing word with
  | nil =>
    rw [Text.wordsFrom, wordsOf]
    split <;> simp
  | cons c s ih =>
    rw [Text.wordsFrom, wordsOf]
    split
    · split
      · exact ih []
      · rw [List.map_cons, String.toList_ofList, ih]
    · exact ih (c :: word)

theorem table_ofList (rows : List Char) :
    CodeRange.table (String.ofList rows) = (wordsOf [] rows).filterMap CodeRange.ofChars? := by
  rw [CodeRange.table, Text.words, String.toList_ofList, ← map_toList_wordsFrom, List.filterMap_map]
  rfl

/-- The table speaks of no ASCII character. -/
def BeyondAscii (table : List CodeRange) : Prop := ∀ r ∈ table, 128 ≤ r.first

theorem BeyondAscii.isIn {table : List CodeRange} (h : BeyondAscii table) {c : Char}
    (hc : isAscii c = true) : isIn table c = false := by
  rw [Unicode.isIn, List.any_eq_false]
  intro r hr hcontains
  have hfirst := h r hr
  have hlow : c.toNat < 128 := of_decide_eq_true hc
  rw [CodeRange.contains, Bool.and_eq_true, decide_eq_true_eq] at hcontains
  omega

theorem beyondAscii_of_rows {rows : String} (l : List Char) (h : rows = String.ofList l)
    (hl : ((wordsOf [] l).filterMap CodeRange.ofChars?).all (128 ≤ ·.first) = true) :
    BeyondAscii (CodeRange.table rows) := by
  intro r hr
  rw [h, table_ofList] at hr
  exact of_decide_eq_true (List.all_eq_true.mp hl r hr)

set_option maxRecDepth 100000

theorem nonspacing_beyond : BeyondAscii nonspacing := beyondAscii_of_rows _ rfl (by decide +kernel)

theorem spacing_beyond : BeyondAscii spacing := beyondAscii_of_rows _ rfl (by decide +kernel)

theorem rightToLeft_beyond : BeyondAscii rightToLeft := beyondAscii_of_rows _ rfl (by decide +kernel)

theorem arabicNumbers_beyond : BeyondAscii arabicNumbers :=
  beyondAscii_of_rows _ rfl (by decide +kernel)

theorem isMark_of_isAscii {c : Char} (hc : isAscii c = true) : isMark c = false := by
  rw [isMark, isNonspacing, nonspacing_beyond.isIn hc, spacing_beyond.isIn hc]
  rfl

theorem turns_of_isAscii {c : Char} (hc : isAscii c = true) : turns c = false := by
  rw [turns, direction, isNonspacing, nonspacing_beyond.isIn hc, rightToLeft_beyond.isIn hc,
    arabicNumbers_beyond.isIn hc]
  cases isIn numbers c <;> cases isIn neutrals c <;> rfl

theorem joinersStand_of_isAscii {s : List Char} (h : ∀ c ∈ s, isAscii c = true)
    (before : List Char) : joinersStand before s = true := by
  induction s generalizing before with
  | nil => rfl
  | cons c s ih =>
    obtain ⟨hc, hs⟩ := List.forall_mem_cons.mp h
    have hjoiner : c ≠ joiner := by
      rintro rfl
      cases hc
    have hnonJoiner : c ≠ nonJoiner := by
      rintro rfl
      cases hc
    rw [joinersStand]
    simp only [if_neg hjoiner, if_neg hnonJoiner, ih hs, Bool.and_self]

end Unicode

namespace Url

theorem forall_isAscii {p : Char → Prop} (h : ∀ n < 128, p (Char.ofNat n)) {c : Char}
    (hc : isAscii c = true) : p c := by
  have hp := h c.toNat (of_decide_eq_true hc)
  rwa [Char.ofNat_toNat] at hp

theorem isAscii_toLower {c : Char} (hc : isAscii c = true) : isAscii c.toLower = true :=
  forall_isAscii (p := fun c => isAscii c.toLower = true) (by decide) hc

theorem toLower_toLower {c : Char} (hc : isAscii c = true) : c.toLower.toLower = c.toLower :=
  forall_isAscii (p := fun c => c.toLower.toLower = c.toLower) (by decide) hc

theorem isAscii_of_isDigit {c : Char} (hc : c.isDigit = true) : isAscii c = true := by
  have hlast : c.toNat ≤ 57 := (Char.isDigit_iff_toNat.mp hc).2
  exact decide_eq_true (by omega)

theorem isAscii_of_hexDigit? {c : Char} (h : (Text.hexDigit? c).isSome = true) : isAscii c = true := by
  obtain ⟨n, hn⟩ := Option.isSome_iff_exists.mp h
  have hcode := Text.hexDigit?_eq_some hn
  exact decide_eq_true (by omega)

theorem decode?_eq_self {s : List Char} (h : '%' ∉ s) : decode? s = some (String.ofList s) := by
  have hencode : encode (fun c => c ≠ '%') s = s := by
    apply encode_eq_self
    intro c hc
    apply decide_eq_true
    rintro rfl
    exact h hc
  have hdecode : decode? (encode (fun c => c ≠ '%') s) = some (String.ofList s) :=
    decode?_encode (by decide) s
  rwa [hencode] at hdecode

theorem flatMap_of_decode? {s : List Char} {t : String} (h : decode? s = some t) :
    t.toList.flatMap String.utf8EncodeChar = decodeBytes s := by
  unfold decode? String.fromUTF8? at h
  split at h
  · have hbytes : t.toByteArray = (decodeBytes s).toByteArray :=
      (congrArg String.toByteArray (Option.some.inj h)).symm
    rw [← String.ofList_toList (s := t)] at hbytes
    exact List.toByteArray_inj.mp hbytes
  · cases h

/-- A character of ASCII is the byte of its number; any other one starts with a large byte. -/
theorem utf8_cases (c : Char) :
    (c.toNat < 128 ∧ String.utf8EncodeChar c = [.ofNat c.toNat]) ∨
      ∃ b bs, 128 ≤ b.toNat ∧ String.utf8EncodeChar c = b :: bs := by
  have hlarge : ∀ n, 128 ≤ n → n < 256 → 128 ≤ (UInt8.ofNat n).toNat := by
    intro n hn hsize
    rwa [UInt8.toNat_ofNat_of_lt' hsize]
  unfold String.utf8EncodeChar
  dsimp only
  split
  · next hc => exact .inl ⟨Nat.lt_succ_of_le hc, rfl⟩
  · split
    · exact .inr ⟨_, _, hlarge _ (by omega) (by omega), rfl⟩
    · split
      · exact .inr ⟨_, _, hlarge _ (by omega) (by omega), rfl⟩
      · exact .inr ⟨_, _, hlarge _ (by omega) (by omega), rfl⟩

theorem isAscii_of_utf8 {c : Char} (h : ∀ b ∈ String.utf8EncodeChar c, b.toNat < 128) :
    isAscii c = true := by
  rcases utf8_cases c with ⟨hc, _⟩ | ⟨b, bs, hb, hbytes⟩
  · exact decide_eq_true hc
  · have hlow := h b (hbytes ▸ List.mem_cons_self)
    omega

theorem isAscii_of_decode? {s : List Char} {t : String} (h : decode? s = some t)
    (hs : ∀ b ∈ decodeBytes s, b.toNat < 128) : ∀ c ∈ t.toList, isAscii c = true := by
  intro c hc
  apply isAscii_of_utf8
  intro b hb
  apply hs
  rw [← flatMap_of_decode? h]
  exact List.mem_flatMap.mpr ⟨c, hc, hb⟩

end Url

end InsectPortal
