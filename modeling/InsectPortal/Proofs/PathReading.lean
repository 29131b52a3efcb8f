import InsectPortal.Proofs.Ascii
import InsectPortal.Proofs.NumericHost
import InsectPortal.Proofs.UserAddress
import InsectPortal.Url.Reading

/-!
# Reading paths back

A path that was read from an address has no steps left in it, and its segments are percent-encoded.
So its text is read as the same path: what stands encoded is not encoded again, and encoding makes no
step out of a name, because it changes nothing about the bytes that a segment stands for.
-/
namespace InsectPortal.Url

open Text (hexDigitUpper hexDigit?)
open Unicode (isAscii)

/-- The percent sign and the digits after it stand as they are. -/
structure KeepsEscapes (keep : Char → Bool) : Prop where
  percent : keep '%' = true
  digit : ∀ c, (hexDigit? c).isSome = true → keep c = true

theorem keepsEscapes_path : KeepsEscapes isPathChar :=
  ⟨rfl, fun _ hc => forall_isAscii
    (p := fun c => (hexDigit? c).isSome = true → isPathChar c = true) (by decide)
    (isAscii_of_hexDigit? hc) hc⟩

theorem keepsEscapes_user : KeepsEscapes isUserChar :=
  ⟨rfl, fun _ hc => forall_isAscii
    (p := fun c => (hexDigit? c).isSome = true → isUserChar c = true) (by decide)
    (isAscii_of_hexDigit? hc) hc⟩

variable {keep : Char → Bool}

theorem mem_percentByte {b : UInt8} {c : Char} (h : c ∈ percentByte b) :
    c = '%' ∨ ∃ n < 16, c = hexDigitUpper n := by
  have hb : b.toNat < 256 := b.toNat_lt_size
  simp only [percentByte, List.mem_cons, List.not_mem_nil, or_false] at h
  rcases h with rfl | rfl | rfl
  · exact .inl rfl
  · exact .inr ⟨_, by omega, rfl⟩
  · exact .inr ⟨_, by omega, rfl⟩

theorem mem_encode {s : List Char} {c : Char} (h : c ∈ encode keep s) :
    (c ∈ s ∧ keep c = true) ∨ c = '%' ∨ ∃ n < 16, c = hexDigitUpper n := by
  obtain ⟨d, hd, hc⟩ := List.mem_flatMap.mp h
  unfold encodeChar at hc
  split at hc
  · next hkeep =>
    rw [List.mem_singleton.mp hc]
    exact .inl ⟨hd, hkeep⟩
  · obtain ⟨b, _, hb⟩ := List.mem_flatMap.mp hc
    exact .inr (mem_percentByte hb)

theorem KeepsEscapes.of_mem_encode (hk : KeepsEscapes keep) {s : List Char} {c : Char}
    (h : c ∈ encode keep s) : keep c = true := by
  rcases mem_encode h with ⟨_, hkeep⟩ | rfl | ⟨n, hn, rfl⟩
  · exact hkeep
  · exact hk.percent
  · apply hk.digit
    rw [Text.hexDigit?_hexDigitUpper n hn]
    rfl

def startsDigits : List Char → Bool
  | a :: b :: _ => (hexDigit? a).isSome && (hexDigit? b).isSome
  | _ => false

theorem decodeBytes_percent {s : List Char} (h : startsDigits s = false) :
    decodeBytes ('%' :: s) = String.utf8EncodeChar '%' ++ decodeBytes s := by
  match s with
  | [] | [_] => rfl
  | a :: b :: after =>
    rw [decodeBytes]
    split
    · next x y hx hy =>
      rw [startsDigits, hx, hy] at h
      cases h
    · rfl

theorem encode_cons (c : Char) (s : List Char) :
    encode keep (c :: s) = encodeChar keep c ++ encode keep s := List.flatMap_cons

theorem encode_cons_of_keep {c : Char} (hc : keep c = true) (s : List Char) :
    encode keep (c :: s) = c :: encode keep s := by
  rw [encode_cons, encodeChar, if_pos hc, List.singleton_append]

theorem utf8EncodeChar_eq_cons (c : Char) : ∃ b bs, String.utf8EncodeChar c = b :: bs := by
  rcases utf8_cases c with ⟨_, hbytes⟩ | ⟨b, bs, _, hbytes⟩
  · exact ⟨_, [], hbytes⟩
  · exact ⟨b, bs, hbytes⟩

theorem head_encodeChar (keep : Char → Bool) {c : Char} (hc : hexDigit? c = none) :
    ∃ d rest, hexDigit? d = none ∧ encodeChar keep c = d :: rest := by
  unfold encodeChar
  split
  · exact ⟨c, [], hc, rfl⟩
  · obtain ⟨b, bs, hbytes⟩ := utf8EncodeChar_eq_cons c
    rw [hbytes]
    exact ⟨'%', _, rfl, rfl⟩

theorem startsDigits_of_none {c : Char} (hc : hexDigit? c = none) (s : List Char) :
    startsDigits (c :: s) = false := by
  cases s with
  | nil => rfl
  | cons d s => rw [startsDigits, hc, Option.isSome_none, Bool.false_and]

theorem startsDigits_of_second {c d : Char} (hd : hexDigit? d = none) (s : List Char) :
    startsDigits (c :: d :: s) = false := by
  rw [startsDigits, hd, Option.isSome_none, Bool.and_false]

theorem startsDigits_eq_false {a b : Char} {rest : List Char}
    (h : ∀ x y, hexDigit? a = some x → hexDigit? b = some y → False) :
    startsDigits (a :: b :: rest) = false := by
  cases ha : hexDigit? a with
  | none => exact startsDigits_of_none ha _
  | some x =>
    cases hb : hexDigit? b with
    | none => exact startsDigits_of_second hb rest
    | some y => exact absurd hb (fun hb => h x y ha hb)

theorem KeepsEscapes.startsDigits_encode (hk : KeepsEscapes keep) (s : List Char) :
    startsDigits (encode keep s) = startsDigits s := by
  have hkept : ∀ {c n}, hexDigit? c = some n → keep c = true := by
    intro c n hc
    apply hk.digit
    rw [hc]
    rfl
  match s with
  | [] => rfl
  | [a] =>
    cases ha : hexDigit? a with
    | none =>
      obtain ⟨d, rest, hd, hencode⟩ := head_encodeChar keep ha
      rw [encode_cons, hencode, List.cons_append, startsDigits_of_none hd]
      rfl
    | some x =>
      rw [encode_cons_of_keep (hkept ha)]
      rfl
  | a :: b :: s =>
    cases ha : hexDigit? a with
    | none =>
      obtain ⟨d, rest, hd, hencode⟩ := head_encodeChar keep ha
      rw [encode_cons, hencode, List.cons_append, startsDigits_of_none hd, startsDigits_of_none ha]
    | some x =>
      rw [encode_cons_of_keep (hkept ha)]
      cases hb : hexDigit? b with
      | none =>
        obtain ⟨d, rest, hd, hencode⟩ := head_encodeChar keep hb
        rw [encode_cons, hencode, List.cons_append, startsDigits_of_second hd,
          startsDigits_of_second hb]
      | some y =>
        rw [encode_cons_of_keep (hkept hb)]
        rfl

theorem decodeBytes_encodeChar_of_ne {c : Char} (hc : c ≠ '%') (rest : List Char) :
    decodeBytes (encodeChar keep c ++ rest) = String.utf8EncodeChar c ++ decodeBytes rest := by
  unfold encodeChar
  split
  · rw [List.singleton_append, decodeBytes_cons hc]
  · rw [decodeBytes_percentBytes]

theorem KeepsEscapes.decodeBytes_encode (hk : KeepsEscapes keep) (s : List Char) :
    decodeBytes (encode keep s) = decodeBytes s := by
  -- a percent sign that starts no escape starts none in the encoded text either
  have hpercent : ∀ s, startsDigits s = false → decodeBytes (encode keep s) = decodeBytes s →
      decodeBytes (encode keep ('%' :: s)) = String.utf8EncodeChar '%' ++ decodeBytes s := by
    intro s hs ih
    rw [encode_cons_of_keep hk.percent, decodeBytes_percent, ih]
    rw [hk.startsDigits_encode, hs]
  fun_induction decodeBytes s with
  | case1 => rfl
  | case2 a b after x y hb ha ih =>
    have hkeepa : keep a = true := hk.digit a (by rw [ha]; rfl)
    have hkeepb : keep b = true := hk.digit b (by rw [hb]; rfl)
    rw [encode_cons_of_keep hk.percent, encode_cons_of_keep hkeepa, encode_cons_of_keep hkeepb,
      decodeBytes, ha, hb]
    exact congrArg _ ih
  | case3 a b after hno ih => exact hpercent _ (startsDigits_eq_false hno) ih
  | case4 c rest hno ih =>
    by_cases hc : c = '%'
    · rw [hc]
      refine hpercent rest ?_ ih
      cases rest with
      | nil => rfl
      | cons a rest =>
        cases rest with
        | nil => rfl
        | cons b after => exact absurd rfl fun h => hno a b after hc h
    · rw [encode_cons, decodeBytes_encodeChar_of_ne hc, ih]

/-- The text starts with a point, which may be percent-encoded. -/
inductive StartsPoint : List Char → List Char → Prop where
  | plain (rest : List Char) : StartsPoint ('.' :: rest) rest
  | small (rest : List Char) : StartsPoint ('%' :: '2' :: 'e' :: rest) rest
  | capital (rest : List Char) : StartsPoint ('%' :: '2' :: 'E' :: rest) rest

theorem eq_of_utf8 {c : Char} {n : Nat} {rest bs : List UInt8} (hn : n < 128)
    (h : String.utf8EncodeChar c ++ rest = UInt8.ofNat n :: bs) : c.toNat = n ∧ rest = bs := by
  have hbyte : ∀ {m : Nat}, m < 128 → (UInt8.ofNat m).toNat = m := fun hm =>
    UInt8.toNat_ofNat_of_lt' (Nat.lt_trans hm (by decide))
  rcases utf8_cases c with ⟨hc, hbytes⟩ | ⟨b, rest', hb, hbytes⟩
  · rw [hbytes] at h
    obtain ⟨hhead, hrest⟩ := List.cons.inj h
    have hcode := congrArg UInt8.toNat hhead
    rw [hbyte hc, hbyte hn] at hcode
    exact ⟨hcode, hrest⟩
  · rw [hbytes] at h
    rw [(List.cons.inj h).1, hbyte hn] at hb
    omega

theorem decodeBytes_eq_point {s : List Char} {bs : List UInt8} :
    decodeBytes s = 46 :: bs ↔ ∃ rest, StartsPoint s rest ∧ decodeBytes rest = bs := by
  constructor
  · intro h
    fun_cases decodeBytes s with
    | case1 => cases h
    | case2 a b after x y hb ha =>
      rw [decodeBytes, ha, hb] at h
      obtain ⟨hbyte, hrest⟩ := List.cons.inj h
      have hx := Text.hexDigit?_eq_some ha
      have hy := Text.hexDigit?_eq_some hb
      have hnat := congrArg UInt8.toNat hbyte
      rw [UInt8.toNat_ofNat_of_lt' (by show x * 16 + y < 256; omega)] at hnat
      have hpoint : x * 16 + y = 46 := hnat
      have htwo : a = '2' := Char.toNat_inj.mp (by show a.toNat = 50; omega)
      have he : b.toNat = 101 ∨ b.toNat = 69 := by omega
      refine ⟨after, ?_, hrest⟩
      rw [htwo]
      rcases he with he | he
      · rw [show b = 'e' from Char.toNat_inj.mp he]
        exact .small after
      · rw [show b = 'E' from Char.toNat_inj.mp he]
        exact .capital after
    | case3 a b after hno =>
      rw [decodeBytes_percent (startsDigits_eq_false hno)] at h
      cases h
    | case4 c rest hno =>
      rw [decodeBytes] at h
      · obtain ⟨hpoint, hrest⟩ := eq_of_utf8 (n := 46) (by decide) h
        rw [show c = '.' from Char.toNat_inj.mp hpoint]
        exact ⟨rest, .plain rest, hrest⟩
      · exact hno
  · rintro ⟨rest, hpoint, rfl⟩
    cases hpoint with
    | plain => exact decodeBytes_cons (by decide) rest
    | small => rfl
    | capital => rfl

theorem decodeBytes_eq_nil {s : List Char} : decodeBytes s = [] ↔ s = [] := by
  have hutf8 : ∀ (c : Char) (bs : List UInt8), String.utf8EncodeChar c ++ bs ≠ [] := by
    intro c bs h
    obtain ⟨b, rest, hc⟩ := utf8EncodeChar_eq_cons c
    rw [hc] at h
    cases h
  constructor
  · intro h
    fun_cases decodeBytes s with
    | case1 => rfl
    | case2 a b after x y hb ha =>
      rw [decodeBytes, ha, hb] at h
      cases h
    | case3 a b after hno =>
      rw [decodeBytes_percent (startsDigits_eq_false hno)] at h
      exact absurd h (hutf8 _ _)
    | case4 c rest hno =>
      rw [decodeBytes] at h
      · exact absurd h (hutf8 _ _)
      · exact hno
  · rintro rfl
    rfl

theorem eq_of_toLower_eq {c d : Char} (h : c.toLower = d) :
    c = d ∨ 65 ≤ c.toNat ∧ c.toNat + 32 = d.toNat := by
  unfold Char.toLower at h
  split at h
  · next hcapital =>
    have hfirst : 65 ≤ c.val.toNat := UInt32.le_iff_toNat_le.mp hcapital.1
    have hlast : c.val.toNat ≤ 90 := UInt32.le_iff_toNat_le.mp hcapital.2
    have hshift : ('a'.val - 'A'.val).toNat = 32 := rfl
    have hsum : (c.val + ('a'.val - 'A'.val)).toNat = c.val.toNat + 32 := by
      rw [UInt32.toNat_add, hshift]
      exact Nat.mod_eq_of_lt (by omega)
    exact .inr ⟨hfirst, hsum.symm.trans (congrArg Char.toNat h)⟩
  · exact .inl h

/-- No other letter becomes a point, a percent sign or a digit in small letters. -/
theorem eq_of_toLower_eq_mark {c d : Char} (h : c.toLower = d) (hd : d.toNat < 97) : c = d :=
  (eq_of_toLower_eq h).resolve_right fun hcapital => by omega

theorem startsPoint_of_lower {s t : List Char} :
    (s.map Char.toLower = '.' :: t ∨ s.map Char.toLower = '%' :: '2' :: 'e' :: t) ↔
      ∃ rest, StartsPoint s rest ∧ rest.map Char.toLower = t := by
  constructor
  · rintro (h | h)
    · obtain ⟨c, rest, rfl, hc, hrest⟩ := List.map_eq_cons_iff.mp h
      obtain rfl := eq_of_toLower_eq_mark hc (by decide)
      exact ⟨rest, .plain rest, hrest⟩
    · obtain ⟨c, s, rfl, hc, h⟩ := List.map_eq_cons_iff.mp h
      obtain ⟨d, s, rfl, hd, h⟩ := List.map_eq_cons_iff.mp h
      obtain ⟨e, rest, rfl, he, hrest⟩ := List.map_eq_cons_iff.mp h
      obtain rfl := eq_of_toLower_eq_mark hc (by decide)
      obtain rfl := eq_of_toLower_eq_mark hd (by decide)
      rcases eq_of_toLower_eq he with rfl | ⟨_, hcapital⟩
      · exact ⟨rest, .small rest, hrest⟩
      · obtain rfl : e = 'E' := Char.toNat_inj.mp (Nat.add_right_cancel hcapital)
        exact ⟨rest, .capital rest, hrest⟩
  · rintro ⟨rest, hpoint, rfl⟩
    cases hpoint with
    | plain => exact .inl rfl
    | small => exact .inr rfl
    | capital => exact .inr rfl

theorem lowerAscii_eq_iff {s : List Char} {t : String} :
    Text.lowerAscii (String.ofList s) = t ↔ s.map Char.toLower = t.toList := by
  rw [Text.lowerAscii, String.toList_ofList, ← String.toList_inj, String.toList_ofList]

theorem isHere_iff_lower {s : List Char} :
    isHere s = true ↔ s.map Char.toLower = ['.'] ∨ s.map Char.toLower = ['%', '2', 'e'] := by
  rw [isHere, List.contains_iff_mem]
  simp only [List.mem_cons, List.not_mem_nil, or_false, lowerAscii_eq_iff]
  exact Iff.rfl

theorem isUp_iff_lower {s : List Char} :
    isUp s = true ↔ (s.map Char.toLower = '.' :: ['.'] ∨ s.map Char.toLower = '%' :: '2' :: 'e' :: ['.']) ∨
      (s.map Char.toLower = '.' :: ['%', '2', 'e'] ∨
        s.map Char.toLower = '%' :: '2' :: 'e' :: ['%', '2', 'e']) := by
  have htext : isUp s = true ↔ s.map Char.toLower = ['.', '.'] ∨
      s.map Char.toLower = ['.', '%', '2', 'e'] ∨ s.map Char.toLower = ['%', '2', 'e', '.'] ∨
        s.map Char.toLower = ['%', '2', 'e', '%', '2', 'e'] := by
    rw [isUp, List.contains_iff_mem]
    simp only [List.mem_cons, List.not_mem_nil, or_false, lowerAscii_eq_iff]
    exact Iff.rfl
  rw [htext, or_assoc]
  exact or_congr_right or_left_comm

theorem isHere_iff_startsPoint {s : List Char} : isHere s = true ↔ StartsPoint s [] := by
  rw [isHere_iff_lower, startsPoint_of_lower]
  constructor
  · rintro ⟨rest, hpoint, hrest⟩
    rwa [List.map_eq_nil_iff.mp hrest] at hpoint
  · exact fun h => ⟨[], h, rfl⟩

theorem isUp_iff_startsPoint {s : List Char} :
    isUp s = true ↔ ∃ rest, StartsPoint s rest ∧ isHere rest = true := by
  rw [isUp_iff_lower, startsPoint_of_lower, startsPoint_of_lower, ← exists_or]
  refine exists_congr fun rest => ?_
  rw [isHere_iff_lower, and_or_left]

theorem isHere_iff {s : List Char} : isHere s = true ↔ decodeBytes s = [46] := by
  rw [isHere_iff_startsPoint, decodeBytes_eq_point]
  constructor
  · exact fun h => ⟨[], h, rfl⟩
  · rintro ⟨rest, hpoint, hrest⟩
    rwa [decodeBytes_eq_nil.mp hrest] at hpoint

theorem isUp_iff {s : List Char} : isUp s = true ↔ decodeBytes s = [46, 46] := by
  rw [isUp_iff_startsPoint, decodeBytes_eq_point]
  refine exists_congr fun rest => and_congr_right fun _ => isHere_iff

/-- A segment that is read as it is written. -/
structure IsRead (s : String) : Prop where
  chars : ∀ c ∈ s.toList, isPathChar c = true ∧ isSlash c = false
  notUp : isUp s.toList = false
  notHere : isHere s.toList = false

theorem isRead_empty : IsRead "" := ⟨fun c hc => by simp at hc, rfl, rfl⟩

theorem not_slash_of_mem_splitOnP {s segment : List Char} (h : segment ∈ s.splitOnP isSlash) :
    ∀ c ∈ segment, isSlash c = false := by
  induction s generalizing segment with
  | nil =>
    rw [List.splitOnP_nil, List.mem_singleton] at h
    rw [h]
    exact fun c hc => absurd hc List.not_mem_nil
  | cons d s ih =>
    rw [List.splitOnP_cons_eq_if_modifyHead] at h
    split at h
    · rcases List.mem_cons.mp h with rfl | h
      · exact fun c hc => absurd hc List.not_mem_nil
      · exact ih h
    · next hd =>
      obtain ⟨first, rest, hsplit⟩ := List.exists_cons_of_ne_nil (List.splitOnP_ne_nil isSlash s)
      rw [hsplit, List.modifyHead_cons] at h
      rw [hsplit] at ih
      rcases List.mem_cons.mp h with rfl | h
      · exact List.forall_mem_cons.mpr
          ⟨Bool.eq_false_iff.mpr hd, ih List.mem_cons_self⟩
      · exact ih (List.mem_cons_of_mem first h)

theorem splitOnP_intercalate {segments : List (List Char)} (hne : segments ≠ [])
    (h : ∀ s ∈ segments, ∀ c ∈ s, isSlash c = false) :
    (['/'].intercalate segments).splitOnP isSlash = segments := by
  induction segments with
  | nil => exact absurd rfl hne
  | cons s segments ih =>
    obtain ⟨hs, hsegments⟩ := List.forall_mem_cons.mp h
    cases segments with
    | nil => rw [List.intercalate_singleton, List.splitOnP_eq_singleton hs]
    | cons t segments =>
      rw [List.intercalate_cons_cons, List.append_assoc, List.singleton_append,
        List.splitOnP_append_cons_of_forall_mem hs '/' rfl, ih (List.cons_ne_nil t segments) hsegments]

/-- Encoding makes no step of a segment, and none is left out. -/
theorem isRead_encode {s : List Char} (hslash : ∀ c ∈ s, isSlash c = false)
    (hup : isUp s = false) (hhere : isHere s = false) :
    IsRead (String.ofList (encode isPathChar s)) := by
  have hbytes := keepsEscapes_path.decodeBytes_encode s
  refine ⟨?chars, ?up, ?here⟩
  case chars =>
    rw [String.toList_ofList]
    intro c hc
    refine ⟨keepsEscapes_path.of_mem_encode hc, ?_⟩
    rcases mem_encode hc with ⟨hmem, _⟩ | rfl | ⟨n, hn, rfl⟩
    · exact hslash c hmem
    · rfl
    · have hdigit : ∀ n < 16, isSlash (hexDigitUpper n) = false := by decide
      exact hdigit n hn
  case up => rw [String.toList_ofList, ← hup, Bool.eq_iff_iff, isUp_iff, isUp_iff, hbytes]
  case here => rw [String.toList_ofList, ← hhere, Bool.eq_iff_iff, isHere_iff, isHere_iff, hbytes]

theorem isRead_of_mem_stepUp {path : List String} (h : ∀ s ∈ path, IsRead s) :
    ∀ s ∈ stepUp path, IsRead s := by
  unfold stepUp
  split
  · exact h
  · exact fun s hs => h s (List.dropLast_subset path hs)

theorem isRead_of_mem_resolve {path : List String} (hpath : ∀ s ∈ path, IsRead s)
    {segments : List (List Char)} (h : ∀ s ∈ segments, ∀ c ∈ s, isSlash c = false) :
    ∀ s ∈ resolve path segments, IsRead s := by
  have happend : ∀ {path : List String} {s : String}, (∀ s ∈ path, IsRead s) → IsRead s →
      ∀ t ∈ path ++ [s], IsRead t := by
    intro path s hpath hs t ht
    rcases List.mem_append.mp ht with ht | ht
    · exact hpath t ht
    · rwa [List.mem_singleton.mp ht]
  induction segments generalizing path with
  | nil => exact hpath
  | cons s segments ih =>
    obtain ⟨hs, hsegments⟩ := List.forall_mem_cons.mp h
    rw [resolve]
    split
    · refine ih ?_ hsegments
      split
      · exact happend (isRead_of_mem_stepUp hpath) isRead_empty
      · exact isRead_of_mem_stepUp hpath
    · next hup =>
      split
      · refine ih ?_ hsegments
        split
        · exact happend hpath isRead_empty
        · exact hpath
      · next hhere =>
        refine ih (happend hpath ?_) hsegments
        exact isRead_encode hs (Bool.eq_false_iff.mpr hup) (Bool.eq_false_iff.mpr hhere)

theorem isRead_of_mem_pathOf (s : List Char) : ∀ t ∈ pathOf s, IsRead t :=
  isRead_of_mem_resolve (fun _ ht => absurd ht List.not_mem_nil)
    fun _ ht => not_slash_of_mem_splitOnP ht

theorem resolve_of_isRead {names : List String} (h : ∀ s ∈ names, IsRead s) (path : List String) :
    resolve path (names.map String.toList) = path ++ names := by
  induction names generalizing path with
  | nil => exact (List.append_nil path).symm
  | cons s names ih =>
    obtain ⟨hs, hnames⟩ := List.forall_mem_cons.mp h
    rw [List.map_cons, resolve, hs.notUp, hs.notHere,
      encode_eq_self (fun c hc => (hs.chars c hc).1), String.ofList_toList]
    simp only [Bool.false_eq_true, if_false]
    rw [ih hnames, List.append_assoc, List.singleton_append]

theorem toList_pathText {u : Url} (hne : u.path ≠ []) :
    u.pathText.toList = '/' :: ['/'].intercalate (u.path.map String.toList) := by
  obtain ⟨s, rest, hpath⟩ := List.exists_cons_of_ne_nil hne
  rw [pathText, hpath, join_slash, String.toList_append, String.toList_intercalate]
  rfl

theorem not_pathEnd_of_pathChar {c : Char} (h : isPathChar c = true) : isPathEnd c = false := by
  rw [Bool.eq_false_iff]
  intro hend
  rw [isPathEnd, Bool.or_eq_true, beq_iff_eq, beq_iff_eq] at hend
  rcases hend with rfl | rfl
  · cases h
  · cases h

theorem isPathChar_of_mem_pathText {u : Url} (hne : u.path ≠ []) (h : ∀ s ∈ u.path, IsRead s)
    {c : Char} (hc : c ∈ u.pathText.toList) : isPathChar c = true := by
  rw [toList_pathText hne] at hc
  rcases List.mem_cons.mp hc with rfl | hc
  · rfl
  · rcases Text.of_mem_intercalate hc with hslash | ⟨t, ht, hc⟩
    · rw [List.mem_singleton.mp hslash]
      rfl
    · obtain ⟨s, hs, rfl⟩ := List.mem_map.mp ht
      exact ((h s hs).chars c hc).1

theorem pathOf_pathText {u : Url} (hne : u.path ≠ []) (h : ∀ s ∈ u.path, IsRead s) :
    pathOf u.pathText.toList = u.path := by
  have hchars : ∀ c ∈ u.pathText.toList, (!isPathEnd c) = true := by
    intro c hc
    rw [not_pathEnd_of_pathChar (isPathChar_of_mem_pathText hne h hc)]
    rfl
  have hslash : ∀ s ∈ u.path.map String.toList, ∀ c ∈ s, isSlash c = false := by
    intro s hs c hc
    obtain ⟨t, ht, rfl⟩ := List.mem_map.mp hs
    exact ((h t ht).chars c hc).2
  have hmap : u.path.map String.toList ≠ [] := fun hnil => hne (List.map_eq_nil_iff.mp hnil)
  rw [pathOf, List.takeWhile_eq_self_iff.mpr hchars, toList_pathText hne]
  show resolve [] ((['/'].intercalate (u.path.map String.toList)).splitOnP isSlash) = u.path
  rw [splitOnP_intercalate hmap hslash, resolve_of_isRead h, List.nil_append]

end InsectPortal.Url
