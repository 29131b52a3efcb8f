import InsectPortal.Proofs.JsonValue
import InsectPortal.Url.Host

/-!
# Reading numeric hosts back

The text of an IPv4 address is four numbers with points between, that of an IPv6 address its groups
with colons between, where a double colon stands for the longest run of zeros. Either is read as the
address it is written for.
-/
namespace InsectPortal

namespace Text

variable {radix : Nat}

theorem ofRadix?_map {digit : Nat → Char}
    (hdigit : ∀ d < radix, (hexDigit? (digit d)).filter (· < radix) = some d) {ds : List Nat}
    (h : ∀ d ∈ ds, d < radix) :
    ofRadix? radix (ds.map digit) = some (ds.foldl (fun n d => n * radix + d) 0) := by
  have hread : ds.mapM (fun d => (hexDigit? (digit d)).filter (· < radix)) = some (ds.map id) :=
    Json.mapM_eq_map fun d hd => hdigit d (h d hd)
  rw [ofRadix?, List.mapM_map]
  exact (congrArg (Option.map _) hread).trans (by rw [List.map_id]; rfl)

theorem toList_repr (n : Nat) : n.repr.toList = (Json.decimal n).map Json.decimalDigit :=
  Json.toList_toString n

theorem isDigit_of_mem_repr {n : Nat} {c : Char} (h : c ∈ n.repr.toList) : c.isDigit = true := by
  have hdigit : ∀ d : Fin 10, (Json.decimalDigit d).isDigit = true := by decide
  rw [toList_repr] at h
  obtain ⟨d, _, rfl⟩ := List.mem_map.mp h
  exact hdigit d

theorem repr_ne_nil (n : Nat) : n.repr.toList ≠ [] := by
  rw [toList_repr]
  exact fun h => Json.decimal_ne_nil n (List.map_eq_nil_iff.mp h)

theorem ofRadix?_repr (n : Nat) : ofRadix? 10 n.repr.toList = some n := by
  have htext : n.repr.toList = ((Json.decimal n).map Fin.val).map fun d => Char.ofNat (48 + d) := by
    rw [toList_repr, List.map_map]
    rfl
  rw [htext, ofRadix?_map (by decide), List.foldl_map]
  · exact congrArg some (Json.ofDigits_decimal n)
  · intro d hd
    obtain ⟨i, _, rfl⟩ := List.mem_map.mp hd
    exact i.isLt

theorem decimal?_repr (n : Nat) : decimal? n.repr.toList = some n := by
  have hne : n.repr.toList.isEmpty = false := List.isEmpty_eq_false_iff.mpr (repr_ne_nil n)
  rw [decimal?, hne, ofRadix?_repr]
  rfl

theorem foldl_dropWhile_zero (ds : List Nat) :
    (ds.dropWhile (· = 0)).foldl (fun n d => n * 16 + d) 0 =
      ds.foldl (fun n d => n * 16 + d) 0 := by
  induction ds with
  | nil => rfl
  | cons d ds ih =>
    by_cases hd : d = 0
    · rw [List.dropWhile_cons_of_pos (by simpa using hd), ih, hd]
      rfl
    · rw [List.dropWhile_cons_of_neg (by simpa using hd)]

theorem lt_of_mem_hexDigits {d n : Nat}
    (h : d ∈ [n / 4096 % 16, n / 256 % 16, n / 16 % 16].dropWhile (· = 0) ++ [n % 16]) :
    d < 16 := by
  rcases List.mem_append.mp h with h | h
  · have hmem := List.dropWhile_subset _ h
    simp only [List.mem_cons, List.not_mem_nil, or_false] at hmem
    omega
  · rw [List.mem_singleton.mp h]
    exact Nat.mod_lt _ (by decide)

theorem mem_hex16 {c : Char} {n : Nat} (h : c ∈ hex16 n) : ∃ d < 16, c = hexDigit d := by
  obtain ⟨d, hd, rfl⟩ := List.mem_map.mp h
  exact ⟨d, lt_of_mem_hexDigits hd, rfl⟩

theorem length_hex16 (n : Nat) : 1 ≤ (hex16 n).length ∧ (hex16 n).length ≤ 4 := by
  have hdrop := (List.dropWhile_suffix (l := [n / 4096 % 16, n / 256 % 16, n / 16 % 16])
    (· = 0)).length_le
  simp only [hex16, List.length_map, List.length_append, List.length_cons, List.length_nil] at hdrop ⊢
  omega

theorem ofRadix?_hex16 {n : Nat} (h : n < 65536) : ofRadix? 16 (hex16 n) = some n := by
  unfold hex16
  dsimp only
  rw [ofRadix?_map (by decide)]
  · rw [List.foldl_append, foldl_dropWhile_zero]
    simp only [List.foldl_cons, List.foldl_nil]
    congr 1
    omega
  · exact fun d hd => lt_of_mem_hexDigits hd

end Text

theorem Text.of_mem_intercalate {c : Char} {sep : List Char} {texts : List (List Char)}
    (h : c ∈ sep.intercalate texts) : c ∈ sep ∨ ∃ s ∈ texts, c ∈ s := by
  induction texts with
  | nil => cases h
  | cons s texts ih =>
    cases texts with
    | nil =>
      rw [List.intercalate_singleton] at h
      exact .inr ⟨s, List.mem_cons_self, h⟩
    | cons s' texts =>
      rw [List.intercalate_cons_cons, List.append_assoc, List.mem_append, List.mem_append] at h
      rcases h with h | h | h
      · exact .inr ⟨s, List.mem_cons_self, h⟩
      · exact .inl h
      · rcases ih h with hsep | ⟨t, ht, hc⟩
        · exact .inl hsep
        · exact .inr ⟨t, List.mem_cons_of_mem s ht, hc⟩

theorem Text.mem_intercalate (sep : List Char) {c : Char} {s : List Char} {texts : List (List Char)}
    (hs : s ∈ texts) (hc : c ∈ s) : c ∈ sep.intercalate texts := by
  induction texts with
  | nil => cases hs
  | cons t texts ih =>
    cases texts with
    | nil =>
      rw [List.mem_singleton] at hs
      rwa [List.intercalate_singleton, ← hs]
    | cons t' texts =>
      rw [List.intercalate_cons_cons, List.append_assoc, List.mem_append, List.mem_append]
      rcases List.mem_cons.mp hs with rfl | hs
      · exact .inl hc
      · exact .inr (.inr (ih hs))

theorem Text.mem_of_mem_splitOn {c sep : Char} {s text : List Char}
    (hs : s ∈ text.splitOn sep) (hc : c ∈ s) : c ∈ text := by
  have hmem := Text.mem_intercalate [sep] hs hc
  rwa [List.intercalate_splitOn] at hmem

namespace IPv4

theorem number?_repr (n : Nat) : number? n.repr.toList = some n := by
  by_cases hzero : n = 0
  · rw [hzero]
    decide
  · rw [← Text.ofRadix?_repr n]
    have hhead : n.repr.toList.head? ≠ some '0' := by
      rw [Text.toList_repr, List.head?_map]
      intro h
      obtain ⟨d, hd, hchar⟩ := Option.map_eq_some_iff.mp h
      have hd0 : d = 0 := Json.decimalDigit_injective hchar
      exact hzero (Json.head_decimal (hd0 ▸ hd))
    obtain ⟨c, cs, hcs⟩ := List.exists_cons_of_ne_nil (Text.repr_ne_nil n)
    have hc : c ≠ '0' := by
      rintro rfl
      exact hhead (by rw [hcs]; rfl)
    rw [hcs, number?]
    · exact List.cons_ne_nil c cs
    · intro rest h
      exact hc (List.cons.inj h).1
    · intro d rest h
      exact hc (List.cons.inj h).1

theorem toList_text (a : IPv4) :
    a.text.toList = ['.'].intercalate (a.bytes.map fun n => n.repr.toList) := by
  rw [text, String.toList_intercalate, List.map_map]
  rfl

theorem isDigit_or_point_of_mem_text {a : IPv4} {c : Char} (h : c ∈ a.text.toList) :
    c.isDigit = true ∨ c = '.' := by
  rw [toList_text] at h
  rcases Text.of_mem_intercalate h with hpoint | ⟨s, hs, hc⟩
  · exact .inr (List.mem_singleton.mp hpoint)
  · obtain ⟨n, _, rfl⟩ := List.mem_map.mp hs
    exact .inl (Text.isDigit_of_mem_repr hc)

theorem splitOn_text (a : IPv4) :
    a.text.toList.splitOn '.' = a.bytes.map fun n => n.repr.toList := by
  rw [toList_text]
  apply List.splitOn_intercalate
  · intro s hs hpoint
    obtain ⟨n, _, rfl⟩ := List.mem_map.mp hs
    exact absurd (Text.isDigit_of_mem_repr hpoint) (by decide)
  · exact List.cons_ne_nil _ _

theorem parts_text (a : IPv4) : parts a.text.toList = a.bytes.map fun n => n.repr.toList := by
  rw [parts, splitOn_text]
  apply if_neg
  rintro ⟨_, hlast⟩
  exact Text.repr_ne_nil _ (Option.some.inj hlast)

theorem endsInNumber_text (a : IPv4) : endsInNumber a.text.toList = true := by
  have hlast : (a.bytes.map fun n => n.repr.toList).getLast? =
      some (a.value.toNat % 256).repr.toList := rfl
  rw [endsInNumber, parts_text, hlast]
  simp only [number?_repr, Option.isSome_some, Bool.or_true]

theorem text_ne_empty (a : IPv4) : a.text ≠ "" := by
  intro h
  have hends := endsInNumber_text a
  rw [h] at hends
  cases hends

theorem ofChars?_text (a : IPv4) : ofChars? a.text.toList = some a := by
  have hread : (a.bytes.map fun n => n.repr.toList).mapM number? = some a.bytes := by
    rw [List.mapM_map]
    exact (Json.mapM_eq_map fun n _ => number?_repr n).trans (by rw [List.map_id'])
  have hvalue : a.value.toNat < 4294967296 := a.value.toNat_lt
  have hparts : ofChars? a.text.toList = ofNumbers? a.bytes.dropLast (a.value.toNat % 256) := by
    rw [ofChars?, parts_text, hread]
    rfl
  have hbytes : ofNumbers? a.bytes.dropLast (a.value.toNat % 256) =
      some ⟨.ofNat a.value.toNat⟩ := by
    simp only [ofNumbers?, bytes, capacity, List.dropLast, List.length_cons, List.length_nil,
      List.foldl_cons, List.foldl_nil, List.all_cons, List.all_nil, Bool.and_true, Bool.and_eq_true,
      decide_eq_true_eq]
    have hsum : (((0 * 256 + a.value.toNat / (1 * 256 * 256 * 256)) * 256 +
        a.value.toNat / (1 * 256 * 256) % 256) * 256 + a.value.toNat / 256 % 256) * (1 * 256) +
          a.value.toNat % 256 = a.value.toNat := by
      omega
    rw [if_pos (by omega), hsum]
  rw [hparts, hbytes, UInt32.ofNat_toNat]

end IPv4

namespace IPv6

def joined (gs : List UInt16) : List Char :=
  [':'].intercalate (gs.map fun g => Text.hex16 g.toNat)

theorem toList_joinGroups (gs : List UInt16) : (joinGroups gs).toList = joined gs := by
  have hgroup : String.toList ∘ (fun g : UInt16 => String.ofList (Text.hex16 g.toNat)) =
      fun g => Text.hex16 g.toNat := by
    funext g
    exact String.toList_ofList
  rw [joinGroups, String.toList_intercalate, List.map_map, hgroup]
  rfl

theorem colon_not_mem_hex16 (n : Nat) : ':' ∉ Text.hex16 n := by
  intro h
  obtain ⟨d, hd, hc⟩ := Text.mem_hex16 h
  have hdigit : ∀ d < 16, ':' ≠ Text.hexDigit d := by decide
  exact hdigit d hd hc

theorem hex16_ne_nil (n : Nat) : Text.hex16 n ≠ [] := by
  have hlength := (Text.length_hex16 n).1
  intro h
  rw [h] at hlength
  exact absurd hlength (by decide)

theorem joined_cons (g g' : UInt16) (gs : List UInt16) :
    joined (g :: g' :: gs) = Text.hex16 g.toNat ++ ':' :: joined (g' :: gs) := by
  simp [joined]

theorem joined_singleton (g : UInt16) : joined [g] = Text.hex16 g.toNat := by
  simp [joined]

theorem head_joined (g : UInt16) (gs : List UInt16) :
    ∃ c rest, c ≠ ':' ∧ joined (g :: gs) = c :: rest := by
  obtain ⟨c, cs, hcs⟩ := List.exists_cons_of_ne_nil (hex16_ne_nil g.toNat)
  have hc : c ≠ ':' := by
    rintro rfl
    exact colon_not_mem_hex16 g.toNat (hcs ▸ List.mem_cons_self)
  cases gs with
  | nil => exact ⟨c, cs, hc, (joined_singleton g).trans hcs⟩
  | cons g' gs =>
    refine ⟨c, cs ++ ':' :: joined (g' :: gs), hc, ?_⟩
    rw [joined_cons, hcs, List.cons_append]

theorem group?_hex16 (g : UInt16) : group? (Text.hex16 g.toNat) = some g := by
  rw [group?, if_pos (Text.length_hex16 _), Text.ofRadix?_hex16 g.toNat_lt, Option.map_some,
    UInt16.ofNat_toNat]

theorem mapM_group? (gs : List UInt16) :
    (gs.map fun g => Text.hex16 g.toNat).mapM group? = some gs := by
  have hread : gs.mapM (group? ∘ fun g => Text.hex16 g.toNat) = some (gs.map id) :=
    Json.mapM_eq_map fun g _ => group?_hex16 g
  rw [List.mapM_map, hread, List.map_id]

theorem groups?_map (gs : List UInt16) :
    groups? (gs.map fun g => Text.hex16 g.toNat) = some gs := by
  induction gs with
  | nil => rfl
  | cons g gs ih =>
    cases gs with
    | nil => simp [groups?, group?_hex16]
    | cons g' gs =>
      rw [List.map_cons] at ih ⊢
      rw [List.map_cons, groups?, group?_hex16, ih]
      rfl

theorem splitOn_joined {gs : List UInt16} (h : gs ≠ []) :
    (joined gs).splitOn ':' = gs.map fun g => Text.hex16 g.toNat := by
  apply List.splitOn_intercalate
  · intro s hs
    obtain ⟨g, _, rfl⟩ := List.mem_map.mp hs
    exact colon_not_mem_hex16 _
  · exact fun hmap => h (List.map_eq_nil_iff.mp hmap)

theorem pieces_joined (gs : List UInt16) :
    pieces (joined gs) = gs.map fun g => Text.hex16 g.toNat := by
  cases gs with
  | nil => rfl
  | cons g gs =>
    obtain ⟨c, rest, _, hjoined⟩ := head_joined g gs
    have hne : (joined (g :: gs)).isEmpty = false := by rw [hjoined]; rfl
    rw [pieces, hne, ← splitOn_joined (List.cons_ne_nil g gs)]
    rfl

theorem splitGap?_cons {c : Char} (hc : c ≠ ':') (s : List Char) :
    splitGap? (c :: s) = (splitGap? s).map fun p => (c :: p.1, p.2) := by
  rw [splitGap?]
  intro after h
  exact absurd h hc

theorem splitGap?_colon {c : Char} (hc : c ≠ ':') (s : List Char) :
    splitGap? (':' :: c :: s) = (splitGap? (c :: s)).map fun p => (':' :: p.1, p.2) := by
  rw [splitGap?]
  intro after _ h
  exact hc (List.cons.inj h).1

theorem splitGap?_append {s : List Char} (h : ':' ∉ s) (t : List Char) :
    splitGap? (s ++ t) = (splitGap? t).map fun p => (s ++ p.1, p.2) := by
  induction s with
  | nil => simp
  | cons c s ih =>
    obtain ⟨hc, hs⟩ := List.ne_and_not_mem_of_not_mem_cons h
    rw [List.cons_append, splitGap?_cons hc.symm, ih hs, Option.map_map]
    rfl

/-- Colons between groups are no double colon. -/
theorem splitGap?_joined (gs : List UInt16) (t : List Char) :
    splitGap? (joined gs ++ t) = (splitGap? t).map fun p => (joined gs ++ p.1, p.2) := by
  induction gs with
  | nil => simp [joined]
  | cons g gs ih =>
    cases gs with
    | nil => rw [joined_singleton, splitGap?_append (colon_not_mem_hex16 _)]
    | cons g' gs =>
      obtain ⟨c, rest, hc, hjoined⟩ := head_joined g' gs
      rw [joined_cons, List.append_assoc, splitGap?_append (colon_not_mem_hex16 _), List.cons_append,
        hjoined, List.cons_append, splitGap?_colon hc, ← List.cons_append, ← hjoined, ih,
        Option.map_map, Option.map_map]
      simp [Function.comp_def]

theorem longestZeros_spec (gs : List UInt16) :
    (longestZeros gs).1 + (longestZeros gs).2 ≤ gs.length ∧
    gs = gs.take (longestZeros gs).1 ++ List.replicate (longestZeros gs).2 0 ++
      gs.drop ((longestZeros gs).1 + (longestZeros gs).2) := by
  induction gs with
  | nil => exact ⟨Nat.le_refl 0, rfl⟩
  | cons g gs ih =>
    rw [longestZeros]
    dsimp only
    split
    · obtain ⟨back, hback⟩ := List.takeWhile_prefix (l := g :: gs) (· == 0)
      have hzeros : (g :: gs).takeWhile (· == 0) =
          List.replicate ((g :: gs).takeWhile (· == 0)).length 0 := by
        rw [List.eq_replicate_iff]
        exact ⟨rfl, fun x hx => by simpa using List.all_eq_true.mp List.all_takeWhile x hx⟩
      have hdrop : (g :: gs).drop ((g :: gs).takeWhile (· == 0)).length = back :=
        (congrArg (List.drop _) hback.symm).trans List.drop_left
      have hlength := congrArg List.length hback
      rw [List.length_append] at hlength
      refine ⟨by omega, ?_⟩
      rw [Nat.zero_add, hdrop, ← hzeros, List.take_zero, List.nil_append, hback]
    · obtain ⟨hlength, hsplit⟩ := ih
      refine ⟨by simp only [List.length_cons]; omega, ?_⟩
      have hdrop : (longestZeros gs).1 + 1 + (longestZeros gs).2 =
          ((longestZeros gs).1 + (longestZeros gs).2) + 1 := by omega
      rw [hdrop, List.drop_succ_cons, List.take_succ_cons, List.cons_append, List.cons_append,
        ← hsplit]

theorem ofGroups?_groups (a : IPv6) : ofGroups? a.groups = some a := dif_pos a.size

theorem ofChars?_text (a : IPv6) : ofChars? a.text.toList = some a := by
  have hne : a.groups ≠ [] := by
    intro h
    have hsize := a.size
    rw [h] at hsize
    cases hsize
  obtain ⟨hlength, hsplit⟩ := longestZeros_spec a.groups
  unfold text
  dsimp only
  generalize longestZeros a.groups = run at hlength hsplit ⊢
  obtain ⟨i, n⟩ := run
  dsimp only at hlength hsplit ⊢
  by_cases hgap : 2 ≤ n
  · have htext : (joinGroups (a.groups.take i) ++ "::" ++ joinGroups (a.groups.drop (i + n))).toList =
        joined (a.groups.take i) ++ ':' :: ':' :: joined (a.groups.drop (i + n)) := by
      rw [String.toList_append, String.toList_append, toList_joinGroups, toList_joinGroups,
        List.append_assoc]
      rfl
    have hsplitGap : splitGap? (joined (a.groups.take i) ++
        ':' :: ':' :: joined (a.groups.drop (i + n))) =
          some (joined (a.groups.take i), joined (a.groups.drop (i + n))) := by
      rw [splitGap?_joined, splitGap?]
      simp
    have hsize := a.size
    have hfront : (a.groups.take i).length + (a.groups.drop (i + n)).length = 8 - n := by
      rw [List.length_take, List.length_drop]
      omega
    have hzeros : 8 - (8 - n) = n := by omega
    rw [if_pos hgap, htext, ofChars?, hsplitGap]
    simp only [pieces_joined, mapM_group?, groups?_map, Option.bind_eq_bind, Option.bind_some, hfront,
      hzeros, ← hsplit, ofGroups?_groups]
    exact if_pos (by omega)
  · have hnone : splitGap? (joined a.groups) = none := by
      have hjoined := splitGap?_joined a.groups []
      rw [List.append_nil] at hjoined
      exact hjoined
    rw [if_neg hgap, toList_joinGroups, ofChars?, hnone]
    simp only [splitOn_joined hne, groups?_map, Option.bind_some, ofGroups?_groups]

def isTextChar (c : Char) : Bool := c == ':' || (Text.hexDigit? c).isSome

theorem isTextChar_of_mem_joined {c : Char} {gs : List UInt16} (h : c ∈ joined gs) :
    isTextChar c = true := by
  rcases Text.of_mem_intercalate h with hcolon | ⟨s, hs, hc⟩
  · rw [List.mem_singleton.mp hcolon]
    rfl
  · obtain ⟨g, _, rfl⟩ := List.mem_map.mp hs
    obtain ⟨d, hd, rfl⟩ := Text.mem_hex16 hc
    rw [isTextChar, Text.hexDigit?_hexDigit d hd]
    exact Bool.or_true _

theorem isTextChar_of_mem_text {a : IPv6} {c : Char} (h : c ∈ a.text.toList) :
    isTextChar c = true := by
  have hgap : "::".toList.all isTextChar = true := by decide
  unfold text at h
  dsimp only at h
  split at h
  · rw [String.toList_append, String.toList_append, toList_joinGroups, toList_joinGroups,
      List.mem_append, List.mem_append] at h
    rcases h with (h | h) | h
    · exact isTextChar_of_mem_joined h
    · exact List.all_eq_true.mp hgap c h
    · exact isTextChar_of_mem_joined h
  · rw [toList_joinGroups] at h
    exact isTextChar_of_mem_joined h

end IPv6

end InsectPortal
